import Mathlib.Algebra.Ring.Int.Defs
import Mathlib.Data.List.Infix
import Purse.Proofs.Run

/-!
# A ledger that only grows

The ledger after an operation is the one before it, or that one with a single new entry in front. The new
entry is there exactly when the operation answered and either posts on its own account or brought a payment
into the status completed or refunded; then the balance of the entry's wallet has moved by the signed amount
of the entry, and no other wallet has changed. Wallets stay, with their identifier, user and time of opening,
and a user has one exactly when it was asked for by an operation that answered or an entry was made to it.
So what a user's history shows at some time is the end of what it shows at any later time.

The wallets and the ledger change in two ways only: a wallet is opened, or a posting is entered, for which
a wallet may be opened too. `Operation.Does.books_cases` says which operation does what, and the rest follows
from what the two changes are.
-/
namespace Purse

/-- What stays the same about a wallet. -/
def WalletRow.identity (r : WalletRow) : WalletId × UserId × Timestamp := (r.id, r.userId, r.createdAt)

def Wallet.identity (w : Wallet) : WalletId × UserId × Timestamp := (w.id, w.userId, w.createdAt)

namespace Store

/-- The balance of a wallet, which is zero before it is opened. -/
def balanceOf (s : Store) (wallet : WalletId) : Int :=
  ((s.wallets.find? (·.id = wallet)).map (·.balance)).getD 0

/-- Whether a payment has a status in the second store that means that money moved, and had not in the
first. -/
def MovesPayment (s t : Store) : Prop :=
  ∃ id q, t.findPayment id = .ok (some q) ∧ (q.status = .completed ∨ q.status = .refunded) ∧
    ∀ p, s.findPayment id = .ok (some p) → p.status ≠ q.status

/-- Whether a list is the whole history of a user, newest entry first: what the history service shows where
no call fails is the pages of it. -/
def HasHistory (s : Store) (user : UserId) (es : List Entry) : Prop :=
  ∀ page, Ledger.history user page ⟨s, []⟩ = .ok (page.slice es) ⟨s, []⟩

end Store

namespace Books

def balanceOf (b : Books) (wallet : WalletId) : Int :=
  ((b.wallets.find? (·.id = wallet)).map (·.balance)).getD 0

def HasWallet (b : Books) (user : UserId) : Prop := ∃ w ∈ b.wallets, w.userId = user

def MovesPayment (b c : Books) : Prop :=
  ∃ q ∈ c.payments, (q.status = .completed ∨ q.status = .refunded) ∧
    ∀ p ∈ b.payments, p.id = q.id → p.status ≠ q.status

/-- The entries of a user's wallet, newest first. -/
def history (b : Books) (user : UserId) : List Entry :=
  match b.wallets.find? (·.userId = user) with
  | none => []
  | some w => b.entries.filter (·.walletId = w.id)

/-- Books with everything that other books have of wallets and entries. -/
structure Extends (b c : Books) : Prop where
  wallets : b.wallets.map Wallet.identity <:+ c.wallets.map Wallet.identity
  entries : b.entries <:+ c.entries

variable {b b' c : Books} {user other : UserId} {w : Wallet} {posting : Posting} {e : Entry}
  {p q : Payment} {id : WalletId} {precision : Precision}

theorem Extends.refl (b : Books) : b.Extends b := ⟨List.suffix_refl _, List.suffix_refl _⟩

theorem Extends.trans (h : b.Extends c) (h' : c.Extends b') : b.Extends b' :=
  ⟨h.wallets.trans h'.wallets, h.entries.trans h'.entries⟩

theorem Extends.of_eq (hwallets : b'.wallets = b.wallets) (hentries : b'.entries = b.entries) :
    b.Extends b' := by
  refine ⟨?_, ?_⟩
  · rw [hwallets]
  · rw [hentries]

/-! ## Opening a wallet -/

theorem Opened.wallets_suffix (h : b.Opened user w b') : b.wallets <:+ b'.wallets := by
  cases h with
  | found _ _ => exact List.suffix_refl _
  | opened id now _ _ => exact List.suffix_cons _ _

theorem Opened.extends (h : b.Opened user w b') : b.Extends b' :=
  ⟨h.wallets_suffix.map _, by rw [h.entries_eq]⟩

theorem Opened.hasWallet_iff (h : b.Opened user w b') :
    b'.HasWallet other ↔ b.HasWallet other ∨ other = user := by
  cases h with
  | found hw huser =>
      refine ⟨.inl, ?_⟩
      rintro (h | rfl)
      · exact h
      · exact ⟨w, hw, huser⟩
  | opened id now _ _ =>
      constructor
      · rintro ⟨v, hv, rfl⟩
        rcases List.mem_cons.1 hv with rfl | hv
        · exact .inr rfl
        · exact .inl ⟨v, hv, rfl⟩
      · rintro (⟨v, hv, huser⟩ | rfl)
        · exact ⟨v, List.mem_cons_of_mem _ hv, huser⟩
        · exact ⟨_, List.mem_cons_self, rfl⟩

/-! ## Balances -/

theorem Sound.balanceOf_eq (hb : b.Sound) (hw : w ∈ b.wallets) : b.balanceOf w.id = w.balance := by
  rw [balanceOf, Keyed.find?_key hb.walletIds hw]
  rfl

theorem balanceOf_eq_zero (h : ∀ w ∈ b.wallets, w.id ≠ id) : b.balanceOf id = 0 := by
  rw [balanceOf, List.find?_eq_none.2 fun w hw => by simpa using h w hw]
  rfl

theorem balanceOf_store : (b.store precision).balanceOf id = b.balanceOf id := by
  simp only [Store.balanceOf, balanceOf, store, List.find?_map, Option.map_map]
  rfl

/-- The wallet that was found or opened had the balance that it has, if only zero. -/
theorem Opened.balanceOf_eq (h : b.Opened user w b') (hb : b.Sound) : b.balanceOf w.id = w.balance := by
  cases h with
  | found hw _ => exact hb.balanceOf_eq hw
  | opened id now _ hid => exact balanceOf_eq_zero hid

/-- A wallet that is in the books is the same after a posting to another one. -/
theorem Posted.mem_of_ne (h : b.Posted user posting e b') {v : Wallet} (hv : v ∈ b.wallets)
    (hid : v.id ≠ e.walletId) : v ∈ b'.wallets := by
  obtain ⟨id, moved, recorded, hopen, -, -, -⟩ := h
  exact Keyed.mem_put.2 (.inl ⟨hopen.mono hv, hid⟩)

/-- A wallet other than the one that was posted to was in the books before. -/
theorem Posted.mem_old_of_ne (h : b.Posted user posting e b') {v : Wallet} (hv : v ∈ b'.wallets)
    (hid : v.id ≠ e.walletId) : v ∈ b.wallets := by
  obtain ⟨id, moved, recorded, hopen, -, -, -⟩ := h
  rcases Keyed.mem_put.1 hv with ⟨hopened, -⟩ | ⟨rfl, -⟩
  · cases hopen with
    | found _ _ => exact hopened
    | opened id now _ _ =>
        rcases List.mem_cons.1 hopened with rfl | hold
        · exact absurd rfl hid
        · exact hold
  · exact absurd rfl hid

/-- The entry's wallet has the balance that it had, if only zero, and the signed amount on top of it. -/
theorem Posted.moved (h : b.Posted user posting e b') (hb : b.Sound) :
    ∃ v ∈ b'.wallets, v.id = e.walletId ∧ v.balance = b.balanceOf e.walletId + e.signedAmount := by
  obtain ⟨id, moved, recorded, hopen, -, -, -⟩ := h
  refine ⟨_, Keyed.mem_put.2 (.inr ⟨rfl, _, hopen.mem, rfl⟩), rfl, ?_⟩
  exact congrArg (· + posting.signedAmount) (hopen.balanceOf_eq hb).symm

/-- A posting moves the balance of the entry's wallet by the signed amount of the entry, and no other. -/
theorem Posted.balanceOf_eq (h : b.Posted user posting e b') (hb : b.Sound) (id : WalletId) :
    b'.balanceOf id = b.balanceOf id + if id = e.walletId then e.signedAmount else 0 := by
  have hb' := h.sound hb
  by_cases hid : id = e.walletId
  · obtain ⟨v, hv, hvid, hbalance⟩ := h.moved hb
    rw [if_pos hid, hid, ← hbalance, ← hvid]
    exact hb'.balanceOf_eq hv
  · rw [if_neg hid, Int.add_zero]
    by_cases hknown : ∃ v ∈ b.wallets, v.id = id
    · obtain ⟨v, hv, rfl⟩ := hknown
      rw [hb.balanceOf_eq hv, hb'.balanceOf_eq (h.mem_of_ne hv hid)]
    · have hnone (v : Wallet) (hv : v ∈ b.wallets) : v.id ≠ id := fun heq => hknown ⟨v, hv, heq⟩
      rw [balanceOf_eq_zero hnone]
      refine balanceOf_eq_zero fun v hv heq => ?_
      exact hnone v (h.mem_old_of_ne hv (heq ▸ hid)) heq

/-! ## Entering a posting -/

theorem Posted.extends (h : b.Posted user posting e b') (hb : b.Sound) : b.Extends b' := by
  refine ⟨?_, by rw [h.entries_eq]; exact List.suffix_cons _ _⟩
  obtain ⟨id, moved, recorded, hopen, -, -, -⟩ := h
  rename_i w b₀
  have h₀ := hopen.sound hb
  simp only [addEntry, putWallet]
  rw [Keyed.map_put _ fun v hv hid => by rw [h₀.eq_of_walletId hv hopen.mem hid]; rfl]
  exact hopen.extends.wallets

theorem hasWallet_iff_mem : b.HasWallet user ↔ user ∈ b.wallets.map (·.userId) := List.mem_map.symm

theorem Posted.hasWallet_iff (h : b.Posted user posting e b') (hb : b.Sound) :
    b'.HasWallet other ↔ b.HasWallet other ∨ other = user := by
  obtain ⟨id, moved, recorded, hopen, -, -, -⟩ := h
  rename_i w b₀
  have h₀ := hopen.sound hb
  rw [← hopen.hasWallet_iff, hasWallet_iff_mem, hasWallet_iff_mem]
  simp only [addEntry, putWallet]
  rw [Keyed.map_put _ fun v hv hid => by rw [h₀.eq_of_walletId hv hopen.mem hid]]

/-- The payments have no part in a posting. -/
theorem Opened.withPayments (h : b.Opened user w c) (ps : List Payment) :
    ({ b with payments := ps } : Books).Opened user w { c with payments := ps } := by
  cases h with
  | found hw huser => exact .found hw huser
  | opened id now huser hid => exact .opened id now huser hid

theorem Posted.withPayments (h : b.Posted user posting e c) (ps : List Payment) :
    ({ b with payments := ps } : Books).Posted user posting e { c with payments := ps } := by
  obtain ⟨id, moved, recorded, hopen, hlow, hhigh, hfresh⟩ := h
  exact .intro id moved recorded (hopen.withPayments ps) hlow hhigh hfresh

/-! ## What an operation does to wallets and ledger -/

/-- Payments that were there before, are pending or have failed show no movement of money. -/
theorem not_movesPayment
    (h : ∀ q ∈ c.payments, q ∈ b.payments ∨ q.status = .pending ∨ q.status = .failed) :
    ¬ b.MovesPayment c := by
  rintro ⟨q, hq, hstatus, hmoved⟩
  rcases h q hq with hold | hs | hs
  · exact hmoved q hold rfl rfl
  · simp [hs] at hstatus
  · simp [hs] at hstatus

theorem Settled.movesPayment (h : b.Settled p q b') (hb : b.Sound) : b.MovesPayment b' := by
  have hid := h.progress.sameTerms.id
  have hcases := h.status_cases
  refine ⟨q, h.mem_new, ?_, fun r hr hrq => ?_⟩
  · rcases hcases with ⟨-, hs⟩ | ⟨-, hs⟩
    · exact .inl hs
    · exact .inr hs
  · obtain rfl := hb.eq_of_id hr h.mem_old (hrq.trans hid)
    rcases hcases with ⟨hs, hs'⟩ | ⟨hs, hs'⟩ <;> simp [hs, hs']

theorem Amended.of_mem_cases {r : Payment} (h : b.Amended p q b') (hr : r ∈ b'.payments) :
    r ∈ b.payments ∧ r.id ≠ p.id ∨ r.status = .pending ∨ r.status = .failed := by
  have hid := h.progress.sameTerms.id
  rcases h.of_mem hr with rfl | ⟨hr, hne⟩
  · obtain ⟨-, hamends, -⟩ := h
    cases hamends with
    | failed reason now hs he => exact .inr (.inr rfl)
    | attached externalId redirectUrl now hs hm he => exact .inr (.inl hs)
  · exact .inl ⟨hr, hid ▸ hne⟩

theorem Amended.books_eq (h : b.Amended p q b') : b'.wallets = b.wallets ∧ b'.entries = b.entries := by
  obtain ⟨-, -, -⟩ := h
  exact ⟨rfl, rfl⟩

end Books

variable {b b' c : Books} {user : UserId} {precision : Precision} {operation : Operation}
  {answered : Bool}

theorem Operation.Does.books_cases (h : operation.Does b answered b') (hb : b.Lawful) :
    ((b'.wallets = b.wallets ∧ b'.entries = b.entries) ∧ ¬ b.MovesPayment b' ∧
        (answered → operation.LeavesWallets)) ∨
      (∃ user w, operation = .wallet user ∧ answered ∧ b.Opened user w b') ∨
      ∃ user posting e c, answered ∧ b.Posted user posting e c ∧
        (b'.wallets = c.wallets ∧ b'.entries = c.entries) ∧
        (operation.postsFor?.isSome ∨ b.MovesPayment b') ∧ ∀ user, operation ≠ .wallet user := by
  cases h with
  | nothing hidle => exact .inl ⟨⟨rfl, rfl⟩, Books.not_movesPayment fun q hq => .inl hq, hidle⟩
  | opened hoperation hanswered hopened =>
      exact .inr (.inl ⟨_, _, hoperation, hanswered, hopened⟩)
  | posted hposts hanswered _ hposted =>
      refine .inr (.inr ⟨_, _, _, _, hanswered, hposted, ⟨rfl, rfl⟩, .inl (by simp [hposts]), ?_⟩)
      rintro user rfl
      cases hposts
  | requested hoperation _ hrequests =>
      refine .inl ⟨⟨rfl, rfl⟩, Books.not_movesPayment fun q hq => ?_, fun _ => hoperation ▸ ⟨rfl, nofun⟩⟩
      rcases List.mem_cons.1 hq with rfl | hq
      · exact .inr (.inl (by rw [hrequests.requested]; rfl))
      · exact .inl hq
  | @charged p q b' hoperation hanswered hwallet hrequests hsettled =>
      have hid := hsettled.progress.sameTerms.id
      have hmoves := hsettled.movesPayment (hrequests.effect.lawful hb).toSound
      obtain ⟨-, hsettles, hposted⟩ := hsettled
      refine .inr (.inr ⟨_, _, _, _, hanswered, hposted.withPayments b.payments, ⟨rfl, rfl⟩, .inr ?_,
        hoperation ▸ nofun⟩)
      obtain ⟨q, hq, hstatus, hmoved⟩ := hmoves
      exact ⟨q, hq, hstatus, fun r hr => hmoved r (List.mem_cons_of_mem _ hr)⟩
  | declined hoperation hwallet hrequests hfailed hamended =>
      refine .inl ⟨hamended.books_eq, Books.not_movesPayment fun q hq => ?_,
        fun _ => hoperation ▸ ⟨rfl, nofun⟩⟩
      rcases hamended.of_mem_cases hq with ⟨hq, hne⟩ | hs
      · exact .inl ((List.mem_cons.1 hq).resolve_left fun heq => hne (heq ▸ rfl))
      · exact .inr hs
  | settled hleaves hanswered hsettled =>
      have hmoves := hsettled.movesPayment hb.toSound
      obtain ⟨-, hsettles, hposted⟩ := hsettled
      exact .inr (.inr ⟨_, _, _, _, hanswered, hposted, ⟨rfl, rfl⟩, .inr hmoves, hleaves.2⟩)
  | amended hleaves _ hamended =>
      refine .inl ⟨hamended.books_eq, Books.not_movesPayment fun q hq => ?_, fun _ => hleaves⟩
      rcases hamended.of_mem_cases hq with ⟨hq, -⟩ | hs
      · exact .inl hq
      · exact .inr hs

theorem Operation.Does.extends (h : operation.Does b answered b') (hb : b.Lawful) : b.Extends b' := by
  rcases h.books_cases hb with ⟨⟨hwallets, hentries⟩, -⟩ | ⟨user, w, -, -, hopened⟩ |
    ⟨user, posting, e, c, -, hposted, ⟨hwallets, hentries⟩, -⟩
  · exact .of_eq hwallets hentries
  · exact hopened.extends
  · exact (hposted.extends hb.toSound).trans (.of_eq hwallets hentries)

/-! ## One step -/

theorem Books.entries_store_eq (h : b'.entries = b.entries) :
    (b'.store precision).entries = (b.store precision).entries := by
  simp only [store, h]

theorem Books.entries_store_cons {e : Entry} (h : b'.entries = e :: b.entries) :
    (b'.store precision).entries = .ofEntry e :: (b.store precision).entries := by
  simp only [store, h, List.map_cons]

theorem Books.movesPayment_store (hb : b.Lawful) (hb' : b'.Lawful) :
    (b.store precision).MovesPayment (b'.store precision) ↔ b.MovesPayment b' := by
  constructor
  · rintro ⟨id, q, hfind, hstatus, hmoved⟩
    obtain ⟨hq, rfl⟩ := of_findPayment hfind
    exact ⟨q, hq, hstatus, fun p hp hid => hmoved p (hid ▸ hb.findPayment hp)⟩
  · rintro ⟨q, hq, hstatus, hmoved⟩
    refine ⟨q.id, q, hb'.findPayment hq, hstatus, fun p hfind => ?_⟩
    obtain ⟨hp, hid⟩ := of_findPayment hfind
    exact hmoved p hp hid

/-- What a step does to the ledger of a store, and when. -/
structure Step.Records (step : Step) (s : Store) : Prop where
  entries : (step.leaves s).entries = s.entries ∨ ∃ row, (step.leaves s).entries = row :: s.entries
  exactly : (step.leaves s).entries ≠ s.entries ↔
    step.answered s ∧ (step.operation.postsFor?.isSome ∨ s.MovesPayment (step.leaves s))
  unmoved : (step.leaves s).entries = s.entries → s.wallets <:+ (step.leaves s).wallets
  moved : ∀ row, (step.leaves s).entries = row :: s.entries → ∃ e, row.read = .ok e ∧
    (∀ wallet, (step.leaves s).balanceOf wallet =
      s.balanceOf wallet + if wallet = e.walletId then e.signedAmount else 0) ∧
    ∀ w ∈ s.wallets, w.id ≠ e.walletId → w ∈ (step.leaves s).wallets

theorem Step.records (step : Step) (precision : Precision) (hb : b.Lawful) :
    step.Records (b.store precision) := by
  obtain ⟨b', hb', hdoes⟩ := step.does precision hb
  have hlawful := hdoes.reaches.lawful hb
  have hself (row : EntryRow) : row :: (b.store precision).entries ≠ (b.store precision).entries :=
    List.cons_ne_self _ _
  rcases hdoes.books_cases hb with ⟨⟨hwallets, hsame⟩, hmoves, hidle⟩ |
    ⟨user, w, hoperation, hanswered, hopened⟩ |
    ⟨user, posting, e, c, hanswered, hposted, ⟨hwallets, hnew⟩, hwhy, -⟩
  · refine ⟨?_, ?_, ?_, ?_⟩ <;> rw [hb', Books.entries_store_eq hsame]
    · exact .inl rfl
    · rw [Books.movesPayment_store hb hlawful]
      refine ⟨fun h => absurd rfl h, ?_⟩
      rintro ⟨hanswered, hposts | hmoved⟩
      · simp [(hidle hanswered).1] at hposts
      · exact absurd hmoved hmoves
    · intro _
      simp only [Books.store, hwallets]
      exact List.suffix_refl _
    · exact fun row h => absurd h.symm (hself row)
  · refine ⟨?_, ?_, ?_, ?_⟩ <;> rw [hb', Books.entries_store_eq hopened.entries_eq]
    · exact .inl rfl
    · rw [Books.movesPayment_store hb hlawful]
      refine ⟨fun h => absurd rfl h, ?_⟩
      rintro ⟨-, hposts | hmoved⟩
      · simp [hoperation, Operation.postsFor?] at hposts
      · refine absurd hmoved (Books.not_movesPayment fun q hq => .inl ?_)
        exact hopened.payments_eq ▸ hq
    · intro _
      exact hopened.wallets_suffix.map _
    · exact fun row h => absurd h.symm (hself row)
  · have hrow : (b'.store precision).entries = .ofEntry e :: (b.store precision).entries :=
      Books.entries_store_cons (hnew.trans hposted.entries_eq)
    refine ⟨?_, ?_, ?_, ?_⟩ <;> rw [hb', hrow]
    · exact .inr ⟨_, rfl⟩
    · rw [Books.movesPayment_store hb hlawful]
      exact ⟨fun _ => ⟨hanswered, hwhy⟩, fun _ => hself _⟩
    · exact fun h => absurd h (hself _)
    · intro row h
      obtain ⟨rfl, -⟩ := List.cons.inj h
      refine ⟨e, EntryRow.read_ofEntry e, fun wallet => ?_, fun v hv hne => ?_⟩
      · rw [Books.balanceOf_store, Books.balanceOf_store, Books.balanceOf, hwallets]
        exact hposted.balanceOf_eq hb.toSound wallet
      · obtain ⟨w, hw, rfl⟩ := List.mem_map.1 hv
        simp only [Books.store, hwallets]
        exact List.mem_map_of_mem (hposted.mem_of_ne hw hne)

/-! ## Who has a wallet -/

/-- Whether a step gives a user a wallet, or might have: it asked for the wallet and answered, or it made an
entry to it. -/
def Step.Serves (step : Step) (user : UserId) (s : Store) : Prop :=
  step.operation = .wallet user ∧ step.answered s ∨
    ∃ row w, (step.leaves s).entries = row :: s.entries ∧
      (step.leaves s).walletOf? user = some w ∧ w.id = row.walletId

theorem Books.isSome_walletOf? : ((b.store precision).walletOf? user).isSome ↔ b.HasWallet user := by
  rw [walletOf?_store, Option.isSome_map, List.find?_isSome]
  simp [HasWallet]

theorem Step.hasWallet_iff (step : Step) (precision : Precision) (other : UserId) (hb : b.Lawful) :
    ((step.leaves (b.store precision)).walletOf? other).isSome ↔
      ((b.store precision).walletOf? other).isSome ∨ step.Serves other (b.store precision) := by
  obtain ⟨b', hb', hdoes⟩ := step.does precision hb
  have hlawful := hdoes.reaches.lawful hb
  have hself (row : EntryRow) : (b.store precision).entries ≠ row :: (b.store precision).entries :=
    (List.cons_ne_self _ _).symm
  rw [Serves, hb', Books.isSome_walletOf?, Books.isSome_walletOf?]
  rcases hdoes.books_cases hb with ⟨⟨hwallets, hsame⟩, -, hidle⟩ |
    ⟨user, w, hoperation, hanswered, hopened⟩ |
    ⟨user, posting, e, c, hanswered, hposted, ⟨hwallets, hnew⟩, -, hnot⟩
  · rw [Books.HasWallet, hwallets, Books.entries_store_eq hsame]
    refine ⟨.inl, ?_⟩
    rintro (h | ⟨hoperation, hanswered⟩ | ⟨row, w, hrow, -⟩)
    · exact h
    · exact absurd hoperation ((hidle hanswered).2 other)
    · exact absurd hrow (hself row)
  · rw [hopened.hasWallet_iff, Books.entries_store_eq hopened.entries_eq, hoperation]
    refine or_congr_right ⟨?_, ?_⟩
    · rintro rfl
      exact .inl ⟨rfl, hanswered⟩
    · rintro (⟨heq, -⟩ | ⟨row, w, hrow, -⟩)
      · injection heq with heq
        exact heq.symm
      · exact absurd hrow (hself row)
  · have hrow : (b'.store precision).entries = .ofEntry e :: (b.store precision).entries :=
      Books.entries_store_cons (hnew.trans hposted.entries_eq)
    obtain ⟨v, hv, huser, hvid⟩ := hposted.owner
    have hwallet : (b'.store precision).walletOf? user = some (.ofWallet v) := by
      rw [← huser]
      exact hlawful.walletOf? (hwallets ▸ hv)
    have hhas : b'.HasWallet other ↔ b.HasWallet other ∨ other = user := by
      rw [Books.HasWallet, hwallets]
      exact hposted.hasWallet_iff hb.toSound
    rw [hhas]
    refine ⟨?_, ?_⟩
    · rintro (h | rfl)
      · exact .inl h
      · exact .inr (.inr ⟨_, _, hrow, hwallet, hvid⟩)
    · rintro (h | ⟨hoperation, -⟩ | ⟨row, w, -, hfind, -⟩)
      · exact .inl h
      · exact absurd hoperation (hnot other)
      · exact hhas.1 (Books.isSome_walletOf?.1 (by rw [hfind]; rfl))

/-- A user has a wallet after some steps if there was one before them, or one of them served the user. -/
theorem Books.Lawful.hasWallet_after (hb : b.Lawful) (precision : Precision) (user : UserId)
    (steps : List Step) :
    (((b.store precision).after steps).walletOf? user).isSome ↔
      ((b.store precision).walletOf? user).isSome ∨
        ∃ before step rest, steps = before ++ step :: rest ∧
          step.Serves user ((b.store precision).after before) := by
  induction steps generalizing b with
  | nil => simp [Store.after]
  | cons step steps ih =>
      obtain ⟨b', hb', hreach⟩ := step.effects precision hb
      have hstep := step.hasWallet_iff precision user hb
      rw [hb'] at hstep
      rw [Store.after, hb', ih (hreach.lawful hb), hstep, or_assoc]
      refine or_congr_right ⟨?_, ?_⟩
      · rintro (hserves | ⟨before, next, rest, rfl, hserves⟩)
        · exact ⟨[], step, steps, rfl, hserves⟩
        · exact ⟨step :: before, next, rest, rfl, by rwa [Store.after, hb']⟩
      · rintro ⟨_ | ⟨first, before⟩, next, rest, heq, hserves⟩
        · obtain ⟨rfl, rfl⟩ := List.cons.inj heq
          exact .inl hserves
        · obtain ⟨rfl, rfl⟩ := List.cons.inj heq
          rw [Store.after, hb'] at hserves
          exact .inr ⟨before, next, rest, rfl, hserves⟩

/-! ## Histories -/

namespace Books

theorem Sound.hasHistory (hb : b.Sound) : (b.store precision).HasHistory user (b.history user) := by
  intro page
  refine Service.bind_eq_ok.2 ⟨_, _, Service.look_of_ok (hb.findWallet user), ?_⟩
  rw [history]
  cases b.wallets.find? (·.userId = user) with
  | none => simp [Page.slice]
  | some w => exact Service.look_of_ok (listEntries_store w.id page)

theorem Extends.history_suffix (h : b.Extends b') (hb' : b'.Sound) : b.history user <:+ b'.history user := by
  unfold history
  cases hfind : b.wallets.find? (·.userId = user) with
  | none => exact List.nil_suffix
  | some w =>
      have huser : w.userId = user := by simpa using List.find?_some hfind
      have hidentity := h.wallets.subset (List.mem_map_of_mem (List.mem_of_find?_eq_some hfind))
      obtain ⟨v, hv, heq⟩ := List.mem_map.1 hidentity
      simp only [Wallet.identity, Prod.mk.injEq] at heq
      have hfind' := Keyed.find?_key hb'.walletUsers hv
      rw [heq.2.1, huser] at hfind'
      rw [hfind']
      simp only [heq.1]
      exact h.entries.filter _

/-- Any number of steps keep what there is of wallets and entries. -/
theorem Lawful.run_extends (hb : b.Lawful) (precision : Precision) (steps : List Step) :
    ∃ b', (b.store precision).after steps = b'.store precision ∧ b'.Lawful ∧ b.Extends b' := by
  induction steps generalizing b with
  | nil => exact ⟨b, rfl, hb, .refl b⟩
  | cons step steps ih =>
      obtain ⟨c, hc, hdoes⟩ := step.does precision hb
      obtain ⟨b', hb', hlawful, hextends⟩ := ih (hdoes.reaches.lawful hb)
      refine ⟨b', ?_, hlawful, (hdoes.extends hb).trans hextends⟩
      rw [Store.after, hc, hb']

theorem identity_store :
    (b.store precision).wallets.map WalletRow.identity = b.wallets.map Wallet.identity :=
  List.map_map

end Books

/-- After every run each step appends one entry or none, exactly as `Step.Records` says; no user has two
wallets, and one has a wallet exactly if a step of the run served the user; and any further steps keep the
wallets and the histories, to which they only add. -/
theorem Store.ledger_only_grows (precision : Precision) (steps : List Step) :
    (∀ step : Step, step.Records ((empty precision).after steps)) ∧
    (((empty precision).after steps).wallets.map (·.userId)).Nodup ∧
    (∀ user, (((empty precision).after steps).walletOf? user).isSome ↔
      ∃ before step rest, steps = before ++ step :: rest ∧
        step.Serves user ((empty precision).after before)) ∧
    ∀ later : List Step,
      ((empty precision).after steps).wallets.map WalletRow.identity <:+
        (((empty precision).after steps).after later).wallets.map WalletRow.identity ∧
      ∀ user, ∃ es es', ((empty precision).after steps).HasHistory user es ∧
        (((empty precision).after steps).after later).HasHistory user es' ∧ es <:+ es' := by
  obtain ⟨b, hb, hlawful⟩ := Books.run_lawful precision steps
  refine ⟨?_, ?_, fun user => ?_, fun later => ?_⟩
  · rw [hb]
    exact fun step => step.records precision hlawful
  · rw [hb]
    simp only [Books.store, List.map_map]
    exact hlawful.walletUsers
  · have hwallets := Books.lawful_empty.hasWallet_after precision user steps
    simpa [walletOf?, Books.store, empty] using hwallets
  · rw [hb]
    obtain ⟨b', hb', hlawful', hextends⟩ := hlawful.run_extends precision later
    rw [hb', Books.identity_store, Books.identity_store]
    exact ⟨hextends.wallets, fun user => ⟨_, _, hlawful.hasHistory, hlawful'.hasHistory,
      hextends.history_suffix hlawful'.toSound⟩⟩

end Purse
