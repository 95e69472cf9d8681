import Mathlib.Tactic.Common
import Purse.Proofs.Keyed
import Purse.Proofs.Payment

/-!
# The books behind a store

A store keeps plain rows. The books are the wallets, ledger entries and payments that the rows were
written for, in the same order, newest first. Sound books satisfy the constraints of the tables. On the
store of sound books every row can be read, and a call that is not refused leaves the store of other
books: this module says which.
-/
namespace Purse

theorem Amount.ofInt_value (a : Amount) : Amount.ofInt a.value = .ok a := dif_pos ⟨a.pos, a.le_max⟩

theorem Amount.value_of_ofInt {n : Int} {a : Amount} (h : Amount.ofInt n = .ok a) : a.value = n := by
  unfold ofInt at h
  split_ifs at h with hn
  simp only [Except.ok.injEq] at h
  rw [← h]

theorem WalletRow.read_ofWallet {w : Wallet} (h : 0 ≤ w.balance) : (ofWallet w).read = .ok w := by
  simp [ofWallet, read, readColumn, Wallet.ofParts, Int.not_lt.2 h]

theorem EntryRow.read_ofEntry (e : Entry) : (ofEntry e).read = .ok e := by
  simp [ofEntry, read, readColumn, readColumnName, EntryKind.ofName?_name, Amount.ofInt_value, bind,
    Except.bind]

theorem PaymentRow.read_ofPayment (p : Payment) : (ofPayment p).read = .ok p := by
  simp [ofPayment, read, readColumn, readColumnName, PaymentMethod.ofName?_name,
    PaymentStatus.ofName?_name, Amount.ofInt_value, bind, Except.bind]

theorem WalletRow.ofWallet_injective : Function.Injective ofWallet := by
  rintro ⟨⟩ ⟨⟩ h
  simpa [ofWallet] using h

theorem EntryRow.ofEntry_injective : Function.Injective ofEntry := by
  intro e f h
  have hread := read_ofEntry e
  rw [h, read_ofEntry, Except.ok.injEq] at hread
  exact hread.symm

theorem PaymentRow.ofPayment_injective : Function.Injective ofPayment := by
  intro p q h
  have hread := read_ofPayment p
  rw [h, read_ofPayment, Except.ok.injEq] at hread
  exact hread.symm

/-- Rows that were written for values are read back as those values. -/
theorem mapM_read {α ρ : Type} {write : α → ρ} {read : ρ → Except StoreError α}
    (h : ∀ a, read (write a) = .ok a) (as : List α) : (as.map write).mapM read = .ok as := by
  induction as with
  | nil => rfl
  | cons a as ih => simp [h, ih, bind, Except.bind, pure, Except.pure]

theorem Page.slice_map {α β : Type} (page : Page) (f : α → β) (xs : List α) :
    page.slice (xs.map f) = (page.slice xs).map f := by
  rw [slice, slice, List.map_take, List.map_drop]

/-- A wallet that is opened was there before, or it is the new one and nobody had either key of it. -/
theorem Store.of_openWallet {s t : Store} {user : UserId} {id : WalletId} {now : Timestamp} {w : Wallet}
    (h : s.openWallet user id now = .ok (w, t)) :
    (∃ row, s.walletOf? user = some row ∧ row.read = .ok w ∧ t = s) ∨
      s.walletOf? user = none ∧ (∀ row ∈ s.wallets, row.id ≠ id) ∧
        w = .opened id user (s.precision.cut now) ∧
        t = { s with wallets := .ofWallet (.opened id user (s.precision.cut now)) :: s.wallets } := by
  unfold openWallet at h
  cases hrow : s.walletOf? user with
  | some row =>
      simp only [hrow] at h
      cases hread : row.read with
      | error cause => simp [hread, Except.map] at h
      | ok v =>
          simp only [hread, Except.map, Except.ok.injEq, Prod.mk.injEq] at h
          obtain ⟨rfl, rfl⟩ := h
          exact .inl ⟨row, rfl, hread, rfl⟩
  | none =>
      simp only [hrow] at h
      split_ifs at h with hany
      simp only [Except.ok.injEq, Prod.mk.injEq] at h
      refine .inr ⟨rfl, ?_, h.1.symm, h.2.symm⟩
      intro row hmem hid
      exact hany (List.any_eq_true.2 ⟨row, hmem, by simp [hid]⟩)

structure Books where
  wallets : List Wallet := []
  entries : List Entry := []
  payments : List Payment := []
  deriving DecidableEq, Repr

namespace Books

/-- The store that has exactly these books, written as rows. -/
def store (precision : Precision) (b : Books) : Store where
  precision := precision
  wallets := b.wallets.map .ofWallet
  entries := b.entries.map .ofEntry
  payments := b.payments.map .ofPayment

def addWallet (b : Books) (w : Wallet) : Books := { b with wallets := w :: b.wallets }

def putWallet (b : Books) (w : Wallet) : Books := { b with wallets := Keyed.put (·.id) w b.wallets }

def addEntry (b : Books) (e : Entry) : Books := { b with entries := e :: b.entries }

def addPayment (b : Books) (p : Payment) : Books := { b with payments := p :: b.payments }

def putPayment (b : Books) (p : Payment) : Books :=
  { b with payments := Keyed.put (·.id) p b.payments }

/-- The constraints of the tables: keys are unique, references resolve, and balances are in range. -/
structure Sound (b : Books) : Prop where
  walletIds : (b.wallets.map (·.id)).Nodup
  walletUsers : (b.wallets.map (·.userId)).Nodup
  balances : ∀ w ∈ b.wallets, 0 ≤ w.balance ∧ w.balance ≤ maxSum
  entryIds : (b.entries.map (·.id)).Nodup
  entryWallets : ∀ e ∈ b.entries, ∃ w ∈ b.wallets, w.id = e.walletId
  paymentIds : (b.payments.map (·.id)).Nodup
  references : ∀ p ∈ b.payments, ∀ q ∈ b.payments, p.externalId.isSome →
    q.externalId = p.externalId → q.id = p.id

theorem sound_empty : Sound {} where
  walletIds := List.nodup_nil
  walletUsers := List.nodup_nil
  balances := by simp
  entryIds := List.nodup_nil
  entryWallets := by simp
  paymentIds := List.nodup_nil
  references := by simp

variable {b : Books} {precision : Precision}

/-- A store is that of one set of books only. -/
theorem store_injective : Function.Injective (store precision) := by
  intro b c h
  simp only [store, Store.mk.injEq, true_and] at h
  obtain ⟨hwallets, hentries, hpayments⟩ := h
  have hw := List.map_injective_iff.2 WalletRow.ofWallet_injective hwallets
  have he := List.map_injective_iff.2 EntryRow.ofEntry_injective hentries
  have hp := List.map_injective_iff.2 PaymentRow.ofPayment_injective hpayments
  cases b
  cases c
  simp_all

theorem Sound.eq_of_id (hb : b.Sound) {p q : Payment} (hp : p ∈ b.payments) (hq : q ∈ b.payments)
    (h : p.id = q.id) : p = q :=
  List.inj_on_of_nodup_map hb.paymentIds hp hq h

theorem Sound.eq_of_reference (hb : b.Sound) {p q : Payment} (hp : p ∈ b.payments) (hq : q ∈ b.payments)
    {externalId : String} (hpe : p.externalId = some externalId) (hqe : q.externalId = some externalId) :
    q = p :=
  hb.eq_of_id hq hp (hb.references p hp q hq (by simp [hpe]) (hqe.trans hpe.symm))

theorem Sound.eq_of_walletId (hb : b.Sound) {v w : Wallet} (hv : v ∈ b.wallets) (hw : w ∈ b.wallets)
    (h : v.id = w.id) : v = w :=
  List.inj_on_of_nodup_map hb.walletIds hv hw h

/-! ## Looking things up -/

theorem walletOf?_store (user : UserId) :
    (b.store precision).walletOf? user = (b.wallets.find? (·.userId = user)).map .ofWallet := by
  simp only [Store.walletOf?, store, List.find?_map]
  rfl

theorem payment?_store (id : PaymentId) :
    (b.store precision).payment? id = (b.payments.find? (·.id = id)).map .ofPayment := by
  simp only [Store.payment?, store, List.find?_map]
  rfl

theorem paymentOf?_store (externalId : String) :
    (b.store precision).paymentOf? externalId =
      (b.payments.find? (·.externalId = some externalId)).map .ofPayment := by
  simp only [Store.paymentOf?, store, List.find?_map]
  rfl

theorem Sound.walletOf? (hb : b.Sound) {w : Wallet} (hw : w ∈ b.wallets) :
    (b.store precision).walletOf? w.userId = some (.ofWallet w) := by
  rw [walletOf?_store, Keyed.find?_key hb.walletUsers hw]
  rfl

theorem readFound_payment (p : Option Payment) :
    Store.readFound PaymentRow.read (p.map .ofPayment) = .ok p := by
  cases p with
  | none => rfl
  | some p => simp [Store.readFound, PaymentRow.read_ofPayment, Except.map]

theorem findPayment_store (id : PaymentId) :
    (b.store precision).findPayment id = .ok (b.payments.find? (·.id = id)) := by
  rw [Store.findPayment, payment?_store, readFound_payment]

theorem findPaymentOf_store (externalId : String) :
    (b.store precision).findPaymentOf externalId =
      .ok (b.payments.find? (·.externalId = some externalId)) := by
  rw [Store.findPaymentOf, paymentOf?_store, readFound_payment]

theorem Sound.findPayment (hb : b.Sound) {p : Payment} (hp : p ∈ b.payments) :
    (b.store precision).findPayment p.id = .ok (some p) := by
  rw [findPayment_store, Keyed.find?_key hb.paymentIds hp]

theorem Sound.findPaymentOf (hb : b.Sound) {p : Payment} (hp : p ∈ b.payments) {externalId : String}
    (he : p.externalId = some externalId) :
    (b.store precision).findPaymentOf externalId = .ok (some p) := by
  rw [findPaymentOf_store]
  cases hfind : b.payments.find? (·.externalId = some externalId) with
  | none =>
      have := List.find?_eq_none.1 hfind p hp
      simp [he] at this
  | some q =>
      have hq := List.mem_of_find?_eq_some hfind
      have hqe : q.externalId = some externalId := by simpa using List.find?_some hfind
      rw [hb.eq_of_reference hp hq he hqe]

theorem of_findPayment {id : PaymentId} {p : Payment}
    (h : (b.store precision).findPayment id = .ok (some p)) : p ∈ b.payments ∧ p.id = id := by
  rw [findPayment_store, Except.ok.injEq] at h
  exact ⟨List.mem_of_find?_eq_some h, by simpa using List.find?_some h⟩

theorem of_findPaymentOf {externalId : String} {p : Payment}
    (h : (b.store precision).findPaymentOf externalId = .ok (some p)) :
    p ∈ b.payments ∧ p.externalId = some externalId := by
  rw [findPaymentOf_store, Except.ok.injEq] at h
  exact ⟨List.mem_of_find?_eq_some h, by simpa using List.find?_some h⟩

theorem Sound.findWallet (hb : b.Sound) (user : UserId) :
    (b.store precision).findWallet user = .ok (b.wallets.find? (·.userId = user)) := by
  rw [Store.findWallet, walletOf?_store]
  cases hfind : b.wallets.find? (·.userId = user) with
  | none => rfl
  | some w =>
      have hw := hb.balances w (List.mem_of_find?_eq_some hfind)
      simp [Store.readFound, WalletRow.read_ofWallet hw.1, Except.map]

theorem listEntries_store (wallet : WalletId) (page : Page) :
    (b.store precision).listEntries wallet page =
      .ok (page.slice (b.entries.filter (·.walletId = wallet))) := by
  simp only [Store.listEntries, store, List.filter_map, Page.slice_map]
  exact mapM_read EntryRow.read_ofEntry _

theorem listPayments_store (user : UserId) (page : Page) :
    (b.store precision).listPayments user page =
      .ok (page.slice (b.payments.filter (·.userId = user))) := by
  simp only [Store.listPayments, store, List.filter_map, Page.slice_map]
  exact mapM_read PaymentRow.read_ofPayment _

/-! ## Calls that write -/

/-- What a user's wallet is and which books have it, when it may have been opened for the occasion. -/
inductive Opened (b : Books) (user : UserId) : Wallet → Books → Prop
  | found {w : Wallet} : w ∈ b.wallets → w.userId = user → Opened b user w b
  | opened (id : WalletId) (now : Timestamp) : (∀ v ∈ b.wallets, v.userId ≠ user) →
      (∀ v ∈ b.wallets, v.id ≠ id) →
      Opened b user (.opened id user now) (b.addWallet (.opened id user now))

theorem of_openWallet (hb : b.Sound) {user : UserId} {id : WalletId} {now : Timestamp} {w : Wallet}
    {s : Store} (h : (b.store precision).openWallet user id now = .ok (w, s)) :
    ∃ b', s = b'.store precision ∧ Opened b user w b' := by
  have hcases := Store.of_openWallet h
  rw [walletOf?_store] at hcases
  rcases hcases with ⟨row, hrow, hread, rfl⟩ | ⟨hrow, hfresh, rfl, rfl⟩
  · obtain ⟨v, hfind, rfl⟩ := Option.map_eq_some_iff.1 hrow
    have hv := List.mem_of_find?_eq_some hfind
    have hu : v.userId = user := by simpa using List.find?_some hfind
    rw [WalletRow.read_ofWallet (hb.balances v hv).1, Except.ok.injEq] at hread
    exact ⟨b, rfl, .found (hread ▸ hv) (hread ▸ hu)⟩
  · have hfind := Option.map_eq_none_iff.1 hrow
    refine ⟨_, rfl, .opened id _ (fun v hv => ?_) (fun v hv => ?_)⟩
    · simpa using List.find?_eq_none.1 hfind v hv
    · exact hfresh _ (List.mem_map_of_mem hv)

theorem of_saveWallet (hb : b.Sound) {w : Wallet} (hw : w ∈ b.wallets) {balance : Int}
    {now : Timestamp} {s : Store}
    (h : (b.store precision).saveWallet { w with balance, updatedAt := now } = .ok s) :
    0 ≤ balance ∧
      s = (b.putWallet { w with balance, updatedAt := precision.cut now }).store precision := by
  unfold Store.saveWallet at h
  split_ifs at h with hany hneg
  simp only [Except.ok.injEq] at h
  subst h
  refine ⟨Int.not_lt.1 hneg, ?_⟩
  simp only [putWallet, store, Store.mk.injEq, true_and, and_true]
  refine Keyed.updateWhere_map (fun v _ => rfl) (fun v hv hid => ?_)
  rw [hb.eq_of_walletId hv hw hid]
  rfl

theorem of_appendEntry {e : Entry} {s : Store} (h : (b.store precision).appendEntry e = .ok s) :
    (∀ f ∈ b.entries, f.id ≠ e.id) ∧
      s = (b.addEntry { e with createdAt := precision.cut e.createdAt }).store precision := by
  unfold Store.appendEntry at h
  split_ifs at h with hany hwallet
  simp only [Except.ok.injEq] at h
  subst h
  refine ⟨fun f hf hid => hany ?_, rfl⟩
  exact List.any_eq_true.2 ⟨_, List.mem_map_of_mem hf, by simp [EntryRow.ofEntry, hid]⟩

theorem of_insertPayment {p : Payment} {s : Store} (h : (b.store precision).insertPayment p = .ok s) :
    (∀ q ∈ b.payments, q.id ≠ p.id) ∧
      s = (b.addPayment { p with
        createdAt := precision.cut p.createdAt
        updatedAt := precision.cut p.updatedAt }).store precision := by
  unfold Store.insertPayment at h
  split_ifs at h with hreference hany
  simp only [Except.ok.injEq] at h
  subst h
  refine ⟨fun q hq hid => hany ?_, rfl⟩
  exact List.any_eq_true.2 ⟨_, List.mem_map_of_mem hq, by simp [PaymentRow.ofPayment, hid]⟩

theorem of_savePayment (hb : b.Sound) {p q : Payment} (hp : p ∈ b.payments) (terms : p.SameTerms q)
    {s : Store} (h : (b.store precision).savePayment q = .ok s) :
    (∀ r ∈ b.payments, q.externalId.isSome → r.externalId = q.externalId → r.id = q.id) ∧
      s = (b.putPayment { q with updatedAt := precision.cut q.updatedAt }).store precision := by
  unfold Store.savePayment at h
  split_ifs at h with hany htaken
  simp only [Except.ok.injEq] at h
  subst h
  constructor
  · intro r hr hsome he
    by_contra hid
    refine htaken ?_
    rw [Store.referenceTaken, hsome, Bool.true_and, List.any_eq_true]
    exact ⟨_, List.mem_map_of_mem hr, by simp [PaymentRow.ofPayment, hid, he]⟩
  · simp only [putPayment, store, Store.mk.injEq, true_and]
    refine Keyed.updateWhere_map (fun r _ => rfl) (fun r hr hid => ?_)
    rw [hb.eq_of_id hr hp (hid.trans terms.id)]
    simp only [PaymentRow.ofPayment, terms.id, terms.userId, terms.bookingId, terms.amount, terms.method,
      terms.createdAt]

/-! ## Calls that are refused -/

theorem of_openWallet_error (hb : b.Sound) {user : UserId} {id : WalletId} {now : Timestamp}
    {cause : StoreError} (h : (b.store precision).openWallet user id now = .error cause) :
    cause = .duplicate "wallets.id" := by
  rw [Store.openWallet, walletOf?_store] at h
  cases hfind : b.wallets.find? (·.userId = user) with
  | some v =>
      have hv := hb.balances v (List.mem_of_find?_eq_some hfind)
      simp [hfind, WalletRow.read_ofWallet hv.1, Except.map] at h
  | none =>
      simp only [hfind, Option.map_none] at h
      split_ifs at h with hany
      exact (Except.error.inj h).symm

theorem saveWallet_ne_error {w : Wallet} (hw : w ∈ b.wallets) {balance : Int} {now : Timestamp}
    (hbalance : 0 ≤ balance) {cause : StoreError} :
    (b.store precision).saveWallet { w with balance, updatedAt := now } ≠ .error cause := by
  intro h
  unfold Store.saveWallet at h
  split_ifs at h with hany hneg
  · simp only [Bool.not_eq_true', List.any_eq_false] at hany
    exact hany _ (List.mem_map_of_mem hw) (by simp [WalletRow.ofWallet])
  · exact Int.not_lt.2 hbalance hneg

theorem of_appendEntry_error {e : Entry} (hw : ∃ w ∈ b.wallets, w.id = e.walletId) {cause : StoreError}
    (h : (b.store precision).appendEntry e = .error cause) :
    cause = .duplicate "wallet_transactions.id" := by
  obtain ⟨w, hw, hid⟩ := hw
  unfold Store.appendEntry at h
  split_ifs at h with hany hwallet
  · exact (Except.error.inj h).symm
  · simp only [Bool.not_eq_true', List.any_eq_false] at hwallet
    exact absurd (by simp [WalletRow.ofWallet, hid]) (hwallet _ (List.mem_map_of_mem hw))

theorem of_insertPayment_error {p : Payment} {cause : StoreError}
    (h : (b.store precision).insertPayment p = .error cause) : ∃ column, cause = .duplicate column := by
  unfold Store.insertPayment at h
  split_ifs at h with hreference hany
  · exact ⟨_, (Except.error.inj h).symm⟩
  · exact ⟨_, (Except.error.inj h).symm⟩

theorem of_savePayment_error {p q : Payment} (hp : p ∈ b.payments) (hid : q.id = p.id)
    {cause : StoreError} (h : (b.store precision).savePayment q = .error cause) :
    cause = .duplicate "payments.external_id" ∧ q.externalId.isSome := by
  unfold Store.savePayment at h
  split_ifs at h with hany htaken
  · simp only [Bool.not_eq_true', List.any_eq_false] at hany
    exact absurd (by simp [PaymentRow.ofPayment, hid]) (hany _ (List.mem_map_of_mem hp))
  · refine ⟨(Except.error.inj h).symm, ?_⟩
    simp only [Store.referenceTaken, Bool.and_eq_true] at htaken
    exact htaken.1

/-! ## Calls that are answered -/

section Answered
variable (precision)

/-- No row has a key that nothing they were written for has. -/
theorem any_written_eq_false {α ρ κ : Type} [DecidableEq κ] {write : α → ρ} {key : ρ → κ} {k : κ}
    {as : List α} (h : ∀ a ∈ as, key (write a) ≠ k) : (as.map write).any (key · = k) = false := by
  simpa [List.any_map] using h

theorem Sound.openWallet_found (hb : b.Sound) {w : Wallet} (hw : w ∈ b.wallets) (id : WalletId)
    (now : Timestamp) :
    (b.store precision).openWallet w.userId id now = .ok (w, b.store precision) := by
  simp only [Store.openWallet, hb.walletOf? hw, WalletRow.read_ofWallet (hb.balances w hw).1, Except.map]

theorem openWallet_new {user : UserId} {id : WalletId} (huser : ∀ w ∈ b.wallets, w.userId ≠ user)
    (hid : ∀ w ∈ b.wallets, w.id ≠ id) (now : Timestamp) :
    (b.store precision).openWallet user id now =
      .ok (.opened id user (precision.cut now),
        (b.addWallet (.opened id user (precision.cut now))).store precision) := by
  have hfind : b.wallets.find? (·.userId = user) = none :=
    List.find?_eq_none.2 fun w hw => by simpa using huser w hw
  have hany : (b.store precision).wallets.any (·.id = id) = false := any_written_eq_false hid
  simp only [Store.openWallet, walletOf?_store, hfind, Option.map_none, hany]
  rfl

theorem Sound.saveWallet_eq (hb : b.Sound) {w : Wallet} (hw : w ∈ b.wallets) {balance : Int}
    (hbalance : 0 ≤ balance) (now : Timestamp) :
    (b.store precision).saveWallet { w with balance, updatedAt := now } =
      .ok ((b.putWallet { w with balance, updatedAt := precision.cut now }).store precision) := by
  cases h : (b.store precision).saveWallet { w with balance, updatedAt := now } with
  | error cause => exact absurd h (saveWallet_ne_error hw hbalance)
  | ok s => rw [(of_saveWallet hb hw h).2]

theorem appendEntry_eq {e : Entry} (hfresh : ∀ f ∈ b.entries, f.id ≠ e.id)
    (hw : ∃ w ∈ b.wallets, w.id = e.walletId) :
    (b.store precision).appendEntry e =
      .ok ((b.addEntry { e with createdAt := precision.cut e.createdAt }).store precision) := by
  have hid : (b.store precision).entries.any (·.id = e.id) = false := any_written_eq_false hfresh
  have hwallet : (b.store precision).wallets.any (·.id = e.walletId) = true := by
    obtain ⟨w, hw, hid⟩ := hw
    exact List.any_eq_true.2 ⟨_, List.mem_map_of_mem hw, by simp [WalletRow.ofWallet, hid]⟩
  simp only [Store.appendEntry, hid, hwallet]
  rfl

theorem insertPayment_eq {p : Payment} (hnone : p.externalId = none)
    (hfresh : ∀ q ∈ b.payments, q.id ≠ p.id) :
    (b.store precision).insertPayment p =
      .ok ((b.addPayment { p with
        createdAt := precision.cut p.createdAt
        updatedAt := precision.cut p.updatedAt }).store precision) := by
  have hid : (b.store precision).payments.any (·.id = p.id) = false := any_written_eq_false hfresh
  simp only [Store.insertPayment, hnone, hid]
  rfl

theorem Sound.savePayment_eq (hb : b.Sound) {p q : Payment} (hp : p ∈ b.payments)
    (terms : p.SameTerms q)
    (unique : ∀ r ∈ b.payments, q.externalId.isSome → r.externalId = q.externalId → r.id = q.id) :
    (b.store precision).savePayment q =
      .ok ((b.putPayment { q with updatedAt := precision.cut q.updatedAt }).store precision) := by
  cases h : (b.store precision).savePayment q with
  | ok s => rw [(of_savePayment hb hp terms h).2]
  | error cause =>
      unfold Store.savePayment at h
      split_ifs at h with hany htaken
      · simp only [Bool.not_eq_true', List.any_eq_false] at hany
        exact absurd (by simp [PaymentRow.ofPayment, terms.id]) (hany _ (List.mem_map_of_mem hp))
      · simp only [Store.referenceTaken, Bool.and_eq_true, List.any_eq_true] at htaken
        obtain ⟨hsome, row, hrow, hid, he⟩ := htaken
        obtain ⟨r, hr, rfl⟩ := List.mem_map.1 hrow
        exact absurd (unique r hr hsome (of_decide_eq_true he)) (of_decide_eq_true hid)

end Answered
end Books
end Purse
