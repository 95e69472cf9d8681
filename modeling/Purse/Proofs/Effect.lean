import Purse.Proofs.Books

/-!
# What a committed change can be

Whatever a service does, the books that it leaves differ from those that it found by at most a few
changes of five sorts: a wallet is opened, a posting is entered that no payment caused, a payment is
requested, a payment is settled together with its posting, or a payment is amended. Each of them keeps
the constraints of the tables and the form of the payment records. Further properties of runs need one
case for each sort and nothing else about the program.
-/
namespace Purse

/-- A move of money is exact, and the new balance is in range if the old one was. -/
theorem Wallet.of_move {w v : Wallet} {direction : Direction} {amount : Amount} {now : Timestamp}
    (h : w.move direction amount now = .ok v) (hw : 0 ≤ w.balance ∧ w.balance ≤ maxSum) :
    v = { w with balance := w.balance + direction.signed amount.value, updatedAt := now } ∧
      0 ≤ w.balance + direction.signed amount.value ∧
      w.balance + direction.signed amount.value ≤ maxSum := by
  have hpos := amount.pos
  cases direction with
  | credit =>
      simp only [move, credit] at h
      split_ifs at h with hmax
      simp only [Except.ok.injEq] at h
      refine ⟨h.symm, ?_, ?_⟩ <;> simp only [Direction.signed] <;> omega
  | debit =>
      simp only [move, debit, hasSufficientBalance, decide_eq_true_eq] at h
      split_ifs at h with hle
      simp only [Except.ok.injEq] at h
      refine ⟨?_, ?_, ?_⟩
      · rw [← h, Direction.signed, Int.sub_eq_add_neg]
      · simp only [Direction.signed]
        omega
      · simp only [Direction.signed]
        omega

namespace Books

/-- The books after a posting was entered for a user, and the entry that records it. -/
inductive Posted (b : Books) (user : UserId) (posting : Posting) : Entry → Books → Prop
  | intro {w : Wallet} {b₀ : Books} (id : EntryId) (moved recorded : Timestamp) :
      b.Opened user w b₀ →
      0 ≤ w.balance + posting.signedAmount → w.balance + posting.signedAmount ≤ maxSum →
      (∀ f ∈ b.entries, f.id ≠ id) →
      Posted b user posting (.record id w.id posting recorded)
        ((b₀.putWallet { w with
          balance := w.balance + posting.signedAmount
          updatedAt := moved }).addEntry (.record id w.id posting recorded))

/-- The books after a payment was settled, together with the posting that goes with the step. -/
inductive Settled (b : Books) (p q : Payment) : Books → Prop
  | intro {posting : Posting} {e : Entry} {b' : Books} : p ∈ b.payments → p.Settles posting q →
      b.Posted p.userId posting e b' → Settled b p q (b'.putPayment q)

/-- The books after a payment was amended. A reference that it was given is its own. -/
inductive Amended (b : Books) (p q : Payment) : Books → Prop
  | intro : p ∈ b.payments → p.Amends q →
      (∀ r ∈ b.payments, q.externalId.isSome → r.externalId = q.externalId → r.id = q.id) →
      Amended b p q (b.putPayment q)

inductive Effect : Books → Books → Prop
  | opened {b b' : Books} {user : UserId} {w : Wallet} : b.Opened user w b' → Effect b b'
  | posted {b b' : Books} {user : UserId} {posting : Posting} {e : Entry} :
      posting.paymentId = none → b.Posted user posting e b' → Effect b b'
  | requested {b : Books} (id : PaymentId) (user : UserId) (amount : Amount) (method : PaymentMethod)
      (booking : Option BookingId) (now : Timestamp) : (∀ q ∈ b.payments, q.id ≠ id) →
      Effect b (b.addPayment (.requested id user amount method booking now))
  | settled {b b' : Books} {p q : Payment} : b.Settled p q b' → Effect b b'
  | amended {b b' : Books} {p q : Payment} : b.Amended p q b' → Effect b b'

/-- Whether a wallet is that of a user. -/
def Owns (b : Books) (user : UserId) (wallet : WalletId) : Prop :=
  ∃ w ∈ b.wallets, w.userId = user ∧ w.id = wallet

/-- Sound books with well-formed payment records. -/
structure Lawful (b : Books) : Prop extends Sound b where
  wellFormed : ∀ p ∈ b.payments, p.WellFormed

theorem lawful_empty : Lawful {} := ⟨sound_empty, by simp⟩

variable {b b' b₀ : Books} {user : UserId} {w : Wallet} {posting : Posting} {e : Entry}

/-! ## Opening a wallet -/

theorem Opened.mem (h : b.Opened user w b') : w ∈ b'.wallets := by
  cases h with
  | found hw _ => exact hw
  | opened id now _ _ => exact List.mem_cons_self

theorem Opened.userId_eq (h : b.Opened user w b') : w.userId = user := by
  cases h with
  | found _ hu => exact hu
  | opened id now _ _ => rfl

theorem Opened.entries_eq (h : b.Opened user w b') : b'.entries = b.entries := by
  cases h <;> rfl

theorem Opened.payments_eq (h : b.Opened user w b') : b'.payments = b.payments := by
  cases h <;> rfl

theorem Opened.mono (h : b.Opened user w b') {v : Wallet} (hv : v ∈ b.wallets) : v ∈ b'.wallets := by
  cases h with
  | found _ _ => exact hv
  | opened id now _ _ => exact List.mem_cons_of_mem _ hv

theorem Opened.sound (h : b.Opened user w b') (hb : b.Sound) : b'.Sound := by
  cases h with
  | found _ _ => exact hb
  | opened id now huser hid =>
      exact {
        walletIds := Keyed.nodup_map_cons hb.walletIds hid
        walletUsers := Keyed.nodup_map_cons hb.walletUsers huser
        balances := by
          intro v hv
          rcases List.mem_cons.1 hv with rfl | hv
          · exact ⟨Int.le_refl 0, by simp [Wallet.opened, maxSum, Numeral.maxWord]⟩
          · exact hb.balances v hv
        entryIds := hb.entryIds
        entryWallets := by
          intro f hf
          obtain ⟨v, hv, he⟩ := hb.entryWallets f hf
          exact ⟨v, List.mem_cons_of_mem _ hv, he⟩
        paymentIds := hb.paymentIds
        references := hb.references }

/-! ## Entering a posting -/

theorem Posted.entries_eq (h : b.Posted user posting e b') : b'.entries = e :: b.entries := by
  obtain ⟨id, moved, recorded, hopen, -, -, -⟩ := h
  simp only [addEntry, putWallet, hopen.entries_eq]

theorem Posted.payments_eq (h : b.Posted user posting e b') : b'.payments = b.payments := by
  obtain ⟨id, moved, recorded, hopen, -, -, -⟩ := h
  simp only [addEntry, putWallet, hopen.payments_eq]

/-- A user keeps a wallet whose balance is moved, and every other one. -/
theorem Posted.keeps_owner (h : b.Posted user posting e b') (hb : b.Sound) {owner : UserId}
    {wallet : WalletId} (howner : b.Owns owner wallet) : b'.Owns owner wallet := by
  obtain ⟨id, moved, recorded, hopen, -, -, -⟩ := h
  rename_i w b₀
  obtain ⟨v, hv, huser, hid⟩ := howner
  by_cases heq : v.id = w.id
  · obtain rfl := (hopen.sound hb).eq_of_walletId (hopen.mono hv) hopen.mem heq
    exact ⟨_, Keyed.mem_put.2 (.inr ⟨rfl, v, hopen.mem, rfl⟩), huser, hid⟩
  · exact ⟨v, Keyed.mem_put.2 (.inl ⟨hopen.mono hv, heq⟩), huser, hid⟩

/-- The entry is made to the wallet of the user that it is entered for. -/
theorem Posted.owner (h : b.Posted user posting e b') : b'.Owns user e.walletId := by
  obtain ⟨id, moved, recorded, hopen, -, -, -⟩ := h
  exact ⟨_, Keyed.mem_put.2 (.inr ⟨rfl, _, hopen.mem, rfl⟩), hopen.userId_eq, rfl⟩

theorem Posted.sound (h : b.Posted user posting e b') (hb : b.Sound) : b'.Sound := by
  have howner := h.owner
  have hkeeps := @h.keeps_owner
  obtain ⟨id, moved, recorded, hopen, hlow, hhigh, hfresh⟩ := h
  rename_i w b₀
  have h₀ := hopen.sound hb
  exact {
    walletIds := by
      simp only [addEntry, putWallet, Keyed.map_key_put]
      exact h₀.walletIds
    walletUsers := by
      simp only [addEntry, putWallet]
      rw [Keyed.map_put _ fun v hv hid => by rw [h₀.eq_of_walletId hv hopen.mem hid]]
      exact h₀.walletUsers
    balances := by
      intro v hv
      rcases Keyed.mem_put.1 hv with ⟨hv, -⟩ | ⟨rfl, -⟩
      · exact h₀.balances v hv
      · exact ⟨hlow, hhigh⟩
    entryIds := by
      simp only [addEntry, putWallet, hopen.entries_eq]
      exact Keyed.nodup_map_cons hb.entryIds hfresh
    entryWallets := by
      intro f hf
      simp only [addEntry, putWallet, hopen.entries_eq] at hf
      rcases List.mem_cons.1 hf with rfl | hf
      · obtain ⟨v, hv, -, hid⟩ := howner
        exact ⟨v, hv, hid⟩
      · obtain ⟨v, hv, hid⟩ := hb.entryWallets f hf
        obtain ⟨u, hu, -, huid⟩ := hkeeps hb ⟨v, hv, rfl, rfl⟩
        exact ⟨u, hu, huid.trans hid⟩
    paymentIds := h₀.paymentIds
    references := h₀.references }

/-! ## Changing the payments -/

theorem mem_putPayment {p q : Payment} :
    q ∈ (b.putPayment p).payments ↔
      q ∈ b.payments ∧ q.id ≠ p.id ∨ q = p ∧ ∃ r ∈ b.payments, r.id = p.id :=
  Keyed.mem_put

theorem Lawful.requested (hb : b.Lawful) {id : PaymentId} (fresh : ∀ q ∈ b.payments, q.id ≠ id)
    (user : UserId) (amount : Amount) (method : PaymentMethod) (booking : Option BookingId)
    (now : Timestamp) : (b.addPayment (.requested id user amount method booking now)).Lawful where
  toSound := {
    walletIds := hb.walletIds
    walletUsers := hb.walletUsers
    balances := hb.balances
    entryIds := hb.entryIds
    entryWallets := hb.entryWallets
    paymentIds := Keyed.nodup_map_cons hb.paymentIds fresh
    references := by
      intro p hp q hq hsome he
      rcases List.mem_cons.1 hp with rfl | hp
      · simp [Payment.requested] at hsome
      · rcases List.mem_cons.1 hq with rfl | hq
        · rw [← he] at hsome
          simp [Payment.requested] at hsome
        · exact hb.references p hp q hq hsome he }
  wellFormed := by
    intro p hp
    rcases List.mem_cons.1 hp with rfl | hp
    · exact Payment.wellFormed_requested id user amount method booking now
    · exact hb.wellFormed p hp

theorem Lawful.putPayment (hb : b.Lawful) {q : Payment} (hq : q.WellFormed)
    (unique : ∀ r ∈ b.payments, q.externalId.isSome → r.externalId = q.externalId → r.id = q.id) :
    (b.putPayment q).Lawful where
  toSound := {
    walletIds := hb.walletIds
    walletUsers := hb.walletUsers
    balances := hb.balances
    entryIds := hb.entryIds
    entryWallets := hb.entryWallets
    paymentIds := by
      simp only [Books.putPayment, Keyed.map_key_put]
      exact hb.paymentIds
    references := by
      -- Only the new record can bring a reference that was not there, and by `unique` it is free.
      intro p hp r hr hsome he
      rcases mem_putPayment.1 hp with ⟨hp', -⟩ | ⟨rfl, -⟩ <;>
        rcases mem_putPayment.1 hr with ⟨hr', -⟩ | ⟨rfl, -⟩
      · exact hb.references p hp' r hr' hsome he
      · exact (unique p hp' (he ▸ hsome) he.symm).symm
      · exact unique r hr' hsome he
      · rfl }
  wellFormed := by
    intro p hp
    rcases mem_putPayment.1 hp with ⟨hp, -⟩ | ⟨rfl, -⟩
    · exact hb.wellFormed p hp
    · exact hq

theorem Settled.mem_new {p q : Payment} (h : b.Settled p q b') : q ∈ b'.payments := by
  obtain ⟨hp, hsettle, hpost⟩ := h
  exact mem_putPayment.2 (.inr ⟨rfl, p, hpost.payments_eq ▸ hp, hsettle.sameTerms.id.symm⟩)

theorem Settled.mem_old {p q : Payment} (h : b.Settled p q b') : p ∈ b.payments := by
  obtain ⟨hp, -, -⟩ := h
  exact hp

theorem Settled.status_cases {p q : Payment} (h : b.Settled p q b') :
    p.status = .pending ∧ q.status = .completed ∨ p.status = .completed ∧ q.status = .refunded := by
  obtain ⟨-, hsettles, -⟩ := h
  exact hsettles.status_cases

theorem Amended.mem_old {p q : Payment} (h : b.Amended p q b') : p ∈ b.payments := by
  obtain ⟨hp, -, -⟩ := h
  exact hp

theorem Amended.mem_new {p q : Payment} (h : b.Amended p q b') : q ∈ b'.payments := by
  obtain ⟨hp, hamend, -⟩ := h
  exact mem_putPayment.2 (.inr ⟨rfl, p, hp, hamend.sameTerms.id.symm⟩)

theorem Settled.progress {p q : Payment} (h : b.Settled p q b') : p.Progress q := by
  obtain ⟨-, hsettles, -⟩ := h
  exact .inr ⟨_, hsettles⟩

theorem Amended.progress {p q : Payment} (h : b.Amended p q b') : p.Progress q := by
  obtain ⟨-, hamends, -⟩ := h
  exact .inl hamends

theorem Settled.lawful {p q : Payment} (h : b.Settled p q b') (hb : b.Lawful) : b'.Lawful := by
  obtain ⟨hp, hsettle, hpost⟩ := h
  rename_i posting e c
  have hc : c.Lawful :=
    ⟨hpost.sound hb.toSound, fun r hr => hb.wellFormed r (hpost.payments_eq ▸ hr)⟩
  refine hc.putPayment (hsettle.wellFormed (hb.wellFormed p hp)) fun r hr hsome he => ?_
  rw [hpost.payments_eq] at hr
  rw [hsettle.externalId_eq] at hsome he
  exact (hb.references p hp r hr hsome he).trans hsettle.sameTerms.id.symm

theorem Amended.lawful {p q : Payment} (h : b.Amended p q b') (hb : b.Lawful) : b'.Lawful := by
  obtain ⟨hp, hamend, unique⟩ := h
  exact hb.putPayment (hamend.wellFormed (hb.wellFormed p hp)) unique

/-- Every change keeps the constraints of the tables and the form of the records. -/
theorem Effect.lawful (h : Effect b b') (hb : b.Lawful) : b'.Lawful := by
  cases h with
  | opened hopen =>
      exact ⟨hopen.sound hb.toSound, fun p hp => hb.wellFormed p (hopen.payments_eq ▸ hp)⟩
  | posted _ hpost =>
      exact ⟨hpost.sound hb.toSound, fun p hp => hb.wellFormed p (hpost.payments_eq ▸ hp)⟩
  | requested id user amount method booking now fresh =>
      exact hb.requested fresh user amount method booking now
  | settled hsettled => exact hsettled.lawful hb
  | amended hamended => exact hamended.lawful hb

theorem Sound.step_putPayment (hb : b.Sound) {p q r : Payment} (hp : p ∈ b.payments)
    (hstep : p.Progress q) (hr : r ∈ b.payments) :
    ∃ r' ∈ (b.putPayment q).payments, Relation.ReflGen Payment.Progress r r' := by
  have hid := hstep.sameTerms.id
  by_cases h : r.id = q.id
  · obtain rfl := hb.eq_of_id hr hp (h.trans hid)
    exact ⟨q, mem_putPayment.2 (.inr ⟨rfl, r, hr, h⟩), .single hstep⟩
  · exact ⟨r, mem_putPayment.2 (.inl ⟨hr, h⟩), .refl⟩

/-- A stored payment stays stored, and takes at most one step of its own. -/
theorem Effect.step (h : b.Effect b') (hb : b.Lawful) {r : Payment} (hr : r ∈ b.payments) :
    ∃ r' ∈ b'.payments, Relation.ReflGen Payment.Progress r r' := by
  cases h with
  | opened hopen => exact ⟨r, hopen.payments_eq ▸ hr, .refl⟩
  | posted _ hpost => exact ⟨r, hpost.payments_eq ▸ hr, .refl⟩
  | requested id user amount method booking now fresh => exact ⟨r, List.mem_cons_of_mem _ hr, .refl⟩
  | settled hsettled =>
      obtain ⟨hp, hsettles, hpost⟩ := hsettled
      have hpayments := hpost.payments_eq
      exact (hpost.sound hb.toSound).step_putPayment (hpayments ▸ hp) (.inr ⟨_, hsettles⟩)
        (hpayments ▸ hr)
  | amended hamended =>
      obtain ⟨hp, hamends, -⟩ := hamended
      exact hb.toSound.step_putPayment hp (.inl hamends) hr

/-- A payment in books after another was settled is that one or was there before. -/
theorem Settled.of_mem {p q r : Payment} (h : b.Settled p q b') (hr : r ∈ b'.payments) :
    r = q ∨ r ∈ b.payments ∧ r.id ≠ q.id := by
  obtain ⟨-, -, hpost⟩ := h
  rcases mem_putPayment.1 hr with ⟨hr, hid⟩ | ⟨rfl, -⟩
  · exact .inr ⟨hpost.payments_eq ▸ hr, hid⟩
  · exact .inl rfl

theorem Amended.of_mem {p q r : Payment} (h : b.Amended p q b') (hr : r ∈ b'.payments) :
    r = q ∨ r ∈ b.payments ∧ r.id ≠ q.id := by
  obtain ⟨-, -, -⟩ := h
  rcases mem_putPayment.1 hr with ⟨hr, hid⟩ | ⟨rfl, -⟩
  · exact .inr ⟨hr, hid⟩
  · exact .inl rfl

end Books
end Purse
