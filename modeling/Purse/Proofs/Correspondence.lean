import Purse.Proofs.Conservation

/-!
# Payments and the ledger

The status and the terms of a payment determine which ledger entries carry its identifier: none while it
is pending or once it has failed, one when it is completed, and a refund after that one when it is
refunded. Each is over the payment's amount, on account of its booking and in its payer's wallet. An
entry is made on account of a payment only in the step that moves the payment's status, and no other
change touches either side.
-/
namespace Purse

namespace Payment

/-- The kind of the entry that settles the payment. -/
def settlingKind (p : Payment) : EntryKind :=
  match p.method, p.bookingId with
  | .wallet, some _ => .bookingCharge
  | .wallet, none => .withdraw
  | .gatewayA, _ | .gatewayB, _ => .deposit

/-- The kinds of the entries that the payment has caused, in order. -/
def causedKinds (p : Payment) : List EntryKind :=
  match p.status with
  | .pending | .failed => []
  | .completed => [p.settlingKind]
  | .refunded => [p.settlingKind, .refund]

/-- What the payment has done to its payer's balance. A refund of a top-up is paid out on top of it. -/
def netEffect (p : Payment) : Int :=
  match p.method.isExternal, p.status with
  | false, .completed => -p.amount.value
  | true, .completed => p.amount.value
  | true, .refunded => 2 * p.amount.value
  | _, _ => 0

variable {p q : Payment} {posting : Posting}

theorem settlingKind_of_wallet (h : p.method = .wallet) :
    p.settlingKind = (Settlement.charge p).kind := by
  cases hb : p.bookingId <;>
    simp [settlingKind, Settlement.charge, h, hb, Posting.forPayment, Posting.withdraw,
      Posting.bookingCharge]

theorem settlingKind_of_external (h : p.method.isExternal) : p.settlingKind = .deposit := by
  cases hm : p.method
  · simp [hm, PaymentMethod.isExternal] at h
  all_goals simp [settlingKind, hm]

theorem SameTerms.settlingKind_eq (h : p.SameTerms q) : q.settlingKind = p.settlingKind := by
  rw [settlingKind, settlingKind, h.method, h.bookingId]

/-- The posting of a step is over the payment's amount, on account of its booking and of itself. -/
theorem Settles.posting_terms (h : p.Settles posting q) :
    posting.amount = p.amount ∧ posting.bookingId = p.bookingId ∧ posting.paymentId = some p.id := by
  cases h with
  | charged now hs hm =>
      cases hb : p.bookingId <;>
        simp [Settlement.charge, hb, Posting.forPayment, Posting.withdraw, Posting.bookingCharge]
  | toppedUp now hs he =>
      simp [Settlement.topUp, Posting.forPayment, Posting.forBooking, Posting.deposit]
  | refunded now hs => simp [Settlement.refundPosting, Posting.forPayment, Posting.refund]

theorem Settles.causedKinds_eq (h : p.Settles posting q) (hp : p.WellFormed) :
    q.causedKinds = p.causedKinds ++ [posting.kind] := by
  have hkind := h.sameTerms.settlingKind_eq
  cases h with
  | charged now hs hm => simp [causedKinds, hs, hkind, settlingKind_of_wallet hm]
  | toppedUp now hs he =>
      simp only [causedKinds, hs, hkind, settlingKind_of_external (hp.external he)]
      rfl
  | refunded now hs =>
      simp only [causedKinds, hs, hkind]
      rfl

theorem Amends.causedKinds_eq (h : p.Amends q) : q.causedKinds = p.causedKinds := by
  cases h with
  | failed reason now hs he => simp [causedKinds, hs]
  | attached externalId redirectUrl now hs hm he => simp [causedKinds, hs]

end Payment

/-- Entries of these kinds over one and the same amount. -/
theorem Entry.total_of_kinds {es : List Entry} {kinds : List EntryKind} {a : Amount}
    (hkinds : es.map Entry.kind = kinds) (hamount : ∀ e ∈ es, e.amount = a) :
    total es = (kinds.map (·.direction.signed a.value)).sum := by
  rw [← hkinds, total, List.map_map]
  refine congrArg List.sum (List.map_congr_left fun e he => ?_)
  rw [Function.comp_apply, signedAmount, hamount e he]

/-- The effect of a payment is that of the kinds of entries that it has caused. -/
theorem Payment.netEffect_eq (p : Payment) :
    p.netEffect = (p.causedKinds.map (·.direction.signed p.amount.value)).sum := by
  cases hm : p.method <;> cases hs : p.status <;> cases hb : p.bookingId <;>
    simp [netEffect, causedKinds, settlingKind, hm, hs, hb, PaymentMethod.isExternal,
      EntryKind.direction, Direction.signed] <;> omega

/-- Every stored payment, newest first. -/
def Store.allPayments (s : Store) : Except StoreError (List Payment) := s.payments.mapM PaymentRow.read

namespace Books

/-- The entries that carry a payment's identifier, oldest first. -/
def causedBy (b : Books) (id : PaymentId) : List Entry := b.entries.reverse.filter (·.paymentId = some id)

/-- What the ledger says about a payment is what the payment says about the ledger. -/
structure Matches (b : Books) (p : Payment) : Prop where
  kinds : (b.causedBy p.id).map Entry.kind = p.causedKinds
  terms : ∀ e ∈ b.causedBy p.id, e.amount = p.amount ∧ e.bookingId = p.bookingId ∧
    b.Owns p.userId e.walletId

structure Corresponding (b : Books) : Prop where
  payments : ∀ p ∈ b.payments, b.Matches p
  named : ∀ e ∈ b.entries, ∀ id, e.paymentId = some id → ∃ p ∈ b.payments, p.id = id

variable {b b' : Books} {user : UserId} {w : Wallet} {posting : Posting} {e : Entry} {p q : Payment}
  {precision : Precision}

theorem corresponding_empty : Corresponding {} := ⟨by simp, by simp⟩

theorem allPayments_store : (b.store precision).allPayments = .ok b.payments :=
  mapM_read PaymentRow.read_ofPayment _

theorem causedBy_cons_self {id : PaymentId} (h : b'.entries = e :: b.entries)
    (he : e.paymentId = some id) : b'.causedBy id = b.causedBy id ++ [e] := by
  simp [causedBy, h, he]

theorem causedBy_cons_of_ne {id : PaymentId} (h : b'.entries = e :: b.entries)
    (he : e.paymentId ≠ some id) : b'.causedBy id = b.causedBy id := by
  simp [causedBy, h, he]

theorem Corresponding.causedBy_eq_nil (hc : b.Corresponding) {id : PaymentId}
    (h : ∀ p ∈ b.payments, p.id ≠ id) : b.causedBy id = [] := by
  rw [causedBy, List.filter_eq_nil_iff]
  intro e he hid
  obtain ⟨p, hp, hpid⟩ := hc.named e (List.mem_reverse.1 he) id (by simpa using hid)
  exact h p hp hpid

/-- A payment is matched as long as the entries that it caused are the same and keep their owner. -/
theorem Matches.of_causedBy_eq (h : b.Matches p) (hcaused : b'.causedBy p.id = b.causedBy p.id)
    (howns : ∀ wallet, b.Owns p.userId wallet → b'.Owns p.userId wallet) : b'.Matches p := by
  refine ⟨hcaused ▸ h.kinds, fun e he => ?_⟩
  rw [hcaused] at he
  obtain ⟨hamount, hbooking, howner⟩ := h.terms e he
  exact ⟨hamount, hbooking, howns _ howner⟩

/-- A step that moves no money leaves the payment matched. -/
theorem Matches.amended (h : b.Matches p) (hamends : p.Amends q) : b.Matches q := by
  have hterms := hamends.sameTerms
  refine ⟨?_, fun e he => ?_⟩
  · rw [hterms.id, hamends.causedKinds_eq]
    exact h.kinds
  · rw [hterms.id] at he
    rw [hterms.amount, hterms.bookingId, hterms.userId]
    exact h.terms e he

theorem Posted.entry_eq (h : b.Posted user posting e b') :
    e.kind = posting.kind ∧ e.amount = posting.amount ∧ e.bookingId = posting.bookingId ∧
      e.paymentId = posting.paymentId := by
  obtain ⟨id, moved, recorded, -, -, -, -⟩ := h
  exact ⟨rfl, rfl, rfl, rfl⟩

/-- An entry on account of one payment leaves the others matched. -/
theorem Matches.posted (h : b.Matches p) (hpost : b.Posted user posting e b') (hb : b.Sound)
    (hother : posting.paymentId ≠ some p.id) : b'.Matches p := by
  refine h.of_causedBy_eq (causedBy_cons_of_ne hpost.entries_eq ?_) fun wallet howns =>
    hpost.keeps_owner hb howns
  rw [hpost.entry_eq.2.2.2]
  exact hother

/-- A step that moves money goes with the one entry that the payment's new status asks for. -/
theorem Matches.settled (h : b.Matches p) (hp : p.WellFormed) (hsettles : p.Settles posting q)
    (hpost : b.Posted p.userId posting e b') (hb : b.Sound) : b'.Matches q := by
  have hterms := hsettles.sameTerms
  obtain ⟨hamount, hbooking, hid⟩ := hsettles.posting_terms
  obtain ⟨hekind, heamount, hebooking, heid⟩ := hpost.entry_eq
  have hcaused := causedBy_cons_self hpost.entries_eq (heid.trans hid)
  refine ⟨?_, fun f hf => ?_⟩
  · rw [hterms.id, hcaused, List.map_append, h.kinds, hsettles.causedKinds_eq hp, List.map_singleton,
      hekind]
  · rw [hterms.id, hcaused] at hf
    rw [hterms.amount, hterms.bookingId, hterms.userId]
    rcases List.mem_append.1 hf with hf | hf
    · obtain ⟨hfamount, hfbooking, howner⟩ := h.terms f hf
      exact ⟨hfamount, hfbooking, hpost.keeps_owner hb howner⟩
    · obtain rfl := List.mem_singleton.1 hf
      exact ⟨heamount.trans hamount, hebooking.trans hbooking, hpost.owner⟩

/-- Putting a payment in its place when every other one and the new one are matched. -/
theorem Corresponding.putPayment (hc : ∀ p ∈ b.payments, p.id ≠ q.id → b.Matches p)
    (hnamed : ∀ e ∈ b.entries, ∀ id, e.paymentId = some id → ∃ p ∈ b.payments, p.id = id)
    (hq : b.Matches q) : (b.putPayment q).Corresponding := by
  refine ⟨fun p hp => ?_, fun e he id hid => ?_⟩
  · rcases mem_putPayment.1 hp with ⟨hp, hne⟩ | ⟨rfl, -⟩
    · exact (hc p hp hne).of_causedBy_eq rfl fun _ h => h
    · exact hq.of_causedBy_eq rfl fun _ h => h
  · obtain ⟨p, hp, hpid⟩ := hnamed e he id hid
    by_cases h : p.id = q.id
    · exact ⟨q, mem_putPayment.2 (.inr ⟨rfl, p, hp, h⟩), h.symm.trans hpid⟩
    · exact ⟨p, mem_putPayment.2 (.inl ⟨hp, h⟩), hpid⟩

theorem Opened.corresponding (h : b.Opened user w b') (hc : b.Corresponding) : b'.Corresponding := by
  have hentries := h.entries_eq
  have hpayments := h.payments_eq
  refine ⟨fun p hp => ?_, fun e he => ?_⟩
  · refine (hc.payments p (hpayments ▸ hp)).of_causedBy_eq (by rw [causedBy, causedBy, hentries]) ?_
    rintro wallet ⟨v, hv, howner⟩
    exact ⟨v, h.mono hv, howner⟩
  · rw [hentries] at he
    rw [hpayments]
    exact hc.named e he

/-- An entry on account of no payment concerns none. -/
theorem Corresponding.posted (hc : b.Corresponding) (hb : b.Sound)
    (hpost : b.Posted user posting e b') (hnone : posting.paymentId = none) : b'.Corresponding := by
  refine ⟨fun p hp => ?_, fun f hf id hid => ?_⟩
  · rw [hpost.payments_eq] at hp
    exact (hc.payments p hp).posted hpost hb (by simp [hnone])
  · rw [hpost.entries_eq, List.mem_cons] at hf
    rw [hpost.payments_eq]
    rcases hf with rfl | hf
    · simp [hpost.entry_eq.2.2.2, hnone] at hid
    · exact hc.named f hf id hid

/-- A new payment has caused nothing, since no entry can have its identifier. -/
theorem Corresponding.requested (hc : b.Corresponding) {id : PaymentId}
    (fresh : ∀ q ∈ b.payments, q.id ≠ id) (user : UserId) (amount : Amount) (method : PaymentMethod)
    (booking : Option BookingId) (now : Timestamp) :
    (b.addPayment (.requested id user amount method booking now)).Corresponding := by
  have hnil := hc.causedBy_eq_nil fresh
  refine ⟨fun p hp => ?_, fun e he name hname => ?_⟩
  · rcases List.mem_cons.1 hp with rfl | hp
    · refine ⟨congrArg (List.map Entry.kind) hnil, fun e he => ?_⟩
      change e ∈ b.causedBy id at he
      simp [hnil] at he
    · exact (hc.payments p hp).of_causedBy_eq rfl fun _ h => h
  · obtain ⟨p, hp, hpid⟩ := hc.named e he name hname
    exact ⟨p, List.mem_cons_of_mem _ hp, hpid⟩

theorem Settled.corresponding (h : b.Settled p q b') (hb : b.Lawful) (hc : b.Corresponding) :
    b'.Corresponding := by
  obtain ⟨hp, hsettles, hpost⟩ := h
  -- The entry carries the identifier of `p`, so the entries of every other payment stay the same.
  have hid := hsettles.posting_terms.2.2
  have hq := (hc.payments p hp).settled (hb.wellFormed p hp) hsettles hpost hb.toSound
  refine .putPayment (fun r hr hne => ?_) (fun f hf id hfid => ?_) hq
  · rw [hpost.payments_eq] at hr
    refine (hc.payments r hr).posted hpost hb.toSound ?_
    rw [hid, ← hsettles.sameTerms.id]
    simpa using Ne.symm hne
  · rw [hpost.entries_eq, List.mem_cons] at hf
    rw [hpost.payments_eq]
    rcases hf with rfl | hf
    · rw [hpost.entry_eq.2.2.2, hid] at hfid
      exact ⟨p, hp, Option.some.inj hfid⟩
    · exact hc.named f hf id hfid

theorem Amended.corresponding (h : b.Amended p q b') (hc : b.Corresponding) : b'.Corresponding := by
  obtain ⟨hp, hamends, -⟩ := h
  exact .putPayment (fun r hr _ => hc.payments r hr) hc.named ((hc.payments p hp).amended hamends)

theorem Effect.corresponding (h : b.Effect b') (hb : b.Lawful) (hc : b.Corresponding) :
    b'.Corresponding := by
  cases h with
  | opened hopen => exact hopen.corresponding hc
  | posted hnone hpost => exact hc.posted hb.toSound hpost hnone
  | requested id user amount method booking now fresh =>
      exact hc.requested fresh user amount method booking now
  | settled hsettled => exact hsettled.corresponding hb hc
  | amended hamended => exact hamended.corresponding hc

end Books

/-- After every run the entries that carry the identifier of a stored payment are those that its status
and terms determine, and no entry carries any other. -/
theorem Store.ledger_matches_payments (precision : Precision) (steps : List Step) :
    ∃ es ps, ((empty precision).after steps).ledger = .ok es ∧
      ((empty precision).after steps).allPayments = .ok ps ∧
      (∀ p ∈ ps,
        (es.filter (·.paymentId = some p.id)).map Entry.kind = p.causedKinds ∧
        (∀ e ∈ es.filter (·.paymentId = some p.id), e.amount = p.amount ∧ e.bookingId = p.bookingId ∧
          ∃ w, ((empty precision).after steps).walletOf? p.userId = some w ∧ e.walletId = w.id) ∧
        Entry.total (es.filter (·.paymentId = some p.id)) = p.netEffect) ∧
      ∀ e ∈ es, ∀ id, e.paymentId = some id → ∃ p ∈ ps, p.id = id := by
  obtain ⟨b, hb, hlawful, hc⟩ := Books.run_invariant precision
    Books.corresponding_empty (fun hb hc h => h.corresponding hb hc) steps
  rw [hb]
  refine ⟨b.entries.reverse, b.payments, Books.ledger_store, Books.allPayments_store, ?_, ?_⟩
  · intro p hp
    have hmatches := hc.payments p hp
    refine ⟨hmatches.kinds, fun e he => ?_, ?_⟩
    · obtain ⟨hamount, hbooking, w, hw, huser, hid⟩ := hmatches.terms e he
      refine ⟨hamount, hbooking, .ofWallet w, ?_, hid.symm⟩
      rw [← huser, hlawful.walletOf? hw]
    · rw [p.netEffect_eq]
      exact Entry.total_of_kinds hmatches.kinds fun e he => (hmatches.terms e he).1
  · exact fun e he => hc.named e (List.mem_reverse.1 he)

end Purse
