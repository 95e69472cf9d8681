import Purse.Proofs.Correspondence
import Purse.Proofs.Posting
import Purse.Proofs.Replay

/-!
# Moving money for a payment

A step of a payment that moves money enters a posting and saves the payment, in this order and in one unit
of work. Where no call fails the posting alone decides whether the step is made: it is refused if the
payer's balance rules it out, and then nothing is left of the attempt; otherwise the payment stands in its
place as the new record, and the entry of the posting is the first of the payer's history. A refund is such
a step, and the status of the payment decides whether it is attempted at all.
-/
namespace Purse
open Service

namespace Store

/-- The second store has the wallets and the entries of the first one. -/
structure KeepsLedger (s t : Store) : Prop where
  precision : t.precision = s.precision
  wallets : t.wallets = s.wallets
  entries : t.entries = s.entries

/-- The second store has a payment in the place of another one, and no other change to the payments. -/
structure Replaces (s t : Store) (p q : Payment) : Prop where
  payments : ∃ front back, s.payments = front ++ .ofPayment p :: back ∧
    t.payments = front ++ .ofPayment q :: back
  found : t.findPayment p.id = .ok (some q)

end Store

/-- An entry over the amount of a payment, on account of its booking and of itself. -/
structure Entry.AccountsFor (e : Entry) (p : Payment) (kind : EntryKind) (description : String) :
    Prop where
  kind : e.kind = kind
  description : e.description = description
  amount : e.amount = p.amount
  bookingId : e.bookingId = p.bookingId
  paymentId : e.paymentId = some p.id

variable {b b' c : Books} {p q : Payment} {posting : Posting} {e : Entry} {draws : Draws}
  {precision : Precision}

theorem Payment.Settles.accountsFor (h : p.Settles posting q)
    (he : e = .record draws.entryId e.walletId posting draws.recordedAt) :
    (e.keptAt precision).AccountsFor p posting.kind posting.description := by
  obtain ⟨hamount, hbooking, hid⟩ := h.posting_terms
  rw [he]
  exact ⟨rfl, rfl, hamount, hbooking, hid⟩

theorem Entry.AccountsFor.of_sameTerms {kind : EntryKind} {description : String}
    (h : e.AccountsFor p kind description) (hterms : p.SameTerms q) :
    e.AccountsFor q kind description :=
  ⟨h.kind, h.description, h.amount.trans hterms.amount.symm, h.bookingId.trans hterms.bookingId.symm,
    h.paymentId.trans (congrArg some hterms.id.symm)⟩

theorem Store.Enters.balance_eq {s t : Store} {user : UserId} {kind : EntryKind} {description : String}
    (h : s.Enters t user e) (haccounts : e.AccountsFor p kind description) :
    t.userBalance user = s.userBalance user + kind.direction.signed p.amount.value := by
  rw [h.balance, Entry.signedAmount, haccounts.kind, haccounts.amount]

namespace Books

theorem Sound.replaces (hb : b.Sound) (hp : p ∈ b.payments) (hid : q.id = p.id) (hc : c.Sound)
    (hpayments : c.payments = (b.putPayment q).payments) (precision : Precision) :
    (b.store precision).Replaces (c.store precision) p q := by
  obtain ⟨front, back, hold, hnew⟩ := Keyed.put_split hb.paymentIds hp hid.symm
  have hq : q ∈ c.payments := hpayments ▸ mem_putPayment.2 (.inr ⟨rfl, p, hp, hid.symm⟩)
  refine ⟨⟨front.map .ofPayment, back.map .ofPayment, ?_, ?_⟩, ?_⟩
  · simp only [store, hold, List.map_append, List.map_cons]
  · simp only [store, hpayments, putPayment, hnew, List.map_append, List.map_cons]
  · rw [← hid]
    exact hc.findPayment hq

/-- What is left of a payment that has taken a step with its posting. -/
theorem Posted.settles (h : b.Posted p.userId posting e b') (hb : b.Lawful) (hp : p ∈ b.payments)
    (hsettles : p.Settles posting q) (precision : Precision) :
    (b.store precision).Replaces ((b'.putPayment q).store precision) p q ∧
      (b.store precision).Enters ((b'.putPayment q).store precision) p.userId e := by
  have hc : (b'.putPayment q).Lawful := (Settled.intro hp hsettles h).lawful hb
  have hpayments : (b'.putPayment q).payments = (b.putPayment q).payments := by
    simp only [putPayment, h.payments_eq]
  refine ⟨hb.toSound.replaces hp hsettles.sameTerms.id hc.toSound hpayments precision, ?_⟩
  exact h.enters hb.toSound hc.toSound rfl rfl precision

end Books

namespace Settlement

/-- A payment that keeps its terms and its reference can be saved. -/
theorem save_granted (hb : b.Sound) (hp : p ∈ b.payments) (hterms : p.SameTerms q)
    (hext : q.externalId = p.externalId) (precision : Precision) :
    (liftM (World.savePayment q) : Service Unit) ⟨b.store precision, []⟩ = .ok ()
      ⟨(b.putPayment { q with updatedAt := precision.cut q.updatedAt }).store precision, []⟩ := by
  refine liftStore_eq_ok.2 (World.write_eq_ok (hb.savePayment_eq precision hp hterms ?_))
  intro r hr hsome heq
  rw [hext] at hsome heq
  exact (hb.references p hp r hr hsome heq).trans hterms.id.symm

/-- A pending payment can be marked failed, at the end of a unit of work. -/
theorem fail_save_granted {α : Type} (hb : b.Sound) (hp : p ∈ b.payments) (hs : p.status = .pending)
    (reason : String) (answer : Payment → α) (precision : Precision) :
    (do
      let q ← p.fail reason draws.movedAt
      World.savePayment q
      return .keep (answer q) : Service (Ending α)) ⟨b.store precision, []⟩ =
      .ok (.keep (answer { p with
          status := .failed, errorMessage := some reason, updatedAt := draws.movedAt }))
        ⟨(b.putPayment { p with
          status := .failed
          errorMessage := some reason
          updatedAt := precision.cut draws.movedAt }).store precision, []⟩ := by
  have hsave := save_granted hb hp (q := { p with
    status := .failed, errorMessage := some reason, updatedAt := draws.movedAt })
    ⟨rfl, rfl, rfl, rfl, rfl, rfl⟩ rfl precision
  refine bind_eq_ok.2 ⟨_, _, liftLedger_eq_ok.2 ⟨Payment.fail_of_pending hs reason, rfl⟩, ?_⟩
  exact bind_eq_ok.2 ⟨(), _, hsave, rfl⟩

/-- A step is made if the balance does not rule its posting out. -/
theorem post_save_granted (hb : b.Lawful) (hfresh : b.CanPost draws) (hp : p ∈ b.payments)
    (hsettles : p.Settles posting { q with updatedAt := precision.cut q.updatedAt })
    (h : posting.refusal? ((b.store precision).userBalance p.userId) = none) :
    ∃ e b', Ledger.post draws p.userId posting ⟨b.store precision, []⟩ = .ok e ⟨b'.store precision, []⟩ ∧
      (liftM (World.savePayment q) : Service Unit) ⟨b'.store precision, []⟩ = .ok ()
        ⟨(b'.putPayment { q with updatedAt := precision.cut q.updatedAt }).store precision, []⟩ ∧
      e = .record draws.entryId e.walletId posting draws.recordedAt ∧
      b.Posted p.userId posting (e.keptAt precision) b' := by
  obtain ⟨e, b', hpost, he, hposted⟩ := Ledger.post_granted hb.toSound hfresh h
  have hsave := save_granted (hposted.sound hb.toSound) (hposted.payments_eq ▸ hp)
    hsettles.sameTerms.of_redated hsettles.externalId_eq precision
  exact ⟨e, b', hpost, hsave, he, hposted⟩

/-! ## Refunds -/

theorem locked_missing {id : PaymentId} {s : Store} (h : s.findPayment id = .ok none) :
    locked id ⟨s, []⟩ = .error (.paymentNotFound id.text) ⟨s, []⟩ :=
  bind_eq_error.2 (.inr ⟨none, _, look_of_ok h, rfl⟩)

theorem refund_missing {id : PaymentId} {s : Store} (h : s.findPayment id = .ok none) :
    refund draws id ⟨s, []⟩ = .error (.paymentNotFound id.text) ⟨s, []⟩ :=
  unitOfWork_error (bind_eq_error.2 (.inl (locked_missing h)))

theorem refund_blocked (hb : b.Lawful) (hp : p ∈ b.payments)
    (hs : p.status = .pending ∨ p.status = .failed) :
    refund draws p.id ⟨b.store precision, []⟩ =
      .error (.invalidPaymentStatus p.status "can only refund completed payments")
        ⟨b.store precision, []⟩ := by
  refine unitOfWork_error (t := b.store precision) ?_
  refine bind_eq_error.2 (.inr ⟨p, _, locked_stored hb hp, ?_⟩)
  rcases hs with hs | hs <;> simp [hs]

theorem refund_refused (hb : b.Lawful) (hfresh : b.CanPost draws) (hp : p ∈ b.payments)
    (hs : p.status = .completed) {cause : LedgerError}
    (h : (refundPosting p).refusal? ((b.store precision).userBalance p.userId) = some cause) :
    refund draws p.id ⟨b.store precision, []⟩ = .error (.ofLedger cause) ⟨b.store precision, []⟩ := by
  obtain ⟨t, hpost⟩ := Ledger.post_refused hb.toSound hfresh h
  refine unitOfWork_error (t := t) (bind_eq_error.2 (.inr ⟨p, _, locked_stored hb hp, ?_⟩))
  simp only [hs]
  exact bind_eq_error.2 (.inl hpost)

theorem refund_granted (hb : b.Lawful) (hfresh : b.CanPost draws) (hp : p ∈ b.payments)
    (hs : p.status = .completed)
    (h : (refundPosting p).refusal? ((b.store precision).userBalance p.userId) = none) :
    ∃ e t, refund draws p.id ⟨b.store precision, []⟩ =
        .ok { p with status := .refunded, updatedAt := draws.movedAt } ⟨t, []⟩ ∧
      (b.store precision).Replaces t p
        { p with status := .refunded, updatedAt := precision.cut draws.movedAt } ∧
      (b.store precision).Enters t p.userId e ∧
      e.AccountsFor p .refund ("Refund for payment " ++ p.id.text) := by
  have hsettles := Payment.Settles.refunded (precision.cut draws.movedAt) hs
  obtain ⟨e, b', hpost, hsave, he, hposted⟩ := post_save_granted hb hfresh hp
    (q := { p with status := .refunded, updatedAt := draws.movedAt }) hsettles h
  obtain ⟨hreplaces, henters⟩ := hposted.settles hb hp hsettles precision
  refine ⟨_, _, unitOfWork_keep (bind_eq_ok.2 ⟨p, _, locked_stored hb hp, ?_⟩), hreplaces, henters,
    hsettles.accountsFor he⟩
  simp only [hs]
  refine bind_eq_ok.2 ⟨e, _, hpost, ?_⟩
  refine bind_eq_ok.2 ⟨_, _, liftLedger_eq_ok.2 ⟨Payment.refund_of_completed hs, rfl⟩, ?_⟩
  exact bind_eq_ok.2 ⟨(), _, hsave, rfl⟩

end Settlement

theorem Settlement.refundPosting_refusal? (p : Payment) (balance : Int) :
    (refundPosting p).refusal? balance =
      if 2 ^ 63 - 1 < balance + p.amount.value then some .balanceOverflow else none := rfl

/-- After any run a refund does exactly what the status of the payment and the payer's balance say. It is
made only of a completed payment for which the payer's balance has room; then the record in the store is
the one that was answered, and besides it one refund entry is all that is new. Every other outcome leaves
the store as it was. -/
theorem Operation.refunds_exactly {precision : Precision} {steps : List Step} {s : Store}
    (hs : s = (Store.empty precision).after steps) (gateways : Gateways) {draws : Draws}
    (hfresh : s.CanPost draws) (id : PaymentId) :
    ∃ found, s.findPayment id = .ok found ∧
    match found with
    | none => (Operation.refundPayment id).perform gateways draws ⟨s, []⟩ =
        .error (.paymentNotFound id.text) ⟨s, []⟩
    | some p => match p.status with
      | .refunded => (Operation.refundPayment id).perform gateways draws ⟨s, []⟩ =
          .ok (.payment p) ⟨s, []⟩
      | .completed =>
        if 2 ^ 63 - 1 < s.userBalance p.userId + p.amount.value then
          (Operation.refundPayment id).perform gateways draws ⟨s, []⟩ =
            .error (.badRequest "Balance overflow") ⟨s, []⟩
        else ∃ e t, (Operation.refundPayment id).perform gateways draws ⟨s, []⟩ =
            .ok (.payment { p with status := .refunded, updatedAt := draws.movedAt }) ⟨t, []⟩ ∧
          s.Replaces t p { p with status := .refunded, updatedAt := precision.cut draws.movedAt } ∧
          s.Enters t p.userId e ∧ e.AccountsFor p .refund ("Refund for payment " ++ id.text) ∧
          t.userBalance p.userId = s.userBalance p.userId + p.amount.value
      | status => (Operation.refundPayment id).perform gateways draws ⟨s, []⟩ =
          .error (.invalidPaymentStatus status "can only refund completed payments") ⟨s, []⟩ := by
  obtain ⟨b, hb, hlawful⟩ := Books.run_lawful precision steps
  obtain rfl := hs.trans hb
  have hfresh := Books.canPost_of_store hfresh
  refine ⟨_, Books.findPayment_store id, ?_⟩
  cases hfind : b.payments.find? (·.id = id) with
  | none =>
      have hnone : (b.store precision).findPayment id = .ok none := by
        rw [Books.findPayment_store, hfind]
      exact map_eq_error.2 (Settlement.refund_missing hnone)
  | some p =>
      have hp := List.mem_of_find?_eq_some hfind
      obtain rfl : p.id = id := by simpa using List.find?_some hfind
      cases hstatus : p.status with
      | refunded =>
          simp only [hstatus]
          exact map_eq_ok.2 ⟨p, Settlement.refund_refunded hlawful hp hstatus, rfl⟩
      | pending =>
          simp only [hstatus]
          exact map_eq_error.2 (hstatus ▸ Settlement.refund_blocked hlawful hp (.inl hstatus))
      | failed =>
          simp only [hstatus]
          exact map_eq_error.2 (hstatus ▸ Settlement.refund_blocked hlawful hp (.inr hstatus))
      | completed =>
          have hposting := Settlement.refundPosting_refusal? p ((b.store precision).userBalance p.userId)
          simp only [hstatus]
          split_ifs with hroom
          · rw [if_pos hroom] at hposting
            exact map_eq_error.2 (Settlement.refund_refused hlawful hfresh hp hstatus hposting)
          · rw [if_neg hroom] at hposting
            obtain ⟨e, t, hrefund, hreplaces, henters, haccounts⟩ :=
              Settlement.refund_granted hlawful hfresh hp hstatus hposting
            exact ⟨e, t, map_eq_ok.2 ⟨_, hrefund, rfl⟩, hreplaces, henters, haccounts,
              henters.balance_eq haccounts⟩

/-- A store with a payment that the payer's wallet has paid for. -/
def Store.settled : Store :=
  (empty .microsecond).after
    [Operation.step (.deposit ⟨.ofDigit 7⟩ 500 "savings") 1,
      Operation.step (.requestPayment ⟨.ofDigit 7⟩ 200 .wallet (some ⟨.ofDigit 9⟩)) 2]

theorem Store.settled_canPost : settled.CanPost (.ofDigit 3) := ⟨by decide, by decide⟩

theorem Operation.refunds_exactly_at_settled :
    ∃ p, Store.settled.findPayment ⟨.ofDigit 2⟩ = .ok (some p) ∧ ∃ e t,
      (Operation.refundPayment ⟨.ofDigit 2⟩).perform (fun _ => none) (.ofDigit 3) ⟨Store.settled, []⟩ =
        .ok (.payment { p with status := .refunded, updatedAt := .noon }) ⟨t, []⟩ ∧
      Store.settled.Replaces t p
        { p with status := .refunded, updatedAt := Precision.microsecond.cut .noon } ∧
      Store.settled.Enters t p.userId e ∧
      e.AccountsFor p .refund ("Refund for payment " ++ PaymentId.text ⟨.ofDigit 2⟩) ∧
      t.userBalance p.userId = 500 := by
  obtain ⟨found, hfound, hrefunds⟩ :=
    refunds_exactly rfl (fun _ => none) Store.settled_canPost ⟨.ofDigit 2⟩
  cases hfound
  exact ⟨_, rfl, hrefunds⟩

end Purse
