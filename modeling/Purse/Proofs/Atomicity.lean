import Purse.Proofs.Run

/-!
# What a failure leaves behind

An operation that fails leaves the wallets and the ledger as they were, wherever a fault hit it. It leaves
the payments as they were too, with two exceptions, both of wallet payments. A request stores its payment
before it is charged, so the payment stays, still pending or already marked failed. A settlement records
why it was refused: it moves its own payment from pending to failed and keeps the text of the error that
it answers with.
-/
namespace Purse

/-- The stores that an operation can leave when it finds `s` and fails with `error`. -/
inductive Operation.Residue (s : Store) (error : ServiceError) : Operation → Store → Prop
  | unchanged (operation : Operation) : Residue s error operation s
  | requested {user : UserId} {amount : Int} {booking : Option BookingId} (p : Payment) :
      s.payment? p.id = none → p.status = .pending ∨ p.status = .failed →
      p.userId = user → p.amount.value = amount → p.method = .wallet → p.bookingId = booking →
      Residue s error (.requestPayment user amount .wallet booking)
        { s with payments := .ofPayment p :: s.payments }
  | refused (p : Payment) (front back : List PaymentRow) (now : Timestamp) :
      s.payments = front ++ .ofPayment p :: back → p.status = .pending →
      Residue s error (.payFromWallet p.id)
        { s with payments := front ++ .ofPayment { p with
            status := .failed
            errorMessage := some error.message
            updatedAt := now } :: back }

namespace Books

variable {b b' : Books} {p q : Payment}

theorem payment?_eq_none (precision : Precision) {id : PaymentId} (h : ∀ q ∈ b.payments, q.id ≠ id) :
    (b.store precision).payment? id = none := by
  rw [payment?_store, List.find?_eq_none.2 fun q hq => by simpa using h q hq]
  rfl

/-- A new payment that is amended at once is one new payment. -/
theorem Amended.addPayment_eq (h : (b.addPayment p).Amended p q b')
    (fresh : ∀ r ∈ b.payments, r.id ≠ p.id) : b' = b.addPayment q := by
  obtain ⟨-, hamends, -⟩ := h
  have hid := hamends.sameTerms.id
  simp only [putPayment, addPayment, Books.mk.injEq, true_and]
  refine Keyed.put_cons_self hid.symm fun r hr => ?_
  rw [hid]
  exact fresh r hr

/-- An amended payment stays in its place, and so does everything else. -/
theorem Amended.store_eq (h : b.Amended p q b') (hb : b.Sound) (precision : Precision) :
    ∃ front back, (b.store precision).payments = front ++ .ofPayment p :: back ∧
      b'.store precision =
        { b.store precision with payments := front ++ .ofPayment q :: back } := by
  obtain ⟨hp, hamends, -⟩ := h
  obtain ⟨front, back, hold, hnew⟩ := Keyed.put_split hb.paymentIds hp hamends.sameTerms.id.symm
  refine ⟨front.map .ofPayment, back.map .ofPayment, ?_, ?_⟩
  · simp only [store, hold, List.map_append, List.map_cons]
  · simp only [store, putPayment, hnew, List.map_append, List.map_cons]

end Books

/-- Whatever run came before, and whichever calls of the store fail, an operation that answers with an
error leaves one of the stores of `Operation.Residue`. -/
theorem Step.residue_of_error (precision : Precision) (steps : List Step) (step : Step)
    {error : ServiceError} {w : World}
    (h : step.outcome ((Store.empty precision).after steps) = .error error w) :
    step.operation.Residue ((Store.empty precision).after steps) error w.store := by
  obtain ⟨b, hb, hlawful⟩ := Books.run_lawful precision steps
  rw [hb] at h ⊢
  rcases Operation.of_perform_error hlawful rfl h with
    hw | ⟨user, amount, booking, a, p, hoperation, ha, rfl, hfresh, hrest⟩ |
      ⟨p, b', hoperation, hpending, hw, hamended⟩
  · rw [hw]
    exact .unchanged step.operation
  · have hnone := Books.payment?_eq_none precision hfresh
    have hvalue := Amount.value_of_ofInt ha
    rw [hoperation]
    -- The payment stays as it was stored, or was marked failed before the answer.
    rcases hrest with hw | ⟨q, b', hfailed, hw, hamended⟩
    · rw [hw]
      exact .requested _ hnone (.inl rfl) rfl hvalue rfl rfl
    · have hterms := hamended.progress.sameTerms
      rw [hw, hamended.addPayment_eq hfresh]
      exact .requested q (hterms.id ▸ hnone) (.inr hfailed) hterms.userId
        ((congrArg Amount.value hterms.amount).trans hvalue) hterms.method hterms.bookingId
  · obtain ⟨front, back, hold, hnew⟩ := hamended.store_eq hlawful.toSound precision
    rw [hoperation, hw, hnew]
    exact .refused p front back _ hold hpending

/-- A request for a wallet payment that a fault keeps from being charged. -/
def Step.interrupted : Step :=
  Operation.step (.requestPayment ⟨.ofDigit 7⟩ 500 .wallet none) 1 [{ call := .begin, error := .notFound }]

/-- The attempt to charge it later, from a wallet without money. -/
def Step.unfunded : Step := Operation.step (.payFromWallet ⟨.ofDigit 1⟩) 2

theorem Step.residue_of_unfunded :
    ∃ w, unfunded.outcome ((Store.empty .nanosecond).after [interrupted]) =
        .error (.insufficientBalance 0 500) w ∧
      unfunded.operation.Residue ((Store.empty .nanosecond).after [interrupted])
        (.insufficientBalance 0 500) w.store :=
  ⟨_, rfl, residue_of_error .nanosecond [interrupted] unfunded rfl⟩

end Purse
