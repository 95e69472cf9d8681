import Purse.Proofs.Run

/-!
# Asking again

A step of a payment that was made once can be asked for again at any later time, whatever happened in
between, and nothing changes: not even the time of the last change. A refund and a refusal by the gateway
are answered as before for ever. A settlement is answered as before until the payment is refunded, and a
checkout as long as the payment is pending; from then on the answer names the status in the way. A verdict
opposite to one that was applied is always refused, so the first one wins.

A service that finds nothing to do reads the payment and gives up its unit of work, so without faults it
leaves the world exactly as it was. What it finds is decided by the steps that the payment has taken since.
-/
namespace Purse
open Service

/-- The other verdict on the same payment. -/
def Verdict.opposite (verdict : Verdict) : Verdict := { verdict with success := !verdict.success }

/-- What repeating an operation comes to in the store `s`, where no call fails. There `again` performs
operations; `answer` is that of the first time. -/
def Operation.Repeats (s : Store) (again : Operation → EStateM.Result ServiceError World Answer)
    (answer : Answer) : Operation → Prop
  | .refundPayment id =>
      ∃ p, s.findPayment id = .ok (some p) ∧ p.status = .refunded ∧
        again (.refundPayment id) = .ok (.payment p) ⟨s, []⟩
  | .payFromWallet id =>
      ∃ p, s.findPayment id = .ok (some p) ∧
        (p.status = .completed ∧ again (.payFromWallet id) = .ok (.payment p) ⟨s, []⟩ ∨
          p.status = .refunded ∧ again (.payFromWallet id) =
            .error (.invalidPaymentStatus .refunded "can only settle pending payments") ⟨s, []⟩)
  | .applyVerdict verdict =>
      ∃ p q, s.findPaymentOf verdict.externalId = .ok (some p) ∧ answer = .payment q ∧ p.id = q.id ∧
        (p.status = Settlement.target verdict.success ∧
            again (.applyVerdict verdict) = .ok (.payment p) ⟨s, []⟩ ∨
          verdict.success ∧ p.status = .refunded ∧ again (.applyVerdict verdict) =
            .error (.invalidPaymentStatus .refunded "cannot move payment to completed") ⟨s, []⟩) ∧
        again (.applyVerdict verdict.opposite) =
          .error (.invalidPaymentStatus p.status
            ("cannot move payment to " ++ (Settlement.target verdict.opposite.success).name)) ⟨s, []⟩
  | .checkout id =>
      ∃ p found, s.findPayment id = .ok (some p) ∧ answer = .checkout found ∧
        (p.status = .pending ∧ again (.checkout id) = .ok (.checkout found) ⟨s, []⟩ ∨
          p.status ≠ .pending ∧ again (.checkout id) =
            .error (.invalidPaymentStatus p.status "can only check out pending payments") ⟨s, []⟩)
  | _ => True

namespace Settlement

variable {b : Books} {precision : Precision} {draws : Draws} {gateways : Gateways} {w u : World}
  {p : Payment}

/-! ## What an answer leaves stored -/

theorem stored_of_refund {id : PaymentId} {answer : Payment} (hb : b.Lawful)
    (hw : w.store = b.store precision) (h : refund draws id w = .ok answer u) :
    u.store.Keeps precision fun p => p.id = id ∧ p.status = .refunded := by
  obtain ⟨p, hp, hid, ⟨hs, -, hu⟩ | ⟨b', -, hs, hu, hsettled⟩⟩ := of_refund hb hw h
  · exact ⟨b, hu.trans hw, hb, p, hp, hid, hs⟩
  · have hterms := hsettled.progress.sameTerms
    exact ⟨b', hu, hsettled.lawful hb, _, hsettled.mem_new, hterms.id.trans hid, hs⟩

theorem stored_of_payFromWallet {id : PaymentId} {answer : Payment} (hb : b.Lawful)
    (hw : w.store = b.store precision) (h : payFromWallet draws id w = .ok answer u) :
    u.store.Keeps precision fun p => p.id = id ∧ p.method = .wallet ∧ p.status = .completed := by
  obtain ⟨p, hp, hid, hm, ⟨hs, -, hu⟩ | ⟨b', -, hs, hu, hsettled⟩⟩ := of_payFromWallet_ok hb hw h
  · exact ⟨b, hu.trans hw, hb, p, hp, hid, hm, hs⟩
  · have hterms := hsettled.progress.sameTerms
    exact ⟨b', hu, hsettled.lawful hb, _, hsettled.mem_new, hterms.id.trans hid,
      hterms.method.trans hm, hs⟩

theorem stored_of_checkout {id : PaymentId} {answer : Checkout} (hb : b.Lawful)
    (hw : w.store = b.store precision) (h : checkout gateways draws id w = .ok answer u) :
    u.store.Keeps precision fun p =>
      p.id = id ∧ p.method.isExternal ∧ p.checkout? = some answer := by
  obtain ⟨p, hp, hid, -, hm, ⟨hopen, hu⟩ | ⟨-, q, b', -, -, -, hopen, hu, hamended⟩⟩ :=
    of_checkout hb hw h
  · exact ⟨b, hu.trans hw, hb, p, hp, hid, hm, hopen⟩
  · have hterms := hamended.progress.sameTerms
    exact ⟨b', hu, hamended.lawful hb, q, hamended.mem_new, hterms.id.trans hid,
      hterms.method ▸ hm, hopen⟩

theorem stored_of_applyVerdict {verdict : Verdict} {answer : Payment} (hb : b.Lawful)
    (hw : w.store = b.store precision) (h : applyVerdict draws verdict w = .ok answer u) :
    u.store.Keeps precision fun p => p.id = answer.id ∧ p.externalId = some verdict.externalId ∧
      p.status = target verdict.success := by
  obtain ⟨p, hp, he, ⟨hs, rfl, hu⟩ | ⟨q, b', -, hs, hq, hu, hstep⟩⟩ := of_applyVerdict hb hw h
  · exact ⟨b, hu.trans hw, hb, answer, hp, rfl, he, hs⟩
  · have hid : q.id = answer.id := by rw [hq]
    have hchange : b'.Lawful ∧ q ∈ b'.payments ∧ p.Progress q := by
      split_ifs at hstep
      · exact ⟨hstep.lawful hb, hstep.mem_new, hstep.progress⟩
      · exact ⟨hstep.lawful hb, hstep.mem_new, hstep.progress⟩
    obtain ⟨hlawful, hq, hprogress⟩ := hchange
    have hext := hprogress.externalId_eq (by simp [he])
    exact ⟨b', hu, hlawful, q, hq, hid, hext.trans he, hs⟩

/-! ## Services that find nothing to do -/

theorem locked_stored (hb : b.Lawful) (hp : p ∈ b.payments) :
    locked p.id ⟨b.store precision, []⟩ = .ok p ⟨b.store precision, []⟩ := by
  unfold locked
  exact bind_eq_ok.2 ⟨some p, _, look_of_ok (hb.findPayment hp), rfl⟩

theorem refund_refunded (hb : b.Lawful) (hp : p ∈ b.payments) (hs : p.status = .refunded) :
    refund draws p.id ⟨b.store precision, []⟩ = .ok p ⟨b.store precision, []⟩ := by
  refine unitOfWork_discard (t := b.store precision) (bind_eq_ok.2 ⟨p, _, locked_stored hb hp, ?_⟩)
  simp [hs]

theorem payFromWallet_completed (hb : b.Lawful) (hp : p ∈ b.payments) (hm : p.method = .wallet)
    (hs : p.status = .completed) :
    payFromWallet draws p.id ⟨b.store precision, []⟩ = .ok p ⟨b.store precision, []⟩ := by
  have hattempt : tryCharge draws p.id ⟨b.store precision, []⟩ =
      .ok (.ok p) ⟨b.store precision, []⟩ := by
    refine unitOfWork_discard (t := b.store precision) (bind_eq_ok.2 ⟨p, _, locked_stored hb hp, ?_⟩)
    simp [hm, hs]
  exact bind_eq_ok.2 ⟨.ok p, _, hattempt, rfl⟩

theorem payFromWallet_refunded (hb : b.Lawful) (hp : p ∈ b.payments) (hm : p.method = .wallet)
    (hs : p.status = .refunded) :
    payFromWallet draws p.id ⟨b.store precision, []⟩ =
      .error (.invalidPaymentStatus .refunded "can only settle pending payments")
        ⟨b.store precision, []⟩ := by
  refine bind_eq_error.2 (.inl ?_)
  refine unitOfWork_error (t := b.store precision) (bind_eq_error.2 (.inr ⟨p, _, locked_stored hb hp, ?_⟩))
  simp [hm, hs]

theorem checkout_open {found : Checkout} (hb : b.Lawful) (hp : p ∈ b.payments)
    (hm : p.method.isExternal) (hs : p.status = .pending) (hopen : p.checkout? = some found) :
    checkout gateways draws p.id ⟨b.store precision, []⟩ = .ok found ⟨b.store precision, []⟩ := by
  refine unitOfWork_discard (t := b.store precision) (bind_eq_ok.2 ⟨p, _, locked_stored hb hp, ?_⟩)
  simp [hm, hs, hopen]

theorem checkout_closed (hb : b.Lawful) (hp : p ∈ b.payments) (hm : p.method.isExternal)
    (hs : p.status ≠ .pending) :
    checkout gateways draws p.id ⟨b.store precision, []⟩ =
      .error (.invalidPaymentStatus p.status "can only check out pending payments")
        ⟨b.store precision, []⟩ := by
  refine unitOfWork_error (t := b.store precision) (bind_eq_error.2 (.inr ⟨p, _, locked_stored hb hp, ?_⟩))
  simp [hm, hs, bind_eq_error]

theorem applyVerdict_applied {verdict : Verdict} (hb : b.Lawful) (hp : p ∈ b.payments)
    (he : p.externalId = some verdict.externalId) (hs : p.status = target verdict.success) :
    applyVerdict draws verdict ⟨b.store precision, []⟩ = .ok p ⟨b.store precision, []⟩ := by
  refine unitOfWork_discard (t := b.store precision)
    (bind_eq_ok.2 ⟨some p, _, look_of_ok (hb.findPaymentOf hp he), ?_⟩)
  simp [hs]

theorem applyVerdict_refused {verdict : Verdict} (hb : b.Lawful) (hp : p ∈ b.payments)
    (he : p.externalId = some verdict.externalId) (hs : p.status ≠ target verdict.success)
    (hpending : p.status ≠ .pending) :
    applyVerdict draws verdict ⟨b.store precision, []⟩ =
      .error (.invalidPaymentStatus p.status
        ("cannot move payment to " ++ (target verdict.success).name)) ⟨b.store precision, []⟩ := by
  refine unitOfWork_error (t := b.store precision)
    (bind_eq_error.2 (.inr ⟨some p, _, look_of_ok (hb.findPaymentOf hp he), ?_⟩))
  simp [hs, hpending, bind_eq_error]

/-! ## Repeating a service later -/

section Repeating
variable {precision : Precision} (later : List Step) (gateways' : Gateways) (draws' : Draws)

theorem repeats_of_refund {id : PaymentId} {answer : Payment} (hb : b.Lawful)
    (hw : w.store = b.store precision) (h : refund draws id w = .ok answer u) :
    (Operation.refundPayment id).Repeats (u.store.after later)
      (·.perform gateways' draws' ⟨u.store.after later, []⟩) (.payment answer) := by
  have hlater : (u.store.after later).Keeps precision fun p => p.id = id ∧ p.status = .refunded := by
    refine (stored_of_refund hb hw h).after later ?_
    rintro p q ⟨hid, hs⟩ hlead
    rw [hlead.eq_of_final (by rw [hs]; rfl)]
    exact ⟨hid, hs⟩
  obtain ⟨c, hc, hclawful, p, hp, rfl, hs⟩ := hlater
  rw [hc]
  exact ⟨p, hclawful.findPayment hp, hs, map_eq_ok.2 ⟨p, refund_refunded hclawful hp hs, rfl⟩⟩

theorem repeats_of_payFromWallet {id : PaymentId} {answer : Payment} (hb : b.Lawful)
    (hw : w.store = b.store precision) (h : payFromWallet draws id w = .ok answer u) :
    (Operation.payFromWallet id).Repeats (u.store.after later)
      (·.perform gateways' draws' ⟨u.store.after later, []⟩) (.payment answer) := by
  have hlater : (u.store.after later).Keeps precision fun p =>
      p.id = id ∧ p.method = .wallet ∧ (p.status = .completed ∨ p.status = .refunded) := by
    refine (stored_of_payFromWallet hb hw h).after later ?_
    rintro p q ⟨hid, hm, hs⟩ hlead
    have hterms := hlead.sameTerms
    exact ⟨hterms.id.trans hid, hterms.method.trans hm, hlead.status_of_completed hs⟩
  obtain ⟨c, hc, hclawful, p, hp, rfl, hm, hs⟩ := hlater
  rw [hc]
  refine ⟨p, hclawful.findPayment hp, ?_⟩
  rcases hs with hs | hs
  · exact .inl ⟨hs, map_eq_ok.2 ⟨p, payFromWallet_completed hclawful hp hm hs, rfl⟩⟩
  · exact .inr ⟨hs, map_eq_error.2 (payFromWallet_refunded hclawful hp hm hs)⟩

theorem repeats_of_checkout {id : PaymentId} {answer : Checkout} (hb : b.Lawful)
    (hw : w.store = b.store precision) (h : checkout gateways draws id w = .ok answer u) :
    (Operation.checkout id).Repeats (u.store.after later)
      (·.perform gateways' draws' ⟨u.store.after later, []⟩) (.checkout answer) := by
  have hlater : (u.store.after later).Keeps precision fun p =>
      p.id = id ∧ p.method.isExternal ∧ p.checkout? = some answer := by
    refine (stored_of_checkout hb hw h).after later ?_
    rintro p q ⟨hid, hm, hopen⟩ hlead
    have hterms := hlead.sameTerms
    exact ⟨hterms.id.trans hid, hterms.method ▸ hm, hlead.checkout?_eq hopen⟩
  obtain ⟨c, hc, hclawful, p, hp, rfl, hm, hopen⟩ := hlater
  rw [hc]
  refine ⟨p, answer, hclawful.findPayment hp, rfl, ?_⟩
  by_cases hs : p.status = .pending
  · exact .inl ⟨hs, map_eq_ok.2 ⟨answer, checkout_open hclawful hp hm hs hopen, rfl⟩⟩
  · exact .inr ⟨hs, map_eq_error.2 (checkout_closed hclawful hp hm hs)⟩

/-- A status that a verdict has set, or that has followed it, is in the way of the opposite verdict. -/
theorem applyVerdict_opposite {verdict : Verdict} (hb : b.Lawful) (hp : p ∈ b.payments)
    (he : p.externalId = some verdict.externalId)
    (hs : p.status = target verdict.success ∨ verdict.success ∧ p.status = .refunded) :
    applyVerdict draws verdict.opposite ⟨b.store precision, []⟩ =
      .error (.invalidPaymentStatus p.status
        ("cannot move payment to " ++ (target verdict.opposite.success).name))
        ⟨b.store precision, []⟩ := by
  refine applyVerdict_refused hb hp he ?_ ?_ <;>
    rcases hs with hs | ⟨hsuccess, hs⟩ <;>
    cases hv : verdict.success <;>
    simp_all [target, Verdict.opposite]

theorem repeats_of_applyVerdict {verdict : Verdict} {answer : Payment} (hb : b.Lawful)
    (hw : w.store = b.store precision) (h : applyVerdict draws verdict w = .ok answer u) :
    (Operation.applyVerdict verdict).Repeats (u.store.after later)
      (·.perform gateways' draws' ⟨u.store.after later, []⟩) (.payment answer) := by
  have hlater : (u.store.after later).Keeps precision fun p =>
      p.id = answer.id ∧ p.externalId = some verdict.externalId ∧
        (p.status = target verdict.success ∨ verdict.success ∧ p.status = .refunded) := by
    refine (stored_of_applyVerdict hb hw h).after later ?_
    rintro p q ⟨hid, he, hs⟩ hlead
    refine ⟨hlead.sameTerms.id.trans hid, hlead.externalId_eq he, ?_⟩
    -- A completed payment may have been refunded since; nothing follows a failed one.
    cases hv : verdict.success with
    | true =>
        rw [hv] at hs
        simpa [target] using hlead.status_of_completed hs
    | false =>
        rw [hv] at hs
        rw [hlead.eq_of_final (by rw [hs]; rfl)]
        exact .inl hs
  obtain ⟨c, hc, hclawful, p, hp, hid, he, hs⟩ := hlater
  rw [hc]
  refine ⟨p, answer, hclawful.findPaymentOf hp he, rfl, hid, ?_,
    map_eq_error.2 (applyVerdict_opposite hclawful hp he hs)⟩
  rcases hs with hs | ⟨hsuccess, hs⟩
  · exact .inl ⟨hs, map_eq_ok.2 ⟨p, applyVerdict_applied hclawful hp he hs, rfl⟩⟩
  · refine .inr ⟨hsuccess, hs, map_eq_error.2 ?_⟩
    rw [applyVerdict_refused hclawful hp he (by simp [hs, hsuccess, target]) (by simp [hs]), hs, hsuccess]
    rfl

end Repeating
end Settlement

/-- An operation on a payment that was answered after any run can be repeated after any further one: no
call changes the store, and the answers are those of `Operation.Repeats`. -/
theorem Step.repeats_of_ok (precision : Precision) (steps later : List Step) (step : Step)
    {answer : Answer} {w : World}
    (h : step.outcome ((Store.empty precision).after steps) = .ok answer w)
    (gateways : Gateways) (draws : Draws) :
    step.operation.Repeats (w.store.after later)
      (·.perform gateways draws ⟨w.store.after later, []⟩) answer := by
  obtain ⟨b, hb, hlawful⟩ := Books.run_lawful precision steps
  rw [hb] at h
  rcases step with ⟨stepGateways, operation, stepDraws, faults⟩
  cases operation with
  | refundPayment id =>
      obtain ⟨p, hp, rfl⟩ := map_eq_ok.1 h
      exact Settlement.repeats_of_refund later gateways draws hlawful rfl hp
  | payFromWallet id =>
      obtain ⟨p, hp, rfl⟩ := map_eq_ok.1 h
      exact Settlement.repeats_of_payFromWallet later gateways draws hlawful rfl hp
  | applyVerdict verdict =>
      obtain ⟨p, hp, rfl⟩ := map_eq_ok.1 h
      exact Settlement.repeats_of_applyVerdict later gateways draws hlawful rfl hp
  | checkout id =>
      obtain ⟨found, hfound, rfl⟩ := map_eq_ok.1 h
      exact Settlement.repeats_of_checkout later gateways draws hlawful rfl hfound
  | _ => trivial

/-- A top-up that was requested and checked out. -/
def Step.toppingUp : List Step :=
  [Operation.step (.requestPayment ⟨.ofDigit 7⟩ 500 .gatewayA none) 1,
    Operation.step (.checkout ⟨.ofDigit 1⟩) 2]

/-- The gateway's word that it was paid. -/
def Step.paid : Step := Operation.step (.applyVerdict ⟨"ga_" ++ (Reference.ofRandom 2).text, true⟩) 3

/-- Its refund, which stands in the way of the same word later. -/
def Step.givenBack : Step := Operation.step (.refundPayment ⟨.ofDigit 1⟩) 4

theorem Step.repeats_of_paid :
    ∃ answer w, paid.outcome ((Store.empty .microsecond).after toppingUp) = .ok answer w ∧
      paid.operation.Repeats (w.store.after [givenBack])
        (·.perform (fun _ => none) (.ofDigit 5) ⟨w.store.after [givenBack], []⟩) answer :=
  ⟨_, _, rfl, repeats_of_ok .microsecond toppingUp [givenBack] paid rfl (fun _ => none) (.ofDigit 5)⟩

end Purse
