import Purse.Proofs.Run

/-!
# The life of a payment

What the store shows of a payment after one operation and after the next, and after any number of them. A
payment that is stored stays stored on the same terms. Its status goes from pending to completed and from
there to refunded, or from pending to failed, by one step in each operation at most. It is given the
reference and link of a checkout once, both together, while it is pending, and the reason of a failure in
the step that fails it. The time of the last change is that of such a step, and after a final status there
are no more of them.

Each operation takes at most one step of `Payment.Progress` with each payment that it finds; the rest is
read off that relation. A request may charge or decline the payment that it has just stored, so that a
wallet payment can be seen for the first time with its first step already taken.
-/
namespace Purse

/-- The steps from status to status. -/
inductive PaymentStatus.Next : PaymentStatus → PaymentStatus → Prop
  | completed : Next .pending .completed
  | failed : Next .pending .failed
  | refunded : Next .completed .refunded

theorem PaymentStatus.isFinal_of {s : PaymentStatus} (h : s = .failed ∨ s = .refunded) :
    s.isFinal = true := by
  rcases h with rfl | rfl <;> rfl

namespace Payment

/-- What one operation can make of the record of a stored payment. -/
structure Moves (p q : Payment) : Prop where
  terms : p.SameTerms q
  status : q.status = p.status ∨ p.status.Next q.status
  checkout : q.externalId = p.externalId ∧ q.redirectUrl = p.redirectUrl ∨
    (p.externalId = none ∧ p.redirectUrl = none ∧ q.externalId.isSome ∧ q.redirectUrl.isSome) ∧
      p.method.isExternal ∧ p.status = .pending ∧ q.status = .pending
  reason : q.errorMessage = p.errorMessage ∨ p.status = .pending ∧ q.status = .failed
  dated : q.updatedAt ≠ p.updatedAt → q.status ≠ p.status ∨ q.externalId ≠ p.externalId ∨
    q.redirectUrl ≠ p.redirectUrl ∨ q.errorMessage ≠ p.errorMessage
  final : p.status = .failed ∨ p.status = .refunded → q = p

/-- What any number of operations can make of it. -/
structure Becomes (p q : Payment) : Prop where
  terms : p.SameTerms q
  status : Relation.ReflTransGen PaymentStatus.Next p.status q.status
  checkout : p.externalId.isSome ∨ p.redirectUrl.isSome →
    q.externalId = p.externalId ∧ q.redirectUrl = p.redirectUrl
  final : p.status = .failed ∨ p.status = .refunded → q = p

/-- What the record of a payment can be when it is first seen. -/
def FirstSeen (p : Payment) : Prop :=
  p.status = .pending ∨ p.method = .wallet ∧ (p.status = .completed ∨ p.status = .failed)

variable {p q r : Payment}

theorem Moves.refl (p : Payment) : p.Moves p where
  terms := .refl p
  status := .inl rfl
  checkout := .inl ⟨rfl, rfl⟩
  reason := .inl rfl
  dated h := absurd rfl h
  final _ := rfl

theorem WellFormed.no_link (hp : p.WellFormed) (h : p.externalId = none) : p.redirectUrl = none := by
  have hlink := hp.link
  rw [h] at hlink
  simpa using hlink

/-- A step to another status that leaves the checkout as it is. -/
theorem Moves.of_next (hterms : p.SameTerms q) (hnext : p.status.Next q.status)
    (hcheckout : q.externalId = p.externalId ∧ q.redirectUrl = p.redirectUrl)
    (hreason : q.errorMessage = p.errorMessage ∨ p.status = .pending ∧ q.status = .failed) :
    p.Moves q where
  terms := hterms
  status := .inr hnext
  checkout := .inl hcheckout
  reason := hreason
  dated _ := by
    refine .inl fun heq => ?_
    rw [heq] at hnext
    cases hs : p.status <;> rw [hs] at hnext <;> cases hnext
  final hs := by
    rcases hs with hs | hs <;> rw [hs] at hnext <;> cases hnext

/-- One step changes the record as an operation may. -/
theorem Progress.moves (h : p.Progress q) (hp : p.WellFormed) : p.Moves q := by
  have hterms := h.sameTerms
  rcases h with h | ⟨posting, h⟩
  · cases h with
    | failed reason now hs he => exact .of_next hterms (hs ▸ .failed) ⟨rfl, rfl⟩ (.inr ⟨hs, rfl⟩)
    | attached externalId redirectUrl now hs hm he =>
        exact {
          terms := hterms
          status := .inl rfl
          checkout := .inr ⟨⟨he, hp.no_link he, rfl, rfl⟩, hm, hs, hs⟩
          reason := .inl rfl
          dated := fun _ => .inr (.inl (by simp [he]))
          final := by simp [hs] }
  · cases h with
    | charged now hs hm => exact .of_next hterms (hs ▸ .completed) ⟨rfl, rfl⟩ (.inl rfl)
    | toppedUp now hs he => exact .of_next hterms (hs ▸ .completed) ⟨rfl, rfl⟩ (.inl rfl)
    | refunded now hs => exact .of_next hterms (hs ▸ .refunded) ⟨rfl, rfl⟩ (.inl rfl)

theorem moves_of_reflGen (h : Relation.ReflGen Progress p q) (hp : p.WellFormed) : p.Moves q := by
  cases h with
  | refl => exact .refl p
  | single hstep => exact hstep.moves hp

theorem Progress.wellFormed (h : p.Progress q) (hp : p.WellFormed) : q.WellFormed := by
  rcases h with h | ⟨posting, h⟩
  · exact h.wellFormed hp
  · exact h.wellFormed hp

/-- Steps in a row change the record as a run may. -/
theorem Leads.becomes (h : p.Leads q) (hp : p.WellFormed) : p.Becomes q := by
  have hq : p.Becomes q ∧ q.WellFormed := by
    induction h with
    | refl => exact ⟨⟨.refl p, .refl, fun _ => ⟨rfl, rfl⟩, fun _ => rfl⟩, hp⟩
    | @tail q r hlead hstep ih =>
        obtain ⟨hbecomes, hq⟩ := ih
        have hmoves := hstep.moves hq
        refine ⟨⟨hbecomes.terms.trans hmoves.terms, ?_, fun hsome => ?_, fun hs => ?_⟩, hstep.wellFormed hq⟩
        · rcases hmoves.status with hs | hnext
          · exact hs ▸ hbecomes.status
          · exact hbecomes.status.tail hnext
        · obtain ⟨he, hr⟩ := hbecomes.checkout hsome
          rcases hmoves.checkout with ⟨he', hr'⟩ | ⟨⟨hnone, hnolink, -⟩, -⟩
          · exact ⟨he'.trans he, hr'.trans hr⟩
          · simp [← he, ← hr, hnone, hnolink] at hsome
        · exact Leads.eq_of_final (hlead.tail hstep) (PaymentStatus.isFinal_of hs)
  exact hq.1

end Payment

variable {b b' : Books} {precision : Precision} {operation : Operation} {answered : Bool} {p q r : Payment}

theorem Operation.Does.step (h : operation.Does b answered b') (hb : b.Lawful) (hr : r ∈ b.payments) :
    ∃ r' ∈ b'.payments, Relation.ReflGen Payment.Progress r r' := by
  cases h with
  | nothing _ => exact ⟨r, hr, .refl⟩
  | opened _ _ hopened => exact (Books.Effect.opened hopened).step hb hr
  | posted _ _ hnone hposted => exact (Books.Effect.posted hnone hposted).step hb hr
  | requested _ _ hrequests => exact hrequests.effect.step hb hr
  | charged _ _ _ hrequests hsettled =>
      exact (Books.Effect.settled hsettled).step (hrequests.effect.lawful hb) (List.mem_cons_of_mem _ hr)
  | declined _ _ hrequests _ hamended =>
      exact (Books.Effect.amended hamended).step (hrequests.effect.lawful hb) (List.mem_cons_of_mem _ hr)
  | settled _ _ hsettled => exact (Books.Effect.settled hsettled).step hb hr
  | amended _ _ hamended => exact (Books.Effect.amended hamended).step hb hr

theorem Payment.SameTerms.requesting_eq (h : p.SameTerms q) : Operation.requesting q = .requesting p := by
  rw [Operation.requesting, Operation.requesting, h.userId, h.amount, h.method, h.bookingId]

/-- A payment that no identifier in the books before is that of was requested by this operation. -/
theorem Operation.Does.first_seen (h : operation.Does b answered b') (hr : r ∈ b'.payments)
    (hnew : ∀ p ∈ b.payments, p.id ≠ r.id) : operation = requesting r ∧ r.FirstSeen := by
  have known (hr : r ∈ b.payments) : operation = requesting r ∧ r.FirstSeen := absurd rfl (hnew r hr)
  cases h with
  | nothing _ => exact known hr
  | opened _ _ hopened => exact known (hopened.payments_eq ▸ hr)
  | posted _ _ _ hposted => exact known (hposted.payments_eq ▸ hr)
  | requested hoperation _ hrequests =>
      rcases List.mem_cons.1 hr with rfl | hr
      · exact ⟨hoperation, .inl (by rw [hrequests.requested]; rfl)⟩
      · exact known hr
  | @charged p q _ hoperation _ hwallet hrequests hsettled =>
      have hprogress := hsettled.progress
      rcases hsettled.of_mem hr with rfl | ⟨hr, hid⟩
      · have hterms := hprogress.sameTerms
        have hstatus : r.status = .completed := by
          rcases hsettled.status_cases with ⟨-, hs⟩ | ⟨hs, -⟩
          · exact hs
          · rw [hrequests.requested] at hs
            cases hs
        exact ⟨hoperation.trans hterms.requesting_eq.symm,
          .inr ⟨hterms.method.trans hwallet, .inl hstatus⟩⟩
      · rcases List.mem_cons.1 hr with rfl | hr
        · exact absurd hprogress.sameTerms.id.symm hid
        · exact known hr
  | declined hoperation hwallet hrequests hfailed hamended =>
      have hterms := hamended.progress.sameTerms
      rcases hamended.of_mem hr with rfl | ⟨hr, hid⟩
      · exact ⟨hoperation.trans hterms.requesting_eq.symm,
          .inr ⟨hterms.method.trans hwallet, .inr hfailed⟩⟩
      · rcases List.mem_cons.1 hr with rfl | hr
        · exact absurd hterms.id.symm hid
        · exact known hr
  | settled _ _ hsettled =>
      rcases hsettled.of_mem hr with rfl | ⟨hr, -⟩
      · exact absurd hsettled.progress.sameTerms.id.symm (hnew _ hsettled.mem_old)
      · exact known hr
  | amended _ _ hamended =>
      rcases hamended.of_mem hr with rfl | ⟨hr, -⟩
      · exact absurd hamended.progress.sameTerms.id.symm (hnew _ hamended.mem_old)
      · exact known hr

namespace Store

theorem findPayment_eq_none_iff {id : PaymentId} :
    (b.store precision).findPayment id = .ok none ↔ ∀ p ∈ b.payments, p.id ≠ id := by
  rw [Books.findPayment_store, Except.ok.injEq, List.find?_eq_none]
  simp

/-- After every run every payment can be read, one more operation changes each of them by a step at most
and adds those only that it requests, and any number of operations leave each of them where the steps
lead. -/
theorem payments_keep_their_course (precision : Precision) (steps : List Step) (id : PaymentId) :
    (∃ found, ((empty precision).after steps).findPayment id = .ok found) ∧
    (∀ p, ((empty precision).after steps).findPayment id = .ok (some p) → ∀ step : Step,
      ∃ q, (step.leaves ((empty precision).after steps)).findPayment id = .ok (some q) ∧ p.Moves q) ∧
    (((empty precision).after steps).findPayment id = .ok none → ∀ (step : Step) (q : Payment),
      (step.leaves ((empty precision).after steps)).findPayment id = .ok (some q) →
        step.operation = .requesting q ∧ q.FirstSeen) ∧
    ∀ p, ((empty precision).after steps).findPayment id = .ok (some p) → ∀ later : List Step,
      ∃ q, (((empty precision).after steps).after later).findPayment id = .ok (some q) ∧
        p.Becomes q := by
  obtain ⟨b, hb, hlawful⟩ := Books.run_lawful precision steps
  rw [hb]
  refine ⟨⟨_, Books.findPayment_store id⟩, fun p hfind step => ?_, fun hfind step q hq => ?_,
    fun p hfind later => ?_⟩
  · obtain ⟨hp, rfl⟩ := Books.of_findPayment hfind
    obtain ⟨b', hb', hdoes⟩ := step.does precision hlawful
    obtain ⟨q, hq, hstep⟩ := hdoes.step hlawful hp
    have hmoves := Payment.moves_of_reflGen hstep (hlawful.wellFormed p hp)
    refine ⟨q, ?_, hmoves⟩
    rw [hb', ← hmoves.terms.id]
    exact (hdoes.reaches.lawful hlawful).findPayment hq
  · obtain ⟨b', hb', hdoes⟩ := step.does precision hlawful
    rw [hb'] at hq
    obtain ⟨hmem, rfl⟩ := Books.of_findPayment hq
    exact hdoes.first_seen hmem (findPayment_eq_none_iff.1 hfind)
  · obtain ⟨hp, rfl⟩ := Books.of_findPayment hfind
    obtain ⟨b', hb', hreach⟩ := hlawful.run precision later
    obtain ⟨q, hq, hlead⟩ := hreach.leads hlawful hp
    refine ⟨q, ?_, hlead.becomes (hlawful.wellFormed p hp)⟩
    rw [hb', ← hlead.sameTerms.id]
    exact (hreach.lawful hlawful).findPayment hq

/-- A payment through a gateway, of which the second operation opens the checkout. -/
theorem course_of_checkout :
    ∃ p q, ((empty .microsecond).after
          [Operation.step (.requestPayment ⟨.ofDigit 7⟩ 500 .gatewayA none) 1]).findPayment
        ⟨.ofDigit 1⟩ = .ok (some p) ∧
      ((Operation.step (.checkout ⟨.ofDigit 1⟩) 2).leaves ((empty .microsecond).after
          [Operation.step (.requestPayment ⟨.ofDigit 7⟩ 500 .gatewayA none) 1])).findPayment
        ⟨.ofDigit 1⟩ = .ok (some q) ∧ p.Moves q := by
  obtain ⟨-, hmoves, -, -⟩ := payments_keep_their_course .microsecond
    [Operation.step (.requestPayment ⟨.ofDigit 7⟩ 500 .gatewayA none) 1] ⟨.ofDigit 1⟩
  obtain ⟨q, hq, hpq⟩ := hmoves _ rfl (Operation.step (.checkout ⟨.ofDigit 1⟩) 2)
  exact ⟨_, q, rfl, hq, hpq⟩

end Store
end Purse
