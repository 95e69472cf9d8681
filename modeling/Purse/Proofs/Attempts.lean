import Purse.Proofs.LifeCycle

/-!
# Payments over many attempts

A record of a payment is tried with one change after the other: to complete it, to fail it, to refund it, to
move it to some status, or to give it a checkout. The record may be any, also one that no store would keep,
and the changes may be any, in any order.

An attempt is accepted exactly if the table of statuses has a step from the present status to the one that
is asked for, and a checkout exactly if the payment is pending. What is refused leaves the record as it is.
So the statuses that follow each other are a path in the table, which has two steps at most, and no attempt
is accepted behind a failure or a refund. The terms of the payment stay the same throughout, and the reason
of a failure is the one that came with the attempt that failed it.
-/
namespace Purse

theorem PaymentStatus.canMoveTo_iff {s t : PaymentStatus} : s.canMoveTo t = true ↔ s.Next t := by
  constructor
  · intro h
    have hmem : t ∈ s.successors := List.contains_iff_mem.1 h
    cases s with
    | pending =>
        rcases List.mem_pair.1 hmem with rfl | rfl
        · exact .completed
        · exact .failed
    | completed =>
        obtain rfl := List.mem_singleton.1 hmem
        exact .refunded
    | failed | refunded => cases hmem
  · intro h
    cases h <;> rfl

/-- The longest way through the table completes a payment and refunds it. -/
theorem PaymentStatus.length_le_two {s : PaymentStatus} {ts : List PaymentStatus}
    (h : (s :: ts).IsChain Next) : ts.length ≤ 2 := by
  rcases ts with _ | ⟨t, _ | ⟨u, _ | ⟨v, ts⟩⟩⟩
  · exact Nat.zero_le 2
  · exact Nat.le_succ 1
  · exact Nat.le_refl 2
  · simp only [List.isChain_cons_cons] at h
    obtain ⟨hst, htu, huv, -⟩ := h
    cases hst <;> cases htu
    cases huv

namespace Payment

/-- What is tried with a payment, and when. -/
inductive Attempt where
  | complete (now : Timestamp)
  | fail (reason : String) (now : Timestamp)
  | refund (now : Timestamp)
  | moveTo (target : PaymentStatus) (now : Timestamp)
  | attachGateway (externalId redirectUrl : String) (now : Timestamp)
  deriving DecidableEq, Repr

namespace Attempt

/-- The status that is asked for. A checkout asks for none. -/
def target? : Attempt → Option PaymentStatus
  | .complete _ => some .completed
  | .fail _ _ => some .failed
  | .refund _ => some .refunded
  | .moveTo target _ => some target
  | .attachGateway _ _ _ => none

/-- The reason that is given for a failure. -/
def reason? : Attempt → Option String
  | .fail reason _ => some reason
  | .complete _ | .refund _ | .moveTo _ _ | .attachGateway _ _ _ => none

/-- Whether the attempt is to be accepted at a status. -/
def Allowed (status : PaymentStatus) (a : Attempt) : Prop :=
  match a.target? with
  | some target => status.Next target
  | none => status = .pending

end Attempt

/-- The payment that an attempt comes to, or why it is refused. -/
def tried (p : Payment) : Attempt → Except LedgerError Payment
  | .complete now => p.complete now
  | .fail reason now => p.fail reason now
  | .refund now => p.refund now
  | .moveTo target now => p.moveTo target now
  | .attachGateway externalId redirectUrl now => p.attachGateway externalId redirectUrl now

/-- The payment after an attempt, accepted or not. -/
def after (p : Payment) (a : Attempt) : Payment :=
  match p.tried a with
  | .ok q => q
  | .error _ => p

def run (p : Payment) : List Attempt → Payment
  | [] => p
  | a :: attempts => (p.after a).run attempts

/-- Those of some attempts that are accepted, one after the other. -/
def accepted (p : Payment) : List Attempt → List Attempt
  | [] => []
  | a :: attempts =>
    if (p.tried a).isOk then a :: (p.after a).accepted attempts else (p.after a).accepted attempts

/-- The statuses that the payment is moved to. -/
def course (p : Payment) (attempts : List Attempt) : List PaymentStatus :=
  (p.accepted attempts).filterMap Attempt.target?

/-! ## One attempt -/

/-- What an attempt makes of a payment if it is accepted. -/
structure Attempt.Applies (a : Attempt) (p q : Payment) : Prop where
  terms : p.SameTerms q
  status : q.status = a.target?.getD p.status
  reason : q.errorMessage = a.reason?.or p.errorMessage

/-- A payment takes an attempt as it should. -/
structure Takes (p : Payment) (a : Attempt) : Prop where
  accepted : (∃ q, p.tried a = .ok q) ↔ a.Allowed p.status
  applied : a.Allowed p.status → a.Applies p (p.after a)
  refused : ¬ a.Allowed p.status →
    (∃ message, p.tried a = .error (.invalidPaymentStatus p.status message)) ∧ p.after a = p

variable {p q : Payment} {a : Attempt}

theorem moveTo_of_next {target : PaymentStatus} (h : p.status.Next target) (now : Timestamp) :
    p.moveTo target now = .ok { p with status := target, updatedAt := now } := by
  rw [moveTo, if_pos (PaymentStatus.canMoveTo_iff.2 h)]

theorem moveTo_of_not_next {target : PaymentStatus} (h : ¬ p.status.Next target) (now : Timestamp) :
    ∃ message, p.moveTo target now = .error (.invalidPaymentStatus p.status message) := by
  rw [moveTo, if_neg (mt PaymentStatus.canMoveTo_iff.1 h)]
  exact ⟨_, rfl⟩

theorem tried_of_allowed (h : a.Allowed p.status) : ∃ q, p.tried a = .ok q ∧ a.Applies p q := by
  cases a with
  | complete now => exact ⟨_, moveTo_of_next h now, ⟨rfl, rfl, rfl, rfl, rfl, rfl⟩, rfl, rfl⟩
  | fail reason now =>
      refine ⟨{ p with status := .failed, errorMessage := some reason, updatedAt := now }, ?_,
        ⟨rfl, rfl, rfl, rfl, rfl, rfl⟩, rfl, rfl⟩
      rw [tried, fail, moveTo_of_next h now]
      rfl
  | refund now => exact ⟨_, moveTo_of_next h now, ⟨rfl, rfl, rfl, rfl, rfl, rfl⟩, rfl, rfl⟩
  | moveTo target now => exact ⟨_, moveTo_of_next h now, ⟨rfl, rfl, rfl, rfl, rfl, rfl⟩, rfl, rfl⟩
  | attachGateway externalId redirectUrl now =>
      exact ⟨_, if_pos h, ⟨rfl, rfl, rfl, rfl, rfl, rfl⟩, rfl, rfl⟩

theorem tried_of_not_allowed (h : ¬ a.Allowed p.status) :
    ∃ message, p.tried a = .error (.invalidPaymentStatus p.status message) := by
  cases a with
  | complete now => exact moveTo_of_not_next h now
  | fail reason now =>
      obtain ⟨message, hmove⟩ := moveTo_of_not_next h now
      refine ⟨message, ?_⟩
      rw [tried, fail, hmove]
      rfl
  | refund now => exact moveTo_of_not_next h now
  | moveTo target now => exact moveTo_of_not_next h now
  | attachGateway externalId redirectUrl now => exact ⟨_, if_neg h⟩

theorem after_of_tried (h : p.tried a = .ok q) : p.after a = q := by
  rw [after, h]

theorem after_of_not_allowed (h : ¬ a.Allowed p.status) : p.after a = p := by
  obtain ⟨message, htried⟩ := tried_of_not_allowed h
  rw [after, htried]

theorem applies_after (h : a.Allowed p.status) : a.Applies p (p.after a) := by
  obtain ⟨q, htried, happlies⟩ := tried_of_allowed h
  rwa [after_of_tried htried]

theorem tried_eq_ok_iff : (∃ q, p.tried a = .ok q) ↔ a.Allowed p.status := by
  constructor
  · rintro ⟨q, hq⟩
    by_contra hallowed
    obtain ⟨message, htried⟩ := tried_of_not_allowed hallowed
    rw [htried] at hq
    cases hq
  · intro hallowed
    obtain ⟨q, hq, -⟩ := tried_of_allowed hallowed
    exact ⟨q, hq⟩

theorem sameTerms_after (p : Payment) (a : Attempt) : p.SameTerms (p.after a) := by
  by_cases hallowed : a.Allowed p.status
  · exact (applies_after hallowed).terms
  · rw [after_of_not_allowed hallowed]
    exact .refl p

theorem takes (p : Payment) (a : Attempt) : p.Takes a where
  accepted := tried_eq_ok_iff
  applied := applies_after
  refused h := ⟨tried_of_not_allowed h, after_of_not_allowed h⟩

/-! ## Many attempts -/

theorem accepted_cons_of_allowed (h : a.Allowed p.status) (attempts : List Attempt) :
    p.accepted (a :: attempts) = a :: (p.after a).accepted attempts := by
  obtain ⟨q, htried, -⟩ := tried_of_allowed h
  rw [accepted, htried]
  rfl

theorem accepted_cons_of_not_allowed (h : ¬ a.Allowed p.status) (attempts : List Attempt) :
    p.accepted (a :: attempts) = p.accepted attempts := by
  obtain ⟨message, htried⟩ := tried_of_not_allowed h
  rw [accepted, after_of_not_allowed h, htried]
  rfl

theorem run_append (p : Payment) (before later : List Attempt) :
    p.run (before ++ later) = (p.run before).run later := by
  induction before generalizing p with
  | nil => rfl
  | cons a before ih => exact ih (p.after a)

theorem sameTerms_run (p : Payment) (attempts : List Attempt) : p.SameTerms (p.run attempts) := by
  induction attempts generalizing p with
  | nil => exact .refl p
  | cons a attempts ih => exact (sameTerms_after p a).trans (ih (p.after a))

/-- By induction on the attempts: each that is accepted goes on from the status that the one before it
left. -/
theorem course_isChain (p : Payment) (attempts : List Attempt) :
    (p.status :: p.course attempts).IsChain PaymentStatus.Next := by
  induction attempts generalizing p with
  | nil => exact .singleton _
  | cons a attempts ih =>
      by_cases hallowed : a.Allowed p.status
      · have hlater := ih (p.after a)
        rw [course, accepted_cons_of_allowed hallowed, List.filterMap_cons]
        rw [(applies_after hallowed).status] at hlater
        rw [Attempt.Allowed] at hallowed
        cases htarget : a.target? with
        | none =>
            rw [htarget] at hlater
            exact hlater
        | some target =>
            rw [htarget] at hlater hallowed
            exact List.isChain_cons_cons.2 ⟨hallowed, hlater⟩
      · rw [course, accepted_cons_of_not_allowed hallowed]
        exact ih p

theorem status_run (p : Payment) (attempts : List Attempt) :
    (p.run attempts).status = (p.course attempts).getLastD p.status := by
  induction attempts generalizing p with
  | nil => rfl
  | cons a attempts ih =>
      rw [run, ih]
      by_cases hallowed : a.Allowed p.status
      · rw [(applies_after hallowed).status, course, course, accepted_cons_of_allowed hallowed,
          List.filterMap_cons]
        cases a.target? with
        | none => rfl
        | some target => rw [List.getLastD_cons, Option.getD_some]
      · rw [after_of_not_allowed hallowed, course, course, accepted_cons_of_not_allowed hallowed]

/-! ## Behind a final status -/

theorem not_allowed_of_final (h : p.status = .failed ∨ p.status = .refunded) (a : Attempt) :
    ¬ a.Allowed p.status := by
  rw [Attempt.Allowed]
  rcases h with hs | hs <;> rw [hs] <;> cases a.target? with
  | none => exact nofun
  | some target => exact nofun

theorem run_of_final (h : p.status = .failed ∨ p.status = .refunded) (attempts : List Attempt) :
    p.run attempts = p := by
  induction attempts with
  | nil => rfl
  | cons a attempts ih => rw [run, after_of_not_allowed (not_allowed_of_final h a), ih]

theorem Attempt.target?_of_reason? {reason : String} (h : a.reason? = some reason) :
    a.target? = some .failed := by
  cases a with
  | fail _ _ => rfl
  | complete _ | refund _ | moveTo _ _ | attachGateway _ _ _ => cases h

/-- At most one attempt with a reason is accepted, since no other comes after it. -/
theorem errorMessage_run (p : Payment) (attempts : List Attempt) :
    (p.run attempts).errorMessage =
      ((p.accepted attempts).findSome? Attempt.reason?).or p.errorMessage := by
  induction attempts generalizing p with
  | nil => rfl
  | cons a attempts ih =>
      by_cases hallowed : a.Allowed p.status
      · have happlies := applies_after hallowed
        rw [run, accepted_cons_of_allowed hallowed, List.findSome?_cons]
        cases hreason : a.reason? with
        | none => rw [ih, happlies.reason, hreason, Option.none_or]
        | some reason =>
            have hfailed : (p.after a).status = .failed := by
              rw [happlies.status, Attempt.target?_of_reason? hreason, Option.getD_some]
            rw [run_of_final (.inl hfailed), happlies.reason, hreason]
      · rw [run, after_of_not_allowed hallowed, accepted_cons_of_not_allowed hallowed, ih]

/-- What holds of a payment with which many things are tried, at each of them and all together. -/
structure Orderly (p : Payment) (attempts : List Attempt) : Prop where
  each {before later : List Attempt} {a : Attempt} : attempts = before ++ a :: later →
    (p.run before).Takes a
  path : (p.status :: p.course attempts).IsChain PaymentStatus.Next
  short : (p.course attempts).length ≤ 2
  status : (p.run attempts).status = (p.course attempts).getLastD p.status
  terms : p.SameTerms (p.run attempts)
  reason : (p.run attempts).errorMessage =
    ((p.accepted attempts).findSome? Attempt.reason?).or p.errorMessage
  final {before between later : List Attempt} {a : Attempt} :
    attempts = before ++ (between ++ a :: later) →
      (p.run before).status = .failed ∨ (p.run before).status = .refunded →
        (∃ cause, (p.run (before ++ between)).tried a = .error cause) ∧ p.run attempts = p.run before

/-- Whatever its record holds, and whatever is tried with it, a payment goes its course. -/
theorem orderly (p : Payment) (attempts : List Attempt) : p.Orderly attempts where
  each _ := takes _ _
  path := course_isChain p attempts
  short := PaymentStatus.length_le_two (course_isChain p attempts)
  status := status_run p attempts
  terms := sameTerms_run p attempts
  reason := errorMessage_run p attempts
  final {before between later a} hattempts hfinal := by
    rw [hattempts, run_append, run_append, run_of_final hfinal, run_of_final hfinal]
    obtain ⟨message, htried⟩ := tried_of_not_allowed (not_allowed_of_final hfinal a)
    exact ⟨⟨_, htried⟩, rfl⟩

/-- A payment that is refunded in the end, with all that is refused on the way. -/
example :
    (requested ⟨.ofDigit 1⟩ ⟨.ofDigit 7⟩ ⟨5, by decide, by decide⟩ .gatewayA none .noon).course
        [.refund .noon, .attachGateway "a" "b" .noon, .complete .noon, .attachGateway "c" "d" .noon,
          .fail "late" .noon, .moveTo .refunded .noon, .refund .noon, .complete .noon] =
      [.completed, .refunded] := by decide

end Payment
end Purse
