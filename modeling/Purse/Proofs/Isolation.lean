import Purse.Proofs.Confined

/-!
# Users do not notice each other

Two runs are compared: a run of operations of all users, and what is left of it when every operation is
deleted that does not concern one user. An operation concerns a user if it names the user, or if at its
moment a payment of the user has the identifier or the reference that it names. The operations that are
left have the answers that they had, and all that the user is shown at the end is the same.

The store that the second run passes through is the user's part of the store of the first. A step that
concerns the user does the same to both. Any other step belongs to some other user, and leaves the part
as it was.
-/
namespace Purse
open Service

/-! ## Runs of one user -/

/-- What a step answers, or the error that it fails with. -/
def Step.answer (step : Step) (s : Store) : Except ServiceError Answer :=
  match step.outcome s with
  | .ok answer _ => .ok answer
  | .error error _ => .error error

namespace Store

/-- The answers of a run. -/
def answers (s : Store) : List Step → List (Except ServiceError Answer)
  | [] => []
  | step :: steps => step.answer s :: (step.leaves s).answers steps

/-- The answers that a run gives to the operations that concern a user. -/
def answersTo (s : Store) (user : UserId) : List Step → List (Except ServiceError Answer)
  | [] => []
  | step :: steps =>
    if step.operation.subject.concerns s user then
      step.answer s :: (step.leaves s).answersTo user steps
    else (step.leaves s).answersTo user steps

/-- The steps of a run that concern a user, each at the moment at which the run comes to it. -/
def concerning (s : Store) (user : UserId) : List Step → List Step
  | [] => []
  | step :: steps =>
    if step.operation.subject.concerns s user then step :: (step.leaves s).concerning user steps
    else (step.leaves s).concerning user steps

end Store

instance : Nontrivial UserId := ⟨⟨.ofDigit 0⟩, ⟨.ofDigit 1⟩, by decide⟩

variable {b : Books} {precision : Precision} {user : UserId} {subject : Subject}

/-! ## Whose an operation is -/

namespace Books

theorem any_payments {P : PaymentRow → Bool} :
    (b.store precision).payments.any P ↔ ∃ p ∈ b.payments, P (.ofPayment p) := by
  simp [store, List.any_map]

/-- If there is at most one such payment, and it is not the user's, then it can only be some other user's. -/
theorem exists_owner_ne {P : Payment → Prop}
    (unique : ∀ p ∈ b.payments, ∀ q ∈ b.payments, P p → P q → q = p)
    (hnot : ∀ p ∈ b.payments, P p → p.userId ≠ user) :
    ∃ other, other ≠ user ∧ ∀ p ∈ b.payments, P p → p.userId = other := by
  by_cases h : ∃ p ∈ b.payments, P p
  · obtain ⟨p, hp, hPp⟩ := h
    refine ⟨p.userId, hnot p hp hPp, fun q hq hPq => ?_⟩
    rw [unique p hp q hq hPp hPq]
  · obtain ⟨other, hne⟩ := exists_ne user
    exact ⟨other, hne, fun p hp hPp => absurd ⟨p, hp, hPp⟩ h⟩

end Books

theorem Subject.belongsTo_of_concerns (hb : b.Sound) (h : subject.concerns (b.store precision) user) :
    subject.BelongsTo b user := by
  cases subject with
  | user other =>
      have heq : other = user := of_decide_eq_true h
      exact heq
  | payment id =>
      obtain ⟨p, hp, hrow⟩ := Books.any_payments.1 h
      obtain ⟨hid, huser⟩ := Bool.and_eq_true_iff.1 hrow
      intro q hq hqid
      rw [hb.eq_of_id hq hp (hqid.trans (of_decide_eq_true hid).symm)]
      exact of_decide_eq_true huser
  | reference externalId =>
      obtain ⟨p, hp, hrow⟩ := Books.any_payments.1 h
      obtain ⟨he, huser⟩ := Bool.and_eq_true_iff.1 hrow
      intro q hq hqe
      rw [hb.eq_of_reference hp hq (of_decide_eq_true he) hqe]
      exact of_decide_eq_true huser

/-- What does not concern a user can be taken for somebody else's, even if it names nothing that is
there. -/
theorem Subject.exists_belongsTo (hb : b.Sound) (h : ¬ subject.concerns (b.store precision) user) :
    ∃ other, other ≠ user ∧ subject.BelongsTo b other := by
  cases subject with
  | user other => exact ⟨other, fun heq => h (decide_eq_true heq), rfl⟩
  | payment id =>
      refine Books.exists_owner_ne (fun p hp q hq hpid hqid => ?_) fun p hp hid huser => h ?_
      · exact hb.eq_of_id hq hp (hqid.trans hpid.symm)
      · refine Books.any_payments.2 ⟨p, hp, Bool.and_eq_true_iff.2 ⟨?_, ?_⟩⟩
        · exact decide_eq_true hid
        · exact decide_eq_true huser
  | reference externalId =>
      refine Books.exists_owner_ne (fun p hp q hq hpe hqe => ?_) fun p hp he huser => h ?_
      · exact hb.eq_of_reference hp hq hpe hqe
      · refine Books.any_payments.2 ⟨p, hp, Bool.and_eq_true_iff.2 ⟨?_, ?_⟩⟩
        · exact decide_eq_true he
        · exact decide_eq_true huser

/-! ## One step -/

theorem Step.of_observe {step : Step} {s t : Store} {r : Except ServiceError Answer}
    (hfaults : step.faults = [])
    (h : observe (step.operation.perform step.gateways step.draws) ⟨s, []⟩ = .ok r ⟨t, []⟩) :
    step.answer s = r ∧ step.leaves s = t := by
  unfold answer leaves outcome
  rw [hfaults]
  cases r with
  | ok answer =>
      rw [observe_eq_ok.1 h]
      exact ⟨rfl, rfl⟩
  | error error =>
      rw [observe_eq_error.1 h]
      exact ⟨rfl, rfl⟩

/-- A step that belongs to a user does to the part of that user what it does to the whole, and nothing to
the part of any other user. -/
theorem Step.keepsTo {step : Step} (precision : Precision) (hb : b.Lawful) (hfresh : b.Fresh step)
    (hfaults : step.faults = []) (hsubject : step.operation.subject.BelongsTo b user) :
    ∃ b' : Books, b'.Lawful ∧ step.leaves (b.store precision) = b'.store precision ∧
      step.leaves ((b.only user).store precision) = (b'.only user).store precision ∧
      step.answer ((b.only user).store precision) = step.answer (b.store precision) ∧
      Scope.Within ⟨step, user, precision⟩ b b' := by
  obtain ⟨r, b', h⟩ : Scope.Confined ⟨step, user, precision⟩ _ b :=
    Scope.confined_perform hb hfresh hsubject
  obtain ⟨hwhole, hleaves⟩ := Step.of_observe hfaults h.whole
  obtain ⟨hpart, hleaves'⟩ := Step.of_observe hfaults h.part
  obtain ⟨b'', hstore, hreach⟩ := step.effects precision hb
  obtain rfl := Books.store_injective (hleaves.symm.trans hstore)
  exact ⟨b', hreach.lawful hb, hleaves, hleaves', hpart.trans hwhole.symm, h.within⟩

/-! ## Runs -/

/-- From lawful books and the user's part of them the two runs give the same answers, and end with lawful
books and the user's part of those. -/
theorem Books.Lawful.isolated (hb : b.Lawful) {run : List Step} (hfresh : ∀ step ∈ run, b.Fresh step)
    (hfaults : ∀ step ∈ run, step.faults = []) (hapart : run.Pairwise Step.Apart) :
    ((b.only user).store precision).answers ((b.store precision).concerning user run) =
        (b.store precision).answersTo user run ∧
      ∃ b' : Books, b'.Lawful ∧ (b.store precision).after run = b'.store precision ∧
        ((b.only user).store precision).after ((b.store precision).concerning user run) =
          (b'.only user).store precision := by
  induction run generalizing b with
  | nil => exact ⟨rfl, b, hb, rfl, rfl⟩
  | cons step steps ih =>
      have hstep := hfresh step List.mem_cons_self
      have hnone := hfaults step List.mem_cons_self
      obtain ⟨hahead, hlater⟩ := List.pairwise_cons.1 hapart
      have rest {c : Books} {owner : UserId} (hc : c.Lawful)
          (hwithin : Scope.Within ⟨step, owner, precision⟩ b c) := by
        refine ih hc (fun later hmem => ?_) (fun later hmem => ?_) hlater
        · exact hwithin.fresh later (hahead later hmem) (hfresh later (List.mem_cons_of_mem step hmem))
        · exact hfaults later (List.mem_cons_of_mem step hmem)
      by_cases hconcerns : step.operation.subject.concerns (b.store precision) user
      · have hsubject := Subject.belongsTo_of_concerns hb.toSound hconcerns
        obtain ⟨c, hc, hleaves, hpart, hanswer, hwithin⟩ :=
          Step.keepsTo precision hb hstep hnone hsubject
        obtain ⟨hanswers, b', hb', hafter, hafter'⟩ := rest hc hwithin
        simp only [Store.concerning, Store.answersTo, if_pos hconcerns, Store.answers, Store.after,
          hleaves, hpart, hanswer]
        exact ⟨congrArg _ hanswers, b', hb', hafter, hafter'⟩
      · obtain ⟨other, hne, hsubject⟩ := Subject.exists_belongsTo hb.toSound hconcerns
        obtain ⟨c, hc, hleaves, -, -, hwithin⟩ := Step.keepsTo precision hb hstep hnone hsubject
        have hsame : c.only user = b.only user := hwithin.others user (Ne.symm hne)
        simp only [Store.concerning, Store.answersTo, if_neg hconcerns, Store.after, hleaves, ← hsame]
        exact rest hc hwithin

/-- Deleting from a run without faults, in which nothing is generated twice, every operation that does not
concern a user changes none of the answers of those that do. It leaves the user's part of the store that
the whole run leaves, and so the same wallet, history and list of payments of the user. -/
theorem Store.users_isolated (precision : Precision) (user : UserId) (run : List Step)
    (hfaults : ∀ step ∈ run, step.faults = []) (hapart : run.Pairwise Step.Apart) :
    (empty precision).answers ((empty precision).concerning user run) =
        (empty precision).answersTo user run ∧
      (empty precision).after ((empty precision).concerning user run) =
        ((empty precision).after run).only user ∧
      ∃ wallet entries payments,
        ((empty precision).after run).Shows user wallet entries payments ∧
        ((empty precision).after ((empty precision).concerning user run)).Shows user wallet entries
          payments := by
  have hfresh : ∀ step ∈ run, Books.Fresh {} step := by
    intro step _
    exact ⟨⟨by simp, by simp⟩, by simp, by simp⟩
  obtain ⟨hanswers, b, hb, hafter, hafter'⟩ :
      (empty precision).answers ((empty precision).concerning user run) =
          (empty precision).answersTo user run ∧
        ∃ b : Books, b.Lawful ∧ (empty precision).after run = b.store precision ∧
          (empty precision).after ((empty precision).concerning user run) =
            (b.only user).store precision :=
    Books.lawful_empty.isolated hfresh hfaults hapart
  rw [hafter, hafter', ← Books.only_store]
  exact ⟨hanswers, rfl, _, _, _, hb.toSound.shows user, hb.toSound.shows_only user⟩

/-- Two users in turn: one requests a payment that a gateway is to settle, and its checkout, the other puts
money in, pays out of the wallet, and has the payment refunded. -/
def Step.inTurn : List Step :=
  [Operation.step (.requestPayment ⟨.ofDigit 8⟩ 300 .gatewayA none) 1,
    Operation.step (.deposit ⟨.ofDigit 7⟩ 500 "savings") 2,
    Operation.step (.checkout ⟨.ofDigit 1⟩) 3,
    Operation.step (.requestPayment ⟨.ofDigit 7⟩ 200 .wallet none) 4,
    Operation.step (.refundPayment ⟨.ofDigit 4⟩) 5]

theorem Store.isolated_in_turn :
    ∃ own, own = [Operation.step (.deposit ⟨.ofDigit 7⟩ 500 "savings") 2,
        Operation.step (.requestPayment ⟨.ofDigit 7⟩ 200 .wallet none) 4,
        Operation.step (.refundPayment ⟨.ofDigit 4⟩) 5] ∧
      (empty .microsecond).answers own = (empty .microsecond).answersTo ⟨.ofDigit 7⟩ Step.inTurn ∧
      ∃ w entries payments,
        ((empty .microsecond).after Step.inTurn).Shows ⟨.ofDigit 7⟩ (some w) entries payments ∧
        ((empty .microsecond).after own).Shows ⟨.ofDigit 7⟩ (some w) entries payments ∧
        w.balance = 500 := by
  have hfaults : ∀ step ∈ Step.inTurn, step.faults = [] := by simp [Step.inTurn, Operation.step]
  have hgateways : ∀ step ∈ Step.inTurn,
      step.gateways = .hosted Gateway.defaultBaseA Gateway.defaultBaseB := by
    simp [Step.inTurn, Operation.step]
  have hapart := Step.pairwise_apart_of_hosted hgateways (by decide)
  obtain ⟨hanswers, -, wallet, entries, payments, hwhole, hown⟩ :=
    users_isolated .microsecond ⟨.ofDigit 7⟩ Step.inTurn hfaults hapart
  have hstored : ∃ w, World.findWallet ⟨.ofDigit 7⟩ ⟨(empty .microsecond).after Step.inTurn, []⟩ =
      .ok (some w) ⟨(empty .microsecond).after Step.inTurn, []⟩ ∧ w.balance = 500 := ⟨_, rfl, rfl⟩
  obtain ⟨w, hw, hbalance⟩ := hstored
  obtain rfl : some w = wallet := by
    have hsame := hw.symm.trans hwhole.wallet
    simpa using hsame
  exact ⟨_, rfl, hanswers, w, entries, payments, hwhole, hown, hbalance⟩

end Purse
