import Mathlib.Logic.Relation
import Mathlib.Tactic.Common
import Purse.Service.Settlement

/-!
# Steps of a payment

A stored payment takes one step at a time. A step that settles it goes with a posting: a wallet payment
is charged, a gateway payment is topped up, and either is refunded once it is completed. A step that only
amends it moves no money: it fails, or it is given the reference and link of a checkout. The terms of the
payment are the same before and after every step, and a well-formed record stays well formed. However
many steps follow, a failed or refunded payment is never touched again, a completed one can only be
refunded, and a reference or a checkout that a payment has is never replaced.
-/
namespace Purse.Payment

/-- What no step of a payment changes. -/
structure SameTerms (p q : Payment) : Prop where
  id : q.id = p.id
  userId : q.userId = p.userId
  bookingId : q.bookingId = p.bookingId
  amount : q.amount = p.amount
  method : q.method = p.method
  createdAt : q.createdAt = p.createdAt

theorem SameTerms.refl (p : Payment) : p.SameTerms p := ⟨rfl, rfl, rfl, rfl, rfl, rfl⟩

theorem SameTerms.trans {p q r : Payment} (h : p.SameTerms q) (h' : q.SameTerms r) : p.SameTerms r :=
  ⟨h'.id.trans h.id, h'.userId.trans h.userId, h'.bookingId.trans h.bookingId,
    h'.amount.trans h.amount, h'.method.trans h.method, h'.createdAt.trans h.createdAt⟩

theorem SameTerms.of_redated {p q : Payment} {now : Timestamp}
    (h : p.SameTerms { q with updatedAt := now }) : p.SameTerms q :=
  ⟨h.id, h.userId, h.bookingId, h.amount, h.method, h.createdAt⟩

/-- How the fields of a record that steps may change agree with each other. -/
structure WellFormed (p : Payment) : Prop where
  external : p.externalId.isSome → p.method.isExternal
  link : p.redirectUrl.isSome ↔ p.externalId.isSome
  unreferenced : p.method.isExternal → p.externalId = none → p.status = .pending
  reason : p.errorMessage.isSome ↔ p.status = .failed

theorem wellFormed_requested (id : PaymentId) (user : UserId) (amount : Amount)
    (method : PaymentMethod) (booking : Option BookingId) (now : Timestamp) :
    (requested id user amount method booking now).WellFormed where
  external := by simp [requested]
  link := by simp [requested]
  unreferenced _ _ := rfl
  reason := by simp [requested]

/-- The steps that move money, with the posting that moves it. -/
inductive Settles (p : Payment) : Posting → Payment → Prop
  | charged (now : Timestamp) : p.status = .pending → p.method = .wallet →
      Settles p (Settlement.charge p) { p with status := .completed, updatedAt := now }
  | toppedUp (now : Timestamp) : p.status = .pending → p.externalId.isSome →
      Settles p (Settlement.topUp p) { p with status := .completed, updatedAt := now }
  | refunded (now : Timestamp) : p.status = .completed →
      Settles p (Settlement.refundPosting p) { p with status := .refunded, updatedAt := now }

/-- The steps that move no money. Only a payment that awaits nothing more from a checkout can fail. -/
inductive Amends (p : Payment) : Payment → Prop
  | failed (reason : String) (now : Timestamp) : p.status = .pending →
      (p.method.isExternal → p.externalId.isSome) →
      Amends p { p with status := .failed, errorMessage := some reason, updatedAt := now }
  | attached (externalId redirectUrl : String) (now : Timestamp) : p.status = .pending →
      p.method.isExternal → p.externalId = none →
      Amends p { p with
        externalId := some externalId, redirectUrl := some redirectUrl, updatedAt := now }

/-- One step, of either sort. -/
def Progress (p q : Payment) : Prop := p.Amends q ∨ ∃ posting, p.Settles posting q

variable {p q : Payment} {posting : Posting} {now : Timestamp}

theorem Settles.sameTerms (h : p.Settles posting q) : p.SameTerms q := by
  cases h <;> exact ⟨rfl, rfl, rfl, rfl, rfl, rfl⟩

theorem Amends.sameTerms (h : p.Amends q) : p.SameTerms q := by
  cases h <;> exact ⟨rfl, rfl, rfl, rfl, rfl, rfl⟩

theorem Progress.sameTerms (h : p.Progress q) : p.SameTerms q := by
  rcases h with h | ⟨posting, h⟩
  · exact h.sameTerms
  · exact h.sameTerms

theorem Settles.externalId_eq (h : p.Settles posting q) : q.externalId = p.externalId := by
  cases h <;> rfl

/-- Money moves when the payment comes into one of two statuses. -/
theorem Settles.status_cases (h : p.Settles posting q) :
    p.status = .pending ∧ q.status = .completed ∨ p.status = .completed ∧ q.status = .refunded := by
  cases h with
  | charged now hs hm => exact .inl ⟨hs, rfl⟩
  | toppedUp now hs he => exact .inl ⟨hs, rfl⟩
  | refunded now hs => exact .inr ⟨hs, rfl⟩

theorem WellFormed.no_reason (hp : p.WellFormed) (h : p.status ≠ .failed) : p.errorMessage = none := by
  simpa using mt hp.reason.1 h

theorem Settles.wellFormed (h : p.Settles posting q) (hp : p.WellFormed) : q.WellFormed := by
  have hstatus : p.status ≠ .failed := by cases h <;> simp_all
  have hreason := hp.no_reason hstatus
  cases h with
  | charged now hs hm =>
      refine ⟨hp.external, hp.link, fun he => ?_, by simp [hreason]⟩
      simp [hm, PaymentMethod.isExternal] at he
  | toppedUp now hs he =>
      refine ⟨hp.external, hp.link, fun _ hn => ?_, by simp [hreason]⟩
      simp [show p.externalId = none from hn] at he
  | refunded now hs =>
      refine ⟨hp.external, hp.link, fun he hn => ?_, by simp [hreason]⟩
      have hpending := hp.unreferenced he hn
      simp [hs] at hpending

theorem Amends.wellFormed (h : p.Amends q) (hp : p.WellFormed) : q.WellFormed := by
  cases h with
  | failed reason now hs he =>
      refine ⟨hp.external, hp.link, fun hm hn => ?_, by simp⟩
      have hsome := he hm
      simp [show p.externalId = none from hn] at hsome
  | attached externalId redirectUrl now hs hm he =>
      refine ⟨fun _ => hm, by simp, fun _ _ => hs, ?_⟩
      simp [hp.no_reason (by simp [hs]), hs]

/-! ## Steps in a row -/

/-- Any number of steps. -/
abbrev Leads : Payment → Payment → Prop := Relation.ReflTransGen Progress

theorem Leads.sameTerms (h : p.Leads q) : p.SameTerms q := by
  induction h with
  | refl => exact SameTerms.refl p
  | tail _ hstep ih => exact ih.trans hstep.sameTerms

theorem Progress.not_final (h : p.Progress q) : p.status.isFinal = false := by
  rcases h with h | ⟨posting, h⟩ <;> cases h <;> simp_all [PaymentStatus.isFinal, PaymentStatus.successors]

theorem Progress.refunded (h : p.Progress q) (hs : p.status = .completed) : q.status = .refunded := by
  rcases h with h | ⟨posting, h⟩ <;> cases h <;> simp_all

theorem Progress.externalId_eq (h : p.Progress q) (he : p.externalId.isSome) :
    q.externalId = p.externalId := by
  rcases h with h | ⟨posting, h⟩
  · cases h with
    | failed reason now hs hm => rfl
    | attached externalId redirectUrl now hs hm hnone => simp [hnone] at he
  · exact h.externalId_eq

theorem Progress.checkout?_eq (h : p.Progress q) (he : p.externalId.isSome) :
    q.checkout? = p.checkout? := by
  rcases h with h | ⟨posting, h⟩
  · cases h with
    | failed reason now hs hm => rfl
    | attached externalId redirectUrl now hs hm hnone => simp [hnone] at he
  · cases h <;> rfl

/-- A final status is the end of the payment's changes, down to the time of the last one. -/
theorem Leads.eq_of_final (h : p.Leads q) (hs : p.status.isFinal) : q = p := by
  rcases Relation.ReflTransGen.cases_head h with rfl | ⟨r, hstep, -⟩
  · rfl
  · simp [hstep.not_final] at hs

theorem Leads.status_of_completed (h : p.Leads q) (hs : p.status = .completed) :
    q.status = .completed ∨ q.status = .refunded := by
  rcases Relation.ReflTransGen.cases_head h with rfl | ⟨r, hstep, hrest⟩
  · exact .inl hs
  · have hr := hstep.refunded hs
    rw [Leads.eq_of_final hrest (by rw [hr]; rfl)]
    exact .inr hr

theorem Leads.externalId_eq (h : p.Leads q) {externalId : String}
    (he : p.externalId = some externalId) : q.externalId = some externalId := by
  induction h with
  | refl => exact he
  | tail _ hstep ih => rw [hstep.externalId_eq (by simp [ih]), ih]

theorem externalId_isSome_of_checkout? {found : Checkout} (h : p.checkout? = some found) :
    p.externalId.isSome := by
  cases he : p.externalId with
  | none => simp [checkout?, he] at h
  | some externalId => rfl

theorem Leads.checkout?_eq (h : p.Leads q) {found : Checkout} (hp : p.checkout? = some found) :
    q.checkout? = some found := by
  induction h with
  | refl => exact hp
  | tail _ hstep ih => rw [hstep.checkout?_eq (externalId_isSome_of_checkout? ih), ih]

/-! ## Steps that the program makes -/

theorem of_moveTo {target : PaymentStatus} (h : p.moveTo target now = .ok q) :
    p.status.canMoveTo target = true ∧ q = { p with status := target, updatedAt := now } := by
  unfold moveTo at h
  split_ifs at h with hmove
  simp only [Except.ok.injEq] at h
  exact ⟨hmove, h.symm⟩

theorem of_complete (h : p.complete now = .ok q) : q = { p with status := .completed, updatedAt := now } :=
  (of_moveTo h).2

theorem of_refund (h : p.refund now = .ok q) : q = { p with status := .refunded, updatedAt := now } :=
  (of_moveTo h).2

theorem of_fail {reason : String} (h : p.fail reason now = .ok q) :
    q = { p with status := .failed, errorMessage := some reason, updatedAt := now } := by
  unfold fail at h
  cases hmove : p.moveTo .failed now with
  | error cause => simp [hmove, bind, Except.bind] at h
  | ok r =>
      simp only [hmove, bind, Except.bind, Except.ok.injEq] at h
      rw [← h, (of_moveTo hmove).2]

theorem of_attachGateway {externalId redirectUrl : String}
    (h : p.attachGateway externalId redirectUrl now = .ok q) :
    q = { p with externalId := some externalId, redirectUrl := some redirectUrl, updatedAt := now } := by
  unfold attachGateway at h
  split_ifs at h
  simp only [Except.ok.injEq] at h
  exact h.symm

/-! ## Steps that are not refused -/

theorem complete_of_pending (hs : p.status = .pending) :
    p.complete now = .ok { p with status := .completed, updatedAt := now } := by
  simp [complete, moveTo, hs, PaymentStatus.canMoveTo, PaymentStatus.successors]

theorem refund_of_completed (hs : p.status = .completed) :
    p.refund now = .ok { p with status := .refunded, updatedAt := now } := by
  simp [refund, moveTo, hs, PaymentStatus.canMoveTo, PaymentStatus.successors]

theorem fail_of_pending (hs : p.status = .pending) (reason : String) :
    p.fail reason now = .ok { p with
      status := .failed, errorMessage := some reason, updatedAt := now } := by
  simp [fail, moveTo, hs, PaymentStatus.canMoveTo, PaymentStatus.successors, bind, Except.bind]

end Purse.Payment
