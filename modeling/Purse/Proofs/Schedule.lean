import Mathlib.Data.List.Basic
import Mathlib.Tactic.Common
import Purse.Store.Fault

/-!
# Faults that follow a schedule

A schedule lists for each call the outcomes of its uses to come: pass, or fail with an error. After the
end of the list every use passes. The faults of a schedule bring about exactly that, so what holds under
every list of faults holds whichever calls fail, and however they fail.
-/
namespace Purse

/-- All calls. -/
def StoreCall.all : List StoreCall :=
  [.begin, .lockWallet, .saveWallet, .appendEntry, .lockPayment, .lockPaymentOf, .savePayment, .commit,
    .openWallet, .findWallet, .listEntries, .insertPayment, .getPayment, .listPayments]

theorem StoreCall.mem_all (call : StoreCall) : call ∈ all := by cases call <;> decide

namespace Fault

variable {call : StoreCall} {f : Fault} {fs gs : List Fault} {n : Nat}
  {uses : List (Option StoreError)}

/-- The faults of one call, whose listed uses come after `n` more that pass. -/
def plan (call : StoreCall) : Nat → List (Option StoreError) → List Fault
  | _, [] => []
  | n, none :: uses => plan call (n + 1) uses
  | n, some error :: uses => { call, error, skip := n } :: plan call 0 uses

/-- The faults of a schedule. -/
def ofSchedule (schedule : StoreCall → List (Option StoreError)) : List Fault :=
  StoreCall.all.flatMap fun call => plan call 0 (schedule call)

theorem call_of_mem_plan (h : f ∈ plan call n uses) : f.call = call := by
  induction uses generalizing n with
  | nil => cases h
  | cons use uses ih =>
      cases use with
      | none => exact ih h
      | some error =>
          rcases List.mem_cons.1 h with rfl | h
          · rfl
          · exact ih h

/-- Faults of other calls are passed over. -/
theorem consult_append (h : ∀ f ∈ fs, f.call ≠ call) :
    consult call (fs ++ gs) = ((consult call gs).1, fs ++ (consult call gs).2) := by
  induction fs with
  | nil => rfl
  | cons f fs ih =>
      have hf : f.call ≠ call := h f List.mem_cons_self
      have hrest := ih fun g hg => h g (List.mem_cons_of_mem f hg)
      rw [List.cons_append, consult, if_neg (by simp [hf]), hrest]
      rfl

theorem consult_of_ne (h : ∀ f ∈ fs, f.call ≠ call) : consult call fs = (none, fs) := by
  have hnil : consult call (fs ++ []) = _ := consult_append h
  rw [List.append_nil] at hnil
  simpa only [consult, List.append_nil] using hnil

theorem consult_plan_succ (h : ∀ f ∈ fs, f.call ≠ call) :
    consult call (plan call (n + 1) uses ++ fs) = (none, plan call n uses ++ fs) := by
  induction uses generalizing n with
  | nil => exact consult_of_ne h
  | cons use uses ih =>
      cases use with
      | none => exact ih
      | some error => simp [plan, consult, isSpent, use]

theorem consult_plan (h : ∀ f ∈ fs, f.call ≠ call) :
    consult call (plan call 0 uses ++ fs) = (uses.head?.join, plan call 0 uses.tail ++ fs) := by
  cases uses with
  | nil => exact consult_of_ne h
  | cons use uses =>
      cases use with
      | none => exact consult_plan_succ h
      | some error => simp [plan, consult, isSpent, use]

theorem consult_flatMap_plan (schedule : StoreCall → List (Option StoreError)) {calls : List StoreCall}
    (nodup : calls.Nodup) (hcall : call ∈ calls) :
    consult call (calls.flatMap fun c => plan c 0 (schedule c)) =
      ((schedule call).head?.join, calls.flatMap fun c =>
        plan c 0 (Function.update schedule call (schedule call).tail c)) := by
  induction calls with
  | nil => cases hcall
  | cons c calls ih =>
      rw [List.nodup_cons] at nodup
      rw [List.flatMap_cons, List.flatMap_cons]
      by_cases hc : c = call
      · subst hc
        have hne : ∀ d ∈ calls, d ≠ c := fun d hd hdc => nodup.1 (hdc ▸ hd)
        have hrest : ∀ f ∈ calls.flatMap fun d => plan d 0 (schedule d), f.call ≠ c := by
          intro f hf
          obtain ⟨d, hd, hf⟩ := List.mem_flatMap.1 hf
          rw [call_of_mem_plan hf]
          exact hne d hd
        rw [consult_plan hrest, Function.update_self]
        congr 2
        refine List.flatMap_congr fun d hd => ?_
        rw [Function.update_of_ne (hne d hd)]
      · have hhead : ∀ f ∈ plan c 0 (schedule c), f.call ≠ call := by
          intro f hf
          rw [call_of_mem_plan hf]
          exact hc
        have hmem := (List.mem_cons.1 hcall).resolve_left (Ne.symm hc)
        rw [consult_append hhead, ih nodup.2 hmem, Function.update_of_ne hc]

/-- One use of a call has the first outcome that the schedule lists for it, and leaves the rest of the
schedule. -/
theorem consult_ofSchedule (schedule : StoreCall → List (Option StoreError)) (call : StoreCall) :
    consult call (ofSchedule schedule) =
      ((schedule call).head?.join,
        ofSchedule (Function.update schedule call (schedule call).tail)) :=
  consult_flatMap_plan schedule (by decide) (StoreCall.mem_all call)

end Fault
end Purse
