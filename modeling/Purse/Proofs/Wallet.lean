import Mathlib.Algebra.Ring.Int.Defs
import Purse.Proofs.Numeral
import Purse.Proofs.Run

/-!
# Wallets over many requests

A wallet is asked for credits and debits, and whether it could pay an amount, any number of times. A credit
is accepted exactly if the balance still fits in 64 bits, a debit exactly if the money is there, and a
request that is refused leaves the wallet as it is. So the balance is always the first one and the exact
sum of what was accepted, and integers of 64 bits that wrap around come to the same. A wallet that does
not start below zero never falls below it.

The first balance may be any integer of 64 bits. A wallet that was read from a message can have one that
no store would keep.
-/
namespace Purse.Wallet

/-- What a wallet is asked: for a change of its balance, or whether it could pay an amount. -/
inductive Request where
  | credit (amount : Amount) (now : Timestamp)
  | debit (amount : Amount) (now : Timestamp)
  | covers (amount : Amount)
  deriving DecidableEq, Repr

namespace Request

/-- What an accepted request adds to the balance. -/
def signed : Request → Int
  | .credit amount _ => Direction.credit.signed amount.value
  | .debit amount _ => Direction.debit.signed amount.value
  | .covers _ => 0

/-- Whether a request is to be accepted at a balance. A question always is. -/
def Fits (balance : Int) : Request → Prop
  | .credit amount _ => balance + amount.value ≤ 2 ^ 63 - 1
  | .debit amount _ => amount.value ≤ balance
  | .covers _ => True

/-- The balance after a request, in integers of 64 bits that wrap around. -/
def wrapped (balance : Int64) : Request → Int64
  | .credit amount _ => balance + Int64.ofInt amount.value
  | .debit amount _ => balance - Int64.ofInt amount.value
  | .covers _ => balance

end Request

/-- The wallet that a request asks for, or why it is refused. -/
def respond (w : Wallet) : Request → Except LedgerError Wallet
  | .credit amount now => w.credit amount now
  | .debit amount now => w.debit amount now
  | .covers _ => .ok w

/-- The wallet after a request, accepted or not. -/
def after (w : Wallet) (r : Request) : Wallet :=
  match w.respond r with
  | .ok v => v
  | .error _ => w

def run (w : Wallet) : List Request → Wallet
  | [] => w
  | r :: rs => (w.after r).run rs

/-- Those of some requests that are accepted, one after the other. -/
def accepted (w : Wallet) : List Request → List Request
  | [] => []
  | r :: rs => if (w.respond r).isOk then r :: (w.after r).accepted rs else (w.after r).accepted rs

/-! ## One request -/

/-- A wallet treats a request as it should. Where the exact sum of a credit is not what words that wrap
around come to, the credit is refused; a debit that is refused is not computed. -/
structure Treats (w : Wallet) (r : Request) : Prop where
  accepted : (∃ v, w.respond r = .ok v) ↔ r.Fits w.balance
  refused : ¬ r.Fits w.balance → w.after r = w
  balance : r.Fits w.balance → (w.after r).balance = w.balance + r.signed
  unwrapped : r.Fits w.balance → (r.wrapped (Int64.ofInt w.balance)).toInt = (w.after r).balance
  overflowing {amount : Amount} {now : Timestamp} : r = .credit amount now → ¬ r.Fits w.balance →
    (r.wrapped (Int64.ofInt w.balance)).toInt ≠ w.balance + amount.value
  covers (amount : Amount) : w.hasSufficientBalance amount = true ↔ amount.value ≤ w.balance

variable {w : Wallet} {r : Request}

theorem covers_iff (w : Wallet) (amount : Amount) :
    w.hasSufficientBalance amount = true ↔ amount.value ≤ w.balance := by
  rw [hasSufficientBalance, decide_eq_true_iff]

theorem respond_of_fits (h : r.Fits w.balance) :
    ∃ v, w.respond r = .ok v ∧ v.balance = w.balance + r.signed := by
  cases r with
  | credit amount now =>
      have hmax : ¬ maxSum < w.balance + amount.value := Int.not_lt.2 h
      rw [respond, credit, if_neg hmax]
      exact ⟨_, rfl, rfl⟩
  | debit amount now =>
      rw [respond, debit, if_pos ((covers_iff w amount).2 h)]
      exact ⟨_, rfl, Int.sub_eq_add_neg⟩
  | covers amount => exact ⟨w, rfl, (Int.add_zero w.balance).symm⟩

theorem respond_of_not_fits (h : ¬ r.Fits w.balance) : ∃ cause, w.respond r = .error cause := by
  cases r with
  | credit amount now =>
      have hmax : maxSum < w.balance + amount.value := Int.not_le.1 h
      rw [respond, credit, if_pos hmax]
      exact ⟨_, rfl⟩
  | debit amount now =>
      rw [respond, debit, if_neg (mt (covers_iff w amount).1 h)]
      exact ⟨_, rfl⟩
  | covers amount => exact absurd trivial h

theorem respond_eq_ok_iff : (∃ v, w.respond r = .ok v) ↔ r.Fits w.balance := by
  constructor
  · rintro ⟨v, hv⟩
    by_contra hfits
    obtain ⟨cause, hcause⟩ := respond_of_not_fits hfits
    rw [hcause] at hv
    cases hv
  · intro hfits
    obtain ⟨v, hv, -⟩ := respond_of_fits hfits
    exact ⟨v, hv⟩

theorem balance_after (h : r.Fits w.balance) : (w.after r).balance = w.balance + r.signed := by
  obtain ⟨v, hv, hbalance⟩ := respond_of_fits h
  rw [after, hv, hbalance]

theorem after_of_not_fits (h : ¬ r.Fits w.balance) : w.after r = w := by
  obtain ⟨cause, hcause⟩ := respond_of_not_fits h
  rw [after, hcause]

/-- What is added to a balance leaves it in the range of words. -/
theorem Request.Fits.isWord {balance : Int} (h : r.Fits balance) (hbalance : Numeral.isWord balance) :
    Numeral.isWord (balance + r.signed) := by
  rw [Numeral.isWord_iff] at hbalance ⊢
  cases r with
  | credit amount now =>
      have hpos := amount.pos
      have hsum : balance + amount.value ≤ 2 ^ 63 - 1 := h
      simp only [Request.signed, Direction.signed]
      omega
  | debit amount now =>
      have hpos := amount.pos
      have hcovered : amount.value ≤ balance := h
      simp only [Request.signed, Direction.signed]
      omega
  | covers amount =>
      simp only [Request.signed]
      omega

/-- Words that wrap around come to the word of the exact sum. -/
theorem Request.wrapped_ofInt (balance : Int) (r : Request) :
    r.wrapped (Int64.ofInt balance) = Int64.ofInt (balance + r.signed) := by
  cases r with
  | credit amount now => exact (Int64.ofInt_add _ _).symm
  | debit amount now =>
      rw [Request.wrapped, Request.signed, Direction.signed, ← Int.sub_eq_add_neg, Int64.ofInt_sub]
  | covers amount => rw [Request.wrapped, Request.signed, Int.add_zero]

theorem toInt_ofInt_of_isWord {n : Int} (h : Numeral.isWord n) : (Int64.ofInt n).toInt = n := by
  have hn := Numeral.isWord_iff.1 h
  exact Int64.toInt_ofInt_of_le (by omega) (by omega)

theorem treats (hw : Numeral.isWord w.balance) (r : Request) : w.Treats r where
  accepted := respond_eq_ok_iff
  refused := after_of_not_fits
  balance := balance_after
  unwrapped h := by
    rw [r.wrapped_ofInt, toInt_ofInt_of_isWord (h.isWord hw), balance_after h]
  overflowing {amount now} hr h := by
    subst hr
    have hsum : ¬ w.balance + amount.value ≤ 2 ^ 63 - 1 := h
    have hmax := Int64.toInt_lt ((Request.credit amount now).wrapped (Int64.ofInt w.balance))
    omega
  covers := covers_iff w

/-! ## Many requests -/

theorem isWord_after (hw : Numeral.isWord w.balance) (r : Request) :
    Numeral.isWord (w.after r).balance := by
  by_cases hfits : r.Fits w.balance
  · rw [balance_after hfits]
    exact hfits.isWord hw
  · rwa [after_of_not_fits hfits]

theorem isWord_run (hw : Numeral.isWord w.balance) (requests : List Request) :
    Numeral.isWord (w.run requests).balance := by
  induction requests generalizing w with
  | nil => exact hw
  | cons r requests ih => exact ih (isWord_after hw r)

/-- A debit takes no more than there is. -/
theorem balance_after_nonneg (hw : 0 ≤ w.balance) (r : Request) : 0 ≤ (w.after r).balance := by
  by_cases hfits : r.Fits w.balance
  · rw [balance_after hfits]
    cases r with
    | credit amount now => exact Int.add_nonneg hw (Int.le_of_lt amount.pos)
    | debit amount now =>
        have hcovered : amount.value ≤ w.balance := hfits
        simp only [Request.signed, Direction.signed]
        omega
    | covers amount => exact Int.add_nonneg hw (Int.le_refl 0)
  · rwa [after_of_not_fits hfits]

theorem balance_run_nonneg (hw : 0 ≤ w.balance) (requests : List Request) :
    0 ≤ (w.run requests).balance := by
  induction requests generalizing w with
  | nil => exact hw
  | cons r requests ih => exact ih (balance_after_nonneg hw r)

theorem balance_run (w : Wallet) (requests : List Request) :
    (w.run requests).balance = w.balance + ((w.accepted requests).map Request.signed).sum := by
  induction requests generalizing w with
  | nil => exact (Int.add_zero w.balance).symm
  | cons r requests ih =>
      rw [run, ih, accepted]
      by_cases hfits : r.Fits w.balance
      · obtain ⟨v, hv, hbalance⟩ := respond_of_fits hfits
        rw [balance_after hfits, hv]
        simp only [Except.isOk, Except.toBool, if_true, List.map_cons, List.sum_cons, Int.add_assoc]
      · obtain ⟨cause, hcause⟩ := respond_of_not_fits hfits
        rw [after_of_not_fits hfits, hcause]
        rfl

/-- What holds of a wallet that is asked for many things, at each of them and all together. -/
structure Exact (w : Wallet) (requests : List Request) : Prop where
  each {before later : List Request} {r : Request} : requests = before ++ r :: later →
    (w.run before).Treats r
  total : (w.run requests).balance = w.balance + ((w.accepted requests).map Request.signed).sum
  isWord {before later : List Request} : requests = before ++ later →
    Numeral.isWord (w.run before).balance
  solvent {before later : List Request} : 0 ≤ w.balance → requests = before ++ later →
    0 ≤ (w.run before).balance ∧ (w.run before).balance ≤ 2 ^ 63 - 1

/-- A wallet with any balance of 64 bits treats all requests as it should, whatever they are. -/
theorem exact_of_isWord {w : Wallet} (hw : Numeral.isWord w.balance) (requests : List Request) :
    w.Exact requests where
  each _ := treats (isWord_run hw _) _
  total := balance_run w requests
  isWord _ := isWord_run hw _
  solvent {before _} hnonneg _ := by
    have hword := Numeral.isWord_iff.1 (isWord_run hw before)
    exact ⟨balance_run_nonneg hnonneg before, by omega⟩

/-- A wallet below zero. -/
def overdrawn : Wallet := ⟨⟨.ofDigit 1⟩, ⟨.ofDigit 7⟩, -5, .noon, .noon⟩

/-- More than there is, all that fits, a little more than that, and then everything. -/
def extremes : List Request :=
  [.debit ⟨3, by decide, by decide⟩ .noon, .credit ⟨9223372036854775807, by decide, by decide⟩ .noon,
    .credit ⟨6, by decide, by decide⟩ .noon, .debit ⟨9223372036854775802, by decide, by decide⟩ .noon]

theorem exact_of_overdrawn :
    Numeral.isWord overdrawn.balance ∧ overdrawn.Exact extremes ∧
      (overdrawn.accepted extremes).map Request.signed = [9223372036854775807, -9223372036854775802] ∧
      (overdrawn.run extremes).balance = 0 :=
  ⟨by decide, exact_of_isWord (by decide) extremes, by decide, by decide⟩

end Purse.Wallet
