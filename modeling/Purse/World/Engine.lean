import Purse.World.SingleCall
import Purse.World.UnitCall

/-!
# Database engines

The tables of a store are kept by a database engine. All engines check the constraints of the tables
alike. They differ in how much of a point in time they keep, in what else they refuse, such as a value that
no column of theirs can hold, in the words of their refusals, and in what becomes of a unit of work in which
they have refused something: the unit may go on as if nothing had been asked, or the engine gives it up.
Then nothing more can be done in it, and nothing of it stays even if it is committed.

A call that finds no row, or a row that it cannot read, is not refused by the engine. The services give a
unit of work up at their first error, so the difference shows only to those who go on after one.
-/
namespace Purse

/-- Why an engine refuses what it is asked for: for a reason of its own, because a constraint of a table
rules it out, or because the unit of work has been given up. -/
inductive Refusal where
  | own
  | constraint (reason : String)
  | givenUp
  deriving DecidableEq, Repr

/-- A database engine. `refuses` says what it refuses for reasons of its own, and `words` how it words a
refusal, given the usual words if a constraint is the reason. -/
structure Engine where
  precision : Precision
  refuses : UnitCall ⊕ SingleCall → Store → Bool
  givesUp : Bool
  words : Refusal → String

namespace Engine

/-- The engine that goes on after a refusal, whose words are the usual ones. It can hold every value. -/
def sqlite : Engine where
  precision := .nanosecond
  refuses _ _ := false
  givesUp := false
  words
    | .constraint reason => reason
    | .own | .givenUp => ""

/-- The engine that gives a unit of work up. What it refuses of its own, such as a text with the character
zero in it, and its words are left open. -/
def postgres (refuses : UnitCall ⊕ SingleCall → Store → Bool) (words : Refusal → String) : Engine where
  precision := .microsecond
  refuses
  givesUp := true
  words

/-- An error in the words of the engine. -/
def reword (e : Engine) : StoreError → StoreError
  | .conflict reason => .conflict (e.words (.constraint reason))
  | .database reason => .database (e.words (.constraint reason))
  | error => error

end Engine

/-- A call as an engine gets it: the use of the store that faults are consulted for, what is asked, whether
rows are read for the answer, and what the store makes of it. -/
structure Statement (α : Type) where
  use : StoreCall
  asked : UnitCall ⊕ SingleCall
  readsRows : Bool := false
  action : StoreAction α

/-- Whether an error of a call is a refusal of the engine. If rows are read for the answer, any other
database error is about a row that cannot be read. -/
def Statement.isRefusal (st : Statement α) : StoreError → Bool
  | .conflict _ => true
  | .database _ => !st.readsRows
  | _ => false

def UnitCall.statement (call : UnitCall) : Statement UnitReply :=
  match call with
  | .lockWallet .. =>
    { use := .lockWallet, asked := .inl call, readsRows := true, action := call.perform }
  | .saveWallet _ => { use := .saveWallet, asked := .inl call, action := call.perform }
  | .appendEntry _ => { use := .appendEntry, asked := .inl call, action := call.perform }
  | .lockPayment _ =>
    { use := .lockPayment, asked := .inl call, readsRows := true, action := call.perform }
  | .lockPaymentOf _ =>
    { use := .lockPaymentOf, asked := .inl call, readsRows := true, action := call.perform }
  | .savePayment _ => { use := .savePayment, asked := .inl call, action := call.perform }

def SingleCall.statement (call : SingleCall) : Statement SingleReply :=
  match call with
  | .openWallet .. =>
    { use := .openWallet, asked := .inr call, readsRows := true, action := call.perform }
  | .findWallet _ =>
    { use := .findWallet, asked := .inr call, readsRows := true, action := call.perform }
  | .listEntries .. =>
    { use := .listEntries, asked := .inr call, readsRows := true, action := call.perform }
  | .insertPayment _ => { use := .insertPayment, asked := .inr call, action := call.perform }
  | .getPayment _ =>
    { use := .getPayment, asked := .inr call, readsRows := true, action := call.perform }
  | .listPayments .. =>
    { use := .listPayments, asked := .inr call, readsRows := true, action := call.perform }

/-- A unit of work on its way: the world as it has been left by the calls in it, and whether the engine has
given the unit up. -/
structure OpenUnit where
  world : World
  isGivenUp : Bool := false

/-- Makes a call in a unit of work. A fault keeps it from the engine. -/
def Engine.perform (e : Engine) (st : Statement α) (u : OpenUnit) : Except StoreError α × OpenUnit :=
  match Fault.consult st.use u.world.faults with
  | (some error, faults) => (.error error, { u with world := { u.world with faults } })
  | (none, faults) =>
    let left (isGivenUp : Bool) : OpenUnit := ⟨{ u.world with faults }, isGivenUp⟩
    if u.isGivenUp then (.error (.database (e.words .givenUp)), left true)
    else if e.refuses st.asked u.world.store then (.error (.database (e.words .own)), left e.givesUp)
    else
      match st.action ⟨u.world.store, []⟩ with
      | .ok a w => (.ok a, ⟨⟨w.store, faults⟩, false⟩)
      | .error error _ =>
        if st.isRefusal error then (.error (e.reword error), left e.givesUp)
        else (.error error, left false)

/-- Commits a unit of work that began with the given store. The engine commits one that it has given up
without what was done in it. -/
def OpenUnit.commit (base : Store) (u : OpenUnit) : EStateM.Result StoreError World Unit :=
  World.commit base (if u.isGivenUp then u.world.restore base else u.world)

end Purse
