import Purse.Proofs.Json.Vocabulary

/-!
# What is read is read again

A text that is read as a value need not be the one that is written for it: members stand in any order,
empty fields are left out or `null`, points in time have an offset. What is written for the value is read
as the same value, so it is a fixed point of reading and writing. Integers that were read are of 64 bits,
which is all that this takes.
-/
namespace Purse

open Json Json.Field

/-! ## What can be read -/

namespace Json

theorem bind_eq_ok {ε α β : Type} {x : Except ε α} {f : α → Except ε β} {b : β} :
    x >>= f = .ok b ↔ ∃ a, x = .ok a ∧ f a = .ok b := by
  cases x with
  | error e => simp [bind, Except.bind]
  | ok a => simp [bind, Except.bind]

theorem bind_eq_error {ε α β : Type} {x : Except ε α} {f : α → Except ε β} {e : ε} :
    x >>= f = .error e ↔ x = .error e ∨ ∃ a, x = .ok a ∧ f a = .error e := by
  cases x with
  | error e => simp [bind, Except.bind]
  | ok a => simp [bind, Except.bind]

theorem map_eq_ok {ε α β : Type} {x : Except ε α} {f : α → β} {b : β} :
    x.map f = .ok b ↔ ∃ a, x = .ok a ∧ f a = b := by
  cases x with
  | error e => simp [Except.map]
  | ok a => simp [Except.map]

theorem mapError_eq_ok {ε ε' α : Type} {x : Except ε α} {f : ε → ε'} {a : α} :
    x.mapError f = .ok a ↔ x = .ok a := by
  cases x with
  | error e => simp [Except.mapError]
  | ok b => simp [Except.mapError]

/-- A field can have a value once a record is read: it was read, or stands for one that is missing. -/
inductive Field.Yields (f : Field) (v : f.Carrier) : Prop where
  | read {cs rest : List Char} (h : f.read cs = .ok (v, rest))
  | missing (h : f.missing = some v)
  | cut (h : f.cut = some v)

def YieldsAll : (fs : List Field) → Values fs → Prop
  | [], _ => True
  | f :: fs, (v, vs) => f.Yields v ∧ YieldsAll fs vs

def YieldsSlots : (fs : List Field) → Slots fs → Prop
  | [], _ => True
  | f :: fs, (slot, slots) => (∀ v, slot = some v → f.Yields v) ∧ YieldsSlots fs slots

theorem yieldsSlots_empty (fs : List Field) : YieldsSlots fs (Slots.empty fs) := by
  induction fs with
  | nil => trivial
  | cons f fs ih =>
      refine ⟨fun v hv => ?_, ih⟩
      cases hv

variable {fs : List Field}

theorem YieldsSlots.readMember {before after : Slots fs} {key : String} {cs rest : List Char}
    (hbefore : YieldsSlots fs before) (h : readMember fs before key cs = .ok (after, rest)) :
    YieldsSlots fs after := by
  induction fs with
  | nil => trivial
  | cons f fs ih =>
      obtain ⟨slot, slots⟩ := before
      obtain ⟨hslot, hslots⟩ := hbefore
      simp only [Json.readMember] at h
      split at h
      · cases slot with
        | some v => cases h
        | none =>
            obtain ⟨value, -, h⟩ := bind_eq_ok.1 h
            obtain ⟨⟨v, rest'⟩, hread, h⟩ := bind_eq_ok.1 h
            cases h
            refine ⟨fun w hw => ?_, hslots⟩
            cases hw
            exact .read hread
      · obtain ⟨⟨slots', rest'⟩, hmember, h⟩ := bind_eq_ok.1 h
        cases h
        exact ⟨hslot, ih hslots hmember⟩

theorem YieldsSlots.readMembersOf {steps : Nat} {first : Bool} {before after : Slots fs}
    {cs rest : List Char} (hbefore : YieldsSlots fs before)
    (h : readMembersOf fs steps first before cs = .ok (after, rest)) : YieldsSlots fs after := by
  induction steps generalizing first before cs with
  | zero => cases h
  | succ steps ih =>
      rw [Json.readMembersOf] at h
      obtain ⟨key?, -, h⟩ := bind_eq_ok.1 h
      cases key? with
      | none =>
          cases h
          exact hbefore
      | some cs =>
          obtain ⟨⟨key, cs⟩, -, h⟩ := bind_eq_ok.1 h
          obtain ⟨⟨between, cs⟩, hmember, h⟩ := bind_eq_ok.1 h
          exact ih (hbefore.readMember hmember) h

theorem YieldsSlots.fill {slots : Slots fs} {vs : Values fs} {rest : List Char}
    (hslots : YieldsSlots fs slots) (h : fill rest fs slots = .ok vs) : YieldsAll fs vs := by
  induction fs with
  | nil => trivial
  | cons f fs ih =>
      obtain ⟨slot, slots⟩ := slots
      obtain ⟨hslot, hslots⟩ := hslots
      simp only [Json.fill] at h
      split at h
      · cases h
      · rename_i v hv
        obtain ⟨vs, hfill, h⟩ := bind_eq_ok.1 h
        cases h
        refine ⟨?_, ih hslots hfill⟩
        cases slot with
        | none => exact .missing hv
        | some w => exact hslot v hv

theorem yieldsAll_readItemsOf {tooShort : Nat → Mismatch} {read : Nat} {cs rest : List Char}
    {vs : Values fs} (h : readItemsOf tooShort fs read cs = .ok (vs, rest)) : YieldsAll fs vs := by
  induction fs generalizing read cs with
  | nil => trivial
  | cons f fs ih =>
      rw [readItemsOf] at h
      obtain ⟨item?, -, h⟩ := bind_eq_ok.1 h
      cases item? with
      | none =>
          cases hcut : f.cut with
          | none => simp [hcut] at h
          | some v =>
              simp only [hcut] at h
              obtain ⟨⟨vs, rest⟩, hitems, h⟩ := bind_eq_ok.1 h
              cases h
              exact ⟨.cut hcut, ih hitems⟩
      | some cs =>
          obtain ⟨⟨v, cs⟩, hread, h⟩ := bind_eq_ok.1 h
          obtain ⟨⟨vs, rest⟩, hitems, h⟩ := bind_eq_ok.1 h
          cases h
          exact ⟨.read hread, ih hitems⟩

theorem yieldsAll_readValues {record : String} {cs rest : List Char} {vs : Values fs}
    (h : readValues record fs cs = .ok (vs, rest)) : YieldsAll fs vs := by
  unfold readValues at h
  split at h
  · obtain ⟨⟨vs, rest'⟩, hobject, h⟩ := bind_eq_ok.1 h
    obtain ⟨rest'', -, h⟩ := bind_eq_ok.1 h
    cases h
    obtain ⟨⟨slots, rest'⟩, hmembers, h⟩ := bind_eq_ok.1 (mapError_eq_ok.1 hobject)
    obtain ⟨vs, hfill, h⟩ := bind_eq_ok.1 h
    cases h
    exact ((yieldsSlots_empty fs).readMembersOf hmembers).fill hfill
  · obtain ⟨⟨vs, rest'⟩, hitems, h⟩ := bind_eq_ok.1 h
    obtain ⟨rest'', -, h⟩ := bind_eq_ok.1 h
    cases h
    exact yieldsAll_readItemsOf (mapError_eq_ok.1 hitems)
  · cases h

theorem isWord_of_readInt {cs rest : List Char} {n : Int} (h : readInt cs = .ok (n, rest)) :
    Numeral.isWord n := by
  unfold readInt at h
  split at h
  · cases h
  · split at h
    · obtain ⟨⟨number, rest'⟩, -, h⟩ := bind_eq_ok.1 h
      cases hkept : number.kept? with
      | none => simp [hkept] at h
      | some m =>
          by_cases hword : Numeral.isWord m
          · simp only [hkept, hword, if_true] at h
            cases h
            exact hword
          · simp [hkept, hword] at h
    · cases h

theorem isWord_of_required {name : String} {n : Int} (h : (required name Int).Yields n) :
    Numeral.isWord n := by
  cases h with
  | read h => exact isWord_of_readInt h
  | missing h => cases h
  | cut h => cases h

theorem isWord_of_optional {name : String} {n? : Option Int} (h : (optional name Int).Yields n?) :
    ∀ n, n? = some n → Numeral.isWord n := by
  rintro n rfl
  cases h with
  | read h =>
      change readOption Wire.read _ = _ at h
      unfold readOption at h
      split at h
      · obtain ⟨rest, -, h⟩ := bind_eq_ok.1 h
        cases h
      · obtain ⟨⟨m, rest⟩, hread, h⟩ := bind_eq_ok.1 h
        cases h
        exact isWord_of_readInt hread
  | missing h => cases h
  | cut h => cases h

end Json

theorem Record.exists_of_decode {α : Type} [Record α] {t : String} {a : α} (h : Wire.decode α t = .ok a) :
    ∃ vs, YieldsAll (Record.fields α) vs ∧ a = Record.ofValues vs := by
  obtain ⟨⟨b, rest⟩, hread, h⟩ := bind_eq_ok.1 h
  obtain ⟨⟨vs, rest'⟩, hvalues, hread⟩ := bind_eq_ok.1 hread
  refine ⟨vs, yieldsAll_readValues hvalues, ?_⟩
  cases hread
  dsimp only at h
  split at h
  · cases h
    rfl
  · cases h

/-! ## Faithful types -/

/-- The values that fit are those that can be read. Each is read from the text that is written for it, and
that text is a fixed point of reading and writing. -/
structure Wire.Faithful (α : Type) [Wire α] (Fits : α → Prop) : Prop where
  fits {t : String} {a : α} : Wire.decode α t = .ok a → Fits a
  again {t : String} {a : α} : Wire.decode α t = .ok a → Wire.decode α (Wire.encode a) = .ok a
  fixed {t : String} {a : α} : Wire.decode α t = .ok a →
    (Wire.decode α (Wire.encode a)).map Wire.encode = .ok (Wire.encode a)
  reached {a : α} : Fits a → ∃ t, Wire.decode α t = .ok a

/-- A faithful record is also read from the objects in which empty fields are left out or `null`. -/
structure Record.Faithful (α : Type) [Record α] (Fits : α → Prop) : Prop extends Wire.Faithful α Fits where
  spelled {a : α} {members : List (String × Json)} : Fits a →
    Spells (Record.fields α) (Record.toValues a) members →
      Wire.decode α (Json.object members).render = .ok a

theorem Wire.Faithful.of_roundTrips {α : Type} [Wire α] {Fits : α → Prop}
    (hfits : ∀ {t : String} {a : α}, Wire.decode α t = .ok a → Fits a)
    (h : ∀ a, Fits a → Wire.RoundTrips a) : Wire.Faithful α Fits := by
  have hagain : ∀ {a : α}, Fits a → Wire.decode α (Wire.encode a) = .ok a :=
    fun {a} ha => (h a ha).decode_encode
  refine ⟨hfits, fun hread => hagain (hfits hread), fun hread => ?_, fun ha => ⟨_, hagain ha⟩⟩
  rw [hagain (hfits hread)]
  rfl

theorem Wire.Faithful.of_all {α : Type} [Wire α] (h : ∀ a : α, Wire.RoundTrips a) :
    Wire.Faithful α fun _ => True :=
  .of_roundTrips (fun _ => trivial) fun a _ => h a

theorem Record.Faithful.of_kept {α : Type} [Record α] {Fits : α → Prop}
    (hfits : ∀ vs, YieldsAll (Record.fields α) vs → Fits (Record.ofValues vs))
    (h : ∀ a, Fits a → Record.Kept a) : Record.Faithful α Fits where
  toFaithful := by
    refine .of_roundTrips (fun hread => ?_) fun a ha => (h a ha).roundTrips
    obtain ⟨vs, hvs, rfl⟩ := Record.exists_of_decode hread
    exact hfits vs hvs
  spelled {a members} ha hspells := decode_render ((h a ha).readsBack hspells)

/-! ## The vocabulary -/

/-- Everything that client and server tell each other is faithful. Only plain integers have to fit in 64
bits; texts may hold any characters, and an amount is any positive integer of 64 bits. -/
theorem vocabulary_faithful :
    Wire.Faithful Amount (fun _ => True) ∧
    Wire.Faithful UserId (fun _ => True) ∧
    Wire.Faithful BookingId (fun _ => True) ∧
    Wire.Faithful WalletId (fun _ => True) ∧
    Wire.Faithful EntryId (fun _ => True) ∧
    Wire.Faithful PaymentId (fun _ => True) ∧
    Wire.Faithful PaymentMethod (fun _ => True) ∧
    Wire.Faithful PaymentStatus (fun _ => True) ∧
    Wire.Faithful EntryKind (fun _ => True) ∧
    Record.Faithful Wallet (fun w => Numeral.isWord w.balance) ∧
    Record.Faithful Entry (fun _ => True) ∧
    Record.Faithful Payment (fun _ => True) ∧
    Record.Faithful PageQuery (fun q =>
      (∀ n, q.limit = some n → Numeral.isWord n) ∧ ∀ n, q.offset = some n → Numeral.isWord n) ∧
    Record.Faithful DepositRequest (fun r => Numeral.isWord r.amount) ∧
    Record.Faithful WithdrawRequest (fun r => Numeral.isWord r.amount) ∧
    Record.Faithful BalanceReport (fun r => Numeral.isWord r.balance) ∧
    Record.Faithful PaymentRequest (fun r => Numeral.isWord r.amount) ∧
    Record.Faithful Checkout (fun _ => True) ∧
    Record.Faithful Verdict (fun _ => True) ∧
    Record.Faithful Acknowledgement (fun _ => True) := by
  refine ⟨.of_all Amount.roundTrips, .of_all UserId.roundTrips, .of_all BookingId.roundTrips,
    .of_all WalletId.roundTrips, .of_all EntryId.roundTrips, .of_all PaymentId.roundTrips,
    .of_all PaymentMethod.roundTrips, .of_all PaymentStatus.roundTrips, .of_all EntryKind.roundTrips,
    .of_kept ?wallet fun w hw => Wallet.kept hw, .of_kept ?entry fun e _ => e.kept,
    .of_kept ?payment fun p _ => p.kept, .of_kept ?page fun q hq => PageQuery.kept hq.1 hq.2,
    .of_kept ?deposit fun r hr => DepositRequest.kept hr,
    .of_kept ?withdrawal fun r hr => WithdrawRequest.kept hr,
    .of_kept ?balance fun r hr => BalanceReport.kept hr,
    .of_kept ?request fun r hr => PaymentRequest.kept hr, .of_kept ?checkout fun c _ => c.kept,
    .of_kept ?verdict fun v _ => v.kept, .of_kept ?acknowledgement fun a _ => a.kept⟩
  case wallet => exact fun vs hvs => isWord_of_required hvs.2.2.1
  case page => exact fun vs hvs => ⟨isWord_of_optional hvs.1, isWord_of_optional hvs.2.1⟩
  case deposit => exact fun vs hvs => isWord_of_required hvs.1
  case withdrawal => exact fun vs hvs => isWord_of_required hvs.1
  case balance => exact fun vs hvs => isWord_of_required hvs.2.1
  case request => exact fun vs hvs => isWord_of_required hvs.2.1
  all_goals exact fun _ _ => trivial

end Purse
