import Purse.Json.Reader

/-!
# Records as JSON objects

A record is a list of named fields, each with a reader and a writer of its own type. It is written as an
object with its fields in their order. It is read from an object whose members may come in any order,
among members of other names, which are passed over; or from an array of all its values in their order.
A field may be read once. What stands for a field that is missing is the field's own affair.
-/
namespace Purse

/-- A type that has a JSON form. -/
class Wire (α : Type) where
  read : Json.Reader α
  write : α → Json

def Wire.decode (α : Type) [Wire α] (s : String) : Except Json.Flaw α := Json.decode Wire.read s

/-- The text that is written for a value. -/
def Wire.encode [Wire α] (a : α) : String := (Wire.write a).render

namespace Json

/-- A named field. `missing` is its value in an object without it, and `cut` in an array that ends
before it. A writer may leave the member out. -/
structure Field where
  name : String
  Carrier : Type
  read : Reader Carrier
  write : Carrier → Option Json
  missing : Option Carrier := none
  cut : Option Carrier := none

namespace Field

def required (name : String) (α : Type) [Wire α] : Field where
  name
  Carrier := α
  read := Wire.read
  write a := some (Wire.write a)

/-- A field that may be missing or `null`, and is written as `null` when it is empty. -/
def optional (name : String) (α : Type) [Wire α] : Field where
  name
  Carrier := Option α
  read := readOption Wire.read
  write a := some (ofOption Wire.write a)
  missing := some none

/-- A field that may be missing or `null`, and is left out when it is empty. -/
def omitted (name : String) (α : Type) [Wire α] : Field where
  name
  Carrier := Option α
  read := readOption Wire.read
  write a := a.map Wire.write
  missing := some none

/-- The same field, which an array may also leave off at its end. -/
def trailing (name : String) (α : Type) [Wire α] : Field :=
  let f := omitted name α
  { f with cut := some none }

end Field

/-- A value for each field. -/
def Values : List Field → Type
  | [] => Unit
  | f :: fs => f.Carrier × Values fs

/-- The fields read so far. -/
def Slots : List Field → Type
  | [] => Unit
  | f :: fs => Option f.Carrier × Slots fs

/-- No field read yet. -/
def Slots.empty : (fs : List Field) → Slots fs
  | [] => ()
  | _ :: fs => (none, Slots.empty fs)

/-- The members that are written for the fields. -/
def writeValues : (fs : List Field) → Values fs → List (String × Json)
  | [], _ => []
  | f :: fs, (v, vs) =>
    match f.write v with
    | none => writeValues fs vs
    | some json => (f.name, json) :: writeValues fs vs

/-- Reads the colon and value of the member with the given key. A key that no field has is passed over
with its value; the key of a field already read is refused before its value is looked at. -/
def readMember : (fs : List Field) → Slots fs → String → List Char →
    Except Flaw (Slots fs × List Char)
  | [], slots, _, cs => do .ok (slots, ← afterValue (← afterColon cs))
  | f :: fs, (slot, slots), key, cs =>
    if f.name = key then
      match slot with
      | some _ => .error (.unplaced (.repeated key) cs)
      | none => do
        let (v, rest) ← f.read (← afterColon cs)
        .ok ((some v, slots), rest)
    else do
      let (slots, rest) ← readMember fs slots key cs
      .ok ((slot, slots), rest)

/-- What stands behind the opening quote of the next key: nothing comes in front of the first one, then a
comma. The answer is `none` at the end of the object, where the closing brace is left. -/
def nextKey (first : Bool) (cs : List Char) : Except Flaw (Option (List Char)) :=
  match afterBlanks cs with
  | [] => .error (.within .endInObject [])
  | '\x7d' :: _ => .ok none
  | c :: rest =>
    if first then
      if c = '"' then .ok (some rest) else .error (.within .keyNotText (c :: rest))
    else if c = ',' then
      match afterBlanks rest with
      | [] => .error (.within .endInValue [])
      | '"' :: rest => .ok (some rest)
      | '\x7d' :: rest => .error (.within .trailingComma ('\x7d' :: rest))
      | rest => .error (.within .keyNotText rest)
    else .error (.within .noCommaInObject (c :: rest))

/-- Reads the remaining members of an object whose opening brace is taken. The closing brace is left. -/
def readMembersOf (fs : List Field) : Nat → Bool → Slots fs → List Char →
    Except Flaw (Slots fs × List Char)
  | 0, _, _, cs => .error (.before .noValue cs)
  | steps + 1, first, slots, cs => do
    match ← nextKey first cs with
    | none => .ok (slots, cs)
    | some rest =>
      let (key, rest) ← readString [] rest
      let (slots, rest) ← readMember fs slots (String.ofList key) rest
      readMembersOf fs steps false slots rest

/-- The values of all fields, once every member has been read up to the given rest. -/
def fill (rest : List Char) : (fs : List Field) → Slots fs → Except Flaw (Values fs)
  | [], _ => .ok ()
  | f :: fs, (slot, slots) =>
    match slot.or f.missing with
    | none => .error (.unplaced (.missing f.name) rest)
    | some v => do .ok (v, ← fill rest fs slots)

/-- Reads the values of the fields from an object whose opening brace is taken. -/
def readFromObject (fs : List Field) (cs : List Char) : Except Flaw (Values fs × List Char) := do
  let (slots, rest) ← readMembersOf fs (cs.length + 1) true (Slots.empty fs) cs
  .ok (← fill rest fs slots, rest)

/-- Reads the items of an array, one for each field. The closing bracket is left. `read` counts the
items so far, and `tooShort` is what is wrong with an array of so many items. -/
def readItemsOf (tooShort : Nat → Mismatch) :
    (fs : List Field) → Nat → List Char → Except Flaw (Values fs × List Char)
  | [], _, cs => .ok ((), cs)
  | f :: fs, read, cs => do
    match ← nextItem (read == 0) cs with
    | none =>
      match f.cut with
      | none => .error (.unplaced (tooShort read) cs)
      | some v =>
        let (vs, rest) ← readItemsOf tooShort fs (read + 1) cs
        .ok ((v, vs), rest)
    | some rest =>
      let (v, rest) ← f.read rest
      let (vs, rest) ← readItemsOf tooShort fs (read + 1) rest
      .ok ((v, vs), rest)

/-- Reads the values of the fields of a record from an object or an array. -/
def readValues (record : String) (fs : List Field) : Reader (Values fs) := fun cs =>
  match afterBlanks cs with
  | '\x7b' :: rest => do
    let (values, rest) ← (readFromObject fs rest).mapError (.settle leaveObject)
    .ok (values, ← closeObject rest)
  | '[' :: rest => do
    let tooShort (read : Nat) : Mismatch := .tooShort read record fs.length
    let (values, rest) ← (readItemsOf tooShort fs 0 rest).mapError (.settle leaveArray)
    .ok (values, ← closeArray rest)
  | rest => .error (misfit ("struct " ++ record) rest)

end Json

/-- A type that is taken apart into the values of named fields and put together again. Its name stands in
messages. -/
class Record (α : Type) where
  name : String
  fields : List Json.Field
  toValues : α → Json.Values fields
  ofValues : Json.Values fields → α
  ofValues_toValues : ∀ a, ofValues (toValues a) = a

instance [Record α] : Wire α where
  read cs := do
    let (values, rest) ← Json.readValues (Record.name α) (Record.fields α) cs
    .ok (Record.ofValues values, rest)
  write a := .object (Json.writeValues (Record.fields α) (Record.toValues a))

end Purse
