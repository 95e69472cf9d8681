import Purse.Uuid

/-!
# Percent encoding

In a path or a query a percent sign and two hexadecimal digits stand for a byte. A percent sign without
them stands for itself. The bytes have to be the encoding of a text.
-/
namespace Purse.Http

/-- Cuts a text at every separator. -/
def splitAt (separator : Char) : List Char → List (List Char)
  | [] => [[]]
  | c :: cs =>
    if c = separator then [] :: splitAt separator cs
    else
      match splitAt separator cs with
      | [] => [[c]]
      | part :: parts => (c :: part) :: parts

def percentBytes : List Char → List UInt8
  | '%' :: a :: b :: cs =>
    match hexDigit? a, hexDigit? b with
    | some high, some low => UInt8.ofNat (16 * high.val + low.val) :: percentBytes cs
    | _, _ => '%'.toUInt8 :: percentBytes (a :: b :: cs)
  | c :: cs => String.utf8EncodeChar c ++ percentBytes cs
  | [] => []

/-- The text that a text without its percent signs stands for, if its bytes are one. A text without percent
signs stands for itself. -/
def percentDecode? (cs : List Char) : Option String :=
  if cs.contains '%' then String.fromUTF8? (ByteArray.mk (percentBytes cs).toArray)
  else some (String.ofList cs)

end Purse.Http
