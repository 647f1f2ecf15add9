import Gatehouse.Fault
import Gatehouse.Text.Numeral

/-!
# Query strings

A query is a list of names with values between ampersands, with a plus sign for a space and
percent escapes for bytes. The one name that is read is `interval_seconds`; others are ignored.
-/

namespace Gatehouse.Http

/-- What is wrong with a query. -/
inductive BadQuery where
  | missing
  | duplicate
  /-- The value is empty. -/
  | empty
  /-- The value has a character that is no digit. -/
  | notDigit
  /-- The value needs more than 64 bits. -/
  | tooLarge
  deriving DecidableEq, Repr

namespace BadQuery

/-- The complaint in words. -/
def text : BadQuery → String
  | .missing => "missing field `interval_seconds`"
  | .duplicate => "duplicate field `interval_seconds`"
  | .empty => "cannot parse integer from empty string"
  | .notDigit => "invalid digit found in string"
  | .tooLarge => "number too large to fit in target type"

/-- The fault that a bad query becomes. -/
def fault (b : BadQuery) : Fault :=
  .badRequest ("Failed to deserialize query string: " ++ b.text)

end BadQuery

/-- The value of a hexadecimal digit. -/
def hexDigit? (b : UInt8) : Option Nat := Text.digit? 16 (Char.ofNat b.toNat)

/-- Replaces plus signs and percent escapes. A percent sign without two digits stays. -/
def unescape : List UInt8 → List UInt8
  | [] => []
  | 0x2b :: rest => 0x20 :: unescape rest
  | 0x25 :: a :: b :: rest =>
    match hexDigit? a, hexDigit? b with
    | some x, some y => (x * 16 + y).toUInt8 :: unescape rest
    | _, _ => 0x25 :: unescape (a :: b :: rest)
  | c :: rest => c :: unescape rest

/-- Splits bytes at each occurrence of a byte. -/
def splitAt (sep : UInt8) : List UInt8 → List (List UInt8)
  | [] => [[]]
  | b :: rest =>
    if b = sep then [] :: splitAt sep rest
    else
      match splitAt sep rest with
      | [] => [[b]]
      | part :: parts => (b :: part) :: parts

/-- The name and the value of a part: the value begins behind the first equals sign. -/
def pairOf (part : List UInt8) : List UInt8 × List UInt8 :=
  (unescape (part.takeWhile (· != 0x3d)), unescape ((part.dropWhile (· != 0x3d)).drop 1))

/-- The names and values of a query. -/
def pairs (query : String) : List (List UInt8 × List UInt8) :=
  ((splitAt 0x26 query.toUTF8.toList).filter (· ≠ [])).map pairOf

/-- Reads decimal digits behind the value `n`. -/
def readCount (n : Nat) : List UInt8 → Except BadQuery Nat
  | [] => .ok n
  | b :: rest =>
    if 0x30 ≤ b ∧ b ≤ 0x39 then
      let n := n * 10 + (b.toNat - 0x30)
      if n < UInt64.size then readCount n rest else .error .tooLarge
    else .error .notDigit

/-- Reads a number, with an optional plus sign. -/
def readNumber : List UInt8 → Except BadQuery Nat
  | [] => .error .empty
  | [0x2b] => .error .notDigit
  | 0x2b :: rest => readCount 0 rest
  | value => readCount 0 value

/-- The name that is read. -/
def intervalName : List UInt8 := "interval_seconds".toUTF8.toList

/-- Looks for the interval among names and values, after `found` was found. -/
def findInterval (found : Option Nat) : List (List UInt8 × List UInt8) → Except BadQuery Nat
  | [] =>
    match found with
    | some n => .ok n
    | none => .error .missing
  | (name, value) :: rest =>
    if name = intervalName then
      match found with
      | some _ => .error .duplicate
      | none =>
        match readNumber value with
        | .error e => .error e
        | .ok n => findInterval (some n) rest
    else findInterval found rest

/-- The interval that a query asks for. -/
def intervalOf (query : Option String) : Except BadQuery Nat :=
  findInterval none (pairs (query.getD ""))

end Gatehouse.Http
