import Gatehouse.Text.Numeral
import Gatehouse.TextMap

/-!
# Writing JSON texts

The compact form without blanks. Only quotes, backslashes and control characters are escaped.
-/

namespace Gatehouse.Json

/-- One character inside a string. -/
def escapedChar (c : Char) : List Char :=
  match c with
  | '"' => ['\\', '"']
  | '\\' => ['\\', '\\']
  | '\x08' => ['\\', 'b']
  | '\x0c' => ['\\', 'f']
  | '\n' => ['\\', 'n']
  | '\r' => ['\\', 'r']
  | '\t' => ['\\', 't']
  | c => if c < ' ' then '\\' :: 'u' :: '0' :: '0' :: Text.hexByte c.toNat else [c]

/-- The characters of a string with its quotes. -/
def stringChars (s : String) : List Char := '"' :: (s.toList.flatMap escapedChar ++ ['"'])

/-- A string with its quotes. -/
def stringText (s : String) : String := String.ofList (stringChars s)

/-- An object whose values are already written. -/
def objectText (entries : List (String × String)) : String :=
  "\x7b" ++ ",".intercalate (entries.map fun e => stringText e.1 ++ ":" ++ e.2) ++ "\x7d"

/-- An object of counts, keys in ascending order. -/
def countsText (m : TextMap UInt64) : String :=
  objectText (m.entries.map fun e => (e.1, Text.decimal e.2.toNat))

end Gatehouse.Json
