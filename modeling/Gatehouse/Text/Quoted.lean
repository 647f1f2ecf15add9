import Gatehouse.Text.Printable
import Gatehouse.Text.Extender
import Gatehouse.Text.Numeral

/-!
# Quoted text

The form in which messages show a text that a caller sent: between double quotes, on one line,
with every character that would not show as itself escaped.
-/

namespace Gatehouse.Text

/-- The escape by code point, `\u` with lower-case hexadecimal digits in braces. -/
def codePointEscape (c : Char) : List Char :=
  '\\' :: 'u' :: '\x7b' :: (hexNumeral c.toNat ++ ['\x7d'])

/-- One character of quoted text. A single quote stays as it is. -/
def quotedChar (c : Char) : List Char :=
  match c with
  | '\x00' => ['\\', '0']
  | '\t' => ['\\', 't']
  | '\r' => ['\\', 'r']
  | '\n' => ['\\', 'n']
  | '"' => ['\\', '"']
  | '\\' => ['\\', '\\']
  | c =>
    if ' ' ≤ c ∧ c ≤ '~' then [c]
    else if isExtender c || !isPrintable c then codePointEscape c
    else [c]

/-- The text between double quotes, escaped. -/
def quoted (s : String) : String :=
  String.ofList ('"' :: (s.toList.flatMap quotedChar ++ ['"']))

end Gatehouse.Text
