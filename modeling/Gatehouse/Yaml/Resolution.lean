import Gatehouse.Text.Numeral
import Gatehouse.Yaml.Node

/-!
# What scalars say

A scalar may be an integer, or say that there is no value. This depends on its style and its tag:
between quotes `1` is a text, and so is `1` in a block unless the tag says that it is an integer.
-/

namespace Gatehouse.Yaml

/-- How a scalar is written. -/
inductive Style where
  /-- In its line, without quotes. -/
  | plain
  /-- In a block that keeps its line breaks. -/
  | literal
  /-- Between quotes, or in a block whose lines are folded. -/
  | other
  deriving DecidableEq, Repr

/-- What the tags of the language begin with. -/
def languagePrefix : String := "tag:yaml.org,2002:"

/-- Whether a decimal numeral has leading zeros; it is a text then. -/
def hasLeadingZero : List Char → Bool
  | '0' :: c :: rest => (c :: rest).all fun c => '0' ≤ c && c ≤ '9'
  | _ => false

/-- Reads an integer that is not negative: in decimal, or in base 16, 8 or 2 behind `0x`, `0o`
or `0b`, with an optional plus sign. -/
def natural? (cs : List Char) : Option Nat :=
  let digits := match cs with
    | '+' :: rest => rest
    | cs => cs
  let based := match digits with
    | '0' :: 'x' :: rest => Text.readNumeral? 16 rest
    | '0' :: 'o' :: rest => Text.readNumeral? 8 rest
    | '0' :: 'b' :: rest => Text.readNumeral? 2 rest
    | _ => none
  match based with
  | some n => some n
  | none => if hasLeadingZero digits then none else Text.readNumeral? 10 digits

/-- Whether the text is a word for no value. -/
def isNull (s : String) : Bool := s == "~" || s == "null" || s == "Null" || s == "NULL"

namespace Scalar

/-- What can be taken from a scalar with this style, tag and text. -/
def of (style : Style) (tag : Option String) (text : String) : Scalar where
  text := text
  natural? :=
    if style = .plain ∨ style = .literal ∧ tag = some (languagePrefix ++ "int") then
      Yaml.natural? text.toList
    else none
  absent? :=
    if style ≠ .plain then some false
    else
      match tag with
      | none => some (text == "" || isNull text)
      | some tag =>
        if tag ≠ languagePrefix ++ "null" then some false
        else if isNull text then some true else none
  empty := style = .plain ∧ text = ""

end Scalar

end Gatehouse.Yaml
