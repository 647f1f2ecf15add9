/-!
# JSON documents with their faults

A document is the tree of a JSON text up to the first place where the text stops being JSON. A
list or an object keeps how it ended, so that whoever reads the tree in order meets a type
mismatch and the end of the well-formed text in the order in which the text has them.
-/

namespace Gatehouse.Json

/-- Why a text stops being JSON. -/
inductive Break where
  /-- The next character cannot stand there. -/
  | malformed
  /-- The text ends too early. -/
  | unfinished
  deriving DecidableEq, Repr

/-- How a list or an object ended. -/
inductive Tail where
  /-- With its closing bracket. -/
  | closed
  /-- The text breaks off where a comma or a closing bracket may stand. -/
  | broken (b : Break)
  /-- The text breaks off behind a comma. -/
  | brokenAfterComma (b : Break)
  deriving DecidableEq, Repr

/-- A value, or the place where the text stops being JSON. -/
inductive Value where
  | null
  | bool (b : Bool)
  /-- A number without sign, fraction and exponent. -/
  | natural (n : Nat)
  /-- Any other number. -/
  | otherNumber
  | text (s : String)
  | list (items : List Value) (tail : Tail)
  | object (entries : List (String × Value)) (tail : Tail)
  | broken (b : Break)

/-- A whole text: its value, and whether only blanks follow it. -/
structure Document where
  root : Value
  clean : Bool

end Gatehouse.Json
