import Gatehouse.TextMap

/-!
# Call metadata

A call brings values under keys. A key may have several values, which are kept in the order of
their arrival, and keys are compared without regard to the case of ASCII letters. A header
becomes a value under its name when it is visible ASCII text.
-/

namespace Gatehouse

/-- The text with its ASCII letters in lower case. -/
def asciiLower (s : String) : String := String.ofList (s.toList.map Char.toLower)

/-- A header as it was received. -/
structure Header where
  name : String
  value : List UInt8
  deriving DecidableEq, Repr

namespace Header

/-- Whether a byte may stand in a header value that counts as text. -/
def isVisible (b : UInt8) : Bool := (0x20 ≤ b && b ≤ 0x7e) || b == 0x09

/-- The value as text, when each of its bytes is visible. -/
def text? (h : Header) : Option String :=
  if h.value.all isVisible then some (String.ofList (h.value.map fun b => Char.ofNat b.toNat))
  else none

end Header

/-- The values of each key in the order of their arrival, keys in lower case. -/
structure Metadata where
  values : TextMap (List String)
  deriving DecidableEq

namespace Metadata

/-- The key under which a call says who calls. -/
def consumerKey : String := "consumer"

/-- No values. -/
def empty : Metadata := ⟨.empty⟩

/-- Adds a value behind the others of its key. -/
def append (m : Metadata) (key value : String) : Metadata :=
  ⟨m.values.adjust (asciiLower key) fun vs => vs.getD [] ++ [value]⟩

/-- Adds values in order. -/
def appendAll (m : Metadata) (entries : List (String × String)) : Metadata :=
  entries.foldl (fun m e => m.append e.1 e.2) m

/-- The values under a key in the order of their arrival. -/
def getAll (m : Metadata) (key : String) : List String :=
  (m.values.get? (asciiLower key)).getD []

/-- The first value under a key. -/
def get? (m : Metadata) (key : String) : Option String :=
  (m.values.get? (asciiLower key)).bind List.head?

/-- The metadata of headers. Headers whose value is not text are left out. -/
def ofHeaders (headers : List Header) : Metadata :=
  headers.foldl (fun m h =>
    match h.text? with
    | some value => m.append h.name value
    | none => m) empty

end Metadata

end Gatehouse
