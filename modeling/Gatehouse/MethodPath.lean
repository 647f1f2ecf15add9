import Gatehouse.Fault
import Gatehouse.Text.Blank
import Gatehouse.Text.Quoted

/-!
# Method paths

A method path is `/Service/Method`: two segments that are not empty and hold neither a slash nor
a blank nor a control character. Nothing is normalised, so a path and its two segments
determine each other.
-/

namespace Gatehouse

/-- Whether the character may stand in a segment of a method path. -/
def isSegmentChar (c : Char) : Bool :=
  c != '/' && !Text.isBlank c && !Text.isControl c

/-- The parsed form of `/Service/Method`. -/
structure MethodPath where
  /-- The segment that names the service. -/
  service : String
  /-- The segment that names the method of the service. -/
  method : String
  deriving DecidableEq, Repr

namespace MethodPath

/-- The whole path, as callers send it and as access rules match it. -/
def text (p : MethodPath) : String := "/" ++ p.service ++ "/" ++ p.method

/-- What is wrong with a text that is not a method path. -/
inductive Malformed where
  /-- The text does not begin with a slash. -/
  | noSlash
  /-- There is no second slash. -/
  | noMethod
  /-- A segment is empty, or there is a third slash. -/
  | badSegments
  /-- There is a blank or a control character. -/
  | blank
  deriving DecidableEq, Repr

/-- The wording of a complaint about a text. -/
def Malformed.message (raw : String) : Malformed → String
  | .noSlash => "method path must start with '/': " ++ Text.quoted raw
  | .noMethod => "method path missing method segment: " ++ Text.quoted raw
  | .badSegments =>
    "malformed method path: " ++ Text.quoted raw ++ " (expected /Service/Method)"
  | .blank => "method path contains whitespace: " ++ Text.quoted raw

/-- Splits at the first slash. -/
def splitSlash : List Char → Option (List Char × List Char)
  | [] => none
  | c :: rest =>
    if c = '/' then some ([], rest) else (splitSlash rest).map fun r => (c :: r.1, r.2)

/-- A method path as it is kept: its whole text, and the offset in bytes of the slash between the
segments. -/
structure Divided where
  text : String
  split : Nat
  deriving DecidableEq, Repr

namespace Divided

/-- The bytes between the two slashes. -/
def service (d : Divided) : String := String.Pos.Raw.extract d.text ⟨1⟩ ⟨d.split⟩

/-- The bytes behind the second slash. -/
def method (d : Divided) : String :=
  String.Pos.Raw.extract d.text ⟨d.split + 1⟩ ⟨d.text.utf8ByteSize⟩

/-- The two segments. -/
def path (d : Divided) : MethodPath := ⟨d.service, d.method⟩

end Divided

/-- Finds where the text of a method path is divided. -/
def divide (raw : String) : Except Malformed Divided :=
  match raw.toList with
  | '/' :: rest =>
    match splitSlash rest with
    | none => .error .noMethod
    | some (service, method) =>
      if service = [] ∨ method = [] ∨ '/' ∈ method then .error .badSegments
      else if raw.toList.any fun c => Text.isBlank c || Text.isControl c then .error .blank
      else .ok ⟨raw, 1 + (String.ofList service).utf8ByteSize⟩
  | _ => .error .noSlash

/-- Reads a method path. -/
def read (raw : String) : Except Malformed MethodPath := (divide raw).map Divided.path

/-- Reads a method path; a malformed one is an internal fault, because every call is expected
to bring a well-formed name. -/
def parse (raw : String) : Except Fault MethodPath :=
  match read raw with
  | .ok p => .ok p
  | .error e => .error (.internal (e.message raw))

end MethodPath

end Gatehouse
