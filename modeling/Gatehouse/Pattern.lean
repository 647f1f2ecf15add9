import Gatehouse.Fault

/-!
# Method patterns

A pattern names one method in full, or ends in `*` and names every method that begins with the
text before it. A `*` elsewhere is an error, so writing a pattern back restores its source.
-/

namespace Gatehouse

/-- A compiled pattern. -/
inductive Pattern where
  /-- The one method with this text. -/
  | exact (method : String)
  /-- Every method whose text begins so. -/
  | beginning (start : String)
  deriving DecidableEq, Repr

namespace Pattern

/-- Why a text is no pattern. -/
inductive Invalid where
  /-- The text is empty. -/
  | empty
  /-- The text has a `*` before its last character. -/
  | wildcard (source : String)
  deriving DecidableEq, Repr

/-- The wording of a complaint. -/
def Invalid.message : Invalid → String
  | .empty => "empty method pattern"
  | .wildcard source =>
    "invalid method pattern: " ++ source ++ " (wildcard must be the last character)"

/-- The fault that a complaint becomes. -/
def Invalid.fault (e : Invalid) : Fault := .config e.message

/-- The offset in bytes of the first `*`. -/
def starOffset : List Char → Option Nat
  | [] => none
  | c :: rest => if c = '*' then some 0 else (starOffset rest).map (c.utf8Size + ·)

/-- Compiles a pattern. -/
def compile (source : String) : Except Invalid Pattern :=
  if source = "" then .error .empty
  else
    match starOffset source.toList with
    | none => .ok (.exact source)
    | some offset =>
      if offset + '*'.utf8Size = source.utf8ByteSize then
        .ok (.beginning (String.Pos.Raw.extract source ⟨0⟩ ⟨offset⟩))
      else .error (.wildcard source)

/-- The source text of a pattern. -/
def text : Pattern → String
  | .exact method => method
  | .beginning start => start ++ "*"

/-- Whether the pattern names the method. -/
def covers (p : Pattern) (method : String) : Bool :=
  match p with
  | .exact m => m == method
  | .beginning start => start.toList.isPrefixOf method.toList

/-- Compiles patterns in order and keeps the first of equal ones; the first bad one fails. -/
def compileAll (sources : List String) : Except Invalid (List Pattern) :=
  go [] sources
where
  go (kept : List Pattern) : List String → Except Invalid (List Pattern)
    | [] => .ok kept
    | s :: rest =>
      match compile s with
      | .error e => .error e
      | .ok p => go (if p ∈ kept then kept else kept ++ [p]) rest

/-- Whether some pattern names the method. -/
def anyCovers (ps : List Pattern) (method : String) : Bool := ps.any (·.covers method)

end Pattern

end Gatehouse
