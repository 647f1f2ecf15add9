import Gatehouse.Json.Reader
import Gatehouse.Schema
import Gatehouse.TextMap

/-!
# Typed readings of JSON documents

A reading walks a document in the order of its text and fails at the first place that does not
fit, either because the text is no JSON there or because the value has the wrong shape.
-/

namespace Gatehouse.Json

/-- Why a reading failed. -/
inductive Problem where
  /-- The text is no JSON. -/
  | malformed
  /-- The text ends too early. -/
  | unfinished
  /-- The value does not have the expected shape; the complaint is about the keys of a record. -/
  | mismatch (complaint : Option Schema.Complaint)
  deriving DecidableEq, Repr

/-- The problem that a break in the text is. -/
def Break.problem : Break → Problem
  | .malformed => .malformed
  | .unfinished => .unfinished

/-- What a reading gives. -/
abbrev Reading (α : Type) := Except Problem α

/-- The complaint about a record as a problem. -/
def Problem.ofComplaint (c : Schema.Complaint) : Problem := .mismatch (some c)

/-- Fails unless the list or object was closed. -/
def Tail.check : Tail → Reading Unit
  | .closed => .ok ()
  | .broken b => .error b.problem
  | .brokenAfterComma b => .error b.problem

/-- Fails unless a list of a fixed number of items ends behind them: a comma there is one too
many. -/
def Tail.checkFixed : Tail → Reading Unit
  | .closed => .ok ()
  | .broken b => .error b.problem
  | .brokenAfterComma _ => .error .malformed

namespace Value

variable {α : Type}

/-- The problem with a value where another shape is expected. -/
def mismatch : Value → Problem
  | .broken b => b.problem
  | _ => .mismatch none

/-- Reads a text. -/
def asText : Value → Reading String
  | .text s => .ok s
  | v => .error v.mismatch

/-- Reads a count of at most 64 bits. -/
def asCount : Value → Reading UInt64
  | .natural n => if n < UInt64.size then .ok n.toUInt64 else .error (.mismatch none)
  | v => .error v.mismatch

/-- Reads items in order. -/
def readAll (item : Value → Reading α) : List Value → Reading (List α)
  | [] => .ok []
  | v :: rest =>
    match item v with
    | .error e => .error e
    | .ok a =>
      match readAll item rest with
      | .error e => .error e
      | .ok as => .ok (a :: as)

/-- Reads a list of any length. -/
def asList (item : Value → Reading α) : Value → Reading (List α)
  | .list items tail =>
    match readAll item items with
    | .error e => .error e
    | .ok as => tail.check.map fun _ => as
  | v => .error v.mismatch

/-- Inserts entries in order into a map; the last of a key wins. -/
def insertAll (item : Value → Reading α) (m : TextMap α) :
    List (String × Value) → Reading (TextMap α)
  | [] => .ok m
  | (k, v) :: rest =>
    match item v with
    | .error e => .error e
    | .ok a => insertAll item (m.insert k a) rest

/-- Reads an object with arbitrary keys. -/
def asMap (item : Value → Reading α) : Value → Reading (TextMap α)
  | .object entries tail =>
    match insertAll item .empty entries with
    | .error e => .error e
    | .ok m => tail.check.map fun _ => m
  | v => .error v.mismatch

/-- The item at a place of a list of a fixed number of items; none when the list is closed
before it. -/
def item? (items : List Value) (tail : Tail) (i : Nat) : Reading (Option Value) :=
  match items[i]? with
  | some v => .ok (some v)
  | none => tail.check.map fun _ => none

/-- Fails unless a list that has at least `n` items ends behind them. -/
def checkLength (items : List Value) (tail : Tail) (n : Nat) : Reading Unit :=
  if n < items.length then .error .malformed
  else if items.length = n then tail.checkFixed
  else .ok ()

end Value

/-- Reads a whole text; only blanks may follow the value. -/
def decode {α : Type} (reading : Value → Reading α) (s : String) : Reading α :=
  let d := Document.read s
  match reading d.root with
  | .error e => .error e
  | .ok a => if d.clean then .ok a else .error .malformed

end Gatehouse.Json
