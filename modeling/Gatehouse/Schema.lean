/-!
# Records with fixed fields

A record is written as entries of key and value, in any order. Keys are looked at in the order
of the entries, each before its value: a key that the record does not have and a second
occurrence of one that it has fail at once. A field that is missing shows only at the end.
-/

namespace Gatehouse.Schema

/-- A complaint about the keys of a record. -/
inductive Complaint where
  /-- The record ends without the field. -/
  | missing (field : String)
  /-- The record has no such field, but these. -/
  | unknown (key : String) (fields : List String)
  /-- The field occurs a second time. -/
  | duplicate (field : String)
  deriving DecidableEq, Repr

/-- A field's name between back quotes. -/
def ticked (name : String) : String := "`" ++ name ++ "`"

/-- The names that were expected, in words. -/
def expected : List String → String
  | [a] => "expected " ++ ticked a
  | [a, b] => "expected " ++ ticked a ++ " or " ++ ticked b
  | names => "expected one of " ++ ", ".intercalate (names.map ticked)

/-- The wording of a complaint. -/
def Complaint.message : Complaint → String
  | .missing field => "missing field " ++ ticked field
  | .unknown key fields => "unknown field " ++ ticked key ++ ", " ++ expected fields
  | .duplicate field => "duplicate field " ++ ticked field

variable {ε σ κ ν α : Type}

/-- Reads entries into the state with `set`, which gets the name of a field not set before. -/
def readFields (fields : List String) (complain : Complaint → ε) (key : κ → Except ε String)
    (set : σ → String → ν → Except ε σ) :
    List String → σ → List (κ × ν) → Except ε σ
  | _, s, [] => .ok s
  | seen, s, (k, v) :: rest =>
    match key k with
    | .error e => .error e
    | .ok name =>
      if name ∉ fields then .error (complain (.unknown name fields))
      else if name ∈ seen then .error (complain (.duplicate name))
      else
        match set s name v with
        | .error e => .error e
        | .ok s => readFields fields complain key set (name :: seen) s rest

/-- The value of a field that must be there. -/
def require (complain : Complaint → ε) (field : String) : Option α → Except ε α
  | some a => .ok a
  | none => .error (complain (.missing field))

end Gatehouse.Schema
