/-!
# Trees of YAML documents

What a reader makes of a YAML text: the tree of its document, up to the first place where the text
stops being readable. A collection tells whether its end was reached. Aliases are followed already,
and a scalar is what can be taken from it, whatever its style and its tag.
-/

namespace Gatehouse.Yaml

/-- What can be taken from a scalar. -/
structure Scalar where
  text : String
  /-- The integer that the scalar is, if it is one that is not negative. -/
  natural? : Option Nat
  /-- Whether the scalar says that there is no value, unless its tag and its text disagree on it. -/
  absent? : Option Bool
  /-- Whether nothing is written where the scalar is. -/
  empty : Bool
  deriving DecidableEq, Repr

/-- A node, or the place where a document stops being readable. -/
inductive Node where
  | scalar (s : Scalar)
  | sequence (items : List Node) (closed : Bool)
  | mapping (entries : List (Node × Node)) (closed : Bool)
  | lost

mutual

/-- Decides whether two trees are equal. -/
def Node.decEq : (n n' : Node) → Decidable (n = n')
  | .scalar s, .scalar s' => decidable_of_iff (s = s') (by simp)
  | .sequence items closed, .sequence items' closed' =>
    have := Node.decEqItems items items'
    decidable_of_iff (items = items' ∧ closed = closed') (by simp)
  | .mapping entries closed, .mapping entries' closed' =>
    have := Node.decEqEntries entries entries'
    decidable_of_iff (entries = entries' ∧ closed = closed') (by simp)
  | .lost, .lost => .isTrue rfl
  | .scalar _, .sequence .. | .scalar _, .mapping .. | .scalar _, .lost
  | .sequence .., .scalar _ | .sequence .., .mapping .. | .sequence .., .lost
  | .mapping .., .scalar _ | .mapping .., .sequence .. | .mapping .., .lost
  | .lost, .scalar _ | .lost, .sequence .. | .lost, .mapping .. => .isFalse nofun

/-- Decides whether two lists of trees are equal. -/
def Node.decEqItems : (items items' : List Node) → Decidable (items = items')
  | [], [] => .isTrue rfl
  | n :: items, n' :: items' =>
    have := n.decEq n'
    have := Node.decEqItems items items'
    decidable_of_iff (n = n' ∧ items = items') (by simp)
  | [], _ :: _ | _ :: _, [] => .isFalse nofun

/-- Decides whether two lists of entries are equal. -/
def Node.decEqEntries :
    (entries entries' : List (Node × Node)) → Decidable (entries = entries')
  | [], [] => .isTrue rfl
  | (key, value) :: entries, (key', value') :: entries' =>
    have := key.decEq key'
    have := value.decEq value'
    have := Node.decEqEntries entries entries'
    decidable_of_iff ((key = key' ∧ value = value') ∧ entries = entries') (by simp)
  | [], _ :: _ | _ :: _, [] => .isFalse nofun

end

instance : DecidableEq Node := Node.decEq

/-- A whole text: its root, and whether nothing but the root is in it. -/
structure Document where
  root : Node
  clean : Bool
  deriving DecidableEq

end Gatehouse.Yaml
