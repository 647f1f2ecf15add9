import Gatehouse.Yaml.Node

/-!
# Places in trees of YAML documents

A place in a tree is a path of keys. Trees may be the same but at one place.
-/

namespace Gatehouse.Yaml

/-- The entries at a place of a tree: those of a mapping, and none where nothing is written. -/
inductive Node.Has : Node → List (Node × Node) → Prop
  | mapping (entries : List (Node × Node)) : Has (.mapping entries true) entries
  | nothing {s : Scalar} (h : s.empty = true) : Has (.scalar s) []

/-- Trees that are the same but at a path, where the first has one tree and the second another. -/
inductive Replaced (n n' : Node) : List String → Node → Node → Prop
  | here : Replaced n n' [] n n'
  | under {path : List String} {v v' : Node} {name : String} (key : Scalar)
    (named : key.text = name) (before after : List (Node × Node)) (h : Replaced n n' path v v') :
    Replaced n n' (name :: path) (.mapping (before ++ (.scalar key, v) :: after) true)
      (.mapping (before ++ (.scalar key, v') :: after) true)

namespace Replaced

variable {n n' t t' : Node}

theorem of_nil (h : Replaced n n' [] t t') : t = n ∧ t' = n' := by
  cases h
  exact ⟨rfl, rfl⟩

theorem of_cons {name : String} {path : List String} (h : Replaced n n' (name :: path) t t') :
    ∃ key before after v v', key.text = name ∧ Replaced n n' path v v' ∧
      t = .mapping (before ++ (.scalar key, v) :: after) true ∧
      t' = .mapping (before ++ (.scalar key, v') :: after) true := by
  cases h with
  | under key named before after h => exact ⟨key, before, after, _, _, named, h, rfl, rfl⟩

end Replaced

end Gatehouse.Yaml
