import Gatehouse.Yaml.Node

/-!
# Following aliases

A node as it is written has anchors and aliases. Its tree has what the aliases name in their
places, in the order in which the tree is read. An alias may stand inside the node that it names;
the tree is lost where collections are nested too deep or aliases were followed too often.
-/

namespace Gatehouse.Yaml

/-- A node as it is written, or the place where a text stops being readable. -/
inductive Written where
  | scalar (s : Scalar)
  | sequence (items : List Written) (closed : Bool)
  | mapping (entries : List (Written × Written)) (closed : Bool)
  | alias (id : Nat)
  | anchored (id : Nat) (node : Written)
  | lost

namespace Written

mutual

/-- The anchored nodes of a node in the order in which they begin. -/
def anchors : Written → List (Nat × Written)
  | .anchored id w => (id, w) :: w.anchors
  | .sequence items _ => itemAnchors items
  | .mapping entries _ => entryAnchors entries
  | _ => []

/-- The anchored nodes of items. -/
def itemAnchors : List Written → List (Nat × Written)
  | [] => []
  | w :: rest => w.anchors ++ itemAnchors rest

/-- The anchored nodes of entries. -/
def entryAnchors : List (Written × Written) → List (Nat × Written)
  | [] => []
  | (k, v) :: rest => k.anchors ++ v.anchors ++ entryAnchors rest

end

mutual

/-- The number of events that a node is read in: a collection has one where it begins and one where
it ends. -/
def events : Written → Nat
  | .anchored _ w => w.events
  | .sequence items closed => 1 + itemEvents items + closed.toNat
  | .mapping entries closed => 1 + entryEvents entries + closed.toNat
  | .lost => 0
  | _ => 1

/-- The number of events of items. -/
def itemEvents : List Written → Nat
  | [] => 0
  | w :: rest => w.events + itemEvents rest

/-- The number of events of entries. -/
def entryEvents : List (Written × Written) → Nat
  | [] => 0
  | (k, v) :: rest => k.events + v.events + entryEvents rest

end

/-- The node without its anchor. -/
def bare : Written → Written
  | .anchored _ w => w
  | w => w

/-- The last node anchored under a number. -/
def target (table : List (Nat × Written)) (id : Nat) : Written :=
  ((table.reverse.find? fun e => e.1 == id).map (·.2)).getD .lost

/-- The node that a node stands for, and how many aliases may still be followed, of `left`. -/
def follow (table : List (Nat × Written)) (left : Nat) (w : Written) : Option (Written × Nat) :=
  match w.bare with
  | .alias id => if left = 0 then none else some ((target table id).bare, left - 1)
  | w => some (w, left)

/-- A tree, and how many aliases may still be followed unless the document is lost. -/
abbrev Unfolding (α : Type) := α × Option Nat

/-- The trees of items in order. -/
def unfoldItems (unfold : Nat → Written → Unfolding Node) :
    Nat → List Written → Unfolding (List Node)
  | left, [] => ([], some left)
  | left, w :: rest =>
    match unfold left w with
    | (n, none) => ([n], none)
    | (n, some left) =>
      let (ns, left) := unfoldItems unfold left rest
      (n :: ns, left)

/-- The trees of entries in order. -/
def unfoldEntries (unfold : Nat → Written → Unfolding Node) :
    Nat → List (Written × Written) → Unfolding (List (Node × Node))
  | left, [] => ([], some left)
  | left, (k, v) :: rest =>
    match unfold left k with
    | (n, none) => ([(n, .lost)], none)
    | (n, some left) =>
      match unfold left v with
      | (m, none) => ([(n, m)], none)
      | (m, some left) =>
        let (ns, left) := unfoldEntries unfold left rest
        ((n, m) :: ns, left)

/-- The tree of a node, inside which collections may be nested `depth` deep. -/
def unfold (table : List (Nat × Written)) : (depth left : Nat) → Written → Unfolding Node
  | 0, left, w =>
    match follow table left w with
    | some (.scalar s, left) => (.scalar s, some left)
    | _ => (.lost, none)
  | depth + 1, left, w =>
    match follow table left w with
    | some (.scalar s, left) => (.scalar s, some left)
    | some (.sequence items closed, left) =>
      let (ns, left) := unfoldItems (unfold table depth) left items
      (.sequence ns (closed && left.isSome), if closed then left else none)
    | some (.mapping entries closed, left) =>
      let (ns, left) := unfoldEntries (unfold table depth) left entries
      (.mapping ns (closed && left.isSome), if closed then left else none)
    | _ => (.lost, none)

/-- How deep collections may be nested. -/
def depthLimit : Nat := 128

/-- How many aliases may be followed for each event of a text. -/
def repetitionLimit : Nat := 100

/-- The tree of a root. -/
def tree (root : Written) : Node :=
  (root.unfold root.anchors depthLimit (repetitionLimit * root.events)).1

end Written

end Gatehouse.Yaml
