import Gatehouse.Yaml.Lexer
import Gatehouse.Yaml.Written

/-!
# Reading YAML documents

Nodes are read from tokens. Where the tokens end or do not fit, the document is lost from
there on; all that was read before stays in the tree. This is one reader of YAML texts; what is
proved about configurations holds for any.
-/

namespace Gatehouse.Yaml

/-- The tokens that are left, and what is known of names behind them. -/
structure Reader where
  tokens : List Token
  /-- What the handles of tags stand for. -/
  handles : List (String × String)
  /-- The number of each anchor's name. -/
  names : List (String × Nat)

/-- The anchor and the tag in front of a node. -/
structure Properties where
  anchor : Option Nat
  tag : Option String

namespace Reader

/-- The reader with other tokens left. -/
def jump (r : Reader) (tokens : List Token) : Reader := { r with tokens }

/-- The number of the last anchor with a name. -/
def number? (r : Reader) (name : String) : Option Nat :=
  (r.names.find? fun e => e.1 == name).map (·.2)

/-- Gives an anchor's name the number of names known so far. -/
def define (r : Reader) (name : String) : Reader :=
  { r with names := (name, r.names.length) :: r.names.filter fun e => e.1 != name }

/-- The number that `define` gives. -/
def nextNumber (r : Reader) : Nat := r.names.length

/-- Reads an anchor if there is one. -/
def anchor (r : Reader) : Option Nat × Reader :=
  match r.tokens with
  | .anchor name :: rest => (some r.nextNumber, (r.define name).jump rest)
  | _ => (none, r)

/-- Reads a tag if there is one, whose handle must be known. -/
def tag (r : Reader) : Option (Option String × Reader) :=
  match r.tokens with
  | .tag t :: rest =>
    if t.handle = "" then some (some t.suffix, r.jump rest)
    else (r.handles.lookup t.handle).map fun stands => (some (stands ++ t.suffix), r.jump rest)
  | _ => some (none, r)

/-- Reads an anchor and a tag, in either order. -/
def properties (r : Reader) : Option (Properties × Reader) :=
  let (first, r) := r.anchor
  match r.tag with
  | none => none
  | some (tag, r) =>
    if first.isSome then some (⟨first, tag⟩, r)
    else
      let (anchor, r) := r.anchor
      some (⟨anchor, tag⟩, r)

end Reader

namespace Properties

/-- Whether there are none. -/
def isEmpty (p : Properties) : Bool := p.anchor.isNone && p.tag.isNone

/-- The node with its anchor. -/
def mark (p : Properties) (w : Written) : Written :=
  match p.anchor with
  | some id => .anchored id w
  | none => w

/-- The scalar with its tag. -/
def scalar (p : Properties) (style : Style) (text : String) : Written :=
  .scalar (.of style p.tag text)

end Properties

/-- The node for which the text has nothing. -/
def nothing : Written := .scalar (.of .plain none "")

/-- Whether no node stands before the token in a block mapping. -/
def endsBlockNode : Token → Bool
  | .key | .value | .blockEnd => true
  | _ => false

/-- Whether no node stands before the token in an unindented sequence. -/
def endsUnindented : Token → Bool
  | .blockEntry => true
  | t => endsBlockNode t

/-- Whether no node stands before the token in an indented sequence. -/
def endsItem : Token → Bool
  | .blockEntry | .blockEnd => true
  | _ => false

/-- Whether no value stands before the token in a flow collection with this closing bracket. -/
def endsFlowNode (close : Token) (t : Token) : Bool := t == .flowEntry || t == close

/-- A node and the reader behind it, unless the document is lost. -/
abbrev NodeStep := Written × Option Reader

/-- Items, whether their end was reached, and the reader behind them. -/
abbrev ItemsStep := List Written × Bool × Option Reader

/-- Entries, whether their end was reached, and the reader behind them. -/
abbrev EntriesStep := List (Written × Written) × Bool × Option Reader

mutual

/-- Reads a node with its anchor and its tag, or an alias. `block` lets block collections begin,
`unindented` a sequence whose dashes stand under the mapping's keys. -/
def readNode : Nat → (block unindented : Bool) → Reader → NodeStep
  | 0, _, _, _ => (.lost, none)
  | fuel + 1, block, unindented, r =>
    match r.tokens with
    | .alias name :: rest =>
      match r.number? name with
      | some id => (.alias id, some (r.jump rest))
      | none => (.lost, none)
    | _ =>
      match r.properties with
      | none => (.lost, none)
      | some (p, r) =>
        let (w, next) := readContent fuel block unindented p r
        (p.mark w, next)

/-- Reads a node behind its anchor and its tag. Behind one of them there may be nothing. -/
def readContent : Nat → (block unindented : Bool) → Properties → Reader → NodeStep
  | 0, _, _, _, _ => (.lost, none)
  | fuel + 1, block, unindented, p, r =>
    let other : NodeStep := if p.isEmpty then (.lost, none) else (p.scalar .plain "", some r)
    match r.tokens with
    | [] => (.lost, none)
    | .blockEntry :: _ =>
      if unindented then
        let (items, closed, next) := readUnindented fuel r
        (.sequence items closed, next)
      else other
    | .scalar style text :: rest => (p.scalar style text, some (r.jump rest))
    | .flowSequence :: rest =>
      let (items, closed, next) := readFlowItems fuel true (r.jump rest)
      (.sequence items closed, next)
    | .flowMapping :: rest =>
      let (entries, closed, next) := readFlowEntries fuel true (r.jump rest)
      (.mapping entries closed, next)
    | .blockSequence :: rest =>
      if block then
        let (items, closed, next) := readItems fuel (r.jump rest)
        (.sequence items closed, next)
      else other
    | .blockMapping :: rest =>
      if block then
        let (entries, closed, next) := readEntries fuel (r.jump rest)
        (.mapping entries closed, next)
      else other
    | _ => other

/-- Reads a node of a block collection unless a token that `ends` holds of stands there. -/
def readBlockNode : Nat → (ends : Token → Bool) → (unindented : Bool) → Reader → NodeStep
  | 0, _, _, _ => (.lost, none)
  | fuel + 1, ends, unindented, r =>
    match r.tokens with
    | [] => (.lost, none)
    | t :: _ => if ends t then (nothing, some r) else readNode fuel true unindented r

/-- Reads the items of an indented sequence. -/
def readItems : Nat → Reader → ItemsStep
  | 0, _ => ([], false, none)
  | fuel + 1, r =>
    match r.tokens with
    | .blockEntry :: rest =>
      match readBlockNode fuel endsItem false (r.jump rest) with
      | (n, none) => ([n], false, none)
      | (n, some r) =>
        let (items, closed, next) := readItems fuel r
        (n :: items, closed, next)
    | .blockEnd :: rest => ([], true, some (r.jump rest))
    | _ => ([], false, none)

/-- Reads the items of an unindented sequence. -/
def readUnindented : Nat → Reader → ItemsStep
  | 0, _ => ([], false, none)
  | fuel + 1, r =>
    match r.tokens with
    | [] => ([], false, none)
    | .blockEntry :: rest =>
      match readBlockNode fuel endsUnindented false (r.jump rest) with
      | (n, none) => ([n], false, none)
      | (n, some r) =>
        let (items, closed, next) := readUnindented fuel r
        (n :: items, closed, next)
    | _ => ([], true, some r)

/-- Reads the value of a block mapping's key. -/
def readBlockValue : Nat → Reader → NodeStep
  | 0, _ => (.lost, none)
  | fuel + 1, r =>
    match r.tokens with
    | [] => (.lost, none)
    | .value :: rest => readBlockNode fuel endsBlockNode true (r.jump rest)
    | _ => (nothing, some r)

/-- Reads the entries of a block mapping. -/
def readEntries : Nat → Reader → EntriesStep
  | 0, _ => ([], false, none)
  | fuel + 1, r =>
    match r.tokens with
    | .key :: rest =>
      match readBlockNode fuel endsBlockNode true (r.jump rest) with
      | (k, none) => ([(k, .lost)], false, none)
      | (k, some r) =>
        match readBlockValue fuel r with
        | (v, none) => ([(k, v)], false, none)
        | (v, some r) =>
          let (entries, closed, next) := readEntries fuel r
          ((k, v) :: entries, closed, next)
    | .blockEnd :: rest => ([], true, some (r.jump rest))
    | _ => ([], false, none)

/-- Reads a node of a flow collection unless a token that `ends` holds of stands there. -/
def readFlowNode : Nat → (ends : Token → Bool) → Reader → NodeStep
  | 0, _, _ => (.lost, none)
  | fuel + 1, ends, r =>
    match r.tokens with
    | [] => (.lost, none)
    | t :: _ => if ends t then (nothing, some r) else readNode fuel false false r

/-- Reads the value of a flow collection's key. -/
def readFlowValue : Nat → (close : Token) → Reader → NodeStep
  | 0, _, _ => (.lost, none)
  | fuel + 1, close, r =>
    match r.tokens with
    | [] => (.lost, none)
    | .value :: rest => readFlowNode fuel (endsFlowNode close) (r.jump rest)
    | _ => (nothing, some r)

/-- Reads a mapping of one entry inside a flow sequence, behind the token of its key. The token
behind a key that is not there is passed over. -/
def readPair : Nat → Reader → NodeStep
  | 0, _ => (.lost, none)
  | fuel + 1, r =>
    let key : NodeStep :=
      match r.tokens with
      | [] => (.lost, none)
      | t :: rest =>
        if t == .value || endsFlowNode .flowSequenceEnd t then (nothing, some (r.jump rest))
        else readNode fuel false false r
    match key with
    | (k, none) => (.mapping [(k, .lost)] false, none)
    | (k, some r) =>
      match readFlowValue fuel .flowSequenceEnd r with
      | (v, none) => (.mapping [(k, v)] false, none)
      | (v, some r) => (.mapping [(k, v)] true, some r)

/-- Reads an item of a flow sequence and those behind it. -/
def readFlowItem : Nat → Reader → ItemsStep
  | 0, _ => ([], false, none)
  | fuel + 1, r =>
    let item : NodeStep :=
      match r.tokens with
      | .key :: rest => readPair fuel (r.jump rest)
      | _ => readNode fuel false false r
    match item with
    | (n, none) => ([n], false, none)
    | (n, some r) =>
      let (items, closed, next) := readFlowItems fuel false r
      (n :: items, closed, next)

/-- Reads the items of a flow sequence. -/
def readFlowItems : Nat → (first : Bool) → Reader → ItemsStep
  | 0, _, _ => ([], false, none)
  | fuel + 1, first, r =>
    match r.tokens with
    | [] => ([], false, none)
    | .flowSequenceEnd :: rest => ([], true, some (r.jump rest))
    | t :: rest =>
      if first then readFlowItem fuel r
      else if t == .flowEntry then
        match rest with
        | [] => ([], false, none)
        | .flowSequenceEnd :: rest => ([], true, some (r.jump rest))
        | _ => readFlowItem fuel (r.jump rest)
      else ([], false, none)

/-- Reads an entry of a flow mapping and those behind it. A key without a colon has no value. -/
def readFlowEntry : Nat → Reader → EntriesStep
  | 0, _ => ([], false, none)
  | fuel + 1, r =>
    let ends := fun t => t == .value || endsFlowNode .flowMappingEnd t
    let entry : Written × NodeStep :=
      match r.tokens with
      | .key :: rest =>
        match readFlowNode fuel ends (r.jump rest) with
        | (k, none) => (k, .lost, none)
        | (k, some r) => (k, readFlowValue fuel .flowMappingEnd r)
      | _ =>
        match readNode fuel false false r with
        | (k, none) => (k, .lost, none)
        | (k, some r) => (k, if r.tokens.isEmpty then (.lost, none) else (nothing, some r))
    match entry with
    | (k, v, none) => ([(k, v)], false, none)
    | (k, v, some r) =>
      let (entries, closed, next) := readFlowEntries fuel false r
      ((k, v) :: entries, closed, next)

/-- Reads the entries of a flow mapping. -/
def readFlowEntries : Nat → (first : Bool) → Reader → EntriesStep
  | 0, _, _ => ([], false, none)
  | fuel + 1, first, r =>
    match r.tokens with
    | [] => ([], false, none)
    | .flowMappingEnd :: rest => ([], true, some (r.jump rest))
    | t :: rest =>
      if first then readFlowEntry fuel r
      else if t == .flowEntry then
        match rest with
        | [] => ([], false, none)
        | .flowMappingEnd :: rest => ([], true, some (r.jump rest))
        | _ => readFlowEntry fuel (r.jump rest)
      else ([], false, none)

end

/-- Whether the tokens behind the root end the only document. -/
def endsStream (ts : List Token) : Bool := ts.dropWhile (· == .documentEnd) == [.streamEnd]

/-- The handles that need no directive. -/
def knownHandles : List (String × String) := [("!", "!"), ("!!", languagePrefix)]

/-- Whether the version is one of the language that is read. -/
def isReadVersion (major minor : Nat) : Bool := major == 1 && (minor == 1 || minor == 2)

/-- Reads directives: at most one for the version, and at most one for each handle. -/
def readDirectives (versioned : Bool) (handles : List (String × String)) :
    List Token → Option (List (String × String) × List Token)
  | .directive (.version major minor) :: rest =>
    if versioned || !isReadVersion major minor then none else readDirectives true handles rest
  | .directive (.tag handle stands) :: rest =>
    if (handles.lookup handle).isSome then none
    else readDirectives versioned (handles ++ [(handle, stands)]) rest
  | ts => some (handles, ts)

/-- Whether the root is missing in front of the token. -/
def endsRoot : Token → Bool
  | .directive _ | .documentStart | .documentEnd | .streamEnd => true
  | _ => false

/-- Reads the root behind directives and a document's mark, where there may be nothing. -/
def readMarked (ts : List Token) : NodeStep :=
  match readDirectives false [] ts with
  | some (handles, .documentStart :: rest) =>
    let r : Reader := ⟨rest, handles ++ knownHandles, []⟩
    match rest with
    | [] => (.lost, none)
    | t :: _ => if endsRoot t then (nothing, some r) else readNode (4 * ts.length + 4) true false r
  | _ => (.lost, none)

/-- Reads the root. -/
def readRoot (ts : List Token) : NodeStep :=
  let r : Reader := ⟨ts, knownHandles, []⟩
  match ts with
  | .directive _ :: _ => readMarked ts
  | .documentStart :: _ => readMarked ts
  | [.streamEnd] => (nothing, some r)
  | _ => readNode (4 * ts.length + 4) true false r

/-- Reads the only document of a text. An empty text holds an empty document. -/
def Document.read (s : String) : Document :=
  let (root, next) := readRoot (tokens s.toList)
  ⟨root.tree, next.any fun r => endsStream r.tokens⟩

end Gatehouse.Yaml
