import Gatehouse.Config
import Gatehouse.Schema
import Gatehouse.Yaml.Node

/-!
# Configurations as YAML documents

The schema of a configuration file: three sections with fixed fields, of which all but the
version and the access rules may be left out. A document is read in order, and the first place
that does not fit decides the fault. How a text becomes a document is a parameter.
-/

namespace Gatehouse.Config

open Yaml (Document Node)

/-- Why a document holds no draft. -/
inductive Problem where
  /-- The text is no YAML, or a value has the wrong shape. -/
  | unreadable
  /-- The keys of a section are wrong. -/
  | fields (complaint : Schema.Complaint)
  deriving DecidableEq, Repr

/-- The fault that a problem becomes. -/
def Problem.fault : Problem → Fault
  | .unreadable => .config "invalid yaml"
  | .fields complaint => .config ("invalid yaml: " ++ complaint.message)

/-- What a reading gives. -/
abbrev Reading (α : Type) := Except Problem α

/-- Fails unless the end of a collection was reached. -/
def checkClosed (closed : Bool) : Reading Unit := if closed then .ok () else .error .unreadable

/-- Reads a scalar as it is written. -/
def textOf : Node → Reading String
  | .scalar s => .ok s.text
  | _ => .error .unreadable

/-- Reads an integer below a bound. -/
def numberOf (bound : Nat) : Node → Reading Nat
  | .scalar s =>
    match s.natural? with
    | some v => if v < bound then .ok v else .error .unreadable
    | none => .error .unreadable
  | _ => .error .unreadable

/-- Reads whether the node says that there is no value. -/
def isAbsent : Node → Reading Bool
  | .scalar s =>
    match s.absent? with
    | some absent => .ok absent
    | none => .error .unreadable
  | _ => .ok false

/-- Reads a value that may be absent. -/
def optional {α : Type} (reading : Node → Reading α) (n : Node) : Reading (Option α) :=
  match isAbsent n with
  | .error e => .error e
  | .ok true => .ok none
  | .ok false => (reading n).map some

/-- The entries of a mapping; a place where nothing is written is an empty one. -/
def entriesOf : Node → Reading (List (Node × Node) × Bool)
  | .mapping entries closed => .ok (entries, closed)
  | .scalar s => if s.empty then .ok ([], true) else .error .unreadable
  | _ => .error .unreadable

/-- Reads items in order. -/
def readTexts : List Node → Reading (List String)
  | [] => .ok []
  | n :: rest =>
    match textOf n with
    | .error e => .error e
    | .ok s => (readTexts rest).map (s :: ·)

/-- Reads a list of texts; a place where nothing is written is an empty one. -/
def textsOf : Node → Reading (List String)
  | .sequence items closed =>
    match readTexts items with
    | .error e => .error e
    | .ok ss => (checkClosed closed).map fun _ => ss
  | .scalar s => if s.empty then .ok [] else .error .unreadable
  | _ => .error .unreadable

/-- Reads rules in order onto those read so far; the last list of a consumer wins. -/
def readRules (rules : RawRules) : List (Node × Node) → Reading RawRules
  | [] => .ok rules
  | (k, v) :: rest =>
    match textOf k with
    | .error e => .error e
    | .ok consumer =>
      match textsOf v with
      | .error e => .error e
      | .ok patterns => readRules (rules.insert consumer patterns) rest

/-- Reads access rules. -/
def rulesOf (n : Node) : Reading RawRules :=
  match entriesOf n with
  | .error e => .error e
  | .ok (entries, closed) =>
    match readRules .empty entries with
    | .error e => .error e
    | .ok rules => (checkClosed closed).map fun _ => rules

/-- Reads a section with fixed fields. -/
def sectionOf {σ : Type} (fields : List String) (set : σ → String → Node → Reading σ) (s : σ)
    (n : Node) : Reading σ :=
  match entriesOf n with
  | .error e => .error e
  | .ok (entries, closed) =>
    match Schema.readFields fields Problem.fields textOf set [] s entries with
    | .error e => .error e
    | .ok s => (checkClosed closed).map fun _ => s

/-- The section `gateway`. -/
structure GatewaySection where
  listen : String
  subscriberQueue : Nat
  maxInterval : Nat

/-- The section `gateway` when it is left out. -/
def GatewaySection.default : GatewaySection := ⟨defaultListen, defaultQueue, defaultMaxInterval⟩

/-- The fields of the section `gateway`. -/
def GatewaySection.fields : List String :=
  ["listen", "subscriber_queue", "max_stats_interval_secs"]

/-- Sets a field of the section `gateway`. -/
def GatewaySection.set (s : GatewaySection) (name : String) (n : Node) : Reading GatewaySection :=
  if name = "listen" then (textOf n).map fun t => { s with listen := t }
  else if name = "subscriber_queue" then
    (numberOf UInt64.size n).map fun v => { s with subscriberQueue := v }
  else (numberOf UInt64.size n).map fun v => { s with maxInterval := v }

/-- The section `acl`. -/
structure AclSection where
  path : Option String
  rules : Option RawRules

/-- The fields of the section `acl`. -/
def AclSection.fields : List String := ["path", "rules"]

/-- Sets a field of the section `acl`. -/
def AclSection.set (s : AclSection) (name : String) (n : Node) : Reading AclSection :=
  if name = "path" then (optional textOf n).map fun p => { s with path := p }
  else (optional rulesOf n).map fun r => { s with rules := r }

/-- The sections that were read so far. -/
structure Sections where
  version : Option Nat
  gateway : GatewaySection
  acl : Option AclSection

/-- The sections of a configuration. -/
def Sections.fields : List String := ["version", "gateway", "acl"]

/-- Sets a section. -/
def Sections.set (s : Sections) (name : String) (n : Node) : Reading Sections :=
  if name = "version" then (numberOf UInt32.size n).map fun v => { s with version := some v }
  else if name = "gateway" then
    (sectionOf GatewaySection.fields GatewaySection.set .default n).map
      fun g => { s with gateway := g }
  else
    (sectionOf AclSection.fields AclSection.set ⟨none, none⟩ n).map
      fun a => { s with acl := some a }

/-- The draft of complete sections. -/
def Sections.draft (s : Sections) : Reading Draft := do
  let version ← Schema.require Problem.fields "version" s.version
  let acl ← Schema.require Problem.fields "acl" s.acl
  return ⟨version, s.gateway.listen, s.gateway.subscriberQueue, s.gateway.maxInterval, acl.path,
    acl.rules⟩

/-- Reads the draft that a node holds. -/
def Draft.ofNode (n : Node) : Reading Draft :=
  match sectionOf Sections.fields Sections.set ⟨none, .default, none⟩ n with
  | .error e => .error e
  | .ok s => s.draft

/-- Reads the draft that a document holds. -/
def Draft.ofDocument (d : Document) : Reading Draft :=
  match Draft.ofNode d.root with
  | .error e => .error e
  | .ok draft => if d.clean then .ok draft else .error .unreadable

/-- The valid configuration that a document holds. -/
def ofDocument (d : Document) : Except Fault Config :=
  match Draft.ofDocument d with
  | .error e => .error e.fault
  | .ok draft =>
    match draft.check with
    | .error e => .error e.fault
    | .ok config => .ok config

/-- The valid configuration that a text holds. -/
def ofText (read : String → Document) (s : String) : Except Fault Config := ofDocument (read s)

end Gatehouse.Config
