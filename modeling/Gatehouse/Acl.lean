import Gatehouse.Pattern
import Gatehouse.TextMap

/-!
# Access control lists

An access control list maps consumers to the patterns of the methods they may call. It is
compiled once; a decision only looks at the consumer's own patterns.
-/

namespace Gatehouse

/-- Why a call is refused by the list. -/
inductive Denial where
  /-- The list has no entry for the consumer. -/
  | unknownConsumer
  /-- No pattern of the consumer names the method. -/
  | methodNotPermitted
  deriving DecidableEq, Repr

namespace Denial

/-- The name of the reason in metrics and logs. -/
def label : Denial → String
  | .unknownConsumer => "unknown_consumer"
  | .methodNotPermitted => "method_not_permitted"

/-- The reason in words. -/
def text : Denial → String
  | .unknownConsumer => "consumer not in acl"
  | .methodNotPermitted => "method not permitted for consumer"

end Denial

/-- What the list says about a call. -/
inductive Decision where
  | allow
  | deny (why : Denial)
  deriving DecidableEq, Repr

/-- Rules as they are written: consumers and their raw patterns. -/
abbrev RawRules := TextMap (List String)

/-- A compiled access control list. -/
structure Acl where
  /-- The patterns of each consumer. -/
  rules : TextMap (List Pattern)
  deriving DecidableEq

namespace Acl

/-- The first consumer with a bad pattern, and what is wrong with it. -/
structure Invalid where
  consumer : String
  cause : Pattern.Invalid
  deriving DecidableEq, Repr

/-- The fault that a bad rule becomes. -/
def Invalid.fault (e : Invalid) : Fault :=
  .config ("acl compile failed (consumer=" ++ e.consumer ++ "): " ++ e.cause.fault.message)

/-- Compiles entries in order onto the rules compiled so far. -/
def compileEntries (rules : TextMap (List Pattern)) :
    List (String × List String) → Except Invalid (TextMap (List Pattern))
  | [] => .ok rules
  | (consumer, sources) :: rest =>
    match Pattern.compileAll sources with
    | .error cause => .error ⟨consumer, cause⟩
    | .ok patterns => compileEntries (rules.insert consumer patterns) rest

/-- Compiles rules, consumers in ascending order. -/
def ofRules (raw : RawRules) : Except Invalid Acl :=
  (compileEntries .empty raw.entries).map Acl.mk

/-- What the list says about a consumer calling a method. -/
def judge (acl : Acl) (consumer method : String) : Decision :=
  match acl.rules.get? consumer with
  | none => .deny .unknownConsumer
  | some patterns =>
    if Pattern.anyCovers patterns method then .allow else .deny .methodNotPermitted

/-- Whether the list lets the consumer call the method. -/
def allows (acl : Acl) (consumer method : String) : Bool :=
  acl.judge consumer method = .allow

/-- The number of consumers. -/
def consumers (acl : Acl) : Nat := acl.rules.size

end Acl

end Gatehouse
