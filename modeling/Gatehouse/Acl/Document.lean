import Gatehouse.Acl
import Gatehouse.Json.Decode

/-!
# Access lists as JSON documents

The written form of the rules is one JSON object from consumers to lists of patterns. A consumer
that occurs again replaces its earlier list.
-/

namespace Gatehouse.Acl

/-- Reads raw rules. -/
def rulesReading (v : Json.Value) : Json.Reading RawRules :=
  v.asMap fun patterns => patterns.asList Json.Value.asText

/-- The fault of a text that does not hold rules. -/
def unreadable : Fault := .config "invalid acl json"

/-- Compiles rules; the first bad consumer fails. -/
def compile (raw : RawRules) : Except Fault Acl :=
  match ofRules raw with
  | .ok acl => .ok acl
  | .error e => .error e.fault

/-- Compiles the rules of a JSON text. -/
def ofJson (s : String) : Except Fault Acl :=
  match Json.decode rulesReading s with
  | .error _ => .error unreadable
  | .ok raw => compile raw

end Gatehouse.Acl
