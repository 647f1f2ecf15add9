import Gatehouse.Json.Decode
import Gatehouse.Json.Printer
import Gatehouse.Snapshot

/-!
# Frames

The text of one item of an admin stream: a JSON object with the fields of an event or of a
snapshot. Reading is strict about fields and also takes a list of the field values in order.
-/

namespace Gatehouse

open Json (Problem Reading Value)

namespace Event

/-- The fields of an event in a frame. -/
def fields : List String := ["consumer", "method", "host_address"]

/-- The frame of an event. -/
def frame (e : Event) : String :=
  Json.objectText [("consumer", Json.stringText e.consumer), ("method", Json.stringText e.method),
    ("host_address", Json.stringText e.host)]

/-- An event whose fields are not all known yet. -/
structure Partial where
  consumer : Option String
  method : Option String
  host : Option String

/-- Sets one field. -/
def Partial.set (p : Partial) (name : String) (v : Value) : Reading Partial :=
  v.asText.map fun s =>
    if name = "consumer" then { p with consumer := some s }
    else if name = "method" then { p with method := some s }
    else { p with host := some s }

/-- Reads an event from the entries of an object. -/
def ofEntries (entries : List (String × Value)) (tail : Json.Tail) : Reading Event := do
  let p ← Schema.readFields fields Problem.ofComplaint .ok Partial.set [] ⟨none, none, none⟩ entries
  tail.check
  let consumer ← Schema.require Problem.ofComplaint "consumer" p.consumer
  let method ← Schema.require Problem.ofComplaint "method" p.method
  let host ← Schema.require Problem.ofComplaint "host_address" p.host
  return ⟨consumer, method, host⟩

/-- Reads the text at a place of a list. -/
def textAt (items : List Value) (tail : Json.Tail) (i : Nat) : Reading String := do
  match ← Value.item? items tail i with
  | some v => v.asText
  | none => throw (.mismatch none)

/-- Reads an event from a list of its field values. -/
def ofItems (items : List Value) (tail : Json.Tail) : Reading Event := do
  let consumer ← textAt items tail 0
  let method ← textAt items tail 1
  let host ← textAt items tail 2
  Value.checkLength items tail 3
  return ⟨consumer, method, host⟩

/-- Reads an event. -/
def reading : Value → Reading Event
  | .object entries tail => ofEntries entries tail
  | .list items tail => ofItems items tail
  | v => throw v.mismatch

/-- The event that a frame holds. -/
def ofFrame (s : String) : Reading Event := Json.decode reading s

end Event

namespace Snapshot

/-- The fields of a snapshot in a frame. -/
def fields : List String := ["by_method", "by_consumer"]

/-- The frame of a snapshot, keys in ascending order. -/
def frame (s : Snapshot) : String :=
  Json.objectText [("by_method", Json.countsText s.byMethod),
    ("by_consumer", Json.countsText s.byConsumer)]

/-- Sets one field. -/
def set (s : Snapshot) (name : String) (v : Value) : Reading Snapshot :=
  (v.asMap Value.asCount).map fun m =>
    if name = "by_method" then { s with byMethod := m } else { s with byConsumer := m }

/-- Reads a snapshot from the entries of an object. A missing field is an empty map. -/
def ofEntries (entries : List (String × Value)) (tail : Json.Tail) : Reading Snapshot := do
  let s ← Schema.readFields fields Problem.ofComplaint .ok set [] empty entries
  tail.check
  return s

/-- Reads the counts at a place of a list. Places that are not there are empty maps. -/
def countsAt (items : List Value) (tail : Json.Tail) (i : Nat) : Reading (TextMap UInt64) := do
  match ← Value.item? items tail i with
  | some v => v.asMap Value.asCount
  | none => return .empty

/-- Reads a snapshot from a list of its field values. -/
def ofItems (items : List Value) (tail : Json.Tail) : Reading Snapshot := do
  let byMethod ← countsAt items tail 0
  let byConsumer ← countsAt items tail 1
  Value.checkLength items tail 2
  return ⟨byMethod, byConsumer⟩

/-- Reads a snapshot. -/
def reading : Value → Reading Snapshot
  | .object entries tail => ofEntries entries tail
  | .list items tail => ofItems items tail
  | v => throw v.mismatch

/-- The snapshot that a frame holds. -/
def ofFrame (s : String) : Reading Snapshot := Json.decode reading s

end Snapshot

end Gatehouse
