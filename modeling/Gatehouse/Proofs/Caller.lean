import Gatehouse.Caller
import Gatehouse.Proofs.Gate
import Gatehouse.Proofs.Metadata

/-!
# The name of a caller is the first one

An identity depends on the metadata only through the first value under the consumer's key. What is
appended behind that value, under this key in any letter case or under others, changes nothing.
-/

namespace Gatehouse

namespace Metadata

/-- Only the entries of a key matter to its values. -/
theorem getAll_appendAll_filter (m : Metadata) (key : String) (entries : List (String × String)) :
    (m.appendAll (entries.filter fun e ↦ SameText e.1 key)).getAll key =
      (m.appendAll entries).getAll key := by
  rw [getAll_appendAll, getAll_appendAll, valuesUnder, valuesUnder, List.filter_filter]
  simp only [Bool.and_self]

/-- The first value of a key stays the first. -/
theorem get?_appendAll {m : Metadata} {key value : String} (held : m.get? key = some value)
    (later : List (String × String)) : (m.appendAll later).get? key = some value := by
  rw [get?_eq_head?] at held ⊢
  rw [getAll_appendAll, List.head?_append, held, Option.some_or]

theorem get?_congr {key key' : String} (same : SameText key key') (m : Metadata) :
    m.get? key = m.get? key' := by
  rw [get?, get?, asciiLower_eq_iff.mpr same]

end Metadata

namespace Identity

open Metadata (consumerKey empty valuesUnder)

variable {metadata metadata' : Metadata}

/-- Metadata matter to an identity by the value under the consumer's key alone. -/
theorem extract_congr (same : metadata.get? consumerKey = metadata'.get? consumerKey)
    (method : String) (peer : Option Address) :
    extract method metadata peer = extract method metadata' peer := by
  rw [extract, extract, same]

theorem consumer_of_extract {method : String} {peer : Option Address} {i : Identity}
    (h : extract method metadata peer = .ok i) : i.consumer = metadata.get? consumerKey := by
  unfold extract at h
  split at h
  · cases h
  · split at h
    · cases h
    · cases h
      rfl

/-- Every look-up finds the values that were appended under its key, read without regard to the
case of ASCII letters, in the order in which they were, and the first of them; the entries under
other keys could as well be left out. Where metadata have a value under the consumer's key in some
letter case, whatever is appended leaves the identity as it is: the first value names the consumer
in its event and in the caller that it becomes. -/
theorem first_consumer_is_kept :
    (∀ entries key,
      (empty.appendAll entries).getAll key = valuesUnder key entries ∧
        (empty.appendAll entries).get? key = (valuesUnder key entries).head?) ∧
    (∀ (m : Metadata) entries key,
      (m.appendAll entries).getAll key = m.getAll key ++ valuesUnder key entries ∧
        (m.appendAll entries).getAll key =
          (m.appendAll (entries.filter fun e ↦ SameText e.1 key)).getAll key) ∧
    (∀ (m : Metadata) key consumer, SameText key consumerKey → m.get? key = some consumer →
      ∀ later method peer,
        extract method (m.appendAll later) peer = extract method m peer ∧
        ∀ i, extract method (m.appendAll later) peer = .ok i →
          i.consumer = some consumer ∧ i.event = ⟨consumer, i.method.text, i.peer.text⟩ ∧
            i.authenticate = .ok ⟨consumer, i.peer, i.method⟩) := by
  have none (key : String) : empty.getAll key = [] := rfl
  refine ⟨fun entries key ↦ ?_, fun m entries key ↦ ⟨m.getAll_appendAll key entries,
    (m.getAll_appendAll_filter key entries).symm⟩, ?_⟩
  · rw [Metadata.get?_eq_head?, Metadata.getAll_appendAll, none, List.nil_append]
    exact ⟨rfl, rfl⟩
  · intro m key consumer same held later method peer
    rw [Metadata.get?_congr same] at held
    have kept := Metadata.get?_appendAll held later
    refine ⟨extract_congr (kept.trans held.symm) method peer, fun i hi ↦ ?_⟩
    have named : i.consumer = some consumer := (consumer_of_extract hi).trans kept
    refine ⟨named, ?_, ?_⟩
    · rw [event, named, Option.getD_some]
    · rw [authenticate, named]

/-- A second consumer in capitals does not replace the first, and the two cases of a letter that is
not from A to Z are two keys. -/
theorem first_consumer_is_kept_of_smuggled :
    let peer : Address := .v4 ⟨127, 0, 0, 1⟩ 40000
    let m := empty.appendAll [("Consumer", "c1"), ("ä", "x")]
    let later := [("CONSUMER", "root"), ("Ä", "y")]
    extract "/Biz/Add" (m.appendAll later) (some peer) =
        .ok ⟨some "c1", peer, ⟨"Biz", "Add"⟩⟩ ∧
      (m.appendAll later).getAll "consumer" = ["c1", "root"] ∧
      (m.appendAll later).getAll "ä" = ["x"] := by
  intro peer m later
  obtain ⟨-, appended, kept⟩ := first_consumer_is_kept
  have same : SameText "CoNsUmEr" consumerKey := by decide
  have held : m.get? "CoNsUmEr" = some "c1" := by decide
  have first : extract "/Biz/Add" m (some peer) = .ok ⟨some "c1", peer, ⟨"Biz", "Add"⟩⟩ := rfl
  refine ⟨(kept m "CoNsUmEr" "c1" same held later "/Biz/Add" (some peer)).1.trans first, ?_, ?_⟩
  · exact (appended m later "consumer").1
  · exact (appended m later "ä").1

end Identity

end Gatehouse
