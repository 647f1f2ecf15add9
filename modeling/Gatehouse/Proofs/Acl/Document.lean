import Gatehouse.Proofs.Acl
import Gatehouse.Proofs.Config.Checking
import Gatehouse.Proofs.Json.Members

/-!
# Rules in a document and in the configuration

A JSON text gives the access list that the same rules give where the configuration itself has them.
Blanks, escapes and the order of the consumers do not matter, and of the lists of one consumer only
the last does. A text that does not hold rules is a fault of its own.
-/

namespace Gatehouse.Acl

open Json (Denotes Value listOf objectOf)

/-- The value of a document that holds the entries in this order. -/
def rulesValue (entries : List (String × List String)) : Value := objectOf (listOf .text) entries

theorem rulesReading_eq_ok_iff {v : Value} {raw : RawRules} :
    rulesReading v = .ok raw ↔ ∃ entries, v = rulesValue entries ∧ raw = .ofList entries :=
  Json.inverts_asText.asList.asMap_eq_ok_iff

theorem ofJson_of_denotes {s : String} {entries : List (String × List String)}
    (h : Denotes s (rulesValue entries)) : ofJson s = compile (.ofList entries) := by
  rw [ofJson, Json.decode_of_denotes h, rulesReading_eq_ok_iff.mpr ⟨entries, rfl, rfl⟩]

theorem ofJson_of_not_denotes {s : String} (h : ∀ entries, ¬Denotes s (rulesValue entries)) :
    ofJson s = .error unreadable := by
  rw [ofJson]
  split
  · rfl
  · next raw read =>
    obtain ⟨v, denotes, taken⟩ := Json.decode_eq_ok_iff.mp read
    obtain ⟨entries, rfl, -⟩ := rulesReading_eq_ok_iff.mp taken
    exact absurd denotes (h entries)

/-- A text is unreadable just if it holds no rules. -/
theorem ofJson_eq_unreadable_iff {s : String} :
    ofJson s = .error unreadable ↔ ∀ entries, ¬Denotes s (rulesValue entries) := by
  refine ⟨fun failed entries h ↦ ?_, ofJson_of_not_denotes⟩
  rw [ofJson_of_denotes h] at failed
  exact compile_ne (by decide) failed

/-- Whatever is wrong with a text of rules is a fault of the configuration. -/
theorem config_of_ofJson {s : String} {fault : Fault} (h : ofJson s = .error fault) :
    ∃ text, fault = .config text := by
  rw [ofJson] at h
  split at h
  · cases h
    exact ⟨_, rfl⟩
  · obtain ⟨rest, rfl⟩ := exists_text_of_compile h
    exact ⟨_, rfl⟩

theorem exists_denotes_rulesValue (entries : List (String × List String)) :
    ∃ s, Denotes s (rulesValue entries) :=
  Json.exists_denotes_objectOf (Json.exists_spells_listOf Json.exists_spells_text) entries

/-- Every text of the grammar that holds rules, with whatever blanks and escapes, gives what the
rules themselves give: the same list, or the same fault. The order of the consumers does not matter.
A list that is given for a consumer before another one has no effect, neither by what it grants nor
by a bad pattern. A text that holds no rules is a fault of the configuration, and no other one is.
So a configuration that names the file of such a text and one that has the rules itself load the
same. Any rules have a text. -/
theorem document_loads_as_rules (files : Files) (s : String) :
    (∀ entries, Denotes s (rulesValue entries) →
      ofJson s = compile (.ofList entries) ∧
      (∀ rules : RawRules, entries.Perm rules.entries →
        ofJson s = compile rules ∧
        ∀ path (filed inline : Config), filed.source = .file path → files.readText path = .ok s →
          inline.source = .inline rules → filed.loadAcl files = inline.loadAcl files) ∧
      (∀ before consumer replaced after, entries = before ++ (consumer, replaced) :: after →
        (∃ e ∈ after, e.1 = consumer) → ofJson s = compile (.ofList (before ++ after)))) ∧
    (ofJson s = .error (.config "invalid acl json") ↔
      ∀ entries, ¬Denotes s (rulesValue entries)) ∧
    (∀ fault, ofJson s = .error fault → ∃ text, fault = .config text) ∧
    (∀ entries, ∃ t, Denotes t (rulesValue entries)) := by
  refine ⟨fun entries h ↦ ⟨ofJson_of_denotes h, ?_, ?_⟩, ofJson_eq_unreadable_iff,
    fun _ ↦ config_of_ofJson, exists_denotes_rulesValue⟩
  · intro rules perm
    have same : ofJson s = compile rules := by
      rw [ofJson_of_denotes h, TextMap.ofList_of_perm perm]
    refine ⟨same, fun path filed inline named found given ↦ ?_⟩
    rw [Config.loadAcl_of_file named, Config.loadAcl_of_inline given, found]
    exact same
  · rintro before consumer replaced after rfl later
    rw [ofJson_of_denotes h, TextMap.ofList_of_replaced replaced later]

/-- A text in which the first list of a consumer has a bad pattern, and which writes the consumer's
name another way behind it; a text with the consumers in another order than the rules, in a file and
in the configuration; and a text with a pattern where a list of patterns belongs. -/
theorem document_loads_as_rules_of_repeated :
    let repeated := "\x7b\"c2\":[],\"c1\":[\"*/Biz\"],\"\\u00631\": [\"\\/Biz\\/Add\"]\x7d"
    let ordered := "\x7b \"c2\" : [] ,\n\t\"c1\" : [ \"/Biz/Add\" ] \x7d\n"
    let loose := "\x7b\"c1\":\"/Biz/Add\"\x7d"
    let rules : RawRules := .ofList [("c1", ["/Biz/Add"]), ("c2", [])]
    let files : Files := .ofList [("acl", ordered.toUTF8)]
    let config (source : RuleSource) : Config := ⟨Config.defaultListen,
      .v4 ⟨127, 0, 0, 1⟩ 8082, 256, by decide, by decide, 3600, by decide, by decide, source⟩
    let acl : Acl := ⟨.ofList [("c1", [.exact "/Biz/Add"]), ("c2", [])]⟩
    ofJson repeated = .ok acl ∧ (config (.file "acl")).loadAcl files = .ok acl ∧
      (config (.inline rules)).loadAcl files = .ok acl ∧
      ofJson loose = .error (.config "invalid acl json") := by
  intro repeated ordered loose rules files config acl
  have twice : Denotes repeated
      (rulesValue ([("c2", [])] ++ ("c1", ["*/Biz"]) :: [("c1", ["/Biz/Add"])])) := by
    refine Json.denotes_of_read ?_
    simp only [Json.Document.read, repeated, String.reduceToList]
    rfl
  have once : Denotes ordered (rulesValue [("c2", []), ("c1", ["/Biz/Add"])]) := by
    refine Json.denotes_of_read ?_
    simp only [Json.Document.read, ordered, String.reduceToList]
    rfl
  have other : Denotes loose (.object [("c1", .text "/Biz/Add")] .closed) := by
    refine Json.denotes_of_read ?_
    simp only [Json.Document.read, loose, String.reduceToList]
    rfl
  have found : files.readText "acl" = .ok ordered := by decide +kernel
  have given : (config (.inline rules)).loadAcl files = .ok acl := rfl
  obtain ⟨repeats, -⟩ := document_loads_as_rules files repeated
  obtain ⟨orders, -⟩ := document_loads_as_rules files ordered
  obtain ⟨-, unread, -⟩ := document_loads_as_rules files loose
  obtain ⟨-, alike⟩ := (orders _ once).2.1 rules (List.Perm.swap _ _ _)
  refine ⟨?_, ?_, given, unread.mpr fun entries holds ↦ ?_⟩
  · exact (repeats _ twice).2.2 _ _ _ _ rfl ⟨_, List.mem_singleton_self _, rfl⟩
  · exact (alike "acl" (config (.file "acl")) _ rfl found rfl).trans given
  · have same := other.unique holds
    cases entries with
    | nil => cases same
    | cons e entries => simp [rulesValue, objectOf, listOf] at same

end Gatehouse.Acl
