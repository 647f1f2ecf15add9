import Mathlib.Logic.Relation
import Gatehouse.Proofs.Config.Checking
import Gatehouse.Proofs.Config.Places
import Gatehouse.Yaml.Document

/-!
# Configurations in any layout

What a text loads is decided by the tree that it is read as, whatever reads it. Trees that differ in
the order of their keys, in settings that are written out or left out, and in lists of a consumer
that do not count, load the same. A key more, whether no field or a field for the second time, and
nothing is loaded: no key is passed over in silence.
-/

namespace Gatehouse.Config

open Schema (Agree Apart)
open Yaml (Document Node Replaced Scalar)

variable {n t t' : Node}

/-! ### Layouts -/

/-- An entry writes out what holds where it is left out: a setting of the gateway, or the section of
all of them, with some of its settings. -/
inductive WritesDefault : Place → Node × Node → Prop
  | listen {key value : Scalar} (named : key.text = "listen") (h : value.text = defaultListen) :
    WritesDefault .gateway (.scalar key, .scalar value)
  | queue {key value : Scalar} (named : key.text = "subscriber_queue")
    (h : value.natural? = some defaultQueue) : WritesDefault .gateway (.scalar key, .scalar value)
  | interval {key value : Scalar} (named : key.text = "max_stats_interval_secs")
    (h : value.natural? = some defaultMaxInterval) :
    WritesDefault .gateway (.scalar key, .scalar value)
  | gateway {key : Scalar} (named : key.text = "gateway") {n : Node} {entries : List (Node × Node)}
    (has : n.Has entries) (all : ∀ e ∈ entries, WritesDefault .gateway e)
    (once : entries.Pairwise (Apart textOf)) : WritesDefault .top (.scalar key, n)

/-- A tree is another layout of a configuration: the keys of a mapping stand in another order, where
those of rules are different ones; settings of the gateway, or all of them, are not left out but
written as they are when they are left out; or a list stands in front of another one of the same
consumer. -/
inductive Relaid (t t' : Node) : Prop
  | permuted (p : Place) {entries entries' : List (Node × Node)} (perm : entries.Perm entries')
    (once : p = .rules → entries.Pairwise (Apart textOf))
    (h : Replaced (.mapping entries true) (.mapping entries' true) p.path t t')
  | written (p : Place) (strict : p ≠ .rules) {n n' : Node} {entries entries' : List (Node × Node)}
    (has : n.Has entries) (has' : n'.Has entries') (more : List (Node × Node))
    (perm : entries'.Perm (more ++ entries)) (defaults : ∀ e ∈ more, WritesDefault p e)
    (once : more.Pairwise (Apart textOf))
    (fresh : ∀ e ∈ more, ∀ e' ∈ entries, Apart textOf e e')
    (h : Replaced n n' p.path t t')
  | overridden (before after : List (Node × Node)) {k v : Node} {consumer : String}
    {patterns : List String} (gives : Gives (k, v) (consumer, patterns))
    (later : ∃ e ∈ after, textOf e.1 = .ok consumer)
    (h : Replaced (.mapping (before ++ after) true) (.mapping (before ++ (k, v) :: after) true)
      Place.rules.path t t')

/-- A tree has an entry more than another, at any position of a mapping with fixed keys: its key is
not one of them, or one that the mapping has already. -/
inductive Spoiled (t t' : Node) : Prop
  | extended (p : Place) {fields : List String} (strict : p.fields? = some fields) {n : Node}
    (before after : List (Node × Node)) {k v : Node} (has : n.Has (before ++ after))
    (stray : (∀ name ∈ fields, textOf k ≠ .ok name) ∨
      ∃ e ∈ before ++ after, ¬Apart textOf e (k, v))
    (h : Replaced n (.mapping (before ++ (k, v) :: after) true) p.path t t')

/-- The configuration of a text and the access list that it names, if the text holds one. -/
def loaded (read : String → Document) (files : Files) (s : String) :
    Option (Config × Except Fault Acl) :=
  (ofText read s).toOption.map fun config ↦ (config, config.loadAcl files)

/-! ### Other layouts say the same -/

theorem textOf_scalar {s : Scalar} {text : String} (h : s.text = text) :
    textOf (.scalar s) = .ok text := congrArg Except.ok h

theorem numberOf_scalar {bound v : Nat} {s : Scalar} (h : s.natural? = some v) (lt : v < bound) :
    numberOf bound (.scalar s) = .ok v := by
  simp only [numberOf, h, if_pos lt]

/-- A setting that is written as it is when it is left out changes nothing. -/
theorem WritesDefault.exists_set_gateway {e : Node × Node} (h : WritesDefault .gateway e) :
    ∃ name ∈ GatewaySection.fields, textOf e.1 = .ok name ∧
      GatewaySection.set .default name e.2 = .ok .default := by
  cases h with
  | listen named h =>
    refine ⟨"listen", by decide, textOf_scalar named, ?_⟩
    rw [GatewaySection.set, if_pos rfl, textOf_scalar h]
    rfl
  | queue named h =>
    refine ⟨"subscriber_queue", by decide, textOf_scalar named, ?_⟩
    exact congrArg (Except.map _) (numberOf_scalar h (by decide))
  | interval named h =>
    refine ⟨"max_stats_interval_secs", by decide, textOf_scalar named, ?_⟩
    exact congrArg (Except.map _) (numberOf_scalar h (by decide))

theorem reads_gateway_of_defaults {entries : List (Node × Node)} (has : n.Has entries)
    (all : ∀ e ∈ entries, WritesDefault .gateway e)
    (once : entries.Pairwise (Apart textOf)) :
    Place.gateway.reads n = .ok .default := by
  have left : Agree (Place.gateway.reads n) (Place.gateway.reads (.mapping [] true)) :=
    sectionOf_of_kept commutes_gateway (.mapping []) has (by simp)
      (fun e he ↦ (all e he).exists_set_gateway) once (fun _ _ ↦ nofun)
  exact (left _).mpr rfl

theorem WritesDefault.exists_set_top {e : Node × Node} (h : WritesDefault .top e) :
    ∃ name ∈ Sections.fields, textOf e.1 = .ok name ∧
      Sections.set ⟨none, .default, none⟩ name e.2 = .ok ⟨none, .default, none⟩ := by
  cases h with
  | gateway named has all once =>
    refine ⟨"gateway", by decide, textOf_scalar named, ?_⟩
    rw [Place.set_gateway, reads_gateway_of_defaults has all once]
    rfl

theorem agree_top_of_relaid (h : Relaid t t') :
    Agree (Place.top.reads t') (Place.top.reads t) := by
  cases h with
  | permuted p perm once r => exact (p.agree_top_of_replaced (p.reads_perm perm once) r).symm
  | written p strict has has' more perm defaults once fresh r =>
    refine (p.agree_top_of_replaced (.symm ?_) r).symm
    cases p with
    | top =>
      exact sectionOf_of_kept commutes_sections has has' perm
        (fun e he ↦ (defaults e he).exists_set_top) once fresh
    | gateway =>
      exact sectionOf_of_kept commutes_gateway has has' perm
        (fun e he ↦ (defaults e he).exists_set_gateway) once fresh
    | acl =>
      exact sectionOf_of_kept commutes_acl has has' perm
        (fun e he ↦ nomatch defaults e he) once fresh
    | rules => exact absurd rfl strict
  | overridden before after gives later r =>
    refine (Place.rules.agree_top_of_replaced ?_ r).symm
    rw [Place.reads_rules, Place.reads_rules]
    exact (readRules_of_overridden gives later).symm.map some

theorem top_ne_ok_of_spoiled (h : Spoiled t t') (s : Sections) : Place.top.reads t' ≠ .ok s := by
  intro read
  cases h with
  | extended p strict before after has stray r =>
    obtain ⟨a, inner⟩ := p.exists_reads_of_replaced r read
    obtain ⟨set, start, -, eq⟩ := p.exists_section strict
    rw [eq, sectionOf_of_has (.mapping _)] at inner
    -- In a mapping that is read each key is a field, and no two keys are the same one.
    rcases stray with unknown | ⟨e, he, again⟩
    · obtain ⟨name, known, named, -⟩ := Schema.exists_set_of_readFields inner _
        (List.mem_append_right _ List.mem_cons_self)
      exact unknown name known named
    · have apart := (List.perm_middle.pairwise_iff Apart.symm).mp
        (Schema.pairwise_apart_of_readFields inner)
      exact again ((List.pairwise_cons.mp apart).1 e he).symm

/-! ### Texts -/

theorem agree_top_of_eqvGen (h : Relation.EqvGen Relaid t t') :
    Agree (Place.top.reads t) (Place.top.reads t') := by
  induction h with
  | rel t t' h => exact (agree_top_of_relaid h).symm
  | refl t => exact .refl _
  | symm t t' _ ih => exact ih.symm
  | trans t t' t'' _ _ ih ih' => exact ih.trans ih'

section

variable {read : String → Document} {s s' : String}

/-- A text holds the draft that its tree holds. -/
theorem ofDocument_eq_ok_iff {d : Document} {draft : Draft} :
    Draft.ofDocument d = .ok draft ↔ d.clean = true ∧
      ∃ sections, Place.top.reads d.root = .ok sections ∧ sections.draft = .ok draft := by
  rw [Draft.ofDocument, Draft.ofNode]
  change _ ↔ d.clean = true ∧ ∃ sections,
    sectionOf Sections.fields Sections.set ⟨none, .default, none⟩ d.root = .ok sections ∧ _
  cases sectionOf Sections.fields Sections.set ⟨none, .default, none⟩ d.root with
  | error e => simp
  | ok sections => cases held : sections.draft <;> cases d.clean <;> simp [held]

theorem agree_ofText
    (agree : Agree (Place.top.reads (read s).root) (Place.top.reads (read s').root))
    (clean : (read s).clean = (read s').clean) : Agree (ofText read s) (ofText read s') := by
  intro config
  simp only [ofText_eq_ok_iff, ofDocument_eq_ok_iff, clean]
  exact exists_congr fun draft ↦ and_congr_left fun _ ↦ and_congr_right fun _ ↦
    exists_congr fun sections ↦ and_congr_left fun _ ↦ agree sections

/-- A text whose tree is not read as a configuration is a fault of the configuration. -/
theorem exists_config_of_top_ne_ok (failed : ∀ a, Place.top.reads (read s).root ≠ .ok a) :
    ∃ text, ofText read s = .error (.config text) := by
  cases held : Draft.ofDocument (read s) with
  | error e =>
    obtain ⟨text, fault⟩ := e.exists_config
    refine ⟨text, ?_⟩
    rw [ofText, ofDocument, held, ← fault]
  | ok draft =>
    obtain ⟨-, sections, taken, -⟩ := ofDocument_eq_ok_iff.mp held
    exact absurd taken (failed sections)

end

/-- What a text loads does not depend on its layout, whatever reads the text: the keys of each
mapping may stand in any order, the settings of the gateway that are left out may be written out,
and a list in front of another one of the same consumer does not count. With any key that a mapping
does not know, and with any key for the second time, a text is a fault of the configuration. -/
theorem layout_is_free_and_keys_are_fixed (read : String → Document) (files : Files) :
    (∀ s s', Relation.EqvGen Relaid (read s).root (read s').root →
      (read s).clean = (read s').clean → loaded read files s = loaded read files s') ∧
    ∀ s t, Spoiled t (read s).root → ∃ text, ofText read s = .error (.config text) := by
  constructor
  · intro s s' relaid clean
    rw [loaded, loaded, (agree_ofText (agree_top_of_eqvGen relaid) clean).toOption_eq]
  · intro s t spoiled
    exact exists_config_of_top_ne_ok (top_ne_ok_of_spoiled spoiled)

/-- A scalar that is written without quotes. -/
def word (text : String) : Node := .scalar (.of .plain none text)

/-- An entry whose key is written without quotes. -/
def entry (key : String) (value : Node) : Node × Node := (word key, value)

/-- The tree of a configuration with a section `acl` that holds rules, and with other entries. -/
def configTree (before : List (Node × Node)) (rules : List (Node × Node))
    (after : List (Node × Node)) : Node :=
  .mapping (before ++ entry "acl" (.mapping [entry "rules" (.mapping rules true)] true) :: after)
    true

theorem apart_entry {key key' : String} (h : key ≠ key') (value value' : Node) :
    Apart textOf (entry key value) (entry key' value') := by
  intro _ first second
  exact h ((Except.ok.inj first).trans (Except.ok.inj second).symm)

theorem replaced_entry {path : List String} {v v' : Node} (key : String)
    (before after : List (Node × Node)) (h : Replaced n n' path v v') :
    Replaced n n' (key :: path) (.mapping (before ++ entry key v :: after) true)
      (.mapping (before ++ entry key v' :: after) true) :=
  .under (.of .plain none key) rfl before after h

theorem replaced_rules (before after rules rules' : List (Node × Node)) :
    Replaced (.mapping rules true) (.mapping rules' true) Place.rules.path
      (configTree before rules after) (configTree before rules' after) :=
  replaced_entry "acl" before after (replaced_entry "rules" [] [] .here)

/-- A text in blocks; the same in brackets, with an alias, with an empty section of the gateway and
with a list that does not count; and a text with a key that is mistyped. -/
theorem layout_is_free_and_keys_are_fixed_of_brackets :
    let files : Files := ⟨[]⟩
    let blocks := "version: 1\nacl:\n  rules:\n    c1: ['*']\n    c2: []\n"
    let brackets :=
      "acl: \x7brules: \x7bc2: &e [], c1: *e, c1: ['*']\x7d\x7d\ngateway: \x7b\x7d\nversion: 1"
    let mistyped := "version: 1\nacl: \x7brules: \x7b\x7d\x7d\ngateway: \x7blistn: a\x7d"
    (∃ config, ofText Document.read blocks = .ok config) ∧
      loaded Document.read files blocks = loaded Document.read files brackets ∧
      ∃ text, ofText Document.read mistyped = .error (.config text) := by
  intro files blocks brackets mistyped
  let version := entry "version" (word "1")
  let c1 := entry "c1" (.sequence [.scalar (.of .other none "*")] true)
  let c1' := entry "c1" (.sequence [] true)
  let c2 := entry "c2" (.sequence [] true)
  let typo := entry "listn" (word "a")
  let gateway (settings : List (Node × Node)) := entry "gateway" (.mapping settings true)
  have inBlocks : Document.read blocks = ⟨configTree [version] [c1, c2] [], true⟩ := by
    decide +kernel
  have inBrackets :
      Document.read brackets = ⟨configTree [] [c2, c1', c1] [gateway [], version], true⟩ := by
    decide +kernel
  have inMistyped :
      Document.read mistyped = ⟨configTree [version] [] [gateway [typo]], true⟩ := by
    decide +kernel
  have swapped : Relaid (configTree [version] [c1, c2] []) (configTree [version] [c2, c1] []) :=
    .permuted .rules (List.Perm.swap c2 c1 [])
      (fun _ ↦ List.pairwise_pair.mpr (apart_entry (by decide) _ _)) (replaced_rules _ _ _ _)
  have overridden :
      Relaid (configTree [version] [c2, c1] []) (configTree [version] [c2, c1', c1] []) :=
    .overridden [c2] [c1] ⟨rfl, rfl⟩ ⟨c1, List.mem_singleton.mpr rfl, rfl⟩ (replaced_rules _ _ _ _)
  have written : Relaid (configTree [version] [c2, c1', c1] [])
      (configTree [] [c2, c1', c1] [gateway [], version]) := by
    refine .written .top (by rintro ⟨⟩) (.mapping _) (.mapping _) [gateway []] ?_
      (List.forall_mem_singleton.mpr (.gateway rfl (.mapping []) (List.forall_mem_nil _) .nil))
      (List.pairwise_singleton _ _) ?_ .here
    · exact (List.Perm.swap _ _ _).trans ((List.Perm.swap _ _ _).cons _)
    · exact List.forall_mem_singleton.mpr (List.forall_mem_cons.mpr
        ⟨apart_entry (by decide) _ _, List.forall_mem_singleton.mpr (apart_entry (by decide) _ _)⟩)
  have stray : ∀ name ∈ GatewaySection.fields, textOf typo.1 ≠ .ok name := by
    rintro _ known ⟨⟩
    exact absurd known (by decide)
  have spoiled : Spoiled (configTree [version] [] [gateway []])
      (configTree [version] [] [gateway [typo]]) :=
    .extended .gateway rfl [] [] (.mapping []) (.inl stray)
      (replaced_entry "gateway" [version, entry "acl" _] [] .here)
  have relaid : Relation.EqvGen Relaid (configTree [version] [c1, c2] [])
      (configTree [] [c2, c1', c1] [gateway [], version]) :=
    .trans _ _ _ (.rel _ _ swapped) (.trans _ _ _ (.rel _ _ overridden) (.rel _ _ written))
  obtain ⟨free, fixed⟩ := layout_is_free_and_keys_are_fixed Document.read files
  have local8082 : Address.read? defaultListen = some (.v4 ⟨127, 0, 0, 1⟩ 8082) := rfl
  let draft : Draft := ⟨1, defaultListen, defaultQueue, defaultMaxInterval, none,
    some (.ofList [("c1", ["*"]), ("c2", [])])⟩
  have holds : Draft.ofDocument (Document.read blocks) = .ok draft := by
    rw [inBlocks]
    rfl
  have valid : draft.Valid :=
    ⟨rfl, ⟨_, local8082⟩, by decide, by decide, _, .inline rfl rfl⟩
  obtain ⟨config, checked⟩ := Draft.valid_iff.mp valid
  refine ⟨⟨config, ofText_eq_ok_iff.mpr ⟨draft, holds, checked⟩⟩, ?_, ?_⟩
  · refine free _ _ ?_ ?_
    · rw [inBlocks, inBrackets]
      exact relaid
    · rw [inBlocks, inBrackets]
  · refine fixed _ (configTree [version] [] [gateway []]) ?_
    rw [inMistyped]
    exact spoiled

end Gatehouse.Config
