import Gatehouse.Config.Load

/-!
# What a valid configuration promises

A draft is valid just if each of its parts is, and the first part that is not decides the fault.
What reads a configuration later checks some of it once more, and these checks succeed.
-/

namespace Gatehouse.Config

/-! ### Checking drafts -/

/-- There is one source of rules: a path, or the rules themselves. -/
inductive OneSource (path : Option String) (rules : Option RawRules) : RuleSource → Prop
  | file {p : String} (given : path = some p) (alone : rules = none) :
    OneSource path rules (.file p)
  | inline {r : RawRules} (alone : path = none) (given : rules = some r) :
    OneSource path rules (.inline r)

/-- There is not one source of rules, but two or none. -/
inductive NotOneSource (path : Option String) (rules : Option RawRules) : Invalid → Prop
  | two {p : String} {r : RawRules} (first : path = some p) (second : rules = some r) :
    NotOneSource path rules .twoSources
  | none (first : path = none) (second : rules = none) : NotOneSource path rules .noSource

theorem sourceOf_eq_ok_iff {path : Option String} {rules : Option RawRules} {source : RuleSource} :
    sourceOf path rules = .ok source ↔ OneSource path rules source := by
  constructor
  · intro h
    cases path <;> cases rules <;> cases h
    · exact .inline rfl rfl
    · exact .file rfl rfl
  · rintro (⟨rfl, rfl⟩ | ⟨rfl, rfl⟩) <;> rfl

theorem sourceOf_eq_error_iff {path : Option String} {rules : Option RawRules} {e : Invalid} :
    sourceOf path rules = .error e ↔ NotOneSource path rules e := by
  constructor
  · intro h
    cases path <;> cases rules <;> cases h
    · exact .none rfl rfl
    · exact .two rfl rfl
  · rintro (⟨rfl, rfl⟩ | ⟨rfl, rfl⟩) <;> rfl

theorem addressOf_eq_ok_iff {text : String} {address : Address} :
    addressOf text = .ok address ↔ Address.read? text = some address := by
  unfold addressOf
  cases Address.read? text <;> simp

theorem addressOf_eq_error_iff {text : String} {e : Invalid} :
    addressOf text = .error e ↔ Address.read? text = none ∧ e = .listen := by
  unfold addressOf
  cases Address.read? text <;> simp [eq_comm]

/-- Each part of the draft is as it has to be. -/
structure Draft.Valid (d : Draft) : Prop where
  version : d.version = supportedVersion
  listen : ∃ address, Address.read? d.listen = some address
  queue : 1 ≤ d.subscriberQueue ∧ d.subscriberQueue ≤ 65536
  interval : 1 ≤ d.maxInterval ∧ d.maxInterval ≤ 86400
  source : ∃ source, OneSource d.rulesPath d.rules source

/-- What a check makes of a draft: the fault of the first part that is not as it has to be, or the
configuration that says the same. -/
inductive Draft.Checks (d : Draft) : Except Invalid Config → Prop
  | version (h : d.version ≠ supportedVersion) : Checks d (.error .version)
  | listen (version : d.version = supportedVersion) (h : Address.read? d.listen = none) :
    Checks d (.error .listen)
  | queue {a : Address} (version : d.version = supportedVersion)
    (listen : Address.read? d.listen = some a)
    (h : ¬(1 ≤ d.subscriberQueue ∧ d.subscriberQueue ≤ 65536)) :
    Checks d (.error .subscriberQueue)
  | interval {a : Address} (version : d.version = supportedVersion)
    (listen : Address.read? d.listen = some a)
    (queue : 1 ≤ d.subscriberQueue ∧ d.subscriberQueue ≤ 65536)
    (h : ¬(1 ≤ d.maxInterval ∧ d.maxInterval ≤ 86400)) : Checks d (.error .maxInterval)
  | source {a : Address} {e : Invalid} (version : d.version = supportedVersion)
    (listen : Address.read? d.listen = some a)
    (queue : 1 ≤ d.subscriberQueue ∧ d.subscriberQueue ≤ 65536)
    (interval : 1 ≤ d.maxInterval ∧ d.maxInterval ≤ 86400)
    (h : NotOneSource d.rulesPath d.rules e) : Checks d (.error e)
  | valid {config : Config} (version : d.version = supportedVersion)
    (listenText : config.listenText = d.listen)
    (listen : Address.read? d.listen = some config.listen)
    (queue : config.subscriberQueue = d.subscriberQueue)
    (interval : config.maxInterval = d.maxInterval)
    (source : OneSource d.rulesPath d.rules config.source) : Checks d (.ok config)

theorem Draft.checks_check (d : Draft) : d.Checks d.check := by
  unfold check
  split
  · next other => exact .version other
  · next same =>
    have version := Decidable.of_not_not same
    split
    · next e unread =>
      obtain ⟨none, rfl⟩ := addressOf_eq_error_iff.mp unread
      exact .listen version none
    · next listen read =>
      have address := addressOf_eq_ok_iff.mp read
      split
      · next queue =>
        split
        · next interval =>
          split
          · next e unclear =>
            exact .source version address queue interval (sourceOf_eq_error_iff.mp unclear)
          · next source one =>
            exact .valid version rfl address rfl rfl (sourceOf_eq_ok_iff.mp one)
        · next interval => exact .interval version address queue interval
      · next queue => exact .queue version address queue

/-- The checks find nothing else wrong with a draft, and they miss nothing. -/
theorem Draft.valid_iff {d : Draft} : d.Valid ↔ ∃ config, d.check = .ok config := by
  have checks := d.checks_check
  generalize d.check = result at checks
  constructor
  · intro w
    cases checks with
    | version h => exact absurd w.version h
    | listen _ h =>
      obtain ⟨a, read⟩ := w.listen
      cases h.symm.trans read
    | queue _ _ h => exact absurd w.queue h
    | interval _ _ _ h => exact absurd w.interval h
    | source _ _ _ _ h =>
      obtain ⟨source, one⟩ := w.source
      cases (sourceOf_eq_error_iff.mpr h).symm.trans (sourceOf_eq_ok_iff.mpr one)
    | valid => exact ⟨_, rfl⟩
  · rintro ⟨config, rfl⟩
    cases checks with
    | valid version _ listen queue interval source =>
      exact ⟨version, ⟨_, listen⟩, queue ▸ ⟨config.queue_pos, config.queue_le⟩,
        interval ▸ ⟨config.interval_pos, config.interval_le⟩, ⟨_, source⟩⟩

/-- Another version is what a check complains about, whatever else is wrong. -/
theorem Draft.check_eq_version_iff {d : Draft} :
    d.check = .error .version ↔ d.version ≠ supportedVersion := by
  have checks := d.checks_check
  constructor
  · intro h
    rw [h] at checks
    cases checks with
    | version h => exact h
    | source _ _ _ _ h => cases h
  · intro other
    exact if_pos other

/-! ### Reading documents -/

theorem Invalid.fault_eq_unsupportedVersion_iff {e : Invalid} :
    e.fault = .unsupportedVersion ↔ e = .version := by
  cases e <;> simp [fault]

theorem Problem.exists_config (p : Problem) : ∃ text, p.fault = .config text := by
  cases p <;> exact ⟨_, rfl⟩

section

variable {read : String → Yaml.Document} {s : String} {config : Config} {fault : Fault}

theorem ofText_eq_ok_iff :
    ofText read s = .ok config ↔
      ∃ draft, Draft.ofDocument (read s) = .ok draft ∧ draft.check = .ok config := by
  rw [ofText, ofDocument]
  cases Draft.ofDocument (read s) with
  | error e => simp
  | ok draft => cases checked : draft.check <;> simp [checked]

/-- A configuration says what the draft of its text says. -/
theorem exists_draft_of_ofText (h : ofText read s = .ok config) :
    ∃ draft, Draft.ofDocument (read s) = .ok draft ∧ draft.Checks (.ok config) := by
  obtain ⟨draft, held, checked⟩ := ofText_eq_ok_iff.mp h
  exact ⟨draft, held, checked ▸ draft.checks_check⟩

/-- What is wrong with a draft is the fault of its text, and its configuration is that of its
text. -/
theorem exists_checks_of_ofDocument {draft : Draft} (h : Draft.ofDocument (read s) = .ok draft) :
    ∃ result, draft.Checks result ∧ ofText read s = result.mapError Invalid.fault := by
  refine ⟨draft.check, draft.checks_check, ?_⟩
  simp only [ofText, ofDocument, h]
  cases draft.check <;> rfl

/-- A document that holds no draft is a fault of the configuration. A draft that is not valid is one
too, but for its version. -/
theorem ofText_eq_error_iff :
    ofText read s = .error fault ↔
      (∃ p, Draft.ofDocument (read s) = .error p ∧ fault = p.fault) ∨
      ∃ draft e, Draft.ofDocument (read s) = .ok draft ∧ draft.check = .error e ∧
        fault = e.fault := by
  rw [ofText, ofDocument]
  cases Draft.ofDocument (read s) with
  | error e => simp [eq_comm]
  | ok draft => cases checked : draft.check <;> simp [checked, eq_comm]

theorem ofText_eq_unsupportedVersion_iff :
    ofText read s = .error .unsupportedVersion ↔
      ∃ draft, Draft.ofDocument (read s) = .ok draft ∧ draft.version ≠ supportedVersion := by
  rw [ofText_eq_error_iff]
  constructor
  · rintro (⟨p, -, same⟩ | ⟨draft, e, held, failed, same⟩)
    · obtain ⟨text, config⟩ := p.exists_config
      rw [config] at same
      cases same
    · rw [Invalid.fault_eq_unsupportedVersion_iff.mp same.symm] at failed
      exact ⟨draft, held, Draft.check_eq_version_iff.mp failed⟩
  · rintro ⟨draft, held, other⟩
    exact .inr ⟨draft, _, held, Draft.check_eq_version_iff.mpr other, rfl⟩

theorem config_of_ofText (h : ofText read s = .error fault) :
    fault = .unsupportedVersion ∨ ∃ text, fault = .config text := by
  obtain ⟨p, -, rfl⟩ | ⟨draft, e, -, -, rfl⟩ := ofText_eq_error_iff.mp h
  · exact .inr p.exists_config
  · cases e with
    | version => exact .inl rfl
    | _ => exact .inr ⟨_, rfl⟩

/-! ### Checking once more -/

/-- The address of a configuration that was read is the one that its text names. -/
theorem addressOf_listenText (h : ofText read s = .ok config) :
    addressOf config.listenText = .ok config.listen := by
  obtain ⟨draft, -, checks⟩ := exists_draft_of_ofText h
  cases checks with
  | valid version listenText listen queue interval source =>
    rw [listenText]
    exact addressOf_eq_ok_iff.mpr listen

end

/-- What is loaded is the one source of rules, and without one the fault is that of the check. -/
theorem loadedSource_eq (path : Option String) (rules : Option RawRules) :
    loadedSource path rules = (sourceOf path rules).mapError Invalid.fault := by
  cases path <;> cases rules <;> rfl

theorem aclSource_eq (config : Config) : config.aclSource = .ok config.source := by
  rw [aclSource, loadedSource_eq]
  cases config.source <;> rfl

section

variable {config : Config}

/-- The access list is loaded from the source that the configuration names. -/
theorem loadAcl_of_file {path : String} (h : config.source = .file path) (files : Files) :
    loadAcl files config = aclOfRead path (files.readText path) := by
  rw [loadAcl, aclSource_eq, h]

theorem loadAcl_of_inline {rules : RawRules} (h : config.source = .inline rules) (files : Files) :
    loadAcl files config = Acl.compile rules := by
  rw [loadAcl, aclSource_eq, h]

end

end Gatehouse.Config
