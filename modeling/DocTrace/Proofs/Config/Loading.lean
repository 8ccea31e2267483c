import DocTrace.Config
import DocTrace.Proofs.Result

/-! What becomes of a configuration that cannot be read. A file that is no text or no YAML counts
as empty, with a warning. Two other faults of the files are not looked for, so that they break the
program off: a scalar that cannot be made, and an ignore file that is no text. -/

namespace DocTrace.Config

variable {disk : Disk} {root : Path} {cpus : Option Int} {m : Mapping} {fault : Fault}

/-- The configuration without any settings. -/
def defaults (root : Path) (cpus : Option Int) (patterns : List String) : Config where
  projectRoot := root
  docsDir := defaultDocsDir
  rules := defaultRules
  cacheEnabled := true
  cachePath := defaultCachePath
  maxAge := defaultMaxAge
  workers := defaultWorkers cpus
  ignore := patterns
  exemptIds := []
  systemFolders := defaultSystemFolders

theorem ofSettings_nil (disk : Disk) (root : Path) (cpus : Option Int) :
    ofSettings disk root cpus [] =
      ((ignorePatterns disk root).map (defaults root cpus)).mapError Fault.ignoreFile := by
  unfold ofSettings
  cases ignorePatterns disk root <;> rfl

/-! ### The configuration file -/

/-- A file whose text is read as YAML with some outcome. -/
def Reads (disk : Disk) (path : Path) (outcome : Except Yaml.Fault Value) : Prop :=
  ∃ content text, disk.file? path = some content ∧ Disk.textOf content = .ok text ∧
    Yaml.load text = outcome

/-- A file that is no text or no YAML. -/
inductive IsUnreadable (disk : Disk) (path : Path) : Prop
  | undecodable {content : List UInt8} {fault : Text.Utf8.Fault}
    (hfile : disk.file? path = some content) (htext : Disk.textOf content = .error fault)
  | malformed (h : Reads disk path (.error .malformed))

theorem settings_of_isUnreadable (h : IsUnreadable disk (root.join configFile)) :
    settings disk root = ⟨.ok [], [.configUnreadable (root.join configFile).toText]⟩ := by
  unfold settings
  cases h with
  | undecodable hfile htext => simp only [hfile, htext]
  | malformed h =>
    obtain ⟨content, text, hfile, htext, hload⟩ := h
    simp only [hfile, htext, hload]

theorem settings_eq_error_iff : (settings disk root).result = .error fault ↔
    ∃ cause, cause ≠ .malformed ∧ Reads disk (root.join configFile) (.error cause) ∧
      fault = .scalar cause := by
  constructor
  · intro h
    unfold settings at h
    dsimp only at h
    split at h
    · contradiction
    · next content hfile =>
      split at h
      · contradiction
      · next text htext =>
        split at h
        · contradiction
        · next cause hcause hload =>
          exact ⟨cause, hcause, ⟨content, text, hfile, htext, hload⟩, (Except.error.inj h).symm⟩
        · contradiction
        · split at h <;> contradiction
  · rintro ⟨cause, hcause, ⟨content, text, hfile, htext, hload⟩, rfl⟩
    unfold settings
    simp only [hfile, htext, hload]
    cases cause <;> first | contradiction | rfl

/-! ### The settings -/

/-- Settings of which those are right that are looked at before the ignore file is read. -/
structure ReachesIgnoreFile (cpus : Option Int) (m : Mapping) : Prop where
  cache : ∃ cache, cacheSettings m = .ok cache ∧ (∃ b, enabled cache = .ok b) ∧
    ∃ limit, maxAgeOf cache = .ok limit
  workers : ∃ count, workersOf m cpus = .ok count
  ignored : ∃ listed, texts? m "ignore" = .ok listed

/-- Why loading breaks off: at a scalar of the configuration that cannot be made, or at an ignore
file that is no text where the settings before it are right. -/
inductive BreaksOff (disk : Disk) (root : Path) (cpus : Option Int) : Fault → Prop
  | scalar {cause : Yaml.Fault} (hcause : cause ≠ .malformed)
    (h : Reads disk (root.join configFile) (.error cause)) :
    BreaksOff disk root cpus (.scalar cause)
  | ignoreFile {m : Mapping} {cause : Text.Utf8.Fault} (hm : (settings disk root).result = .ok m)
    (hreaches : ReachesIgnoreFile cpus m) {content : List UInt8}
    (hfile : disk.file? (root.join Config.ignoreFile) = some content)
    (htext : Disk.textOf content = .error cause) : BreaksOff disk root cpus (.ignoreFile cause)

theorem mapError_setting_ne {x : Except Problem α} (h : ∀ problem, fault ≠ .setting problem) :
    x.mapError Fault.setting ≠ .error fault := by
  intro heq
  obtain ⟨problem, -, hproblem⟩ := mapError_eq_error_iff.1 heq
  exact h problem hproblem.symm

theorem ignorePatterns_eq_error_iff {cause : Text.Utf8.Fault} :
    ignorePatterns disk root = .error cause ↔
      ∃ content, disk.file? (root.join Config.ignoreFile) = some content ∧
        Disk.textOf content = .error cause := by
  unfold ignorePatterns
  cases disk.file? (root.join Config.ignoreFile) with
  | none => simp
  | some content => cases htext : Disk.textOf content <;> simp [Except.map, htext]

theorem ofSettings_eq_error_iff (hfault : ∀ problem, fault ≠ .setting problem) :
    ofSettings disk root cpus m = .error fault ↔
      ReachesIgnoreFile cpus m ∧ ∃ cause, ignorePatterns disk root = .error cause ∧
        fault = .ignoreFile cause := by
  -- Each step over the settings can only fail with a wrong setting, which the fault is not.
  have hne {α : Type} (x : Except Problem α) : ¬x.mapError Fault.setting = .error fault :=
    mapError_setting_ne hfault
  unfold ofSettings
  simp only [bind, bind_eq_error_iff, hne, false_or, mapError_eq_ok_iff, pure, Except.pure,
    reduceCtorEq, and_false, exists_false, or_false, mapError_eq_error_iff]
  constructor
  · rintro ⟨cache, hcache, b, hb, limit, hlimit, count, hcount, listed, hlisted, cause, hcause,
      rfl⟩
    exact ⟨⟨⟨cache, hcache, ⟨b, hb⟩, limit, hlimit⟩, ⟨count, hcount⟩, listed, hlisted⟩, cause,
      hcause, rfl⟩
  · rintro ⟨hreaches, cause, hcause, rfl⟩
    obtain ⟨cache, hcache, ⟨b, hb⟩, limit, hlimit⟩ := hreaches.cache
    obtain ⟨count, hcount⟩ := hreaches.workers
    obtain ⟨listed, hlisted⟩ := hreaches.ignored
    exact ⟨cache, hcache, b, hb, limit, hlimit, count, hcount, listed, hlisted, cause, hcause, rfl⟩

/-! ### Whole configurations -/

theorem result_load (disk : Disk) (root : Path) (cpus : Option Int) :
    (load disk root cpus).result =
      (settings disk root).result.bind (ofSettings disk root cpus) := Told.result_andThen ..

theorem notices_load (disk : Disk) (root : Path) (cpus : Option Int) :
    (load disk root cpus).notices = (settings disk root).notices := by
  unfold load Told.andThen
  split
  · rfl
  · exact List.append_nil _

theorem isUnreadable_of_notice (path : String)
    (h : (settings disk root).notices = [.configUnreadable path]) :
    IsUnreadable disk (root.join configFile) := by
  unfold settings at h
  dsimp only at h
  split at h
  · contradiction
  · next content hfile =>
    split at h
    · next htext => exact .undecodable hfile htext
    · next text htext =>
      split at h
      · next hload => exact .malformed ⟨content, text, hfile, htext, hload⟩
      · contradiction
      · contradiction
      · split at h
        · contradiction
        · simp at h

/-- Loading a configuration fails with other faults than wrong settings exactly where it breaks
off, and a configuration file that is no text or no YAML gives the defaults with a warning, which
nothing else does. -/
theorem load_eq_error_iff (disk : Disk) (root : Path) (cpus : Option Int) :
    (∀ fault, ((load disk root cpus).result = .error fault ∧
        ∀ problem, fault ≠ .setting problem) ↔ BreaksOff disk root cpus fault) ∧
      (IsUnreadable disk (root.join configFile) ↔
        load disk root cpus =
          ⟨((ignorePatterns disk root).map (defaults root cpus)).mapError Fault.ignoreFile,
            [.configUnreadable (root.join configFile).toText]⟩) := by
  refine ⟨fun fault => ?_, fun h => ?_, fun h => ?_⟩
  · rw [result_load, bind_eq_error_iff, settings_eq_error_iff]
    constructor
    · rintro ⟨⟨cause, hcause, hreads, rfl⟩ | ⟨m, hm, hof⟩, hfault⟩
      · exact .scalar hcause hreads
      · obtain ⟨hreaches, cause, hpatterns, rfl⟩ := (ofSettings_eq_error_iff hfault).1 hof
        obtain ⟨content, hfile, htext⟩ := ignorePatterns_eq_error_iff.1 hpatterns
        exact .ignoreFile hm hreaches hfile htext
    · rintro (⟨hcause, hreads⟩ | ⟨hm, hreaches, hfile, htext⟩)
      · exact ⟨.inl ⟨_, hcause, hreads, rfl⟩, by simp⟩
      · refine ⟨.inr ⟨_, hm, (ofSettings_eq_error_iff (by simp)).2 ⟨hreaches, _, ?_, rfl⟩⟩, by simp⟩
        exact ignorePatterns_eq_error_iff.2 ⟨_, hfile, htext⟩
  · rw [load, settings_of_isUnreadable h, ← ofSettings_nil]
    rfl
  · refine isUnreadable_of_notice (root.join configFile).toText ?_
    rw [← notices_load disk root cpus, h]

end DocTrace.Config
