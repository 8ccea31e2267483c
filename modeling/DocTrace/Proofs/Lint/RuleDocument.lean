import DocTrace.Lint
import DocTrace.Proofs.Config.Loading
import DocTrace.Proofs.Rule.Loading

/-! Passes over a project with a rule document. A fault of the document ends a pass before it
collects any documents, and its user is told about it unless the document breaks the program
off. -/

namespace DocTrace

namespace Told

variable {t : Told ε α} {f : α → Told ε β} {e : ε} {a : α}

theorem bind_of_error (h : t.result = .error e) : t >>= f = ⟨.error e, t.notices⟩ := by
  change andThen t f = _
  unfold andThen
  rw [h]

theorem bind_of_ok (h : t.result = .ok a) :
    t >>= f = ⟨(f a).result, t.notices ++ (f a).notices⟩ := by
  change andThen t f = _
  unfold andThen
  rw [h]

end Told

namespace Lint

variable {disk : Disk} {path root : Path} {cpus : Option Int} {options : Options} {config : Config}
  {fault : Rule.LoadFault} {text : String}

theorem notices_of_load_rules {withBuiltin : Bool}
    (h : (Rule.load disk (some path) withBuiltin).result = .error fault) :
    (Rule.load disk (some path) withBuiltin).notices = [] := by
  unfold Rule.load at h ⊢
  dsimp only at h ⊢
  split
  · rfl
  · next overrides hoverrides =>
    rw [hoverrides] at h
    dsimp only at h
    split
    · rfl
    · next rules hrules =>
      rw [hrules] at h
      contradiction

/-- A pass whose rules cannot be loaded has nothing but the configuration. -/
theorem gather_of_load_rules (hconfig : (Config.load disk root cpus).result = .ok config)
    (hrules : (Rule.load disk (some (options.rulesPath.getD config.rulesPath)) true).result =
      .error fault) :
    gather disk root cpus options =
      ⟨.error (.rules fault), (Config.load disk root cpus).notices⟩ := by
  have hread : ((Config.load disk root cpus).mapError Fault.config).result = .ok config :=
    mapError_eq_ok_iff.2 hconfig
  have hloaded : ((Rule.load disk (some (options.rulesPath.getD config.rulesPath)) true).mapError
      Fault.rules).result = .error (.rules fault) := mapError_eq_error_iff.2 ⟨fault, hrules, rfl⟩
  have hprepare : prepare disk config options = ⟨.error (.rules fault), []⟩ := by
    unfold prepare
    rw [Told.bind_of_error hloaded]
    exact congrArg _ (notices_of_load_rules hrules)
  unfold gather
  rw [Told.bind_of_ok hread, hprepare]
  exact congrArg _ (List.append_nil _)

theorem ofProjectAlong_of_load_rules (course : Course)
    (hconfig : (Config.load disk root cpus).result = .ok config)
    (hrules : (Rule.load disk (some (options.rulesPath.getD config.rulesPath)) true).result =
      .error fault) :
    ofProjectAlong course disk root cpus options =
      ⟨.error (.rules fault), (Config.load disk root cpus).notices⟩ := by
  unfold ofProjectAlong
  rw [gather_of_load_rules hconfig hrules]
  rfl

theorem diskLeft_of_load_rules (now : Int)
    (hconfig : (Config.load disk root cpus).result = .ok config)
    (hrules : (Rule.load disk (some (options.rulesPath.getD config.rulesPath)) true).result =
      .error fault) : diskLeft disk root cpus now options = disk := by
  unfold diskLeft
  rw [gather_of_load_rules hconfig hrules]
  rfl

theorem message?_rules_iff : (Fault.rules fault).message? =
    some s!"Invalid rules configuration: {fault.message}" ↔ fault.isReported = true := by
  by_cases h : fault.isReported = true <;> simp [Fault.message?, h]

/-- A rule document breaks the program off exactly at what `BreaksOff` says. Whatever else is wrong
with it is a fault of the document or of a rule, and ends a pass with a message that says so, before
any document is collected and with the disk as it was. -/
theorem ruleDocument_outcome (h : Rule.HasText disk path text) :
    (∀ withBuiltin,
      ((∃ fault, (Rule.load disk (some path) withBuiltin).result = .error fault ∧
          fault.isReported = false) ↔ Rule.BreaksOff withBuiltin path.name text) ∧
        ∀ fault, (Rule.load disk (some path) withBuiltin).result = .error fault →
          (∃ cause, fault = .document cause) ∨ ∃ cause, fault = .rule cause) ∧
      ∀ root cpus options config course now fault,
        (Config.load disk root cpus).result = .ok config →
        options.rulesPath.getD config.rulesPath = path →
        (Rule.load disk (some path) true).result = .error fault →
          ofProjectAlong course disk root cpus options =
              ⟨.error (.rules fault), (Config.load disk root cpus).notices⟩ ∧
            diskLeft disk root cpus now options = disk ∧
            ((Fault.rules fault).message? =
                some s!"Invalid rules configuration: {fault.message}" ↔
              ¬Rule.BreaksOff true path.name text) := by
  refine ⟨fun withBuiltin => ⟨Rule.load_breaksOff_iff h, fun fault => Rule.cause_of_load h⟩, ?_⟩
  rintro root cpus options config course now fault hconfig rfl hrules
  refine ⟨ofProjectAlong_of_load_rules course hconfig hrules,
    diskLeft_of_load_rules now hconfig hrules, ?_⟩
  rw [message?_rules_iff, ← Rule.load_breaksOff_iff h]
  constructor
  · rintro hreported ⟨other, hother, hunreported⟩
    obtain rfl := Except.error.inj (hrules.symm.trans hother)
    simp [hreported] at hunreported
  · intro hnone
    by_contra hreported
    exact hnone ⟨fault, hrules, Bool.eq_false_iff.2 hreported⟩

/-- A project with nothing but a rule document. -/
def ruledProject (text : String) : Disk :=
  { entries := .ofList [([".specloom"], .directory),
      ([".specloom", "rules.yml"], .file (Text.Utf8.encode text.toList))] }

/-- A version that is not known is told to the user; a list in its place breaks the program off. -/
theorem ruleDocument_outcome_version :
    let root : Path := ⟨"/", []⟩
    let disk := ruledProject "version: 2\n"
    (∃ fault, ofProjectAlong (.atOnce 0) disk root none {} = ⟨.error (.rules fault), []⟩ ∧
        diskLeft disk root none 0 {} = disk ∧
        (Fault.rules fault).message? = some ("Invalid rules configuration: rules.yml: " ++
          "unsupported version 2, expected one of [1]")) ∧
      ¬Rule.BreaksOff true "rules.yml" "version: 2\n" ∧
      Rule.BreaksOff true "rules.yml" "version: [1]\n" := by
  intro root disk
  let rules : Path := ⟨"/", [".specloom", "rules.yml"]⟩
  let other := ruledProject "version: [1]\n"
  have htext : Rule.HasText disk rules "version: 2\n" :=
    ⟨by decide +kernel, Text.Utf8.encode "version: 2\n".toList, by decide +kernel,
      by decide +kernel⟩
  have hother : Rule.HasText other rules "version: [1]\n" :=
    ⟨by decide +kernel, Text.Utf8.encode "version: [1]\n".toList, by decide +kernel,
      by decide +kernel⟩
  have hconfig : (Config.load disk root none).result = .ok (Config.defaults root none []) := rfl
  have hpath : (Config.defaults root none []).rulesPath = rules := by decide +kernel
  have hrules : (Rule.load disk (some rules) true).result =
      .error (.document (.badVersion "rules.yml" "2")) := by decide +kernel
  have hbreaks : (Rule.load other (some rules) true).result =
      .error (.document .versionNotScalar) := by decide +kernel
  obtain ⟨hpass, hleft, hmessage⟩ :=
    (ruleDocument_outcome htext).2 root none {} _ (.atOnce 0) 0 _ hconfig hpath hrules
  refine ⟨⟨_, hpass, hleft, by decide +kernel⟩, hmessage.1 (message?_rules_iff.2 rfl), ?_⟩
  exact ((ruleDocument_outcome hother).1 true).1.1 ⟨_, hbreaks, rfl⟩

end Lint

end DocTrace
