import DocTrace.Proofs.Disk.Rewriting
import DocTrace.Proofs.Lint.Transparency
import DocTrace.Proofs.Rule.Overrides

/-! Passes over projects that differ in the enforcement of one rule. Where both passes have the same
configuration and the same cache, as they have where the rule document is none of these files, they
gather the same documents and the same rules but for that enforcement, analyze the same, and find
the same violations with other severities. -/

namespace DocTrace

theorem Config.load_congr {d e : Disk} {root : Path}
    (hconfig : e.file? (root.join configFile) = d.file? (root.join configFile))
    (hignore : e.file? (root.join ignoreFile) = d.file? (root.join ignoreFile))
    (cpus : Option ℤ) : load e root cpus = load d root cpus := by
  have hsettings : settings e root = settings d root := by simp only [settings, hconfig]
  have hpatterns : ignorePatterns e root = ignorePatterns d root := by
    simp only [ignorePatterns, hignore]
  have hof (m : Mapping) : ofSettings e root cpus m = ofSettings d root cpus m := by
    simp only [ofSettings, hpatterns]
  simp only [load, hsettings, hof]

theorem Rule.load_eq_ok_iff {disk : Disk} {path : Path} {rules : List Rule} :
    (load disk (some path) true).result = .ok rules ↔
      ∃ ms, overridesAt disk path = .ok ms ∧ ofMappings Builtin.rules ms = .ok rules := by
  unfold load
  simp only [Option.elim, if_true]
  cases overridesAt disk path with
  | error fault => simp
  | ok ms => cases hrules : ofMappings Builtin.rules ms <;> simp [hrules]

namespace Lint

open AnalysisCache

variable {course : Course} {disk d e : Disk} {options : Options} {config : Config} {g : Gathered}
  {rules : List Rule} {p : Pass} {place : Place} {id : String} {level : Rule.Enforcement}
  {ms ms' : List Mapping}

/-! ### Gathering -/

theorem prepare_eq_ok_iff : (prepare disk config options).result = .ok rules ↔
    ∃ ms, Rule.overridesAt disk (options.rulesPath.getD config.rulesPath) = .ok ms ∧
      Rule.ofMappings Rule.Builtin.rules ms = .ok rules ∧
      disk.isTooLong config.docsPath = false ∧ disk.isDirectory config.docsPath = true := by
  unfold prepare
  simp only [Told.result_bind, Told.mapError, bind_eq_ok_iff, mapError_eq_ok_iff,
    Rule.load_eq_ok_iff]
  cases disk.isTooLong config.docsPath <;> cases disk.isDirectory config.docsPath <;> simp

theorem Pass.gathered_eq_ok_iff : p.gathered = .ok g ↔
    (Config.load p.disk p.projectRoot p.cpus).result = .ok g.config ∧
      (prepare p.disk g.config p.options).result = .ok g.rules ∧
      (Collection.ofDisk p.disk g.config.docsPath g.config.ignore).result = .ok g.collected := by
  unfold gathered gather
  simp only [Told.result_bind, Told.mapError, bind_eq_ok_iff, mapError_eq_ok_iff]
  constructor
  · rintro ⟨config, hconfig, rules, hrules, collected, hcollected, hg⟩
    obtain rfl := Except.ok.inj hg
    exact ⟨hconfig, hrules, hcollected⟩
  · rintro ⟨hconfig, hrules, hcollected⟩
    exact ⟨g.config, hconfig, g.rules, hrules, g.collected, hcollected, rfl⟩

/-! ### Examining -/

theorem save_congr (d e : Disk) (c : AnalysisCache) (now : ℤ) :
    (c.save e now).result.map (fun _ => ()) = (c.save d now).result.map fun _ => () := by
  unfold save
  cases c.path with
  | none => rfl
  | some path =>
    dsimp only
    split
    · rfl
    · split
      · rfl
      -- A document that cannot be written is no fault.
      · split <;> split <;> rfl

theorem storeCache_congr (course : Course) (d e : Disk) (limit : AgeLimit) (c : AnalysisCache) :
    (storeCache course e limit c).result.map (fun _ => ()) =
      (storeCache course d limit c).result.map fun _ => () := by
  rw [storeCache_result, storeCache_result]
  split
  · rfl
  · next count pruned notices _ =>
    have hsave := save_congr d e pruned course.saving
    cases hd : (pruned.save d course.saving).result <;>
      cases he : (pruned.save e course.saving).result <;>
      simp_all [Except.map, Except.mapError]

/-- What the analyses say does not depend on the disk beyond the cache that is opened on it. -/
theorem examine_congr (course : Course) (h : isPersistent g.config options = true →
    (openCache e (some g.config.cacheFile)).result =
      (openCache d (some g.config.cacheFile)).result) :
    (examine course e options g).result.map (·.analyses) =
      (examine course d options g).result.map (·.analyses) := by
  cases hpersistent : isPersistent g.config options with
  | false =>
    rw [examine_transient hpersistent, examine_transient hpersistent]
    rfl
  | true =>
    rw [examine_persistent hpersistent, examine_persistent hpersistent, h hpersistent]
    cases (openCache d (some g.config.cacheFile)).result with
    | error fault => rfl
    | ok cache =>
      have hstore := storeCache_congr course d e g.config.maxAge
        (analyzeAll course cache g.diagrams).2.1
      have hconst (x : Except Fault (Disk × Bool)) : (x.map fun left => ({
          analyses := (analyzeAll course cache g.diagrams).1
          cache := (analyzeAll course cache g.diagrams).2.1
          disk := left.1
          stored := left.2 } : Examined)).map (·.analyses) =
          (x.map fun _ => ()).map fun _ => (analyzeAll course cache g.diagrams).1 := by
        cases x <;> rfl
      exact (hconst _).trans ((congrArg _ hstore).trans (hconst _).symm)

/-! ### Concluding -/

/-- What is gathered where a rule has another enforcement. -/
def Gathered.enforce (id : String) (level : Rule.Enforcement) (g : Gathered) : Gathered :=
  { g with rules := g.rules.map (Rule.enforce id level) }

/-- The findings where the own violations of a rule have another severity. -/
def Findings.enforce (id : String) (level : Rule.Enforcement) (f : Findings) : Findings :=
  { f with violations := f.violations.map (Violation.enforce id level) }

theorem sources_enforce (analyses : Table String Analysis) :
    (g.enforce id level).sources analyses = g.sources analyses := by
  simp only [Gathered.sources, Gathered.enforce, Rule.hubFolders_enforce,
    Rule.folderClaims_enforce, Rule.folderPrefixes_enforce]

theorem inspect_enforce (s : Graph.Sources) (rules : List Rule) :
    (inspect s (rules.map (Rule.enforce id level))).1 =
      (inspect s rules).1.map (Violation.enforce id level) := by
  simp only [inspect, Rule.evaluate_enforce]

theorem findings_conclude_of_sources (g : Gathered) (x : Examined) :
    (conclude g x).result.map Outcome.findings =
      if (g.sources x.analyses).canClassify then
        .ok ⟨(inspect (g.sources x.analyses) g.rules).1, g.rules.length, g.collected.assets.length⟩
      else .error .classification := by
  unfold conclude
  dsimp only
  cases (g.sources x.analyses).canClassify <;> rfl

theorem findings_conclude_enforce {x y : Examined} (h : y.analyses = x.analyses) :
    (conclude (g.enforce id level) y).result.map Outcome.findings =
      ((conclude g x).result.map Outcome.findings).map (Findings.enforce id level) := by
  rw [findings_conclude_of_sources, findings_conclude_of_sources, h, sources_enforce]
  split
  · simp only [Gathered.enforce, inspect_enforce, List.length_map]
    rfl
  · rfl

/-! ### Two passes -/

namespace Pass

/-- The document of the rules of a pass. -/
def rulesPath (p : Pass) (g : Gathered) : Path := p.options.rulesPath.getD g.config.rulesPath

/-- Whether a disk differs from that of a pass by a change at a place outside the documents, and
gives the pass the same configuration, the ignored patterns among it, and the same cache to begin
with. -/
structure ChangedOutside (p : Pass) (g : Gathered) (place : Place) (e : Disk) : Prop where
  rewritten : Disk.Rewritten place p.disk e
  outside : ∀ docs, p.disk.resolve? g.config.docsPath = some docs → ¬docs <+: place
  config : (Config.load e p.projectRoot p.cpus).result = .ok g.config
  cache : isPersistent g.config p.options = true →
    (openCache e (some g.config.cacheFile)).result =
      (openCache p.disk (some g.config.cacheFile)).result

/-- Files that are found as they were are read as they were. -/
theorem changedOutside_of_files (hgathered : p.gathered = .ok g)
    (hrewritten : Disk.Rewritten place p.disk e)
    (houtside : ∀ docs, p.disk.resolve? g.config.docsPath = some docs → ¬docs <+: place)
    (hconfig : e.file? (p.projectRoot.join Config.configFile) =
      p.disk.file? (p.projectRoot.join Config.configFile))
    (hignore : e.file? (p.projectRoot.join Config.ignoreFile) =
      p.disk.file? (p.projectRoot.join Config.ignoreFile))
    (hlong : e.isTooLong g.config.cacheFile = p.disk.isTooLong g.config.cacheFile)
    (hcache : e.file? g.config.cacheFile = p.disk.file? g.config.cacheFile) :
    p.ChangedOutside g place e := by
  refine ⟨hrewritten, houtside, ?_, fun _ => ?_⟩
  · rw [Config.load_congr hconfig hignore]
    exact (gathered_eq_ok_iff.1 hgathered).1
  · simp only [openCache, openAt, AnalysisCache.load, hlong, hcache]

/-- The pass on another disk. -/
def on (p : Pass) (disk : Disk) : Pass := { p with disk }

theorem gathered_enforce (hgathered : p.gathered = .ok g) (hchange : p.ChangedOutside g place e)
    (hms : Rule.overridesAt p.disk (p.rulesPath g) = .ok ms)
    (hms' : Rule.overridesAt e (p.rulesPath g) = .ok ms')
    (hset : Rule.SetsEnforcement id level ms ms')
    (hknown : id ∈ (Rule.merged Rule.Builtin.rules ms).keys) :
    (p.on e).gathered = .ok (g.enforce id level) := by
  obtain ⟨-, hprepare, hcollect⟩ := gathered_eq_ok_iff.1 hgathered
  obtain ⟨found, hfound, hrules, hlong, hdocs⟩ := prepare_eq_ok_iff.1 hprepare
  obtain rfl : ms = found := Except.ok.inj (hms.symm.trans hfound)
  obtain ⟨docs, hresolve, -⟩ := Disk.isDirectory_iff.1 hdocs
  have hbelow := hchange.rewritten.below hresolve (hchange.outside docs hresolve)
  refine gathered_eq_ok_iff.2 ⟨hchange.config, prepare_eq_ok_iff.2 ⟨ms', hms', ?_, ?_, ?_⟩, ?_⟩
  · exact Rule.ofMappings_enforce Rule.named_builtin (Rule.areOverrides_overridesAt hms)
      (Rule.areOverrides_overridesAt hms') hset hknown hrules
  · exact (hchange.rewritten.isTooLong hresolve).trans hlong
  · exact hchange.rewritten.isDirectory hdocs
  · have hsame : Collection.ofDisk e g.config.docsPath g.config.ignore =
        Collection.ofDisk p.disk g.config.docsPath g.config.ignore := by
      simp only [Collection.ofDisk, hbelow]
    exact (congrArg _ hsame).trans hcollect

theorem nodup_ids_of_gathered (h : p.gathered = .ok g) : (g.rules.map (·.id)).Nodup := by
  obtain ⟨-, hprepare, -⟩ := gathered_eq_ok_iff.1 h
  obtain ⟨ms, hms, hrules, -, -⟩ := prepare_eq_ok_iff.1 hprepare
  exact Rule.nodup_ids_of_ofMappings Rule.named_builtin (Rule.areOverrides_overridesAt hms) hrules

end Pass

/-- Whether findings let the result fail. -/
def Findings.failed (f : Findings) : Bool := f.violations.any (·.isError)

theorem Outcome.failed_findings (o : Outcome) : o.findings.failed = o.report.failed := rfl

/-- The findings but for the own violations of a rule; crashes stay. -/
def Findings.without (id : String) (f : Findings) : Findings :=
  { f with violations := f.violations.filter fun v => v.ruleId ≠ id || v.isCrash }

theorem Findings.failed_without {f : Findings}
    (h : ∀ v ∈ f.violations, v.ruleId = id → v.isCrash = false → v.severity = "warning") :
    (f.without id).failed = f.failed := by
  rw [failed, failed, Bool.eq_iff_iff, List.any_eq_true, List.any_eq_true]
  constructor
  · rintro ⟨v, hv, herror⟩
    exact ⟨v, (List.mem_filter.1 hv).1, herror⟩
  · rintro ⟨v, hv, herror⟩
    refine ⟨v, List.mem_filter.2 ⟨hv, ?_⟩, herror⟩
    by_contra hown
    simp only [Bool.or_eq_true, decide_eq_true_eq, not_or, not_not, Bool.not_eq_true] at hown
    simp [Violation.isError, h v hv hown.1 hown.2] at herror

namespace Pass

theorem findings_on (hgathered : p.gathered = .ok g)
    (hon : (p.on e).gathered = .ok (g.enforce id level)) (hchange : p.ChangedOutside g place e) :
    (p.on e).findings = p.findings.map (Findings.enforce id level) := by
  have hanalyses := examine_congr p.course hchange.cache
  have hsame :
      (examine (p.on e).course (p.on e).disk (p.on e).options (g.enforce id level)).result =
        (examine p.course e p.options g).result := rfl
  rw [findings_of_gathered hon, findings_of_gathered hgathered, hsame]
  cases hbefore : (examine p.course p.disk p.options g).result with
  | error fault =>
    cases hafter : (examine p.course e p.options g).result with
    | error other =>
      obtain rfl : other = fault := by simpa [hbefore, hafter, Except.map] using hanalyses
      rfl
    | ok y => simp [hbefore, hafter, Except.map] at hanalyses
  | ok x =>
    cases hafter : (examine p.course e p.options g).result with
    | error fault => simp [hbefore, hafter, Except.map] at hanalyses
    | ok y =>
      have hxy : y.analyses = x.analyses := by
        simpa [hbefore, hafter, Except.map] using hanalyses
      exact findings_conclude_enforce hxy

theorem failed_of_findings {f : Findings} (hgathered : p.gathered = .ok g)
    (hfindings : p.findings = .ok f) {q : Rule} (hq : q ∈ g.rules)
    (hwarning : q.enforcement = .warning) : (f.without q.id).failed = f.failed := by
  refine Findings.failed_without fun v hv hid hcrash => ?_
  rw [findings_of_gathered hgathered] at hfindings
  obtain ⟨x, -, hconclude⟩ := exists_of_bind_ok hfindings
  rw [findings_conclude_of_sources] at hconclude
  split at hconclude
  · obtain rfl := Except.ok.inj hconclude
    have hseverity := Rule.severity_of_mem_evaluate (nodup_ids_of_gathered hgathered) hq _ _ v hv
      hid hcrash
    rw [hseverity, hwarning]
    rfl
  · contradiction

end Pass

/-- Where the rule document is outside the documents and gives the pass neither another
configuration nor another cache, to give a rule another enforcement in it changes the severities of
the own violations of that rule and nothing else of what the pass finds. Crashes stay errors, and
the own violations of a warning rule do not matter for whether the result fails. -/
theorem findings_enforce (hgathered : p.gathered = .ok g) (hchange : p.ChangedOutside g place e)
    (hms : Rule.overridesAt p.disk (p.rulesPath g) = .ok ms)
    (hms' : Rule.overridesAt e (p.rulesPath g) = .ok ms')
    (hset : Rule.SetsEnforcement id level ms ms')
    (hknown : id ∈ (Rule.merged Rule.Builtin.rules ms).keys) :
    (p.on e).findings = p.findings.map (Findings.enforce id level) ∧
      ∀ f, p.findings = .ok f → ∀ q ∈ g.rules, q.enforcement = .warning →
        (f.without q.id).failed = f.failed :=
  ⟨Pass.findings_on hgathered (Pass.gathered_enforce hgathered hchange hms hms' hset hknown)
    hchange, fun _ hf _ hq => Pass.failed_of_findings hgathered hf hq⟩

/-- A rule document that gives one rule an enforcement. -/
def ruleDocument (enforcement : String) : List UInt8 :=
  Text.Utf8.encode s!"rules:\n- id: core-metadata\n  enforcement: {enforcement}\n".toList

/-- What that document says. -/
def ruleMapping (enforcement : String) : Mapping :=
  [(.str "id", .str "core-metadata"), (.str "enforcement", .str enforcement)]

theorem overridesAt_of_texts {path : Path} {enforcement : String}
    (h : (Rule.overridesAt disk path).toOption.map
        (·.map fun m => m.map fun e => (e.1.asString?, e.2.asString?)) =
      some [[(some "id", some "core-metadata"), (some "enforcement", some enforcement)]]) :
    Rule.overridesAt disk path = .ok [ruleMapping enforcement] := by
  cases hfound : Rule.overridesAt disk path with
  | error fault => simp [hfound, Except.toOption] at h
  | ok found =>
    simp only [hfound, Except.toOption, Option.map_some, Option.some.injEq,
      List.map_eq_cons_iff, List.map_eq_nil_iff, Prod.mk.injEq, Value.asString?_eq_some_iff] at h
    obtain ⟨m, _, rfl, ⟨⟨k, v⟩, _, rfl, ⟨rfl, rfl⟩, ⟨k', v'⟩, _, rfl, ⟨rfl, rfl⟩, rfl⟩, rfl⟩ := h
    rfl

theorem find?_ruleMapping {key : String} (hkey : key ≠ "enforcement") (enforcement : String) :
    (ruleMapping enforcement).find? key =
      Mapping.find? [(.str "id", .str "core-metadata")] key := by
  simp [ruleMapping, Mapping.find?_cons, Value.asString?, hkey.symm]

/-- In a project without a rule document, three errors become warnings with a document. -/
theorem findings_enforce_sample :
    ((samplePass (sampleProject "")).findings.toOption.map
        (·.violations.map (·.severity)) = some ["error", "error", "error"]) ∧
      ∃ g, (samplePass (sampleProject "")).gathered = .ok g ∧
        ((samplePass (sampleProject "")).on ((sampleProject "").withFile
            [".specloom", "rules.yml"] (ruleDocument "warning"))).findings =
          (samplePass (sampleProject "")).findings.map
            (Findings.enforce "core-metadata" .warning) ∧
        ∀ f, (samplePass (sampleProject "")).findings = .ok f → ∀ q ∈ g.rules,
          q.enforcement = .warning → (f.without q.id).failed = f.failed := by
  let d : Disk := sampleProject ""
  let e : Disk := d.withFile [".specloom", "rules.yml"] (ruleDocument "warning")
  obtain ⟨g, hgathered, hdocs, hpath, hcache⟩ := Pass.exists_gathered (p := samplePass d)
    (P := fun g => d.resolve? g.config.docsPath = some ["docs"] ∧
      (samplePass d).rulesPath g = ⟨"/", [".specloom", "rules.yml"]⟩ ∧
      g.config.cacheFile = ⟨"/", [".specloom", "cache", "parse-cache.json"]⟩) (by decide +kernel)
  have hchange : (samplePass d).ChangedOutside g [".specloom", "rules.yml"] e := by
    refine Pass.changedOutside_of_files hgathered (Disk.rewritten_withFile (by decide +kernel) _)
      (fun docs hat => ?_) (by decide +kernel) (by decide +kernel) ?_ ?_
    · obtain rfl := Option.some.inj (hdocs.symm.trans hat)
      decide
    · rw [hcache]
      decide +kernel
    · rw [hcache]
      decide +kernel
  have hms : Rule.overridesAt d ((samplePass d).rulesPath g) = .ok [] := by
    rw [hpath]
    exact Rule.overridesAt_absent (by decide +kernel) (by decide +kernel)
  have hms' : Rule.overridesAt e ((samplePass d).rulesPath g) = .ok [ruleMapping "warning"] := by
    rw [hpath]
    exact overridesAt_of_texts (by decide +kernel)
  have hset : Rule.SetsEnforcement "core-metadata" .warning [] [ruleMapping "warning"] :=
    @Rule.SetsEnforcement.added _ _ [] [] _
      ⟨fun key hkey => find?_ruleMapping hkey _, "warning", by decide, rfl⟩
  exact ⟨by decide +kernel, g, hgathered,
    findings_enforce hgathered hchange hms hms' hset (by decide +kernel)⟩

/-- A project whose rule document is its ignore file. -/
def ignoredRules (enforcement : String) : Disk :=
  Disk.withFile { entries := .ofList [(["docs"], .directory),
      (["docs", "enforcement: warning"], .directory),
      ([".specloomignore"], .file [])] } [".specloomignore"] (ruleDocument enforcement)

def ignoredRulesPass (enforcement : String) : Pass :=
  { samplePass (ignoredRules enforcement) with
    options := { rulesPath := some ⟨"/", [".specloomignore"]⟩, useCache := false } }

/-- A line of a rule document that is the ignore file too decides about a directory. -/
theorem findings_ignoredRules :
    ∃ g, (ignoredRulesPass "warning").gathered = .ok g ∧
      Disk.Rewritten [".specloomignore"] (ignoredRules "warning") (ignoredRules "error") ∧
      (ignoredRules "warning").resolve? g.config.docsPath = some ["docs"] ∧
      ¬["docs"] <+: [".specloomignore"] ∧
      Rule.overridesAt (ignoredRules "warning") ((ignoredRulesPass "warning").rulesPath g) =
        .ok [ruleMapping "warning"] ∧
      Rule.overridesAt (ignoredRules "error") ((ignoredRulesPass "warning").rulesPath g) =
        .ok [ruleMapping "error"] ∧
      Rule.SetsEnforcement "core-metadata" .error [ruleMapping "warning"] [ruleMapping "error"] ∧
      "core-metadata" ∈ (Rule.merged Rule.Builtin.rules [ruleMapping "warning"]).keys ∧
      ((ignoredRulesPass "warning").findings.toOption.map (·.violations.length)) = some 0 ∧
      (((ignoredRulesPass "warning").on (ignoredRules "error")).findings.toOption.map
        (·.violations.length)) = some 1 := by
  obtain ⟨g, hgathered, hdocs, hpath⟩ := Pass.exists_gathered (p := ignoredRulesPass "warning")
    (P := fun g => (ignoredRules "warning").resolve? g.config.docsPath = some ["docs"] ∧
      (ignoredRulesPass "warning").rulesPath g = ⟨"/", [".specloomignore"]⟩) (by decide +kernel)
  have hrewritten : Disk.Rewritten [".specloomignore"] (ignoredRules "warning")
      (ignoredRules "error") :=
    Disk.rewritten_withFile (d := ignoredRules "warning") (by decide +kernel)
      (ruleDocument "error")
  have hset : Rule.SetsEnforcement "core-metadata" .error [ruleMapping "warning"]
      [ruleMapping "error"] :=
    @Rule.SetsEnforcement.changed _ _ [] [] _ _ rfl
      ⟨fun key hkey => (find?_ruleMapping hkey _).trans (find?_ruleMapping hkey _).symm, "error",
        by decide, rfl⟩
  refine ⟨g, hgathered, hrewritten, hdocs, by decide, ?_, ?_, hset, by decide +kernel,
    by decide +kernel, by decide +kernel⟩
  · rw [hpath]
    exact overridesAt_of_texts (by decide +kernel)
  · rw [hpath]
    exact overridesAt_of_texts (by decide +kernel)

end Lint

end DocTrace
