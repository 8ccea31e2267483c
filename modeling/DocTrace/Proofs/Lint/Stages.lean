import DocTrace.Lint
import DocTrace.Proofs.AnalysisCache.Saving
import DocTrace.Proofs.AnalysisCache.Schedule
import DocTrace.Proofs.Graph.Unmarked

/-! The stages of a pass. Gathering does not know of the cache. Analyzing through a cache
of fresh entries gives every diagram the analysis of its content, so the conclusion is the
same as that without a cache. What is left for the cache is to be opened and stored, and
each of these can break the pass off. -/

namespace DocTrace

namespace Told

variable {ε δ α β : Type}

@[simp] theorem result_bind (t : Told ε α) (f : α → Told ε β) :
    (t >>= f).result = t.result.bind fun a => (f a).result := result_andThen t f

@[simp] theorem result_pure (a : α) : (pure a : Told ε α).result = .ok a := rfl

@[simp] theorem result_tell (notices : List Notice) :
    (tell notices : Told ε Unit).result = .ok () := rfl

@[simp] theorem result_fail (e : ε) : (fail e : Told ε α).result = .error e := rfl

end Told

namespace Lint

open AnalysisCache

/-! ### Analyzing -/

/-- What all diagrams say. -/
def Gathered.fresh (g : Gathered) : Table String Analysis :=
  .ofList (g.diagrams.map fun a => (a.path, DocTrace.analyze a.body))

/-- The bodies of all diagrams. -/
def Gathered.bodies (g : Gathered) : Set String := {body | ∃ a ∈ g.diagrams, a.body = body}

/-- All times of a course are ones that a clock can show. -/
structure Course.IsTimely (course : Course) : Prop where
  turns : ∀ turn ∈ course.turns, IsClockTime turn.now
  analyzing : IsClockTime course.analyzing
  saving : IsClockTime course.saving

theorem isTimely_atOnce {now : ℤ} (hnow : IsClockTime now) : (Course.atOnce now).IsTimely :=
  ⟨by simp [Course.atOnce], hnow, hnow⟩

variable {course : Course} {disk : Disk} {options : Options} {g : Gathered}
  {contents : Set String} {cache : AnalysisCache}

theorem callsFor_content (diagrams : List Asset) :
    (callsFor diagrams).map (·.content) = diagrams.map (·.body) := by
  simp [callsFor, Function.comp_def]

theorem map_unmarked_analyses {c : AnalysisCache} {calls : List Call}
    (hright : ∀ call ∈ calls, call.IsRight c) (hdone : ∀ call ∈ calls, call.IsDone) :
    (calls.filterMap (·.analysis?)).map Analysis.unmarked =
      calls.map fun call => DocTrace.analyze call.content := by
  induction calls with
  | nil => rfl
  | cons call rest ih =>
    obtain ⟨a, ha⟩ := hdone call (List.mem_cons_self ..)
    have hsame := (hright call (List.mem_cons_self ..) a ha).1
    have hrest := ih (fun k hk => hright k (List.mem_cons_of_mem _ hk))
      fun k hk => hdone k (List.mem_cons_of_mem _ hk)
    have hfirst : call.analysis? = some a := by simp only [Call.analysis?, ha]
    rw [List.filterMap_cons, hfirst, List.map_cons, List.map_cons, hsame, hrest]

/-- The pool of all calls, run to its end along a course. -/
def analyzed (course : Course) (cache : AnalysisCache) (diagrams : List Asset) : Pool :=
  ({ cache, calls := callsFor diagrams } : Pool).complete course.turns course.analyzing

theorem isDone_analyzed (course : Course) (cache : AnalysisCache) (diagrams : List Asset) :
    ∀ call ∈ (analyzed course cache diagrams).calls, call.IsDone := isDone_complete _ _ _

theorem sound_analyzed (hcourse : course.IsTimely) (hfresh : cache.Fresh contents)
    (hbodies : g.bodies ⊆ contents) (hdigests : Set.InjOn contentHash contents) :
    (analyzed course cache g.diagrams).Sound contents cache (g.diagrams.map (·.body)) := by
  let start : Pool := { cache, calls := callsFor g.diagrams }
  have hbodies : ∀ content ∈ g.diagrams.map (·.body), content ∈ contents := by
    intro content hcontent
    obtain ⟨a, ha, rfl⟩ := List.mem_map.1 hcontent
    exact hbodies ⟨a, ha, rfl⟩
  have hstart : start.Sound contents cache (g.diagrams.map (·.body)) := by
    refine ⟨.refl _ cache, callsFor_content g.diagrams, fun call hcall a ha => ?_⟩
    obtain ⟨diagram, -, rfl⟩ := List.mem_map.1 hcall
    simp at ha
  -- The calls run along the turns of the course first, and in order after that.
  have hturns : ∀ turn ∈ course.turns ++ Pool.inOrder course.analyzing start.calls.length,
      IsClockTime turn.now := by
    intro turn hturn
    rcases List.mem_append.1 hturn with hturn | hturn
    · exact hcourse.turns turn hturn
    · obtain ⟨i, -, hi⟩ := List.mem_flatMap.1 hturn
      have hsame : turn = ⟨i, course.analyzing⟩ := by simpa using hi
      exact hsame ▸ hcourse.analyzing
  exact sound_run hstart hfresh hbodies hdigests hturns

/-- Analyses in the order of the diagrams are stored under the paths of these. -/
theorem mapValues_unmarked_zip {analyses : List Analysis}
    (h : analyses.map Analysis.unmarked = g.diagrams.map fun a => DocTrace.analyze a.body) :
    (Table.ofList ((g.diagrams.map (·.path)).zip analyses)).mapValues Analysis.unmarked =
      g.fresh := by
  have hpairs : ((g.diagrams.map (·.path)).zip analyses).map (fun e => (e.1, e.2.unmarked)) =
      g.diagrams.map fun a => (a.path, DocTrace.analyze a.body) := by
    calc ((g.diagrams.map (·.path)).zip analyses).map (fun e => (e.1, e.2.unmarked))
        = (g.diagrams.map (·.path)).zip (analyses.map Analysis.unmarked) := by
          rw [List.zip_map_right]
          rfl
      _ = (g.diagrams.map (·.path)).zip (g.diagrams.map fun a => DocTrace.analyze a.body) := by
          rw [h]
      _ = g.diagrams.map fun a => (a.path, DocTrace.analyze a.body) := List.zip_map' ..
  have htable := Table.mapValues_ofList ((g.diagrams.map (·.path)).zip analyses) Analysis.unmarked
  rw [hpairs] at htable
  exact htable

/-- All diagrams are analyzed right, and the cache stays fresh and has an entry for each. -/
theorem analyzeAll_spec (hcourse : course.IsTimely) (hfresh : cache.Fresh contents)
    (hbodies : g.bodies ⊆ contents) (hdigests : Set.InjOn contentHash contents) :
    (analyzeAll course cache g.diagrams).1.mapValues Analysis.unmarked = g.fresh ∧
      Edit (Acceptable contents) cache (analyzeAll course cache g.diagrams).2.1 ∧
      ∀ a ∈ g.diagrams, contentHash a.body ∈
        (analyzeAll course cache g.diagrams).2.1.entries.keys := by
  have hsound := sound_analyzed hcourse hfresh hbodies hdigests
  have hdone := isDone_analyzed course cache g.diagrams
  refine ⟨mapValues_unmarked_zip ?_, hsound.edit, fun a ha => ?_⟩
  · have hcontents := congrArg (List.map DocTrace.analyze) hsound.calls
    have hanalyses := map_unmarked_analyses hsound.right hdone
    simp only [List.map_map, Function.comp_def] at hcontents
    exact hanalyses.trans hcontents
  · have hbody : a.body ∈ (analyzed course cache g.diagrams).calls.map (·.content) :=
      hsound.calls ▸ List.mem_map_of_mem (f := (·.body)) ha
    obtain ⟨call, hcall, hcontent⟩ := List.mem_map.1 hbody
    obtain ⟨analysis, hprogress⟩ := hdone call hcall
    have hkey := (hsound.right call hcall analysis hprogress).2
    rwa [hcontent] at hkey

/-! ### Concluding -/

/-- What a pass finds: the violations, and how many rules and documents there were. -/
structure Findings where
  violations : List Violation
  rulesEvaluated : ℕ
  assetsScanned : ℕ
deriving DecidableEq

def Outcome.findings (o : Outcome) : Findings :=
  ⟨o.report.violations, o.report.rulesEvaluated, o.report.assetsScanned⟩

/-- The findings where every diagram has a new analysis. -/
def Gathered.verdict (g : Gathered) : Except Fault Findings :=
  let s := g.sources g.fresh
  if s.canClassify then
    .ok ⟨(inspect s g.rules).1, g.rules.length, g.collected.assets.length⟩
  else .error .classification

theorem inspect_unmarked (s : Graph.Sources) (rules : List Rule) :
    (inspect s.unmarked rules).1 = (inspect s rules).1 := by
  simp only [inspect, Graph.build_unmarked]
  exact Rule.evaluate_unmarked (Graph.build s).1 rules s.assets

/-- The conclusion depends on what the analyses say only. -/
theorem findings_conclude {e : Examined} (h : e.analyses.mapValues Analysis.unmarked = g.fresh) :
    (conclude g e).result.map Outcome.findings = g.verdict := by
  have hsources : (g.sources e.analyses).unmarked = g.sources g.fresh := by
    rw [← h]
    rfl
  have hclassify : (g.sources e.analyses).canClassify = (g.sources g.fresh).canClassify := rfl
  have hinspect := inspect_unmarked (g.sources e.analyses) g.rules
  rw [hsources] at hinspect
  unfold conclude Gathered.verdict
  dsimp only
  rw [hclassify]
  cases (g.sources g.fresh).canClassify with
  | false => rfl
  | true =>
    rw [hinspect]
    rfl

/-! ### Opening and storing the cache -/

/-- The faults that only a persistent cache leads to. -/
def Fault.isOfCache : Fault → Bool
  | .cache _ | .age _ => true
  | _ => false

theorem openCache_result (disk : Disk) (path : Option Path) :
    (openCache disk path).result =
      match (openAt disk path).fault with
      | none => .ok (openAt disk path).cache
      | some fault => .error (.cache fault) := by
  unfold openCache
  dsimp only
  split <;> simp [*]

theorem eq_of_openCache {path : Option Path}
    (h : (openCache disk path).result = .ok cache) : (openAt disk path).cache = cache := by
  rw [openCache_result] at h
  split at h
  · exact Except.ok.inj h
  · simp at h

theorem examine_transient (h : isPersistent g.config options = false) (course : Course)
    (disk : Disk) :
    (examine course disk options g).result =
      .ok { analyses := (analyzeAll course {} g.diagrams).1
            cache := (analyzeAll course {} g.diagrams).2.1
            disk
            stored := false } := by
  unfold examine
  simp only [h]
  rfl

theorem examine_persistent (h : isPersistent g.config options = true) (course : Course)
    (disk : Disk) :
    (examine course disk options g).result =
      (openCache disk (some g.config.cacheFile)).result.bind fun cache =>
        (storeCache course disk g.config.maxAge
          (analyzeAll course cache g.diagrams).2.1).result.map fun left =>
            { analyses := (analyzeAll course cache g.diagrams).1
              cache := (analyzeAll course cache g.diagrams).2.1
              disk := left.1
              stored := left.2 } := by
  unfold examine
  simp [h, Except.map, Except.bind]

theorem examine_of_stored {cache : AnalysisCache} {left : Disk × Bool}
    (h : isPersistent g.config options = true)
    (hopen : (openCache disk (some g.config.cacheFile)).result = .ok cache)
    (hstore : (storeCache course disk g.config.maxAge
      (analyzeAll course cache g.diagrams).2.1).result = .ok left) :
    (examine course disk options g).result =
      .ok { analyses := (analyzeAll course cache g.diagrams).1
            cache := (analyzeAll course cache g.diagrams).2.1
            disk := left.1
            stored := left.2 } := by
  rw [examine_persistent h, hopen]
  simp only [Except.bind, hstore, Except.map]

/-- The stages of a pass that keeps its cache, where none of them breaks off. -/
theorem exists_of_examine {e : Examined} (h : isPersistent g.config options = true)
    (hresult : (examine course disk options g).result = .ok e) :
    ∃ (cache : AnalysisCache) (left : Disk × Bool),
      (openCache disk (some g.config.cacheFile)).result = .ok cache ∧
      (storeCache course disk g.config.maxAge
        (analyzeAll course cache g.diagrams).2.1).result = .ok left ∧
      e = { analyses := (analyzeAll course cache g.diagrams).1
            cache := (analyzeAll course cache g.diagrams).2.1
            disk := left.1
            stored := left.2 } := by
  rw [examine_persistent h] at hresult
  cases hopen : (openCache disk (some g.config.cacheFile)).result with
  | error fault => simp [hopen, Except.bind] at hresult
  | ok cache =>
    simp only [hopen, Except.bind] at hresult
    cases hstore : (storeCache course disk g.config.maxAge
        (analyzeAll course cache g.diagrams).2.1).result with
    | error fault => simp [hstore, Except.map] at hresult
    | ok left =>
      rw [hstore] at hresult
      exact ⟨cache, left, rfl, hstore, (Except.ok.inj hresult).symm⟩

theorem examine_of_not_stored {cache : AnalysisCache} {fault : Fault}
    (h : isPersistent g.config options = true)
    (hopen : (openCache disk (some g.config.cacheFile)).result = .ok cache)
    (hstore : (storeCache course disk g.config.maxAge
      (analyzeAll course cache g.diagrams).2.1).result = .error fault) :
    (examine course disk options g).result = .error fault := by
  rw [examine_persistent h, hopen]
  simp only [Except.bind, hstore, Except.map]

theorem storeCache_result (course : Course) (disk : Disk) (limit : AgeLimit) (c : AnalysisCache) :
    (storeCache course disk limit c).result =
      match c.prune course.pruning limit with
      | .error fault => .error (.age fault)
      | .ok (_, pruned, _) =>
        ((pruned.save disk course.saving).result.map
          ((pruned.save disk course.saving).disk, ·)).mapError Fault.cache := by
  unfold storeCache
  split <;> simp [*]

end Lint

end DocTrace
