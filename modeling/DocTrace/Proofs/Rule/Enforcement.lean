import DocTrace.Proofs.Inspection.Messages
import DocTrace.Rule.Loading
import Mathlib.Data.List.Nodup

/-! What the enforcement of a rule decides: the severity of its own violations, unless these report
a crash. Nothing else that is made of the rules looks at it. -/

namespace DocTrace

/-- The rule with another enforcement, if it has the identifier. -/
def Rule.enforce (id : String) (level : Rule.Enforcement) (r : Rule) : Rule :=
  if r.id = id then { r with enforcement := level } else r

/-- The violation with another severity, if the rule with the identifier is violated. Crashes stay
errors. -/
def Violation.enforce (id : String) (level : Rule.Enforcement) (v : Violation) : Violation :=
  if v.ruleId = id ∧ v.isCrash = false then { v with severity := level.name } else v

namespace Rule

variable (id : String) (level : Enforcement)

@[simp] theorem id_enforce (r : Rule) : (r.enforce id level).id = r.id := by
  unfold enforce
  split <;> rfl

@[simp] theorem level_enforce (r : Rule) : (r.enforce id level).level = r.level := by
  unfold enforce
  split <;> rfl

@[simp] theorem target_enforce (r : Rule) : (r.enforce id level).target = r.target := by
  unfold enforce
  split <;> rfl

@[simp] theorem hub_enforce (r : Rule) : (r.enforce id level).hub = r.hub := by
  unfold enforce
  split <;> rfl

@[simp] theorem checks_enforce (r : Rule) : (r.enforce id level).checks = r.checks := by
  unfold enforce
  split <;> rfl

/-! ### Folders -/

theorem hubFolders_enforce (rules : List Rule) :
    hubFolders (rules.map (enforce id level)) = hubFolders rules := by
  have hsame (r : Rule) : hubFolder? (r.enforce id level) = hubFolder? r := by
    simp only [hubFolder?, hub_enforce, target_enforce, id_enforce]
  simp only [hubFolders, List.filterMap_map, Function.comp_def, hsame]

theorem claim?_enforce (r : Rule) : (r.enforce id level).claim? = r.claim? := by
  simp only [claim?, level_enforce, target_enforce]

theorem folderClaims_enforce (rules : List Rule) :
    folderClaims (rules.map (enforce id level)) = folderClaims rules := by
  simp only [folderClaims, List.foldl_map, claim?_enforce, id_enforce]

theorem folderPrefixes_enforce (rules : List Rule) :
    folderPrefixes (rules.map (enforce id level)) = folderPrefixes rules := by
  simp only [folderPrefixes, List.foldl_map, claim?_enforce, target_enforce]

/-! ### Violations -/

theorem violationOf_enforce (r : Rule) (a : Option Asset) {f : Finding}
    (hf : Finding.IsOrdinary f.message) :
    (r.enforce id level).violationOf a f = (r.violationOf a f).enforce id level := by
  have hcrash := Violation.isCrash_violationOf hf r a
  have hid : (r.violationOf a f).ruleId = r.id := rfl
  unfold Violation.enforce enforce
  rw [hcrash, hid]
  by_cases h : r.id = id
  · rw [if_pos h, if_pos ⟨h, rfl⟩]
    rfl
  · rw [if_neg h, if_neg fun hown => h hown.1]

theorem crashOf_enforce (r : Rule) (a : Option Asset) (crash : Finding.Crash) :
    (r.enforce id level).crashOf a crash = (r.crashOf a crash).enforce id level := by
  have hcrash := Violation.isCrash_crashOf r a crash
  rw [Violation.enforce, hcrash, if_neg (by simp)]
  unfold enforce
  split <;> rfl

theorem run_enforce (r : Rule) (a : Option Asset) (g : Graph) :
    (r.enforce id level).run a g =
      ((r.run a g).1.map (Violation.enforce id level), (r.run a g).2) := by
  have hfindings : (r.enforce id level).findings a g = r.findings a g := by
    simp only [findings, id_enforce, checks_enforce]
  unfold run
  rw [hfindings]
  cases hfound : r.findings a g with
  | mk result rest =>
    cases result with
    | error crash => simp [crashOf_enforce]
    | ok found =>
      have hordinary : ∀ f ∈ found, Finding.IsOrdinary f.message :=
        isOrdinary_of_runChecks (congrArg Prod.fst hfound)
      have hsame : found.map ((r.enforce id level).violationOf a) =
          (found.map (r.violationOf a)).map (Violation.enforce id level) := by
        rw [List.map_map]
        exact List.map_congr_left fun f hf => violationOf_enforce id level r a (hordinary f hf)
      simp only [hsame]

theorem runAll_enforce (g : Graph) (scheduled : List (Rule × Option Asset)) :
    runAll g (scheduled.map fun e => (e.1.enforce id level, e.2)) =
      ((runAll g scheduled).1.map (Violation.enforce id level), (runAll g scheduled).2) := by
  induction scheduled generalizing g with
  | nil => rfl
  | cons e rest ih =>
    obtain ⟨r, a⟩ := e
    simp only [List.map_cons, runAll, run_enforce, ih, List.map_append]

theorem schedule_enforce (rules : List Rule) (assets : List Asset) :
    schedule (rules.map (enforce id level)) assets =
      (schedule rules assets).map fun e => (e.1.enforce id level, e.2) := by
  have happlies (a : Asset) (r : Rule) : (r.enforce id level).appliesTo a = r.appliesTo a := by
    simp only [appliesTo, isProject, level_enforce, target_enforce]
  have hproject (r : Rule) : (r.enforce id level).isProject = r.isProject := by
    simp only [isProject, level_enforce]
  simp only [schedule, List.map_append, List.map_flatMap, List.filter_map, List.map_map,
    Function.comp_def, happlies, hproject]

/-- With another enforcement of a rule, all rules report what they reported, at the same places and
in the same order, and leave the same graph and the same notices. -/
theorem evaluate_enforce (rules : List Rule) (assets : List Asset) (g : Graph) :
    evaluate (rules.map (enforce id level)) assets g =
      ((evaluate rules assets g).1.map (Violation.enforce id level),
        (evaluate rules assets g).2) := by
  rw [evaluate, schedule_enforce, runAll_enforce]
  rfl

theorem map_enforce_self {rules : List Rule} (hids : (rules.map (·.id)).Nodup) {q : Rule}
    (hq : q ∈ rules) : rules.map (enforce q.id q.enforcement) = rules := by
  refine (List.map_congr_left fun r hr => ?_).trans (List.map_id rules)
  unfold enforce
  split
  · next hid => rw [List.inj_on_of_nodup_map hids hr hq hid]; rfl
  · rfl

/-- The own violations of a rule have the severity that it says, unless they report a crash. -/
theorem severity_of_mem_evaluate {rules : List Rule} (hids : (rules.map (·.id)).Nodup) {q : Rule}
    (hq : q ∈ rules) (assets : List Asset) (g : Graph) :
    ∀ v ∈ (evaluate rules assets g).1, v.ruleId = q.id → v.isCrash = false →
      v.severity = q.enforcement.name := by
  -- To give the rule the enforcement that it has changes nothing.
  have hsame := congrArg Prod.fst (evaluate_enforce q.id q.enforcement rules assets g)
  rw [map_enforce_self hids hq] at hsame
  intro v hv hid hcrash
  have hfixed : v.enforce q.id q.enforcement = v :=
    List.map_inj_left.1 (hsame.symm.trans (List.map_id _).symm) v hv
  rw [← hfixed, Violation.enforce, if_pos ⟨hid, hcrash⟩]

end Rule

end DocTrace
