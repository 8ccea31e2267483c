import DocTrace.Evaluation

/-! The mark that tells where an analysis came from does not reach a verdict. Without the
marks every step of the assembly and every check does the same, so the violations of a
project depend on what its analyses say only. -/

namespace DocTrace

namespace Graph

def unmarked (g : Graph) : Graph := { g with analyses := g.analyses.mapValues Analysis.unmarked }

def Sources.unmarked (s : Sources) : Sources :=
  { s with analyses := s.analyses.mapValues Analysis.unmarked }

variable (g : Graph)

@[simp] theorem unmarked_nodes : g.unmarked.nodes = g.nodes := rfl

@[simp] theorem unmarked_idToFile : g.unmarked.idToFile = g.idToFile := rfl

theorem find?_unmarked (path : String) :
    g.unmarked.analyses.find? path = (g.analyses.find? path).map Analysis.unmarked :=
  Table.find?_mapValues ..

/-- What an analysis says does not depend on its mark. -/
theorem find?_unmarked_map {β : Type} (path : String) (f : Analysis → β)
    (hf : ∀ a, f a.unmarked = f a) :
    (g.unmarked.analyses.find? path).map f = (g.analyses.find? path).map f := by
  rw [find?_unmarked, Option.map_map]
  exact congrArg (Option.map · _) (funext hf)

/-! ### Assembly -/

theorem foldl_unmarked {f : Graph → α → Graph}
    (hf : ∀ g a, f (unmarked g) a = (f g a).unmarked) (items : List α) :
    items.foldl f g.unmarked = (items.foldl f g).unmarked := by
  induction items generalizing g with
  | nil => rfl
  | cons a rest ih => rw [List.foldl_cons, hf, ih, List.foldl_cons]

theorem register_unmarked (id file : String) :
    g.unmarked.register id file = ((g.register id file).1.unmarked, (g.register id file).2) := by
  simp only [register, unmarked_idToFile]
  cases g.idToFile.find? id with
  | none => rfl
  | some first =>
    by_cases hfirst : first = file
    · simp only [hfirst, if_true]
    · simp only [hfirst, if_false]
      rfl

theorem registerAll_unmarked (declared : List (String × String)) :
    g.unmarked.registerAll declared =
      ((g.registerAll declared).1.unmarked, (g.registerAll declared).2) := by
  induction declared generalizing g with
  | nil => rfl
  | cons d rest ih =>
    obtain ⟨id, file⟩ := d
    simp only [registerAll, register_unmarked, ih]

theorem drawLink_unmarked (l : Link) : g.unmarked.drawLink l = (g.drawLink l).unmarked := by
  unfold drawLink
  cases l.kind <;> rfl

theorem declare_unmarked (d : Declaration) : g.unmarked.declare d = (g.declare d).unmarked :=
  foldl_unmarked (g.ensure d.source) drawLink_unmarked d.links

theorem addAlias_unmarked (id file : String) :
    g.unmarked.addAlias id file = (g.addAlias id file).unmarked := by
  have hdeclared : g.unmarked.isDeclared id = g.isDeclared id := rfl
  unfold addAlias
  rw [hdeclared]
  split <;> rfl

theorem own_unmarked (fileId found : String) :
    g.unmarked.own fileId found = (g.own fileId found).unmarked := by
  unfold own
  split
  · rfl
  · have hparent : (g.unmarked.refer found).hasDeclaredParent (ownership fileId found).2 =
        (g.refer found).hasDeclaredParent (ownership fileId found).2 := rfl
    dsimp only
    rw [hparent]
    split <;> rfl

theorem joinHub_unmarked (path fileId : String) :
    g.unmarked.joinHub path fileId = (g.joinHub path fileId).unmarked := by
  have hhub : g.unmarked.hubFor? path = g.hubFor? path := rfl
  unfold joinHub
  rw [hhub]
  split
  · split <;> rfl
  · rfl

theorem imply_unmarked (a : Asset) : g.unmarked.imply a = (g.imply a).unmarked := by
  unfold imply
  dsimp only
  rw [find?_unmarked_map g a.path Analysis.endpoints fun _ => rfl,
    find?_unmarked_map g a.path Analysis.nodes fun _ => rfl,
    foldl_unmarked g (fun g id => (rfl : refer g.unmarked id = (refer g id).unmarked))]
  split
  · rfl
  · rw [joinHub_unmarked]
    exact foldl_unmarked _ (fun g found => own_unmarked g _ found) _

theorem classify_unmarked (id : String) (declared : Option String) :
    g.unmarked.classify id declared = (g.classify id declared).unmarked := by
  unfold classify
  split
  · rfl
  · have hmetadata : g.unmarked.metadata? id classificationKey =
        g.metadata? id classificationKey := rfl
    have huplinks : g.unmarked.linkedUplinks id = g.linkedUplinks id := rfl
    rw [hmetadata, huplinks]
    split <;> rfl

theorem describeEntity_unmarked (e : Entity) :
    g.unmarked.describeEntity e = (g.describeEntity e).unmarked := by
  unfold describeEntity
  split <;> rfl

theorem describeAsset_unmarked (a : Asset) :
    g.unmarked.describeAsset a = (g.describeAsset a).unmarked := by
  unfold describeAsset
  dsimp only
  split
  · next id _ =>
    have hroot : g.unmarked.describe id fileRootKey (.bool true) =
        (g.describe id fileRootKey (.bool true)).unmarked := rfl
    rw [hroot, classify_unmarked]
    exact foldl_unmarked _ describeEntity_unmarked _
  · exact foldl_unmarked _ describeEntity_unmarked _

theorem build_unmarked (s : Sources) : build s.unmarked = ((build s).1.unmarked, (build s).2) := by
  have hstart : start s.unmarked = (start s).unmarked := rfl
  unfold build
  dsimp only
  rw [hstart, registerAll_unmarked]
  dsimp only
  rw [foldl_unmarked _ declare_unmarked,
    foldl_unmarked _ (f := fun g (e : String × String) => g.addAlias e.1 e.2)
      (fun g e => addAlias_unmarked g e.1 e.2),
    foldl_unmarked _ imply_unmarked, foldl_unmarked _ describeAsset_unmarked]
  rfl

end Graph

/-! ### Rules -/

namespace Rule

open Inspection

variable (g : Graph)

theorem missingNodes_unmarked (nodes : List String) (a : Asset) :
    missingNodes nodes g.unmarked a = missingNodes nodes g a := by
  unfold missingNodes
  rw [Graph.find?_unmarked_map g a.path Analysis.nodes fun _ => rfl]

theorem personaGate_unmarked (a : Asset) : personaGate g.unmarked a = personaGate g a := by
  unfold personaGate
  dsimp only
  rw [Graph.find?_unmarked_map g a.path Analysis.nodes fun _ => rfl,
    Graph.find?_unmarked_map g a.path Analysis.labels fun _ => rfl]

theorem distinctDownlinks_unmarked (seen : List (String × String)) (links : List Graph.Link) :
    distinctDownlinks g.unmarked seen links = distinctDownlinks g seen links := by
  induction links generalizing seen with
  | nil => rfl
  | cons l rest ih =>
    have hdeclared : g.unmarked.isDeclared l.target = g.isDeclared l.target := rfl
    simp only [distinctDownlinks, hdeclared, ih]

theorem searchUp_unmarked (fuel : Nat) (seen queue : List String) :
    searchUp g.unmarked fuel seen queue = searchUp g fuel seen queue := by
  induction fuel generalizing seen queue with
  | zero => rfl
  | succ fuel ih =>
    cases queue with
    | nil => rfl
    | cons id rest =>
      have hparents : g.unmarked.linkedUplinks id = g.linkedUplinks id := rfl
      have hgoal : isTraceGoal g.unmarked = isTraceGoal g := rfl
      simp only [searchUp, hparents, hgoal, ih]

theorem linkReciprocity_unmarked : linkReciprocity g.unmarked = linkReciprocity g := by
  have hlinks : g.unmarked.declaredLinks = g.declaredLinks := rfl
  have huplinks : g.unmarked.uplinks = g.uplinks := rfl
  simp only [linkReciprocity, hlinks, huplinks, distinctDownlinks_unmarked]

theorem flowRequirementTrace_unmarked :
    flowRequirementTrace g.unmarked = flowRequirementTrace g := by
  have htraces : tracesToRequirement g.unmarked = tracesToRequirement g :=
    funext fun id => searchUp_unmarked g (searchFuel g) [id] [id]
  simp only [flowRequirementTrace, htraces]
  rfl

theorem named_report_unmarked (a : Option Asset) (check : Named) :
    check.report g.unmarked a = check.report g a := by
  cases check with
  | personaGate => simp only [Named.report, personaGate_unmarked]
  | linkReciprocity => simp only [Named.report, linkReciprocity_unmarked]
  | flowRequirementTrace => simp only [Named.report, flowRequirementTrace_unmarked]
  | _ => rfl

theorem report_unmarked (a : Option Asset) (check : Check) :
    check.report g.unmarked a = check.report g a := by
  cases check with
  | requiredNodes nodes =>
    exact congrArg (messagesFor a) (funext fun a => missingNodes_unmarked g nodes a)
  | named check => exact named_report_unmarked g a check
  | _ => rfl

theorem annotate_unmarked (id key : String) (value : Value) (writer : String) :
    (g.unmarked.annotate id key value writer).2 =
      ((g.annotate id key value writer).2.1.unmarked, (g.annotate id key value writer).2.2) := by
  simp only [Graph.annotate, Graph.unmarked_nodes]
  cases g.nodes.find? id with
  | none => rfl
  | some n =>
    dsimp only
    split <;> rfl

theorem record_unmarked (a : Option Asset) (writer : String) (check : Check) :
    check.record g.unmarked a writer =
      ((check.record g a writer).1.unmarked, (check.record g a writer).2) := by
  unfold Check.record
  split
  · simp only [personaGate_unmarked]
    split
    · exact annotate_unmarked ..
    · rfl
  · rfl

theorem runChecks_unmarked (writer : String) (a : Option Asset) (checks : List Check) :
    runChecks writer a g.unmarked checks =
      ((runChecks writer a g checks).1, (runChecks writer a g checks).2.1.unmarked,
        (runChecks writer a g checks).2.2) := by
  induction checks generalizing g with
  | nil => rfl
  | cons check rest ih =>
    simp only [runChecks, report_unmarked]
    cases check.report g a with
    | error crash => rfl
    | ok findings => simp only [record_unmarked, ih]

theorem run_unmarked (r : Rule) (a : Option Asset) :
    r.run a g.unmarked = ((r.run a g).1, (r.run a g).2.1.unmarked, (r.run a g).2.2) := by
  simp only [run, findings, runChecks_unmarked]
  obtain ⟨found, h, notices⟩ := runChecks r.id a g r.checks
  cases found <;> rfl

theorem runAll_unmarked (scheduled : List (Rule × Option Asset)) :
    (runAll g.unmarked scheduled).1 = (runAll g scheduled).1 := by
  induction scheduled generalizing g with
  | nil => rfl
  | cons r rest ih =>
    obtain ⟨r, a⟩ := r
    simp only [runAll, run_unmarked, ih]

theorem evaluate_unmarked (rules : List Rule) (assets : List Asset) :
    (evaluate rules assets g.unmarked).1 = (evaluate rules assets g).1 := runAll_unmarked g.freeze _

end Rule

end DocTrace
