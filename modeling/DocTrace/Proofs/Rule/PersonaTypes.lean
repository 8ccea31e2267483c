import DocTrace.Evaluation

/-! The only thing that checks write down is the type of a persona, and only two checks of
the project read it. All others report the same on a graph whose persona types are erased. -/

namespace DocTrace

namespace Graph

open Inspection

def Node.untyped (n : Node) : Node :=
  { n with metadata := n.metadata.filter fun key _ => key ≠ personaTypeKey }

/-- A graph without its persona types, and without the names of those who wrote metadata. -/
def untyped (g : Graph) : Graph :=
  { g with nodes := g.nodes.mapValues Node.untyped, writers := {} }

def personaType? (g : Graph) (id : String) : Option Value := g.metadata? id personaTypeKey

variable (g : Graph)

/-! ### What erasure keeps -/

theorem find?_untyped (id : String) :
    g.untyped.nodes.find? id = (g.nodes.find? id).map Node.untyped :=
  Table.find?_mapValues ..

@[simp] theorem uplinks_untyped (id : String) : g.untyped.uplinks id = g.uplinks id := by
  rw [uplinks, find?_untyped, Option.map_map]
  rfl

@[simp] theorem downlinks_untyped (id : String) : g.untyped.downlinks id = g.downlinks id := by
  rw [downlinks, find?_untyped, Option.map_map]
  rfl

theorem nodesWith_untyped {p : Node → Bool}
    (hp : ∀ n, p (Node.untyped n) = p n) : g.untyped.nodesWith p = g.nodesWith p := by
  simp only [nodesWith, untyped, Table.mapValues, List.filter_map, List.map_map]
  have hsame : (fun e : String × Node => p e.2) ∘ (fun e : String × Node => (e.1, e.2.untyped)) =
      fun e => p e.2 := funext fun e => hp e.2
  rw [hsame]
  rfl

@[simp] theorem linkedUplinks_untyped (id : String) :
    g.untyped.linkedUplinks id = g.linkedUplinks id := by
  rw [linkedUplinks, linkedUplinks, uplinks_untyped, nodesWith_untyped g fun _ => rfl]

@[simp] theorem linkedDownlinks_untyped (id : String) :
    g.untyped.linkedDownlinks id = g.linkedDownlinks id := by
  rw [linkedDownlinks, linkedDownlinks, downlinks_untyped, nodesWith_untyped g fun _ => rfl]

theorem metadata?_untyped {key : String} (hkey : key ≠ personaTypeKey) (id : String) :
    g.untyped.metadata? id key = g.metadata? id key := by
  rw [metadata?, metadata?, find?_untyped]
  cases g.nodes.find? id with
  | none => rfl
  | some n =>
    show (n.metadata.filter _).find? key = n.metadata.find? key
    rw [Table.find?_filter]
    cases n.metadata.find? key <;> simp [hkey]

theorem personaType?_untyped : g.untyped.personaType? = fun _ => none := by
  funext id
  rw [personaType?, metadata?, find?_untyped]
  cases g.nodes.find? id with
  | none => rfl
  | some n =>
    show (n.metadata.filter _).find? personaTypeKey = none
    rw [Table.find?_filter]
    cases n.metadata.find? personaTypeKey <;> simp

theorem metadata?_eq_iff {g h : Graph} :
    g.metadata? = h.metadata? ↔
      g.untyped.metadata? = h.untyped.metadata? ∧ g.personaType? = h.personaType? := by
  constructor
  · intro hsame
    refine ⟨?_, funext fun id => congrFun (congrFun hsame id) personaTypeKey⟩
    funext id key
    by_cases hkey : key = personaTypeKey
    · subst hkey
      exact congrFun ((personaType?_untyped g).trans (personaType?_untyped h).symm) id
    · rw [metadata?_untyped g hkey, metadata?_untyped h hkey, hsame]
  · rintro ⟨hsame, htypes⟩
    funext id key
    by_cases hkey : key = personaTypeKey
    · subst hkey
      exact congrFun htypes id
    · rw [← metadata?_untyped g hkey, ← metadata?_untyped h hkey, hsame]

theorem keys_untyped : g.untyped.nodes.keys = g.nodes.keys := by
  simp [untyped, Table.keys, Table.mapValues, Function.comp_def]

@[simp] theorem contains_untyped (id : String) :
    g.untyped.nodes.contains id = g.nodes.contains id := by
  rw [Bool.eq_iff_iff, Table.contains_iff, Table.contains_iff, keys_untyped]

end Graph

/-! ### Checks that do not read persona types -/

namespace Inspection

variable (g : Graph)

@[simp] theorem isFunctional_untyped (id : String) :
    isFunctional g.untyped id = isFunctional g id := by
  have hclassification : Graph.classificationKey ≠ personaTypeKey := by decide
  have hroot : Graph.fileRootKey ≠ personaTypeKey := by decide
  rw [isFunctional, isFunctional, Graph.metadata?_untyped g hclassification,
    Graph.metadata?_untyped g hroot]

@[simp] theorem hasParentRequirement_untyped :
    hasParentRequirement g.untyped = hasParentRequirement g := by
  funext id
  rw [hasParentRequirement, hasParentRequirement, Graph.linkedUplinks_untyped]

theorem distinctDownlinks_untyped (seen : List (String × String)) (links : List Graph.Link) :
    distinctDownlinks g.untyped seen links = distinctDownlinks g seen links := by
  induction links generalizing seen with
  | nil => rfl
  | cons l rest ih =>
    have hdeclared : g.untyped.isDeclared l.target = g.isDeclared l.target := rfl
    simp only [distinctDownlinks, hdeclared, ih]

theorem linkReciprocity_untyped : linkReciprocity g.untyped = linkReciprocity g := by
  have hlinks : g.untyped.declaredLinks = g.declaredLinks := rfl
  simp only [linkReciprocity, hlinks, Graph.uplinks_untyped, distinctDownlinks_untyped]

theorem searchUp_untyped (fuel : Nat) (seen queue : List String) :
    searchUp g.untyped fuel seen queue = searchUp g fuel seen queue := by
  have hgoal : isTraceGoal g.untyped = isTraceGoal g := by
    funext id
    rw [isTraceGoal, isTraceGoal, isFunctional_untyped]
  induction fuel generalizing seen queue with
  | zero => rfl
  | succ fuel ih =>
    cases queue with
    | nil => rfl
    | cons id rest => simp only [searchUp, Graph.linkedUplinks_untyped, hgoal, ih]

theorem searchFuel_untyped : searchFuel g.untyped = searchFuel g := by
  simp only [searchFuel, Graph.untyped, Table.size, Table.mapValues, List.length_map,
    List.foldl_map, Graph.Node.untyped]

theorem flowRequirementTrace_untyped :
    flowRequirementTrace g.untyped = flowRequirementTrace g := by
  have htraces : tracesToRequirement g.untyped = tracesToRequirement g := by
    funext id
    rw [tracesToRequirement, tracesToRequirement, searchFuel_untyped, searchUp_untyped]
  simp only [flowRequirementTrace, htraces]
  rfl

theorem journeyTrace_untyped (a : Asset) : journeyTrace g.untyped a = journeyTrace g a := by
  simp only [journeyTrace, Graph.linkedUplinks_untyped]

theorem personaRequirementTrace_untyped :
    personaRequirementTrace g.untyped = personaRequirementTrace g := by
  have habout : about g.untyped = about g := rfl
  have hpersona : personaTrace g.untyped = personaTrace g := by
    funext id
    simp only [personaTrace, Graph.linkedDownlinks_untyped, hasParentRequirement_untyped, habout]
  have hrequirement : requirementTrace g.untyped = requirementTrace g := by
    funext id
    simp only [requirementTrace, Graph.linkedUplinks_untyped, hasParentRequirement_untyped, habout]
  simp only [personaRequirementTrace, hpersona, hrequirement]
  rfl

end Inspection

namespace Rule

open Inspection

/-- The two checks that read the types of personas. -/
def Check.readsTypes : Check → Bool
  | .named .personaDiversity => true
  | .named .journeyIntegrity => true
  | _ => false

def readsTypes (r : Rule) : Bool := r.checks.any Check.readsTypes

theorem report_untyped (g : Graph) (a : Option Asset) {check : Check}
    (hreads : check.readsTypes = false) : check.report g.untyped a = check.report g a := by
  cases check with
  | named check =>
    cases check with
    | personaDiversity => contradiction
    | journeyIntegrity => contradiction
    | journeyTrace => exact congrArg (messagesFor a) (funext fun a => journeyTrace_untyped g a)
    | linkReciprocity => exact congrArg Except.ok (linkReciprocity_untyped g)
    | personaRequirementTrace => exact congrArg Except.ok (personaRequirementTrace_untyped g)
    | flowRequirementTrace => exact congrArg Except.ok (flowRequirementTrace_untyped g)
    | _ => rfl
  | _ => rfl

/-! ### Checks that read persona types -/

section Congruence

variable {g h : Graph} (hfacts : g.untyped = h.untyped)

include hfacts

theorem declaredWith_congr (start : String) : declaredWith g start = declaredWith h start := by
  have hfiles : g.untyped.idToFile = h.untyped.idToFile := by rw [hfacts]
  have hstems : g.untyped.stemIds = h.untyped.stemIds := by rw [hfacts]
  change g.idToFile = h.idToFile at hfiles
  change g.stemIds = h.stemIds at hstems
  simp only [declaredWith, Graph.declaredIds, hfiles, hstems]

theorem about_congr : about g = about h := by
  have hfiles : g.untyped.idToFile = h.untyped.idToFile := by rw [hfacts]
  change g.idToFile = h.idToFile at hfiles
  funext id message
  rw [about, about, hfiles]

theorem contains_congr : g.nodes.contains = h.nodes.contains := by
  funext id
  rw [← Graph.contains_untyped, hfacts, Graph.contains_untyped]

theorem coveredBy_congr : coveredBy g = coveredBy h := by
  funext id
  rw [coveredBy, coveredBy, ← Graph.linkedUplinks_untyped, ← Graph.linkedDownlinks_untyped, hfacts,
    Graph.linkedUplinks_untyped, Graph.linkedDownlinks_untyped]

theorem isFunctional_congr : isFunctional g = isFunctional h := by
  funext id
  rw [← isFunctional_untyped, hfacts, isFunctional_untyped]

variable (htypes : g.personaType? = h.personaType?)

include htypes

omit hfacts in
theorem personaTypeIn_congr : personaTypeIn g = personaTypeIn h := by
  funext id default
  have hid : g.metadata? id personaTypeKey = h.metadata? id personaTypeKey := congrFun htypes id
  rw [personaTypeIn, personaTypeIn, hid]

theorem personaDiversity_congr : personaDiversity g = personaDiversity h := by
  simp only [personaDiversity, declaredWith_congr hfacts, contains_congr hfacts,
    personaTypeIn_congr htypes]

theorem journeyIntegrity_congr : journeyIntegrity g = journeyIntegrity h := by
  simp only [journeyIntegrity, declaredWith_congr hfacts, coveredBy_congr hfacts,
    about_congr hfacts, isFunctional_congr hfacts, personaTypeIn_congr htypes]

/-- Graphs with the same persona types, and the same facts besides, look the same to all checks. -/
theorem report_congr (a : Option Asset) (check : Check) :
    check.report g a = check.report h a := by
  by_cases hreads : check.readsTypes = true
  · rcases check with _ | _ | _ | _ | _ | check
    case named =>
      cases check
      case personaDiversity =>
        exact congrArg (Except.ok ∘ Finding.ofMessages) (personaDiversity_congr hfacts htypes)
      case journeyIntegrity => exact congrArg Except.ok (journeyIntegrity_congr hfacts htypes)
      all_goals contradiction
    all_goals contradiction
  · have hreads : check.readsTypes = false := by simpa using hreads
    rw [← report_untyped g a hreads, hfacts, report_untyped h a hreads]

end Congruence

end Rule

end DocTrace
