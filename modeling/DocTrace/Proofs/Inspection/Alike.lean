import DocTrace.Evaluation
import DocTrace.Proofs.Graph.Mentions
import DocTrace.Proofs.Graph.Reciprocity
import DocTrace.Proofs.Inspection.FlowTrace
import Mathlib.Data.List.Perm.Basic

/-! Graphs that hold the same in another order. No check tells them apart, except by the order
of what it finds. -/

namespace DocTrace

namespace Graph

/-- What the assembly takes over as it is. -/
def settings (g : Graph) : Graph :=
  { g with
    nodes := {}, referencedIds := [], idToFile := {}, duplicates := {}, declaredLinks := []
    files := [], stemIds := [], writers := {}, frozen := false }

/-- Two graphs hold the same, up to the order, and up to the files of undeclared names. -/
structure Alike (g h : Graph) : Prop where
  nodes : g.nodeIds = h.nodeIds
  uplinks : ∀ id, (g.uplinks id).Perm (h.uplinks id)
  downlinks : ∀ id, (g.downlinks id).Perm (h.downlinks id)
  metadata : g.metadata? = h.metadata?
  referred : g.referred = h.referred
  declared : g.declaredIds.Perm h.declaredIds
  addressed : g.isDeclared = h.isDeclared
  places : ∀ id ∈ g.declaredIds, g.idToFile.find? id = h.idToFile.find? id
  duplicates : g.duplicates = h.duplicates
  links : g.declaredLinks.Perm h.declaredLinks
  files : g.files.Perm h.files
  settings : g.settings = h.settings
  /-- No edge is held twice, and the links of an identifier come from one file. -/
  distinct : g.DistinctEdges
  sources : ∀ l ∈ g.declaredLinks, ∀ m ∈ g.declaredLinks, l.source = m.source → l.file = m.file

namespace Alike

variable {g h : Graph} (halike : Alike g h)

include halike

theorem upEdges : g.upEdges = h.upEdges := by
  ext e
  exact (halike.uplinks e.2).mem_iff

theorem downEdges : g.downEdges = h.downEdges := by
  ext e
  exact (halike.downlinks e.1).mem_iff

theorem distinct' : h.DistinctEdges := fun id =>
  ⟨(halike.uplinks id).nodup_iff.1 (halike.distinct id).1,
    (halike.downlinks id).nodup_iff.1 (halike.distinct id).2⟩

theorem linkedUplinks (id : String) : (g.linkedUplinks id).Perm (h.linkedUplinks id) := by
  rw [List.perm_ext_iff_of_nodup (halike.distinct.nodup_linkedUplinks id)
    (halike.distinct'.nodup_linkedUplinks id)]
  intro p
  rw [mem_linkedUplinks, mem_linkedUplinks, halike.upEdges, halike.downEdges]

theorem linkedDownlinks (id : String) : (g.linkedDownlinks id).Perm (h.linkedDownlinks id) := by
  rw [List.perm_ext_iff_of_nodup (halike.distinct.nodup_linkedDownlinks id)
    (halike.distinct'.nodup_linkedDownlinks id)]
  intro c
  rw [mem_linkedDownlinks, mem_linkedDownlinks, halike.upEdges, halike.downEdges]

theorem contains (id : String) : g.nodes.contains id = h.nodes.contains id := by
  rw [Bool.eq_iff_iff, Table.contains_iff, Table.contains_iff]
  exact Set.ext_iff.1 halike.nodes id

theorem analyses : g.analyses = h.analyses := by
  have hsame := congrArg Graph.analyses halike.settings
  exact hsame

theorem exemptIds : g.exemptIds = h.exemptIds := by
  have hsame := congrArg Graph.exemptIds halike.settings
  exact hsame

theorem foreignFiles : g.foreignFiles = h.foreignFiles := by
  have hsame := congrArg Graph.foreignFiles halike.settings
  exact hsame

theorem folderPrefixes : g.folderPrefixes = h.folderPrefixes := by
  have hsame := congrArg Graph.folderPrefixes halike.settings
  exact hsame

end Alike

end Graph

namespace Inspection

open DocTrace.Graph

/-! ### Lists up to their order -/

theorem perm_filter_map {items others : List α} (hperm : items.Perm others) {p q : α → Bool}
    {f k : α → β} (hp : ∀ a ∈ items, p a = q a) (hf : ∀ a ∈ items, f a = k a) :
    ((items.filter p).map f).Perm ((others.filter q).map k) := by
  have hfilter : items.filter p = items.filter q := List.filter_congr hp
  have hmap : (items.filter q).map f = (items.filter q).map k :=
    List.map_congr_left fun a ha => hf a (List.mem_of_mem_filter ha)
  rw [hfilter, hmap]
  exact (hperm.filter q).map k

inductive SameUpToOrder : Except Finding.Crash (List β) → Except Finding.Crash (List β) → Prop
  | error (crash : Finding.Crash) : SameUpToOrder (.error crash) (.error crash)
  | ok {found others : List β} (h : found.Perm others) : SameUpToOrder (.ok found) (.ok others)

namespace SameUpToOrder

theorem refl (result : Except Finding.Crash (List β)) : SameUpToOrder result result := by
  cases result with
  | error crash => exact .error crash
  | ok found => exact .ok (.refl found)

theorem trans {first second third : Except Finding.Crash (List β)}
    (hfirst : SameUpToOrder first second) (hsecond : SameUpToOrder second third) :
    SameUpToOrder first third := by
  cases hfirst with
  | error crash => exact hsecond
  | ok h =>
    cases hsecond with
    | ok h' => exact .ok (h.trans h')

theorem map {first second : Except Finding.Crash (List β)} {f k : List β → List γ}
    (h : SameUpToOrder first second)
    (hf : ∀ found others, found.Perm others → (f found).Perm (k others)) :
    SameUpToOrder (first.map f) (second.map k) := by
  cases h with
  | error crash => exact .error crash
  | ok h => exact .ok (hf _ _ h)

end SameUpToOrder

theorem mapM_cons_eq (f : α → Except Finding.Crash β) (a : α) (rest : List α) :
    (a :: rest).mapM f =
      match f a with
      | .error crash => .error crash
      | .ok found => (rest.mapM f).map (found :: ·) := by
  rw [List.mapM_cons]
  cases f a <;> cases rest.mapM f <;> rfl

theorem sameUpToOrder_mapM (f : α → Except Finding.Crash β) {items others : List α}
    (hperm : items.Perm others) : SameUpToOrder (items.mapM f) (others.mapM f) := by
  induction hperm with
  | nil => exact .refl _
  | cons a _ ih =>
    rw [mapM_cons_eq, mapM_cons_eq]
    cases f a with
    | error crash => exact .error crash
    | ok found => exact ih.map fun _ _ h => h.cons found
  | swap a b rest =>
    simp only [mapM_cons_eq]
    cases f a with
    | error crash =>
      cases f b with
      | error other =>
        -- There is one way only to break off, so it does not matter which item does it first.
        cases crash
        cases other
        exact .error _
      | ok found => exact .error crash
    | ok found =>
      cases f b with
      | error other => exact .error other
      | ok second =>
        cases rest.mapM f with
        | error crash => exact .error crash
        | ok more => exact .ok (.swap ..)
  | trans _ _ ihfirst ihsecond => exact ihfirst.trans ihsecond

/-! ### Checks -/

section Checks

variable {g h : Graph} (halike : Alike g h)

include halike

theorem isReferenced_alike (id : String) : isReferenced g id = isReferenced h id := by
  have hreferred : g.referencedIds.contains id = h.referencedIds.contains id := by
    rw [Bool.eq_iff_iff, List.contains_iff_mem, List.contains_iff_mem]
    exact Set.ext_iff.1 halike.referred id
  rw [isReferenced, isReferenced, hreferred, halike.exemptIds]

theorem about_alike {id : String} (hid : id ∈ g.declaredIds) (message : String) :
    about g id message = about h id message := by
  rw [about, about, halike.places id hid]

theorem isFunctional_alike : isFunctional g = isFunctional h := by
  funext id
  rw [isFunctional, isFunctional, halike.metadata]

theorem hasParentRequirement_alike : hasParentRequirement g = hasParentRequirement h := by
  funext id
  exact (halike.linkedUplinks id).any_eq

theorem declaredWith_alike (start : String) :
    (declaredWith g start).Perm (declaredWith h start) := halike.declared.filter _

omit halike in
theorem mem_declaredIds_of_declaredWith {start id : String} (hid : id ∈ declaredWith g start) :
    id ∈ g.declaredIds := List.mem_of_mem_filter hid

theorem journeyTrace_alike : journeyTrace g = journeyTrace h := by
  funext a
  rw [journeyTrace, journeyTrace]
  cases a.id? with
  | none => rfl
  | some id =>
    dsimp only
    rw [(halike.linkedUplinks id).any_eq]

theorem unlinkedIds_alike : unlinkedIds g = unlinkedIds h := by
  funext a
  rw [unlinkedIds, unlinkedIds]
  simp only [isReferenced_alike halike]

theorem documentPlacement_alike : SameUpToOrder (documentPlacement g) (documentPlacement h) := by
  have hplacement (f : Graph) : documentPlacement f =
      match f.foreignFiles.mapM foreignFile with
      | .error crash => .error crash
      | .ok foreign => (f.files.mapM misplacedNote).map (foreign.flatten ++ ·.flatten) := by
    rw [documentPlacement]
    cases f.foreignFiles.mapM foreignFile <;> cases f.files.mapM misplacedNote <;> rfl
  rw [hplacement, hplacement, halike.foreignFiles]
  cases h.foreignFiles.mapM foreignFile with
  | error crash => exact .error crash
  | ok foreign =>
    refine (sameUpToOrder_mapM misplacedNote halike.files).map fun found others hfound => ?_
    exact (List.Perm.refl _).append hfound.flatten

theorem danglingReferences_alike : (danglingReferences g).Perm (danglingReferences h) := by
  refine perm_filter_map halike.links (fun l _ => ?_) fun _ _ => rfl
  rw [halike.addressed, halike.exemptIds]

theorem globalTraceability_alike : (globalTraceability g).Perm (globalTraceability h) := by
  refine perm_filter_map halike.declared (fun id _ => ?_) fun id hid => about_alike halike hid _
  rw [isReferenced_alike halike]

omit halike in
/-- Of links that come from one file for each identifier, two between the same ends are equal. -/
theorem firstDownlink?_eq_some_iff {links : List Link}
    (hsources : ∀ l ∈ links, ∀ m ∈ links, l.source = m.source → l.file = m.file) {l : Link} :
    firstDownlink? links l.ends = some l ↔ l ∈ links ∧ l.kind = .downlink := by
  constructor
  · intro hfirst
    have hkind := List.find?_some hfirst
    simp only [Bool.and_eq_true, decide_eq_true_eq] at hkind
    exact ⟨List.mem_of_find?_eq_some hfirst, hkind.1⟩
  · rintro ⟨hl, hkind⟩
    obtain ⟨first, hfirst, hends, hmem, hfirstKind⟩ := exists_firstDownlink hl hkind
    have hsource : first.source = l.source := congrArg Prod.fst hends
    have htarget : first.target = l.target := congrArg Prod.snd hends
    have hfile := hsources first hmem l hl hsource
    have hsame : first = l := by
      obtain ⟨source, target, kind, file⟩ := first
      exact (Link.mk.injEq ..).mpr ⟨hsource, htarget, hfirstKind.trans hkind.symm, hfile⟩
    rw [hfirst, hsame]

theorem firstDownlink?_alike {l : Link} :
    firstDownlink? g.declaredLinks l.ends = some l ↔
      firstDownlink? h.declaredLinks l.ends = some l := by
  have hsources : ∀ l ∈ h.declaredLinks, ∀ m ∈ h.declaredLinks,
      l.source = m.source → l.file = m.file := fun l hl m hm =>
    halike.sources l (halike.links.mem_iff.2 hl) m (halike.links.mem_iff.2 hm)
  rw [firstDownlink?_eq_some_iff halike.sources, firstDownlink?_eq_some_iff hsources,
    halike.links.mem_iff]

theorem linkReciprocity_alike : (linkReciprocity g).Perm (linkReciprocity h) := by
  rw [linkReciprocity_eq, linkReciprocity_eq]
  refine List.Perm.map _ ?_
  have hnodup (f : Graph) : (brokenDownlinks f).Nodup :=
    (List.Nodup.of_map _ (nodup_distinctDownlinks f [] f.declaredLinks)).filter _
  rw [List.perm_ext_iff_of_nodup (hnodup g) (hnodup h)]
  intro l
  rw [mem_brokenDownlinks, mem_brokenDownlinks, firstDownlink?_alike halike, halike.addressed,
    (halike.uplinks l.target).mem_iff]

theorem personaTypeIn_alike : personaTypeIn g = personaTypeIn h := by
  funext id default
  rw [personaTypeIn, personaTypeIn, halike.metadata]

theorem personaDiversity_alike : personaDiversity g = personaDiversity h := by
  have hpersonas := declaredWith_alike halike "PER_"
  have hfound : (((declaredWith g "PER_").filter g.nodes.contains).map fun id =>
      Text.lowerString (personaTypeIn g id "")).Perm
        (((declaredWith h "PER_").filter h.nodes.contains).map fun id =>
          Text.lowerString (personaTypeIn h id "")) :=
    perm_filter_map hpersonas (fun id _ => halike.contains id) fun id _ => by
      rw [personaTypeIn_alike halike]
  simp only [personaDiversity, hpersonas.isEmpty_eq, hfound.contains_eq]

theorem personaTrace_alike {id : String} (hid : id ∈ g.declaredIds) :
    (personaTrace g id).Perm (personaTrace h id) := by
  have hrequirements := (halike.linkedDownlinks id).filter isRequirement
  simp only [personaTrace, about_alike halike hid, hrequirements.isEmpty_eq,
    hasParentRequirement_alike halike]
  exact (List.Perm.refl _).append ((hrequirements.filter _).map _)

theorem requirementTrace_alike {id : String} (hid : id ∈ g.declaredIds) :
    requirementTrace g id = requirementTrace h id := by
  rw [requirementTrace, requirementTrace, hasParentRequirement_alike halike,
    (halike.linkedUplinks id).any_eq, about_alike halike hid]

theorem personaRequirementTrace_alike :
    (personaRequirementTrace g).Perm (personaRequirementTrace h) := by
  refine halike.declared.flatMap fun id hid => ?_
  split
  · exact personaTrace_alike halike hid
  · rw [requirementTrace_alike halike hid]

theorem journeyIntegrity_alike : (journeyIntegrity g).Perm (journeyIntegrity h) := by
  have hcovered : ((declaredWith g "JRN_").flatMap (coveredBy g)).Perm
      ((declaredWith h "JRN_").flatMap (coveredBy h)) :=
    (declaredWith_alike halike "JRN_").flatMap fun journey _ =>
      (halike.linkedUplinks journey).append ((halike.linkedDownlinks journey).filter _)
  refine List.Perm.append ?_ ?_
  · refine (declaredWith_alike halike "PER_").flatMap fun id hid => ?_
    have hid := mem_declaredIds_of_declaredWith hid
    simp only [personaTypeIn_alike halike, hcovered.contains_eq, about_alike halike hid]
    exact .refl _
  · refine perm_filter_map (declaredWith_alike halike "REQ_") (fun id _ => ?_) fun id hid => ?_
    · rw [isFunctional_alike halike, hcovered.contains_eq]
    · exact about_alike halike (mem_declaredIds_of_declaredWith hid) _

theorem tracesToRequirement_alike : tracesToRequirement g = tracesToRequirement h := by
  have habove : Above g = Above h := by
    funext child parent
    exact propext (halike.linkedUplinks child).mem_iff
  have hgoal : isTraceGoal g = isTraceGoal h := by
    funext id
    rw [isTraceGoal, isTraceGoal, isFunctional_alike halike]
  funext id
  rw [Bool.eq_iff_iff, tracesToRequirement_iff, tracesToRequirement_iff, habove, hgoal]

theorem flowRequirementTrace_alike :
    (flowRequirementTrace g).Perm (flowRequirementTrace h) := by
  refine perm_filter_map (declaredWith_alike halike "FLOW_") (fun id _ => ?_) fun id hid => ?_
  · rw [tracesToRequirement_alike halike]
  · exact about_alike halike (mem_declaredIds_of_declaredWith hid) _

/-- Every check finds the same in graphs that are alike, up to the order. -/
theorem report_alike (a : Option Asset) (check : Rule.Check) :
    SameUpToOrder (check.report g a) (check.report h a) := by
  have hdocument {f k : Asset → List Finding} (hf : f = k) :
      SameUpToOrder (Rule.forDocument a f) (Rule.forDocument a k) := by
    rw [hf]
    exact .refl _
  have hmessages {f k : Asset → List String} (hf : f = k) :
      SameUpToOrder (Rule.messagesFor a f) (Rule.messagesFor a k) := by
    rw [hf]
    exact .refl _
  cases check with
  | opensWith => exact .refl _
  | requiredFields => exact .refl _
  | extension => exact .refl _
  | requiredNodes nodes =>
    refine hmessages (funext fun a => ?_)
    rw [missingNodes, missingNodes, halike.analyses]
  | linked => exact hdocument (unlinkedIds_alike halike)
  | named check =>
    cases check with
    | personaGate =>
      refine hmessages (funext fun a => ?_)
      rw [personaGate, personaGate, halike.analyses]
    | journeyTrace => exact hmessages (journeyTrace_alike halike)
    | idPrefix =>
      refine hmessages (funext fun a => ?_)
      rw [idPrefix, idPrefix, halike.folderPrefixes]
    | documentPlacement => exact documentPlacement_alike halike
    | folderRegistry =>
      have hsame := congrArg folderRegistry halike.settings
      exact .ok (.of_eq hsame)
    | duplicateIds => exact .ok (.of_eq (by rw [duplicateIds, duplicateIds, halike.duplicates]))
    | danglingReferences => exact .ok (danglingReferences_alike halike)
    | globalTraceability => exact .ok (globalTraceability_alike halike)
    | linkReciprocity => exact .ok (linkReciprocity_alike halike)
    | personaDiversity => exact .ok (.of_eq (by rw [personaDiversity_alike halike]))
    | personaRequirementTrace => exact .ok (personaRequirementTrace_alike halike)
    | journeyIntegrity => exact .ok (journeyIntegrity_alike halike)
    | flowRequirementTrace => exact .ok (flowRequirementTrace_alike halike)
    | _ => exact .refl _

end Checks

end Inspection

end DocTrace
