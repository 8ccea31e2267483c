import DocTrace.Proofs.Graph.DocumentOrder
import DocTrace.Proofs.Graph.Duplicates

/-! Orphans: declared identifiers that nothing refers to. What a document draws never refers to the
identifier of the document itself. What it declares does, so a document can keep its own identifier
from being an orphan by a link to itself. -/

namespace DocTrace

namespace Graph

theorem mem_exemptIds_build {s : Sources} {id : String} :
    id ∈ (build s).1.exemptIds ↔ id = rootId ∨ id ∈ s.hubs.map (·.id) ∨ id ∈ s.exemptIds := by
  have hstart := congrArg exemptIds (settings_build s)
  change (build s).1.exemptIds = (start s).exemptIds at hstart
  rw [hstart, start, mem_foldl_addNew, List.mem_singleton, List.mem_append]

/-- A document names an identifier at the other end of a link, its own or one of its entities. -/
def Names (a : Asset) (id : String) : Prop :=
  ∃ source, NamesParent a source id ∨ NamesChild a source id

theorem names_iff {a : Asset} {id : String} :
    Names a id ↔ ∃ d ∈ declarationsOf a, ∃ l ∈ d.links, l.target = id := by
  constructor
  · rintro ⟨source, ⟨uplink, _, _, hdeclares, hparent⟩ | ⟨_, _, _, hdeclares, hchild⟩⟩
    · rcases hparent with ⟨rfl, hne⟩ | hrequired
      · exact ⟨_, declares_iff.1 hdeclares, ⟨source, id, .uplink, a.path⟩,
          Declaration.mem_links.2 ⟨rfl, rfl, .inl ⟨rfl, rfl, hne⟩⟩, rfl⟩
      · exact ⟨_, declares_iff.1 hdeclares, ⟨source, id, .requirement, a.path⟩,
          Declaration.mem_links.2 ⟨rfl, rfl, .inr (.inl ⟨rfl, hrequired⟩)⟩, rfl⟩
    · exact ⟨_, declares_iff.1 hdeclares, ⟨source, id, .downlink, a.path⟩,
        Declaration.mem_links.2 ⟨rfl, rfl, .inr (.inr ⟨rfl, hchild⟩)⟩, rfl⟩
  · rintro ⟨d, hd, l, hl, rfl⟩
    obtain ⟨-, -, htarget⟩ := Declaration.mem_links.1 hl
    have hdeclares := (declares_of_mem_declarationsOf hd).2
    rcases htarget with ⟨-, hup⟩ | ⟨-, hrequired⟩ | ⟨-, hdown⟩
    · exact ⟨d.source, .inl ⟨_, _, _, hdeclares, .inl hup⟩⟩
    · exact ⟨d.source, .inl ⟨_, _, _, hdeclares, .inr hrequired⟩⟩
    · exact ⟨d.source, .inr ⟨_, _, _, hdeclares, hdown⟩⟩

instance (a : Asset) (id : String) : Decidable (Names a id) := decidable_of_iff' _ names_iff

theorem exists_link_to_iff {s : Sources} {id : String} :
    (∃ l ∈ s.links, id = l.target) ↔ ∃ a, s.IsDocument a ∧ Names a id := by
  simp only [Sources.links, List.mem_flatMap, Sources.mem_documents, names_iff, @eq_comm _ id]
  constructor
  · rintro ⟨l, ⟨d, ⟨a, ha, hd⟩, hl⟩, htarget⟩
    exact ⟨a, ha, d, hd, l, hl, htarget⟩
  · rintro ⟨a, ha, d, hd, l, hl, htarget⟩
    exact ⟨l, ⟨d, ⟨a, ha, hd⟩, hl⟩, htarget⟩

theorem mem_referencedIds_build {s : Sources} {id : String} :
    id ∈ (build s).1.referencedIds ↔
      (id = rootId ∨ id ∈ s.hubs.map (·.id)) ∨ (∃ a, s.IsDocument a ∧ Names a id) ∨
        ∃ a, s.IsDocument a ∧ id ∈ s.mentionedBy a := by
  have hreferred : id ∈ (build s).1.referencedIds ↔ id ∈ (build s).1.referred := Iff.rfl
  rw [hreferred, referred_build, Set.mem_union, Set.mem_union, or_assoc, ← exists_link_to_iff]
  simp only [Set.mem_ofPred_eq, Sources.mem_documents]

/-- A document neither declares an identifier, nor names it in a link, nor shows it in its
diagram. -/
def Sources.Ignores (s : Sources) (a : Asset) (id : String) : Prop :=
  id ∉ a.header.allIds ∧ ¬Names a id ∧
    ∀ analysis ∈ s.analyses.find? a.path, id ∉ analysis.nodes ∧ id ∉ analysis.endpoints

instance (s : Sources) (a : Asset) (id : String) : Decidable (s.Ignores a id) :=
  inferInstanceAs (Decidable (_ ∧ _ ∧ _))

/-- Nothing but a document itself can refer to its identifier: all other documents ignore the
identifier, no hub folder holds the document, and the identifier is none of a hub. -/
structure Sources.LeavesAlone (s : Sources) (f : Asset) (id : String) : Prop where
  isDocument : s.IsDocument f
  own : f.id? = some id
  others : ∀ a, s.IsDocument a → a ≠ f → s.Ignores a id
  noHub : ∀ hub ∈ s.hubs, Text.beginsWith (hub.folder ++ "/") f.path = false
  notHub : id ∉ s.hubs.map (·.id)

namespace Sources.LeavesAlone

variable {s : Sources} {f : Asset} {id : String} (h : s.LeavesAlone f id)

include h

theorem hubEdgesOf_eq_empty : s.hubEdgesOf f = ∅ := by
  refine Set.eq_empty_of_forall_notMem fun e ⟨hub, _, _, hfound, _⟩ => ?_
  have hinside := List.find?_some hfound
  rw [h.noHub hub (List.mem_of_find?_eq_some hfound)] at hinside
  contradiction

theorem not_mem_mentionedBy {a : Asset} (ha : s.IsDocument a) : id ∉ s.mentionedBy a := by
  by_cases hsame : a = f
  · -- What a document draws leaves out its own identifier.
    have hheader : f.header.id = some id := (Option.filter_eq_some_iff.1 h.own).1
    rw [hsame]
    rintro ((hend | ⟨-, hjoined⟩) | ⟨file, hfile, -, hother, -⟩)
    · have hne := (List.mem_filter.1 hend).2
      simp [hheader] at hne
    · exact hjoined h.hubEdgesOf_eq_empty
    · exact hother (Option.some.inj (h.own.symm.trans hfile))
  · obtain ⟨hdeclared, -, hdrawn⟩ := h.others a ha hsame
    rintro ((hend | ⟨hid, -⟩) | ⟨file, -, hnode, -, -⟩)
    · have hmem := (List.mem_filter.1 hend).1
      cases hfind : s.analyses.find? a.path with
      | none => simp [hfind] at hmem
      | some analysis => exact (hdrawn analysis hfind).2 (by simpa [hfind] using hmem)
    · exact hdeclared (List.mem_append_left _ (Option.mem_toList.2 hid))
    · rw [Sources.nodesIn] at hnode
      cases hfind : s.analyses.find? a.path with
      | none => simp [hfind] at hnode
      | some analysis => exact (hdrawn analysis hfind).1 (by simpa [hfind] using hnode)

theorem mem_referencedIds_iff (hroot : id ≠ rootId) :
    id ∈ (build s).1.referencedIds ↔ Names f id := by
  rw [mem_referencedIds_build]
  constructor
  · rintro ((hid | hid) | ⟨a, ha, hnames⟩ | ⟨a, ha, hmentioned⟩)
    · exact absurd hid hroot
    · exact absurd hid h.notHub
    · by_contra hnot
      exact (h.others a ha fun hsame => hnot (hsame ▸ hnames)).2.1 hnames
    · exact absurd hmentioned (h.not_mem_mentionedBy ha)
  · exact fun hnames => .inr (.inl ⟨f, h.isDocument, hnames⟩)

theorem find?_idToFile : (build s).1.idToFile.find? id = some f.path := by
  have hdeclares : id ∈ f.header.allIds := List.mem_append_left _ (Option.mem_toList.2 h.own)
  have hsome : (s.documents.find? fun a => a.header.allIds.contains id).isSome = true :=
    List.find?_isSome.2 ⟨f, Sources.mem_documents.2 h.isDocument, by simpa using hdeclares⟩
  obtain ⟨a, ha⟩ := Option.isSome_iff_exists.1 hsome
  have hmem : id ∈ a.header.allIds := by simpa using List.find?_some ha
  have hdocument := Sources.mem_documents.1 (List.mem_of_find?_eq_some ha)
  have hsame : a = f := by_contra fun hother => (h.others a hdocument hother).1 hmem
  rw [find?_idToFile_build, ha, hsame]
  rfl

theorem mem_declaredIds : id ∈ (build s).1.declaredIds := by
  rw [declaredIds_build, mem_eraseDups, List.mem_flatMap]
  exact ⟨f, Sources.mem_documents.2 h.isDocument,
    List.mem_append_left _ (Option.mem_toList.2 h.own)⟩

end Sources.LeavesAlone

end Graph

namespace Inspection

open DocTrace.Graph Finding

/-- The finding for an identifier that nothing refers to. -/
def orphan (file : Option String) (id : String) : Finding :=
  { message := "Orphan detected: " ++ quoted id ++ " is disconnected from the graph; mention it " ++
      "in a diagram, link it from another document or place it in a hub folder"
    file, id := some id }

theorem globalTraceability_eq (g : Graph) :
    globalTraceability g =
      (g.declaredIds.filter fun id => !isReferenced g id).map fun id =>
        orphan (g.idToFile.find? id) id := rfl

/-- Declared identifiers that nothing refers to, unless they are exempt. -/
def IsOrphan (g : Graph) (id : String) : Prop :=
  id ∈ g.declaredIds ∧ id ∉ g.referencedIds ∧ id ∉ g.exemptIds

theorem mem_globalTraceability_iff {g : Graph} {f : Finding} :
    f ∈ globalTraceability g ↔
      ∃ id, IsOrphan g id ∧ f = orphan (g.idToFile.find? id) id := by
  simp only [globalTraceability_eq, List.mem_map, List.mem_filter, isReferenced, IsOrphan,
    Bool.not_or, Bool.and_eq_true, Bool.not_eq_true', List.contains_eq_mem, decide_eq_false_iff_not,
    @eq_comm _ f]

/-- Where nothing else can refer to the identifier of a document, it is reported exactly if the
document does not itself name it in a link. -/
theorem orphan_mem_iff_not_names {s : Sources} {f : Asset} {id : String}
    (h : s.LeavesAlone f id) (hexempt : id ≠ rootId ∧ id ∉ s.exemptIds) :
    orphan (some f.path) id ∈ globalTraceability (build s).1 ↔ ¬Names f id := by
  have hreferred := h.mem_referencedIds_iff hexempt.1
  have hnotExempt : id ∉ (build s).1.exemptIds := by
    rw [mem_exemptIds_build]
    rintro (hroot | hhub | hlisted)
    · exact hexempt.1 hroot
    · exact h.notHub hhub
    · exact hexempt.2 hlisted
  rw [mem_globalTraceability_iff, ← hreferred]
  constructor
  · rintro ⟨other, horphan, hsame⟩
    have hid : id = other := Option.some.inj (congrArg Finding.id hsame)
    exact hid ▸ horphan.2.1
  · intro hunreferred
    exact ⟨id, ⟨h.mem_declaredIds, hunreferred, hnotExempt⟩, by rw [h.find?_idToFile]⟩

def selfLinked : Asset :=
  { path := "a.md", header := { id := some "NOTE_A", uplink := some "NOTE_A" }, body := "" }

def selfDrawn : Asset := { path := "b.mmd", header := { id := some "NOTE_B" }, body := "" }

/-- A document that names itself in a link, and one that shows itself in its diagram. -/
def selfMentions : Sources :=
  { assets := [selfLinked, selfDrawn]
    analyses := .ofList [("b.mmd", { diagramType := "flowchart", nodes := ["NOTE_B"] })] }

/-- A document escapes being an orphan by a link to itself, though not by its own diagram. -/
theorem orphan_selfMentions :
    orphan (some "a.md") "NOTE_A" ∉ globalTraceability (build selfMentions).1 ∧
      orphan (some "b.mmd") "NOTE_B" ∈ globalTraceability (build selfMentions).1 := by
  have hassets : selfMentions.assets = [selfLinked, selfDrawn] := rfl
  have hlinked : selfMentions.LeavesAlone selfLinked "NOTE_A" := by
    refine ⟨⟨by simp [hassets], by decide +kernel⟩, by decide +kernel, fun a ha hne => ?_,
      by simp [selfMentions], by simp [selfMentions]⟩
    obtain rfl : a = selfDrawn := by simpa [hassets, hne] using ha.1
    decide +kernel
  have hdrawn : selfMentions.LeavesAlone selfDrawn "NOTE_B" := by
    refine ⟨⟨by simp [hassets], by decide +kernel⟩, by decide +kernel, fun a ha hne => ?_,
      by simp [selfMentions], by simp [selfMentions]⟩
    obtain rfl : a = selfLinked := by simpa [hassets, hne] using ha.1
    decide +kernel
  exact ⟨fun h => (orphan_mem_iff_not_names hlinked (by decide +kernel)).1 h (by decide +kernel),
    (orphan_mem_iff_not_names hdrawn (by decide +kernel)).2 (by decide +kernel)⟩

end Inspection

end DocTrace
