import DocTrace.Proofs.Inspection.Orphans

/-! What more documents do to references. Edges can go and names can move to other files, but an
identifier that is referred to stays so, and a name that leads somewhere keeps doing so. So further
documents break no reference that was whole before. -/

namespace DocTrace

namespace Graph

/-- The assets of some sources are among those of others, under the same hubs and exemptions, and
their diagrams say the same. -/
structure Sources.IsPartOf (s t : Sources) : Prop where
  assets : s.assets ⊆ t.assets
  analyses : ∀ a ∈ s.assets, t.analyses.find? a.path = s.analyses.find? a.path
  hubs : t.hubs = s.hubs
  exemptIds : t.exemptIds = s.exemptIds

namespace Sources.IsPartOf

variable {s t : Sources} (h : s.IsPartOf t)

include h

theorem isDocument {a : Asset} (ha : s.IsDocument a) : t.IsDocument a := ⟨h.assets ha.1, ha.2⟩

/-- What a document mentions does not depend on the other documents. -/
theorem mentionedBy_eq {a : Asset} (ha : a ∈ s.assets) : t.mentionedBy a = s.mentionedBy a := by
  have hanalysis := h.analyses a ha
  simp only [Sources.mentionedBy, Sources.endpointsIn, Sources.nodesIn, Sources.hubEdgesOf,
    hanalysis, h.hubs]

theorem mem_referencedIds {id : String} (hid : id ∈ (build s).1.referencedIds) :
    id ∈ (build t).1.referencedIds := by
  rw [mem_referencedIds_build] at hid ⊢
  rcases hid with hfixed | ⟨a, ha, hnames⟩ | ⟨a, ha, hmentioned⟩
  · exact .inl (h.hubs ▸ hfixed)
  · exact .inr (.inl ⟨a, h.isDocument ha, hnames⟩)
  · exact .inr (.inr ⟨a, h.isDocument ha, h.mentionedBy_eq ha.1 ▸ hmentioned⟩)

theorem mem_exemptIds_iff (id : String) :
    id ∈ (build t).1.exemptIds ↔ id ∈ (build s).1.exemptIds := by
  rw [mem_exemptIds_build, mem_exemptIds_build, h.hubs, h.exemptIds]

theorem mem_declarations {id : String} (hid : id ∈ s.declarations.map (·.1)) :
    id ∈ t.declarations.map (·.1) := by
  simp only [Sources.map_fst_declarations, List.mem_flatMap, Sources.mem_documents] at hid ⊢
  obtain ⟨a, ha, hid⟩ := hid
  exact ⟨a, h.isDocument ha, hid⟩

theorem mem_declaredIds {id : String} (hid : id ∈ (build s).1.declaredIds) :
    id ∈ (build t).1.declaredIds := by
  rw [mem_declaredIds_build] at hid ⊢
  exact h.mem_declarations hid

/-- A further name may give way to a declaration, and it is a known name still. -/
theorem isDeclared {id : String} (hid : (build s).1.isDeclared id = true) :
    (build t).1.isDeclared id = true := by
  rw [isDeclared_build] at hid ⊢
  refine hid.imp h.mem_declarations fun halias => ?_
  obtain ⟨e, he, rfl⟩ := List.mem_map.1 halias
  obtain ⟨a, ha, he⟩ := List.mem_flatMap.1 he
  exact List.mem_map_of_mem (List.mem_flatMap.2 ⟨a, h.assets ha, he⟩)

theorem mem_links {l : Link} (hl : l ∈ s.links) : l ∈ t.links := by
  obtain ⟨a, uplink, downlinks, requirements, ha, hrest⟩ := Sources.mem_links.1 hl
  exact Sources.mem_links.2 ⟨a, uplink, downlinks, requirements, h.isDocument ha, hrest⟩

end Sources.IsPartOf

/-- The names of two kinds of links differ in their first letter. -/
theorem LinkKind.eq_of_name_append {k k' : LinkKind} {x y : String}
    (h : k.name ++ x = k'.name ++ y) : k = k' := by
  have hhead := congrArg (fun s => s.toList.head?) h
  cases k <;> cases k' <;> simp [LinkKind.name] at hhead ⊢

end Graph

namespace Inspection

open DocTrace.Graph Finding

/-- The finding for a link to a name that leads nowhere. -/
def dangling (l : Link) : Finding :=
  { message := "Dangling reference: " ++ quoted l.source ++ s!" declares {l.kind.name} " ++
      quoted l.target ++ ", which is not declared anywhere"
    file := some l.file
    id := some l.source }

theorem danglingReferences_eq (g : Graph) :
    danglingReferences g =
      (g.declaredLinks.filter fun l =>
        !g.isDeclared l.target && !g.exemptIds.contains l.target).map dangling := rfl

theorem target_eq_of_dangling_eq {l m : Link} (h : dangling l = dangling m) :
    l.target = m.target := by
  have hsource : l.source = m.source := Option.some.inj (congrArg Finding.id h)
  have hmessage : (dangling l).message = (dangling m).message := congrArg Finding.message h
  unfold dangling at hmessage
  dsimp only at hmessage
  rw [hsource, String.append_left_inj] at hmessage
  simp only [String.append_assoc] at hmessage
  rw [String.append_right_inj, String.append_right_inj, String.append_right_inj] at hmessage
  have hkind := LinkKind.eq_of_name_append hmessage
  rw [hkind] at hmessage
  exact quoted_inj.1 ((String.append_right_inj _).1 ((String.append_right_inj _).1 hmessage))

theorem dangling_mem_iff {g : Graph} {l : Link} (hl : l ∈ g.declaredLinks) :
    dangling l ∈ danglingReferences g ↔
      g.isDeclared l.target = false ∧ l.target ∉ g.exemptIds := by
  simp only [danglingReferences_eq, List.mem_map, List.mem_filter, Bool.and_eq_true,
    Bool.not_eq_true', List.contains_eq_mem, decide_eq_false_iff_not]
  constructor
  · rintro ⟨m, ⟨-, hbroken⟩, hsame⟩
    rwa [target_eq_of_dangling_eq hsame] at hbroken
  · intro hbroken
    exact ⟨l, ⟨hl, hbroken⟩, rfl⟩

/-- Whether the check for orphans reports an identifier. -/
def ReportsOrphan (g : Graph) (id : String) : Prop := ∃ f ∈ globalTraceability g, f.id = some id

theorem reportsOrphan_iff {g : Graph} {id : String} : ReportsOrphan g id ↔ IsOrphan g id := by
  constructor
  · rintro ⟨f, hf, hid⟩
    obtain ⟨other, horphan, rfl⟩ := mem_globalTraceability_iff.1 hf
    exact Option.some.inj hid ▸ horphan
  · intro horphan
    exact ⟨_, mem_globalTraceability_iff.2 ⟨id, horphan, rfl⟩, rfl⟩

/-- More documents refer to more identifiers. Of the identifiers that were declared before, only
orphans of before are orphans still, as long as nothing refers to them; and of the links that were
there before, only those that led nowhere do so still, as long as nothing declares their target. -/
theorem reports_of_isPartOf {s t : Sources} (h : s.IsPartOf t) :
    (∀ id ∈ (build s).1.referencedIds, id ∈ (build t).1.referencedIds) ∧
    (∀ id ∈ (build s).1.declaredIds,
      ReportsOrphan (build t).1 id ↔
        ReportsOrphan (build s).1 id ∧ id ∉ (build t).1.referencedIds) ∧
    ∀ l ∈ (build s).1.declaredLinks,
      dangling l ∈ danglingReferences (build t).1 ↔
        dangling l ∈ danglingReferences (build s).1 ∧ (build t).1.isDeclared l.target = false := by
  refine ⟨fun id hid => h.mem_referencedIds hid, fun id hid => ?_, fun l hl => ?_⟩
  · rw [reportsOrphan_iff, reportsOrphan_iff, IsOrphan, IsOrphan, h.mem_exemptIds_iff]
    constructor
    · rintro ⟨-, hunreferred, hnotExempt⟩
      exact ⟨⟨hid, fun hold => hunreferred (h.mem_referencedIds hold), hnotExempt⟩, hunreferred⟩
    · rintro ⟨⟨-, -, hnotExempt⟩, hunreferred⟩
      exact ⟨h.mem_declaredIds hid, hunreferred, hnotExempt⟩
  · have hlinks : l ∈ (build t).1.declaredLinks := by
      rw [(holds_build s).links] at hl
      rw [(holds_build t).links]
      exact h.mem_links hl
    rw [dangling_mem_iff hlinks, dangling_mem_iff hl, h.mem_exemptIds_iff]
    constructor
    · rintro ⟨hunknown, hnotExempt⟩
      refine ⟨⟨?_, hnotExempt⟩, hunknown⟩
      by_contra hknown
      simp [h.isDeclared (Bool.eq_true_of_not_eq_false hknown)] at hunknown
    · rintro ⟨⟨-, hnotExempt⟩, hunknown⟩
      exact ⟨hunknown, hnotExempt⟩

/-- A note that nothing mentions, with a link that leads nowhere. -/
def lonelyNote : Asset :=
  { path := "a.md", header := { id := some "NOTE_A", uplink := some "NOTE_B" }, body := "" }

/-- A note that lists the other one. -/
def listingNote : Asset :=
  { path := "c.md", header := { id := some "NOTE_C", downlinks := some ["NOTE_A"] }, body := "" }

/-- With the second note the first is no orphan any more, and its link leads nowhere still. -/
theorem reports_of_isPartOf_notes :
    let early : Sources := { assets := [lonelyNote] }
    let later : Sources := { assets := [listingNote, lonelyNote] }
    let link : Link := ⟨"NOTE_A", "NOTE_B", .uplink, "a.md"⟩
    early.IsPartOf later ∧
      (ReportsOrphan (build early).1 "NOTE_A" ∧ ¬ReportsOrphan (build later).1 "NOTE_A") ∧
      dangling link ∈ danglingReferences (build later).1 := by
  intro early later link
  have hpart : early.IsPartOf later := ⟨by simp [early, later], fun _ _ => rfl, rfl, rfl⟩
  obtain ⟨-, horphans, hlinks⟩ := reports_of_isPartOf hpart
  have horphan : ReportsOrphan (build early).1 "NOTE_A" :=
    reportsOrphan_iff.2 ⟨by decide +kernel, by decide +kernel, by decide +kernel⟩
  refine ⟨hpart, ⟨horphan, fun hlater => ?_⟩, ?_⟩
  · exact ((horphans "NOTE_A" (by decide +kernel)).1 hlater).2 (by decide +kernel)
  · exact (hlinks link (by decide +kernel)).2 ⟨by decide +kernel, by decide +kernel⟩

end Inspection

end DocTrace
