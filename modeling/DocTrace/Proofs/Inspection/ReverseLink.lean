import DocTrace.Proofs.Graph.DocumentOrder
import DocTrace.Proofs.Graph.Reciprocity

/-! What happens to reciprocity when a missing reverse link is written. The new link mends the
pair that was reported. It is a declared parent, though, and so takes away the edges that diagrams
gave to the same identifier; a pair that only such an edge had mended is reported from then on. -/

namespace DocTrace

/-- The document with one more identifier among its requirements. -/
def Asset.requiring (a : Asset) (id : String) : Asset :=
  let ids := a.header.requirements.getD [] ++ [id]
  { a with
    header := { a.header with
      requirements := some ids
      raw := a.header.raw.put "requirements" (.list (ids.map .str)) } }

namespace Graph

theorem declaredParents_of_ownership {s : Sources} {e : String × String}
    (he : e ∈ s.ownershipEdges) : s.declaredParents e.2 = ∅ := by
  obtain ⟨a, -, file, analysis, found, -, -, -, -, -, -, hfree⟩ := he
  exact hfree

/-- Sources in which one document has one more identifier among its requirements. -/
def Sources.requiring (s : Sources) (before : List Asset) (d : Asset) (after : List Asset)
    (id : String) : Sources := { s with assets := before ++ d.requiring id :: after }

section Requiring

variable {s : Sources} {before after : List Asset} {d : Asset} {parent child : String}
  (hassets : s.assets = before ++ d :: after) (hdocument : d.isFootnote = false)
  (hid : d.id? = some child)

include hassets hdocument

/-- What holds of the edited document and not of the old one is all that the edit adds. -/
theorem exists_document_requiring {P : Asset → Prop} {added : Prop}
    (hedit : P (d.requiring parent) ↔ P d ∨ added) :
    (∃ a, (s.requiring before d after parent).IsDocument a ∧ P a) ↔
      (∃ a, s.IsDocument a ∧ P a) ∨ added := by
  have hfootnote : (d.requiring parent).isFootnote = false := hdocument
  simp only [Sources.IsDocument, Sources.requiring, hassets, List.mem_append, List.mem_cons,
    or_and_right, exists_or, and_assoc, exists_eq_left, hfootnote, hdocument, true_and, hedit]
  simp only [or_assoc, or_comm, or_left_comm]

theorem exists_document_requiring_same {P : Asset → Prop} (hsame : P (d.requiring parent) ↔ P d) :
    (∃ a, (s.requiring before d after parent).IsDocument a ∧ P a) ↔
      ∃ a, s.IsDocument a ∧ P a := by
  have hnothing : P (d.requiring parent) ↔ P d ∨ False := by simpa using hsame
  simpa using exists_document_requiring hassets hdocument hnothing

theorem hubEdges_requiring : (s.requiring before d after parent).hubEdges = s.hubEdges := by
  ext e
  exact exists_document_requiring_same hassets hdocument Iff.rfl

theorem isDeclared_requiring (id : String) :
    (build (s.requiring before d after parent)).1.isDeclared id = true ↔
      (build s).1.isDeclared id = true := by
  have hdeclared : id ∈ (s.requiring before d after parent).declarations.map (·.1) ↔
      id ∈ s.declarations.map (·.1) := by
    simp only [Sources.map_fst_declarations, List.mem_flatMap, Sources.mem_documents]
    exact exists_document_requiring_same hassets hdocument Iff.rfl
  have haliases : (s.requiring before d after parent).aliases = s.aliases := by
    simp only [Sources.aliases, Sources.requiring, hassets, List.flatMap_append, List.flatMap_cons]
    rfl
  rw [isDeclared_build, isDeclared_build, hdeclared, haliases]

theorem declaredChildren_requiring (id : String) :
    (s.requiring before d after parent).declaredChildren id = s.declaredChildren id := by
  ext c
  rw [Sources.exists_namesChild_iff, Sources.exists_namesChild_iff]
  refine exists_document_requiring_same hassets hdocument ?_
  rw [namesChild_iff, namesChild_iff]
  rfl

include hid

theorem mem_declaredParents_requiring {id p : String} :
    p ∈ (s.requiring before d after parent).declaredParents id ↔
      p ∈ s.declaredParents id ∨ id = child ∧ p = parent := by
  rw [Sources.exists_namesParent_iff, Sources.exists_namesParent_iff]
  refine exists_document_requiring hassets hdocument ?_
  have hid' : (d.requiring parent).id? = some child := hid
  have hrequirements : (d.requiring parent).header.requirements.getD [] =
      d.header.requirements.getD [] ++ [parent] := rfl
  rw [namesParent_iff, namesParent_iff, hid', hid, hrequirements, List.mem_append,
    List.mem_singleton, Option.some.injEq, ← or_assoc, and_or_left, or_right_comm, @eq_comm _ child]
  rfl

theorem declaredParents_requiring_eq_empty_iff {id : String} :
    (s.requiring before d after parent).declaredParents id = ∅ ↔
      s.declaredParents id = ∅ ∧ id ≠ child := by
  simp only [Set.eq_empty_iff_forall_notMem, mem_declaredParents_requiring hassets hdocument hid,
    not_or, not_and, forall_and]
  refine and_congr_right fun _ => ⟨fun h hchild => h parent hchild rfl, fun h _ hchild => ?_⟩
  exact absurd hchild h

/-- The identifier of the edited document has a declared parent now, and so no edge from a
diagram. All other edges from diagrams stay. -/
theorem mem_ownershipEdges_requiring {e : String × String} :
    e ∈ (s.requiring before d after parent).ownershipEdges ↔
      e ∈ s.ownershipEdges ∧ e.2 ≠ child := by
  have howned (file found : String) :
      e ∈ (s.requiring before d after parent).ownedEdges file found ↔
        e ∈ s.ownedEdges file found ∧ e.2 ≠ child := by
    simp only [Sources.ownedEdges, Set.mem_ofPred_eq, and_assoc,
      declaredParents_requiring_eq_empty_iff hassets hdocument hid]
  have hof (a : Asset) : e ∈ (s.requiring before d after parent).ownershipEdgesOf a ↔
      e ∈ s.ownershipEdgesOf a ∧ e.2 ≠ child := by
    simp only [Sources.ownershipEdgesOf, Set.mem_ofPred_eq, howned, ← and_assoc, exists_and_right]
    rfl
  have hdocuments : (∃ a, (s.requiring before d after parent).IsDocument a ∧
      e ∈ s.ownershipEdgesOf a) ↔ ∃ a, s.IsDocument a ∧ e ∈ s.ownershipEdgesOf a :=
    exists_document_requiring_same hassets hdocument Iff.rfl
  simp only [Sources.ownershipEdges, Set.mem_ofPred_eq, hof, ← and_assoc, exists_and_right,
    hdocuments]

end Requiring

end Graph

namespace Inspection

open DocTrace.Graph Finding

/-- A finding tells which two identifiers it is about. -/
theorem ends_eq_of_asymmetry_eq {l m : Link} (h : asymmetry l = asymmetry m) :
    l.ends = m.ends := by
  have hsource : l.source = m.source := Option.some.inj (congrArg Finding.id h)
  have hmessage : (asymmetry l).message = (asymmetry m).message := congrArg Finding.message h
  unfold asymmetry at hmessage
  dsimp only at hmessage
  rw [hsource, String.append_left_inj, String.append_left_inj] at hmessage
  simp only [String.append_assoc] at hmessage
  rw [String.append_right_inj, String.append_right_inj, String.append_right_inj] at hmessage
  -- The message quotes the child twice, so its length gives that of the child.
  have hlength := congrArg String.length hmessage
  simp only [String.length_append] at hlength
  have hsame : (quoted l.target).length = (quoted m.target).length := by omega
  have htarget := (List.append_inj (by simpa using congrArg String.toList hmessage) hsame).1
  exact Prod.ext hsource (quoted_inj.1 (String.ext htarget))

/-- The pairs that the check reports. -/
def asymmetricPairs (g : Graph) : Set (String × String) :=
  {e | ∃ l : Link, l.ends = e ∧ asymmetry l ∈ linkReciprocity g}

theorem mem_asymmetricPairs_iff {g : Graph} {e : String × String} :
    e ∈ asymmetricPairs g ↔ e ∈ (brokenDownlinks g).map Link.ends := by
  rw [List.mem_map, asymmetricPairs, linkReciprocity_eq]
  constructor
  · rintro ⟨l, rfl, hl⟩
    obtain ⟨m, hm, hsame⟩ := List.mem_map.1 hl
    exact ⟨m, hm, ends_eq_of_asymmetry_eq hsame⟩
  · rintro ⟨l, hl, rfl⟩
    exact ⟨l, rfl, List.mem_map_of_mem hl⟩

/-- A pair is reported where only the parent knows of the edge: it is no implied edge, and the child
does not declare it. -/
theorem mem_asymmetricPairs_build {s : Sources} {e : String × String} :
    e ∈ asymmetricPairs (build s).1 ↔
      e.2 ∈ s.declaredChildren e.1 ∧ (build s).1.isDeclared e.2 = true ∧
        e.1 ∉ s.declaredParents e.2 ∧ e ∉ s.hubEdges ∧ e ∉ s.ownershipEdges := by
  have hup : e.1 ∈ (build s).1.uplinks e.2 ↔ e ∈ (build s).1.upEdges := Iff.rfl
  have hdown : e.2 ∈ (build s).1.downlinks e.1 ↔ e ∈ (build s).1.downEdges := Iff.rfl
  rw [mem_asymmetricPairs_iff, mem_ends_brokenDownlinks (drawnAtBothEnds_build s), IsBroken, hup,
    hdown, (extends_build s).upEdges, (extends_build s).downEdges, upEdges_start, downEdges_start,
    Set.empty_union, Set.empty_union]
  simp only [Set.mem_union, Set.mem_ofPred_eq, not_or]
  constructor
  · rintro ⟨hchild | himplied, hdeclared, hparent, hhub, howned⟩
    · exact ⟨hchild, hdeclared, hparent, hhub, howned⟩
    · exact absurd himplied (not_or.2 ⟨hhub, howned⟩)
  · rintro ⟨hchild, hdeclared, hparent, hhub, howned⟩
    exact ⟨.inl hchild, hdeclared, hparent, hhub, howned⟩

/-- Where a document declares a missing reverse link, its pair is reported no longer. All other pairs
stay, and those are added whose reverse link came from a diagram alone: edges from diagrams give way
to declared parents. -/
theorem asymmetricPairs_requiring {s : Sources} {before after : List Asset} {d : Asset}
    {parent child : String} (hassets : s.assets = before ++ d :: after)
    (hdocument : d.isFootnote = false) (hid : d.id? = some child)
    (hreported : (parent, child) ∈ asymmetricPairs (build s).1) :
    asymmetricPairs (build (s.requiring before d after parent)).1 =
      asymmetricPairs (build s).1 \ {(parent, child)} ∪
        {e | e ∈ s.ownershipEdges ∧ e ∉ s.hubEdges ∧ e.2 = child ∧
          e.2 ∈ s.declaredChildren e.1} := by
  obtain ⟨-, hdeclared, hparent, hhub, howned⟩ := mem_asymmetricPairs_build.1 hreported
  ext e
  rw [Set.mem_union, Set.mem_sdiff, Set.mem_singleton_iff, mem_asymmetricPairs_build,
    mem_asymmetricPairs_build, declaredChildren_requiring hassets hdocument,
    isDeclared_requiring hassets hdocument, mem_declaredParents_requiring hassets hdocument hid,
    hubEdges_requiring hassets hdocument, mem_ownershipEdges_requiring hassets hdocument hid]
  constructor
  · rintro ⟨hchild, hknown, hunnamed, hnoHub, hkept⟩
    obtain ⟨hnoParent, hnew⟩ := not_or.1 hunnamed
    by_cases hdrawn : e ∈ s.ownershipEdges
    · exact .inr ⟨hdrawn, hnoHub, by_contra fun hother => hkept ⟨hdrawn, hother⟩, hchild⟩
    · refine .inl ⟨⟨hchild, hknown, hnoParent, hnoHub, hdrawn⟩, ?_⟩
      rintro rfl
      exact hnew ⟨rfl, rfl⟩
  · rintro (⟨⟨hchild, hknown, hnoParent, hnoHub, hnotDrawn⟩, hother⟩ |
      ⟨hdrawn, hnoHub, hsame, hchild⟩)
    · refine ⟨hchild, hknown, not_or.2 ⟨hnoParent, fun h => hother (Prod.ext h.2 h.1)⟩, hnoHub, ?_⟩
      exact fun h => hnotDrawn h.1
    · -- An edge from a diagram means that nothing declared a parent so far.
      have hfree := declaredParents_of_ownership hdrawn
      refine ⟨hchild, hsame ▸ hdeclared, ?_, hnoHub, fun h => h.2 hsame⟩
      rw [hfree]
      rintro (hnone | ⟨-, hfirst⟩)
      · exact hnone
      · have hpair : e = (parent, child) := Prod.ext hfirst hsame
        exact howned (hpair ▸ hdrawn)

/-- A requirement with its downlinks. -/
def requirementFile (path id : String) (downlinks : List String) : Asset :=
  { path, header := { kind := .requirement, id := some id, downlinks := some downlinks }, body := "" }

def listing : List Asset :=
  [requirementFile "a.md" "REQ_A" ["REQ_B"], requirementFile "f.mmd" "REQ_F" ["REQ_B"]]

def listed : Asset := requirementFile "b.md" "REQ_B" []

/-- A requirement that two others list, of which only one shows it in its diagram. -/
def listedTwice : Sources :=
  { assets := listing ++ [listed]
    analyses := .ofList [("f.mmd", { diagramType := "flowchart", nodes := ["REQ_B"] })] }

/-- The same, where the requirement names the other one. -/
def listedTwiceMended : Sources := listedTwice.requiring listing listed [] "REQ_A"

theorem asymmetricPairs_requiring_listedTwice :
    ("REQ_A", "REQ_B") ∈ asymmetricPairs (build listedTwice).1 ∧
      ("REQ_A", "REQ_B") ∉ asymmetricPairs (build listedTwiceMended).1 := by
  have hreported : ("REQ_A", "REQ_B") ∈ asymmetricPairs (build listedTwice).1 :=
    mem_asymmetricPairs_iff.2 (by decide +kernel)
  have hnotDrawn := (mem_asymmetricPairs_build.1 hreported).2.2.2.2
  refine ⟨hreported, ?_⟩
  rw [listedTwiceMended, asymmetricPairs_requiring rfl (by decide +kernel) (by decide +kernel)
    hreported]
  rintro (⟨-, hother⟩ | ⟨hdrawn, -⟩)
  · exact hother rfl
  · exact hnotDrawn hdrawn

/-- Writing a missing reverse link can take away another one, even where no identifier is declared
twice. -/
theorem not_only_mended :
    ¬∀ (s : Sources) (before after : List Asset) (d : Asset) (parent child : String),
      s.assets = before ++ d :: after → (s.assets.flatMap (·.header.allIds)).Nodup →
      d.isFootnote = false → d.id? = some child →
      (parent, child) ∈ asymmetricPairs (build s).1 →
      asymmetricPairs (build (s.requiring before d after parent)).1 =
        asymmetricPairs (build s).1 \ {(parent, child)} := by
  intro hmends
  have hreported : ("REQ_A", "REQ_B") ∈ asymmetricPairs (build listedTwice).1 :=
    mem_asymmetricPairs_iff.2 (by decide +kernel)
  have hmended := hmends listedTwice listing [] listed "REQ_A" "REQ_B" rfl (by decide +kernel)
    (by decide +kernel) (by decide +kernel) hreported
  have hafter : ("REQ_F", "REQ_B") ∈ asymmetricPairs (build listedTwiceMended).1 :=
    mem_asymmetricPairs_iff.2 (by decide +kernel)
  have hbefore : ("REQ_F", "REQ_B") ∉ asymmetricPairs (build listedTwice).1 := fun h =>
    absurd (mem_asymmetricPairs_iff.1 h) (by decide +kernel)
  rw [listedTwiceMended, hmended] at hafter
  exact hbefore hafter.1

end Inspection

end DocTrace
