import DocTrace.Inspection.Traceability
import DocTrace.Proofs.Graph.Changes
import DocTrace.Proofs.Graph.Stages

/-! Reciprocity of links. The check looks at declared downlinks only, yet it decides whether
every edge to a declared identifier is known at both of its ends: all other edges are drawn
at both ends from the start. -/

namespace DocTrace

def Graph.Link.ends (l : Graph.Link) : String × String := (l.source, l.target)

def Graph.firstDownlink? (links : List Graph.Link) (ends : String × String) :
    Option Graph.Link :=
  links.find? fun l => l.kind = .downlink && l.ends = ends

namespace Inspection

open DocTrace.Graph Finding

/-- What is reported of a downlink whose other end does not know of it. -/
def asymmetry (l : Link) : Finding :=
  { message := "Asymmetric link: " ++ quoted l.source ++ " lists " ++ quoted l.target ++
      " as a downlink, but " ++ quoted l.target ++ " has no uplink to " ++ quoted l.source
    file := some l.file
    id := some l.source }

/-! ### Distinct downlinks -/

theorem distinctDownlinks_cons (g : Graph) (seen : List (String × String)) (m : Link)
    (rest : List Link) :
    distinctDownlinks g seen (m :: rest) =
      if m.kind = .downlink ∧ g.isDeclared m.target = true ∧ m.ends ∉ seen then
        m :: distinctDownlinks g (m.ends :: seen) rest
      else distinctDownlinks g seen rest := by
  rw [distinctDownlinks]
  by_cases htake : m.kind = .downlink ∧ g.isDeclared m.target = true ∧ m.ends ∉ seen
  · rw [if_pos htake, if_neg]
    · rfl
    · simpa [Link.ends, and_assoc] using htake
  · rw [if_neg htake, if_pos]
    simpa [Link.ends, or_iff_not_imp_left] using htake

theorem firstDownlink?_cons (m : Link) (rest : List Link) (ends : String × String) :
    firstDownlink? (m :: rest) ends =
      if m.kind = .downlink ∧ m.ends = ends then some m else firstDownlink? rest ends := by
  by_cases hm : m.kind = .downlink ∧ m.ends = ends
  · simp [firstDownlink?, hm.1, hm.2]
  · have hskip : (decide (m.kind = .downlink) && decide (m.ends = ends)) = false := by
      simpa using hm
    rw [if_neg hm, firstDownlink?, List.find?_cons, hskip]
    rfl

theorem mem_distinctDownlinks {g : Graph} {seen : List (String × String)} {links : List Link}
    {l : Link} :
    l ∈ distinctDownlinks g seen links ↔
      l.ends ∉ seen ∧ g.isDeclared l.target = true ∧ firstDownlink? links l.ends = some l := by
  induction links generalizing seen with
  | nil => simp [distinctDownlinks, firstDownlink?]
  | cons m rest ih =>
    have htarget : m.ends = l.ends → m.target = l.target := congrArg Prod.snd
    rw [distinctDownlinks_cons, firstDownlink?_cons]
    by_cases htake : m.kind = .downlink ∧ g.isDeclared m.target = true ∧ m.ends ∉ seen
    · rw [if_pos htake, List.mem_cons, ih, List.mem_cons]
      by_cases hends : m.ends = l.ends
      · -- Of the links with these ends only the one at the head is taken.
        rw [if_pos ⟨htake.1, hends⟩, Option.some.injEq]
        constructor
        · rintro (rfl | ⟨hnew, -⟩)
          · exact ⟨htake.2.2, htake.2.1, rfl⟩
          · exact absurd (.inl hends.symm) hnew
        · rintro ⟨-, -, rfl⟩
          exact .inl rfl
      · rw [if_neg fun h => hends h.2]
        have hne : l ≠ m := fun h => hends (h ▸ rfl)
        simp [hne, Ne.symm hends]
    · rw [if_neg htake, ih]
      by_cases hsame : m.kind = .downlink ∧ m.ends = l.ends
      · refine ⟨fun ⟨hseen, hdeclared, _⟩ => ?_, fun ⟨hseen, hdeclared, _⟩ => ?_⟩
        all_goals
          exact absurd ⟨hsame.1, htarget hsame.2 ▸ hdeclared, hsame.2 ▸ hseen⟩ htake
      · rw [if_neg hsame]

theorem nodup_distinctDownlinks (g : Graph) (seen : List (String × String)) (links : List Link) :
    ((distinctDownlinks g seen links).map Link.ends).Nodup := by
  induction links generalizing seen with
  | nil => exact List.nodup_nil
  | cons m rest ih =>
    rw [distinctDownlinks_cons]
    split
    · rw [List.map_cons, List.nodup_cons]
      refine ⟨fun hm => ?_, ih _⟩
      obtain ⟨l, hl, hends⟩ := List.mem_map.1 hm
      exact (mem_distinctDownlinks.1 hl).1 (hends ▸ List.mem_cons_self ..)
    · exact ih seen

theorem exists_firstDownlink {links : List Link} {l : Link} (hl : l ∈ links)
    (hkind : l.kind = .downlink) :
    ∃ first, firstDownlink? links l.ends = some first ∧ first.ends = l.ends ∧
      first ∈ links ∧ first.kind = .downlink := by
  have hsome : (firstDownlink? links l.ends).isSome = true := by
    rw [firstDownlink?, List.find?_isSome]
    exact ⟨l, hl, by simp [hkind]⟩
  obtain ⟨first, hfirst⟩ := Option.isSome_iff_exists.1 hsome
  have hfound := List.find?_some hfirst
  simp only [Bool.and_eq_true, decide_eq_true_eq] at hfound
  exact ⟨first, hfirst, hfound.2, List.mem_of_find?_eq_some hfirst, hfound.1⟩

/-! ### What the check decides -/

/-- The distinct downlinks whose other end does not know of them. -/
def brokenDownlinks (g : Graph) : List Link :=
  (distinctDownlinks g [] g.declaredLinks).filter fun l => !(g.uplinks l.target).contains l.source

theorem linkReciprocity_eq (g : Graph) : linkReciprocity g = (brokenDownlinks g).map asymmetry :=
  rfl

theorem mem_brokenDownlinks {g : Graph} {l : Link} :
    l ∈ brokenDownlinks g ↔ g.isDeclared l.target = true ∧
      firstDownlink? g.declaredLinks l.ends = some l ∧ l.source ∉ g.uplinks l.target := by
  simp [brokenDownlinks, mem_distinctDownlinks, and_assoc]

/-- An edge whose child is declared and does not know of it. -/
def IsBroken (g : Graph) (e : String × String) : Prop :=
  e.2 ∈ g.downlinks e.1 ∧ g.isDeclared e.2 = true ∧ e.1 ∉ g.uplinks e.2

/-- Parents know of all declared downlinks, and of an edge that its child does not know of only
by such a link. -/
structure DrawnAtBothEnds (g : Graph) : Prop where
  declared : ∀ l ∈ g.declaredLinks, l.kind = .downlink → l.ends ∈ g.downEdges
  others : ∀ e ∈ g.downEdges, e ∈ g.upEdges ∨
    ∃ l ∈ g.declaredLinks, l.kind = .downlink ∧ l.ends = e

theorem mem_ends_brokenDownlinks {g : Graph} (hg : DrawnAtBothEnds g) (e : String × String) :
    e ∈ (brokenDownlinks g).map Link.ends ↔ IsBroken g e := by
  constructor
  · intro he
    obtain ⟨l, hl, rfl⟩ := List.mem_map.1 he
    obtain ⟨hdeclared, hfirst, hup⟩ := mem_brokenDownlinks.1 hl
    have hlink := List.find?_some hfirst
    simp only [Bool.and_eq_true, decide_eq_true_eq] at hlink
    exact ⟨hg.declared l (List.mem_of_find?_eq_some hfirst) hlink.1, hdeclared, hup⟩
  · rintro ⟨hdown, hdeclared, hup⟩
    rcases hg.others e hdown with hmirrored | ⟨l, hl, hkind, rfl⟩
    · exact absurd hmirrored hup
    · obtain ⟨first, hfirst, hends, -, -⟩ := exists_firstDownlink hl hkind
      refine List.mem_map.2 ⟨first, mem_brokenDownlinks.2 ?_, hends⟩
      have hsource : first.source = l.source := congrArg Prod.fst hends
      have htarget : first.target = l.target := congrArg Prod.snd hends
      rw [hends, htarget, hsource]
      exact ⟨hdeclared, hfirst, hup⟩

theorem drawnAtBothEnds_build (s : Sources) : DrawnAtBothEnds (build s).1 where
  declared l hl hkind := by
    rw [(extends_build s).downEdges]
    rw [(holds_build s).links] at hl
    exact .inr (.inl (Sources.mem_declaredChildren.2 ⟨l, hl, rfl, rfl, hkind⟩))
  others e he := by
    rw [(extends_build s).downEdges, downEdges_start, Set.empty_union] at he
    rw [(extends_build s).upEdges, (holds_build s).links]
    rcases he with hchild | himplied
    · obtain ⟨l, hl, hsource, htarget, hkind⟩ := Sources.mem_declaredChildren.1 hchild
      exact .inr ⟨l, hl, hkind, Prod.ext hsource htarget⟩
    · exact .inl (.inr (.inr himplied))

theorem DrawnAtBothEnds.changes {g : Graph} (hg : DrawnAtBothEnds g) (changes : List Change) :
    DrawnAtBothEnds (g.changeAll changes) := by
  obtain ⟨hkeeps, added, hadded⟩ := exists_extends_changes g changes
  constructor
  · intro l hl hkind
    rw [hkeeps.declaredLinks] at hl
    rw [hadded.downEdges]
    exact .inl (hg.declared l hl hkind)
  · intro e he
    rw [hadded.downEdges] at he
    rw [hadded.upEdges, hkeeps.declaredLinks]
    rcases he with hold | hnew
    · exact (hg.others e hold).imp .inl id
    · exact .inl (.inr hnew)

/-- The check finds nothing exactly in a graph whose edges are reciprocal, and otherwise each
broken edge once, with the first link that declares it. -/
theorem linkReciprocity_decides (s : Sources) (changes : List Change) :
    (linkReciprocity ((build s).1.changeAll changes) = [] ↔
      ∀ a b, b ∈ ((build s).1.changeAll changes).downlinks a →
        ((build s).1.changeAll changes).isDeclared b = true →
        a ∈ ((build s).1.changeAll changes).uplinks b) ∧
    ∃ broken : List Link,
      linkReciprocity ((build s).1.changeAll changes) = broken.map asymmetry ∧
      (broken.map Link.ends).Nodup ∧
      (∀ e, e ∈ broken.map Link.ends ↔ IsBroken ((build s).1.changeAll changes) e) ∧
      ∀ l ∈ broken, firstDownlink? s.links l.ends = some l := by
  have hdrawn := (drawnAtBothEnds_build s).changes changes
  have hlinks : ((build s).1.changeAll changes).declaredLinks = s.links :=
    (exists_extends_changes (build s).1 changes).1.declaredLinks.trans (holds_build s).links
  generalize (build s).1.changeAll changes = g at hdrawn hlinks
  have hbroken := mem_ends_brokenDownlinks hdrawn
  refine ⟨?_, brokenDownlinks g, linkReciprocity_eq g, ?_, hbroken, fun l hl => ?_⟩
  · rw [linkReciprocity_eq, List.map_eq_nil_iff, ← List.map_eq_nil_iff (f := Link.ends),
      List.eq_nil_iff_forall_not_mem]
    constructor
    · intro hnone a b hdown hdeclared
      by_contra hup
      exact hnone (a, b) ((hbroken _).2 ⟨hdown, hdeclared, hup⟩)
    · intro hmirrored e he
      obtain ⟨hdown, hdeclared, hup⟩ := (hbroken e).1 he
      exact hup (hmirrored e.1 e.2 hdown hdeclared)
  · exact (nodup_distinctDownlinks g [] g.declaredLinks).sublist (List.filter_sublist.map _)
  · rw [← hlinks]
    exact (mem_brokenDownlinks.1 hl).2.1

end Inspection

end DocTrace
