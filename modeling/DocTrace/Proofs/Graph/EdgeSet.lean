import DocTrace.Proofs.Graph.Edges
import Mathlib.Data.List.TakeWhile

/-! The exact edges of an assembled graph. They are described from the documents
alone: what documents declare, the hubs above their folders, and the identifiers in
their diagrams. An ownership edge needs a child for which no document at all declares
a parent, so it waits for the declarations of all documents. -/

namespace DocTrace.Graph

/-! ### The edges that documents give -/

/-- The documents are the assets outside of the folders for footnotes. -/
def Sources.IsDocument (s : Sources) (a : Asset) : Prop := a ∈ s.assets ∧ a.isFootnote = false

/-- The uplink, the downlinks and the requirements that a document declares for an identifier,
its own or that of one of its entities. -/
inductive Declares (a : Asset) : String → Option String → List String → List String → Prop
  | own {id : String} (hid : a.id? = some id) :
    Declares a id a.header.uplink (a.header.downlinks.getD []) (a.header.requirements.getD [])
  | entity {e : Entity} (he : e ∈ a.header.entities) :
    Declares a e.id e.uplink (e.downlinks.getD []) (e.requirements.getD [])

/-- The parents that any document declares for an identifier. -/
def Sources.declaredParents (s : Sources) (id : String) : Set String :=
  {p | ∃ a uplink downlinks requirements, s.IsDocument a ∧
    Declares a id uplink downlinks requirements ∧
    (uplink = some p ∧ p ≠ "" ∨ p ∈ requirements)}

/-- The children that any document declares for an identifier. -/
def Sources.declaredChildren (s : Sources) (id : String) : Set String :=
  {c | ∃ a uplink downlinks requirements, s.IsDocument a ∧
    Declares a id uplink downlinks requirements ∧ c ∈ downlinks}

/-- The edge from the first hub whose folder holds a document. -/
def Sources.hubEdgesOf (s : Sources) (a : Asset) : Set (String × String) :=
  {e | ∃ hub id, a.id? = some id ∧
    s.hubs.find? (fun h => Text.beginsWith (h.folder ++ "/") a.path) = some hub ∧
    hub.id ≠ id ∧ e = (hub.id, id)}

def Sources.hubEdges (s : Sources) : Set (String × String) :=
  {e | ∃ a, s.IsDocument a ∧ e ∈ s.hubEdgesOf a}

/-- Two or more capital letters and an underscore begin the identifier. -/
def IsSemantic (id : String) : Prop :=
  ∃ capitals rest, id.toList = capitals ++ '_' :: rest ∧ 2 ≤ capitals.length ∧
    ∀ c ∈ capitals, c.isUpper = true

/-- A persona drives the journeys and requirements that show it. -/
def Drives (found file : String) : Prop :=
  Text.beginsWith "PER_" found = true ∧
    (Text.beginsWith "JRN_" file = true ∨ Text.beginsWith "REQ_" file = true)

/-- The edge between a document and an identifier in its diagram. -/
def Sources.ownedEdges (s : Sources) (file found : String) : Set (String × String) :=
  {e | found ≠ file ∧ IsSemantic found ∧
    (Drives found file ∧ e = (found, file) ∨ ¬Drives found file ∧ e = (file, found)) ∧
    s.declaredParents e.2 = ∅}

def Sources.ownershipEdgesOf (s : Sources) (a : Asset) : Set (String × String) :=
  {e | ∃ file analysis found, a.id? = some file ∧ s.analyses.find? a.path = some analysis ∧
    found ∈ analysis.nodes ∧ e ∈ s.ownedEdges file found}

def Sources.ownershipEdges (s : Sources) : Set (String × String) :=
  {e | ∃ a, s.IsDocument a ∧ e ∈ s.ownershipEdgesOf a}

theorem Sources.mem_documents {s : Sources} {a : Asset} : a ∈ s.documents ↔ s.IsDocument a := by
  simp [Sources.documents, Sources.IsDocument]

/-! ### Declared links -/

/-- The edge that the child of a link knows of. -/
def Link.upEdge (l : Link) : Set (String × String) :=
  {e | l.kind ≠ .downlink ∧ e = (l.target, l.source)}

/-- The edge that the parent of a link knows of. -/
def Link.downEdge (l : Link) : Set (String × String) :=
  {e | l.kind = .downlink ∧ e = (l.source, l.target)}

theorem extends_drawLink (g : Graph) (l : Link) :
    Extends g (g.drawLink l) l.upEdge l.downEdge := by
  -- The record of the link, the reference and the node of the target add no edge.
  have hrest (h : Graph) : Extends h
      (({ h with declaredLinks := h.declaredLinks ++ [l] }.refer l.target).ensure l.target)
      ∅ ∅ := by
    refine Extends.trans_same ?_ (extends_ensure _ l.target)
    exact extends_of_nodes rfl
  unfold drawLink
  cases hkind : l.kind with
  | downlink => simpa [Link.upEdge, Link.downEdge, hkind] using
      (extends_addDownlink g l.source l.target).trans_same (hrest _)
  | uplink => simpa [Link.upEdge, Link.downEdge, hkind] using
      (extends_addUplink g l.source l.target).trans_same (hrest _)
  | requirement => simpa [Link.upEdge, Link.downEdge, hkind] using
      (extends_addUplink g l.source l.target).trans_same (hrest _)

theorem extends_declare (g : Graph) (d : Declaration) :
    Extends g (g.declare d) {e | ∃ l ∈ d.links, e ∈ l.upEdge} {e | ∃ l ∈ d.links, e ∈ l.downEdge} :=
  (extends_ensure g d.source).same_trans
    (.foldl (P := fun _ => True) (fun _ _ _ => trivial) (fun g l _ _ => extends_drawLink g l)
      trivial)

theorem Declaration.mem_links {d : Declaration} {l : Link} :
    l ∈ d.links ↔ l.source = d.source ∧ l.file = d.file ∧
      (l.kind = .uplink ∧ d.uplink = some l.target ∧ l.target ≠ "" ∨
        l.kind = .requirement ∧ l.target ∈ d.requirements ∨
        l.kind = .downlink ∧ l.target ∈ d.downlinks) := by
  rcases l with ⟨source, target, kind, file⟩
  simp only [Declaration.links, List.mem_append, List.mem_map, Option.mem_toList, Link.mk.injEq,
    Option.filter_eq_some_iff, decide_eq_true_eq]
  grind

theorem declares_iff {a : Asset} {id : String} {uplink : Option String}
    {downlinks requirements : List String} :
    Declares a id uplink downlinks requirements ↔
      ⟨id, a.path, uplink, downlinks, requirements⟩ ∈ declarationsOf a := by
  simp only [declarationsOf, List.mem_append, List.mem_map, Option.mem_toList,
    Declaration.mk.injEq]
  constructor
  · rintro (hid | he)
    · exact .inl ⟨_, hid, by simp⟩
    · exact .inr ⟨_, he, by simp⟩
  · rintro (⟨_, hid, rfl, -, rfl, rfl, rfl⟩ | ⟨_, he, rfl, -, rfl, rfl, rfl⟩)
    · exact .own hid
    · exact .entity he

theorem declares_of_mem_declarationsOf {a : Asset} {d : Declaration} (hd : d ∈ declarationsOf a) :
    d.file = a.path ∧ Declares a d.source d.uplink d.downlinks d.requirements := by
  have hpath : d.file = a.path := by
    simp only [declarationsOf, List.mem_append, List.mem_map] at hd
    rcases hd with ⟨_, -, rfl⟩ | ⟨_, -, rfl⟩ <;> rfl
  refine ⟨hpath, declares_iff.2 ?_⟩
  rw [← hpath]
  exact hd

def Sources.links (s : Sources) : List Link :=
  (s.documents.flatMap declarationsOf).flatMap Declaration.links

theorem Sources.mem_links {s : Sources} {l : Link} :
    l ∈ s.links ↔ ∃ a uplink downlinks requirements, s.IsDocument a ∧ l.file = a.path ∧
      Declares a l.source uplink downlinks requirements ∧
      (l.kind = .uplink ∧ uplink = some l.target ∧ l.target ≠ "" ∨
        l.kind = .requirement ∧ l.target ∈ requirements ∨
        l.kind = .downlink ∧ l.target ∈ downlinks) := by
  simp only [Sources.links, List.mem_flatMap, Declaration.mem_links, Sources.mem_documents]
  constructor
  · rintro ⟨d, ⟨a, ha, hd⟩, hsource, hfile, htarget⟩
    obtain ⟨hpath, hdeclares⟩ := declares_of_mem_declarationsOf hd
    exact ⟨a, _, _, _, ha, hfile.trans hpath, hsource ▸ hdeclares, htarget⟩
  · rintro ⟨a, uplink, downlinks, requirements, ha, hfile, hdeclares, htarget⟩
    exact ⟨_, ⟨a, ha, declares_iff.1 hdeclares⟩, rfl, hfile, htarget⟩

theorem Sources.mem_declaredParents {s : Sources} {id p : String} :
    p ∈ s.declaredParents id ↔
      ∃ l ∈ s.links, l.source = id ∧ l.target = p ∧ l.kind ≠ .downlink := by
  simp only [Sources.mem_links, Sources.declaredParents, Set.mem_ofPred_eq]
  constructor
  · rintro ⟨a, uplink, downlinks, requirements, ha, hdeclares, ⟨rfl, hp⟩ | hp⟩
    · exact ⟨⟨id, p, .uplink, a.path⟩, ⟨a, _, _, _, ha, rfl, hdeclares, .inl ⟨rfl, rfl, hp⟩⟩, rfl,
        rfl, by simp⟩
    · exact ⟨⟨id, p, .requirement, a.path⟩,
        ⟨a, _, _, _, ha, rfl, hdeclares, .inr (.inl ⟨rfl, hp⟩)⟩, rfl, rfl, by simp⟩
  · rintro ⟨l, ⟨a, uplink, downlinks, requirements, ha, -, hdeclares, htarget⟩, rfl, rfl, hkind⟩
    refine ⟨a, uplink, downlinks, requirements, ha, hdeclares, ?_⟩
    rcases htarget with ⟨-, hup⟩ | ⟨-, hreq⟩ | ⟨hdown, -⟩
    · exact .inl hup
    · exact .inr hreq
    · exact absurd hdown hkind

theorem Sources.mem_declaredChildren {s : Sources} {id c : String} :
    c ∈ s.declaredChildren id ↔
      ∃ l ∈ s.links, l.source = id ∧ l.target = c ∧ l.kind = .downlink := by
  simp only [Sources.mem_links, Sources.declaredChildren, Set.mem_ofPred_eq]
  constructor
  · rintro ⟨a, uplink, downlinks, requirements, ha, hdeclares, hc⟩
    exact ⟨⟨id, c, .downlink, a.path⟩, ⟨a, _, _, _, ha, rfl, hdeclares, .inr (.inr ⟨rfl, hc⟩)⟩,
      rfl, rfl, rfl⟩
  · rintro ⟨l, ⟨a, uplink, downlinks, requirements, ha, -, hdeclares, htarget⟩, rfl, rfl, hkind⟩
    refine ⟨a, uplink, downlinks, requirements, ha, hdeclares, ?_⟩
    rcases htarget with ⟨hup, -⟩ | ⟨hreq, -⟩ | ⟨-, hdown⟩
    · simp [hup] at hkind
    · simp [hreq] at hkind
    · exact hdown

/-! ### What one document names -/

/-- A document declares a parent for an identifier. -/
def NamesParent (a : Asset) (id p : String) : Prop :=
  ∃ uplink downlinks requirements, Declares a id uplink downlinks requirements ∧
    (uplink = some p ∧ p ≠ "" ∨ p ∈ requirements)

/-- A document declares a child for an identifier. -/
def NamesChild (a : Asset) (id c : String) : Prop :=
  ∃ uplink downlinks requirements, Declares a id uplink downlinks requirements ∧ c ∈ downlinks

theorem Sources.exists_namesParent_iff {s : Sources} {id p : String} :
    p ∈ s.declaredParents id ↔ ∃ a, s.IsDocument a ∧ NamesParent a id p := by
  simp only [Sources.declaredParents, NamesParent, Set.mem_ofPred_eq, exists_and_left]

theorem Sources.exists_namesChild_iff {s : Sources} {id c : String} :
    c ∈ s.declaredChildren id ↔ ∃ a, s.IsDocument a ∧ NamesChild a id c := by
  simp only [Sources.declaredChildren, NamesChild, Set.mem_ofPred_eq, exists_and_left]

theorem namesParent_iff {a : Asset} {id p : String} :
    NamesParent a id p ↔
      a.id? = some id ∧
          (a.header.uplink = some p ∧ p ≠ "" ∨ p ∈ a.header.requirements.getD []) ∨
        ∃ e ∈ a.header.entities, e.id = id ∧
          (e.uplink = some p ∧ p ≠ "" ∨ p ∈ e.requirements.getD []) := by
  constructor
  · rintro ⟨_, _, _, hid | he, hp⟩
    · exact .inl ⟨hid, hp⟩
    · exact .inr ⟨_, he, rfl, hp⟩
  · rintro (⟨hid, hp⟩ | ⟨e, he, rfl, hp⟩)
    · exact ⟨_, _, _, .own hid, hp⟩
    · exact ⟨_, _, _, .entity he, hp⟩

theorem namesChild_iff {a : Asset} {id c : String} :
    NamesChild a id c ↔
      a.id? = some id ∧ c ∈ a.header.downlinks.getD [] ∨
        ∃ e ∈ a.header.entities, e.id = id ∧ c ∈ e.downlinks.getD [] := by
  constructor
  · rintro ⟨_, _, _, hid | he, hc⟩
    · exact .inl ⟨hid, hc⟩
    · exact .inr ⟨_, he, rfl, hc⟩
  · rintro (⟨hid, hc⟩ | ⟨e, he, rfl, hc⟩)
    · exact ⟨_, _, _, .own hid, hc⟩
    · exact ⟨_, _, _, .entity he, hc⟩

/-! ### Implied edges -/

theorem isSemanticId_iff {id : String} : isSemanticId id = true ↔ IsSemantic id := by
  have hsplit := List.takeWhile_append_dropWhile (p := Char.isUpper) (l := id.toList)
  simp only [isSemanticId, Bool.and_eq_true, decide_eq_true_eq]
  constructor
  · rintro ⟨hcapitals, hhead⟩
    have hdrop := congrArg (List.drop (id.toList.takeWhile Char.isUpper).length) hsplit
    rw [List.drop_left] at hdrop
    rw [← hdrop] at hhead
    obtain ⟨rest, hrest⟩ := List.head?_eq_some_iff.1 hhead
    exact ⟨_, rest, by rw [← hrest, hsplit], hcapitals, fun c hc => List.mem_takeWhile_imp hc⟩
  · rintro ⟨capitals, rest, hid, hlength, hupper⟩
    have htake : id.toList.takeWhile Char.isUpper = capitals := by
      rw [hid, List.takeWhile_append_of_pos hupper]
      simp
    rw [htake]
    exact ⟨hlength, by simp [hid]⟩

theorem ownership_eq (file found : String) :
    (Drives found file ∧ ownership file found = (found, file)) ∨
      (¬Drives found file ∧ ownership file found = (file, found)) := by
  unfold ownership Drives
  split
  · next h => exact .inl ⟨by simpa using h, rfl⟩
  · next h => exact .inr ⟨by simpa using h, rfl⟩

/-- The graph holds the analyses and the hubs of the sources, and some links so far. -/
structure Holds (s : Sources) (links : List Link) (g : Graph) : Prop where
  analyses : g.analyses = s.analyses
  hubs : g.hubs = s.hubs
  links : g.declaredLinks = links

variable {s : Sources} {links : List Link}

theorem holds_start (s : Sources) : Holds s [] (start s) := ⟨rfl, rfl, rfl⟩

theorem Holds.of_same (hg : Holds s links g) (hanalyses : h.analyses = g.analyses)
    (hhubs : h.hubs = g.hubs) (hlinks : h.declaredLinks = g.declaredLinks) : Holds s links h :=
  ⟨hanalyses.trans hg.analyses, hhubs.trans hg.hubs, hlinks.trans hg.links⟩

theorem Holds.foldl {step : Graph → α → Graph}
    (hstep : ∀ g a, Holds s links g → Holds s links (step g a)) (hg : Holds s links g)
    (items : List α) : Holds s links (items.foldl step g) := by
  induction items generalizing g with
  | nil => exact hg
  | cons a rest ih => exact ih (hstep g a hg)

theorem Holds.register (hg : Holds s links g) (id file : String) :
    Holds s links (g.register id file).1 := by
  unfold Graph.register
  split
  · exact hg.of_same rfl rfl rfl
  · split
    · exact hg
    · exact hg.of_same rfl rfl rfl

theorem Holds.registerAll (hg : Holds s links g) (files : List (String × String)) :
    Holds s links (g.registerAll files).1 := by
  induction files generalizing g with
  | nil => exact hg
  | cons e rest ih => exact ih (hg.register e.1 e.2)

theorem Holds.drawLink (hg : Holds s links g) (l : Link) :
    Holds s (links ++ [l]) (g.drawLink l) := by
  unfold Graph.drawLink
  cases l.kind <;> exact ⟨hg.analyses, hg.hubs, congrArg (· ++ [l]) hg.links⟩

theorem Holds.drawAll (hg : Holds s links g) (more : List Link) :
    Holds s (links ++ more) (more.foldl Graph.drawLink g) := by
  induction more generalizing g links with
  | nil => simpa using hg
  | cons l rest ih => simpa using ih (hg.drawLink l)

theorem Holds.declare (hg : Holds s links g) (d : Declaration) :
    Holds s (links ++ d.links) (g.declare d) := by
  have hensured : Holds s links (g.ensure d.source) := hg.of_same rfl rfl rfl
  exact hensured.drawAll d.links

theorem Holds.declareAll (hg : Holds s links g) (ds : List Declaration) :
    Holds s (links ++ ds.flatMap Declaration.links) (ds.foldl Graph.declare g) := by
  induction ds generalizing g links with
  | nil => simpa using hg
  | cons d rest ih => simpa using ih (hg.declare d)

theorem Holds.addAlias (hg : Holds s links g) (id file : String) :
    Holds s links (g.addAlias id file) := by
  unfold Graph.addAlias
  split
  · exact hg
  · exact hg.of_same rfl rfl rfl

theorem Holds.refer (hg : Holds s links g) (id : String) : Holds s links (g.refer id) :=
  hg.of_same rfl rfl rfl

theorem Holds.connect (hg : Holds s links g) (parent child : String) :
    Holds s links (g.connect parent child) := hg.of_same rfl rfl rfl

theorem Holds.own (hg : Holds s links g) (file found : String) :
    Holds s links (g.own file found) := by
  unfold Graph.own
  split
  · exact hg
  · dsimp only
    split
    · exact hg.refer found
    · exact (hg.refer found).connect _ _

theorem Holds.joinHub (hg : Holds s links g) (path id : String) :
    Holds s links (g.joinHub path id) := by
  unfold Graph.joinHub
  split
  · split
    · exact hg
    · exact (hg.connect _ _).refer _
  · exact hg

theorem Holds.imply (hg : Holds s links g) (a : Asset) : Holds s links (g.imply a) := by
  have hrefer := Holds.foldl (fun _ id hg => hg.refer id) hg
    ((((g.analyses.find? a.path).map Analysis.endpoints).getD []).filter
      fun e => some e ≠ a.header.id)
  unfold Graph.imply
  dsimp only
  split
  · exact hrefer
  · exact Holds.foldl (fun _ found hg => hg.own _ found) (hrefer.joinHub _ _) _

/-- Once all declarations are drawn, the graph tells who has a declared parent. -/
theorem Holds.hasDeclaredParent (hg : Holds s s.links g) (id : String) :
    g.hasDeclaredParent id = true ↔ s.declaredParents id ≠ ∅ := by
  rw [Graph.hasDeclaredParent, hg.links, ← Set.nonempty_iff_ne_empty]
  simp only [List.any_eq_true, Bool.and_eq_true, decide_eq_true_eq]
  constructor
  · rintro ⟨l, hl, hsource, hkind⟩
    exact ⟨l.target, Sources.mem_declaredParents.2 ⟨l, hl, hsource, rfl, hkind⟩⟩
  · rintro ⟨p, hp⟩
    obtain ⟨l, hl, hsource, -, hkind⟩ := Sources.mem_declaredParents.1 hp
    exact ⟨l, hl, hsource, hkind⟩

theorem Sources.ownedEdges_of_ne {file found : String} (hne : found ≠ file)
    (hsemantic : IsSemantic found) :
    s.ownedEdges file found =
      {e | e = ownership file found ∧ s.declaredParents (ownership file found).2 = ∅} := by
  ext e
  simp only [Sources.ownedEdges, Set.mem_ofPred_eq]
  rcases ownership_eq file found with ⟨hdrives, howner⟩ | ⟨hdrives, howner⟩
  · rw [howner]
    constructor
    · rintro ⟨-, -, ⟨-, rfl⟩ | ⟨hnot, -⟩, hfree⟩
      · exact ⟨rfl, hfree⟩
      · exact absurd hdrives hnot
    · rintro ⟨rfl, hfree⟩
      exact ⟨hne, hsemantic, .inl ⟨hdrives, rfl⟩, hfree⟩
  · rw [howner]
    constructor
    · rintro ⟨-, -, ⟨hyes, -⟩ | ⟨-, rfl⟩, hfree⟩
      · exact absurd hyes hdrives
      · exact ⟨rfl, hfree⟩
    · rintro ⟨rfl, hfree⟩
      exact ⟨hne, hsemantic, .inr ⟨hdrives, rfl⟩, hfree⟩

/-- What an identifier in a diagram does to the graph: nothing, or a reference, and an edge with
the document unless its child has a declared parent. -/
theorem own_cases (hg : Holds s s.links g) (file found : String) :
    (¬(found ≠ file ∧ IsSemantic found) ∧ s.ownedEdges file found = ∅ ∧ g.own file found = g) ∨
      (found ≠ file ∧ IsSemantic found) ∧
        (s.ownedEdges file found = ∅ ∧ g.own file found = g.refer found ∨
          ∃ e, s.ownedEdges file found = {e} ∧
            g.own file found = (g.refer found).connect e.1 e.2) := by
  by_cases htake : found ≠ file ∧ IsSemantic found
  · have hedges := Sources.ownedEdges_of_ne (s := s) htake.1 htake.2
    -- All links are drawn before the first edge is implied, so no later document adds a parent.
    have hparent := (hg.refer found).hasDeclaredParent (ownership file found).2
    have hown : g.own file found =
        if (g.refer found).hasDeclaredParent (ownership file found).2 then g.refer found
        else (g.refer found).connect (ownership file found).1 (ownership file found).2 := by
      simp [own, htake.1, isSemanticId_iff.2 htake.2]
    refine .inr ⟨htake, ?_⟩
    by_cases hdeclared : (g.refer found).hasDeclaredParent (ownership file found).2 = true
    · refine .inl ⟨?_, by rw [hown, if_pos hdeclared]⟩
      rw [hedges]
      exact Set.eq_empty_of_forall_notMem fun e he => hparent.1 hdeclared he.2
    · refine .inr ⟨ownership file found, ?_, by rw [hown, if_neg hdeclared]⟩
      have hempty : s.declaredParents (ownership file found).2 = ∅ :=
        Classical.not_not.1 fun hne => hdeclared (hparent.2 hne)
      rw [hedges]
      ext e
      simp [hempty]
  · refine .inl ⟨htake, Set.eq_empty_of_forall_notMem fun e he => htake ⟨he.1, he.2.1⟩, ?_⟩
    have hskip : (found = file || !isSemanticId found) = true := by
      by_contra hkeep
      exact htake (by simpa [isSemanticId_iff] using hkeep)
    rw [own, if_pos hskip]

/-- A document in the folder of a hub is connected with it, unless it is the hub's own. -/
theorem joinHub_cases (hg : Holds s s.links g) {a : Asset} (ha : s.IsDocument a) {id : String}
    (hid : a.id? = some id) :
    (s.hubEdgesOf a = ∅ ∧ g.joinHub a.path id = g) ∨
      ∃ hub, s.hubEdgesOf a = {(hub, id)} ∧
        g.joinHub a.path id = (g.connect hub id).refer id := by
  have hnote : isFootnote a.path = false := ha.2
  have hfind : g.hubFor? a.path =
      s.hubs.find? fun h => Text.beginsWith (h.folder ++ "/") a.path := by
    rw [hubFor?, hnote, hg.hubs]
    rfl
  rw [joinHub, hfind]
  cases hhub : s.hubs.find? fun h => Text.beginsWith (h.folder ++ "/") a.path with
  | none =>
    refine .inl ⟨Set.eq_empty_of_forall_notMem fun e he => ?_, rfl⟩
    obtain ⟨hub, id, -, hsome, -⟩ := he
    rw [hhub] at hsome
    contradiction
  | some hub =>
    have hedges : s.hubEdgesOf a = {e | hub.id ≠ id ∧ e = (hub.id, id)} := by
      ext e
      simp [Sources.hubEdgesOf, hid, hhub]
    by_cases hsame : hub.id = id
    · refine .inl ⟨?_, if_pos hsame⟩
      rw [hedges]
      exact Set.eq_empty_of_forall_notMem fun e he => he.1 hsame
    · refine .inr ⟨hub.id, ?_, if_neg hsame⟩
      rw [hedges]
      ext e
      simp [hsame]

theorem extends_own (hg : Holds s s.links g) (file found : String) :
    Extends g (g.own file found) (s.ownedEdges file found) (s.ownedEdges file found) := by
  rcases own_cases hg file found with
    ⟨-, hnone, hsame⟩ | ⟨-, ⟨hnone, hrefer⟩ | ⟨e, hedge, hconnect⟩⟩
  · rw [hsame, hnone]
    exact .refl g
  · rw [hrefer, hnone]
    exact extends_refer g found
  · rw [hconnect, hedge]
    exact (extends_refer g found).same_trans (extends_connect _ e.1 e.2)

theorem extends_joinHub (hg : Holds s s.links g) {a : Asset} (ha : s.IsDocument a) {id : String}
    (hid : a.id? = some id) :
    Extends g (g.joinHub a.path id) (s.hubEdgesOf a) (s.hubEdgesOf a) := by
  rcases joinHub_cases hg ha hid with ⟨hnone, hsame⟩ | ⟨hub, hedge, hconnect⟩
  · rw [hsame, hnone]
    exact .refl g
  · rw [hconnect, hedge]
    exact (extends_connect g hub id).trans_same (extends_refer _ id)

/-- The identifiers in the diagram of a document. -/
def Sources.nodesIn (s : Sources) (a : Asset) : List String :=
  ((s.analyses.find? a.path).map Analysis.nodes).getD []

/-- The ends of the edges in the diagram of a document, apart from the document itself. -/
def Sources.endpointsIn (s : Sources) (a : Asset) : List String :=
  (((s.analyses.find? a.path).map Analysis.endpoints).getD []).filter fun e =>
    some e ≠ a.header.id

theorem imply_eq (hg : Holds s links g) (a : Asset) :
    g.imply a =
      match a.id? with
      | none => (s.endpointsIn a).foldl refer g
      | some id =>
        (s.nodesIn a).foldl (own · id) (((s.endpointsIn a).foldl refer g).joinHub a.path id) := by
  rw [imply, hg.analyses]
  rfl

theorem ownershipEdgesOf_eq {a : Asset} {file : String} (hid : a.id? = some file) :
    s.ownershipEdgesOf a = {e | ∃ found ∈ s.nodesIn a, e ∈ s.ownedEdges file found} := by
  ext e
  cases hfind : s.analyses.find? a.path <;>
    simp [Sources.ownershipEdgesOf, Sources.nodesIn, hid, hfind]

theorem extends_imply (hg : Holds s s.links g) {a : Asset} (ha : s.IsDocument a) :
    Extends g (g.imply a) (s.hubEdgesOf a ∪ s.ownershipEdgesOf a)
      (s.hubEdgesOf a ∪ s.ownershipEdgesOf a) := by
  have hrefer := Extends.foldl_same extends_refer g (s.endpointsIn a)
  have hdeclared := Holds.foldl (fun _ id hg => hg.refer id) hg (s.endpointsIn a)
  rw [imply_eq hg]
  refine hrefer.same_trans ?_
  cases hid : a.id? with
  | none =>
    have hnone : s.hubEdgesOf a ∪ s.ownershipEdgesOf a = ∅ := by
      ext e
      simp [Sources.hubEdgesOf, Sources.ownershipEdgesOf, hid]
    rw [hnone]
    exact .refl _
  | some file =>
    rw [ownershipEdgesOf_eq hid]
    refine (extends_joinHub hdeclared ha hid).trans ?_
    exact Extends.foldl (fun _ found hg => hg.own file found)
      (fun _ found _ hg => extends_own hg file found) (hdeclared.joinHub a.path file)

/-! ### The assembled graph -/

/-- The links of all declarations add what the links of the sources add. -/
theorem Sources.edges_links (s : Sources) (edgesOf : Link → Set (String × String)) :
    {e | ∃ d ∈ s.documents.flatMap declarationsOf, e ∈ {e | ∃ l ∈ d.links, e ∈ edgesOf l}} =
      {e | ∃ l ∈ s.links, e ∈ edgesOf l} := by
  ext e
  constructor
  · rintro ⟨d, hd, l, hl, he⟩
    exact ⟨l, List.mem_flatMap.2 ⟨d, hd, hl⟩, he⟩
  · rintro ⟨l, hl, he⟩
    obtain ⟨d, hd, hdl⟩ := List.mem_flatMap.1 hl
    exact ⟨d, hd, l, hdl, he⟩

theorem Sources.upEdges_links (s : Sources) :
    {e | ∃ l ∈ s.links, e ∈ l.upEdge} = {e | e.1 ∈ s.declaredParents e.2} := by
  ext ⟨p, c⟩
  simp only [Set.mem_ofPred_eq, Sources.mem_declaredParents, Link.upEdge, Prod.mk.injEq]
  exact exists_congr fun l => and_congr_right fun _ => by grind

theorem Sources.downEdges_links (s : Sources) :
    {e | ∃ l ∈ s.links, e ∈ l.downEdge} = {e | e.2 ∈ s.declaredChildren e.1} := by
  ext ⟨p, c⟩
  simp only [Set.mem_ofPred_eq, Sources.mem_declaredChildren, Link.downEdge, Prod.mk.injEq]
  exact exists_congr fun l => and_congr_right fun _ => by grind

theorem Sources.implied_documents (s : Sources) :
    {e | ∃ a ∈ s.documents, e ∈ s.hubEdgesOf a ∪ s.ownershipEdgesOf a} =
      s.hubEdges ∪ s.ownershipEdges := by
  ext e
  simp only [Sources.hubEdges, Sources.ownershipEdges, Set.mem_ofPred_eq, Set.mem_union,
    Sources.mem_documents, and_or_left, exists_or]

theorem extends_build (s : Sources) :
    Extends (start s) (build s).1
      ({e | e.1 ∈ s.declaredParents e.2} ∪ (s.hubEdges ∪ s.ownershipEdges))
      ({e | e.2 ∈ s.declaredChildren e.1} ∪ (s.hubEdges ∪ s.ownershipEdges)) := by
  let files := s.documents.flatMap fun a => a.header.allIds.map (·, a.path)
  let ds := s.documents.flatMap declarationsOf
  let aliases := s.assets.flatMap fun a => (aliasesOf a).map (·, a.path)
  let registered := ((start s).registerAll files).1
  let declared := ds.foldl declare registered
  let named := aliases.foldl (fun g e => g.addAlias e.1 e.2) declared
  have hregistered : Extends (start s) registered ∅ ∅ := extends_registerAll ..
  have hdeclared : Extends registered declared {e | e.1 ∈ s.declaredParents e.2}
      {e | e.2 ∈ s.declaredChildren e.1} := by
    rw [← s.upEdges_links, ← s.downEdges_links, ← s.edges_links, ← s.edges_links]
    exact Extends.foldl (P := fun _ => True) (fun _ _ _ => trivial)
      (fun g d _ _ => extends_declare g d) trivial
  -- The second pass over the documents starts from a graph that holds all links.
  have hnamed : Extends declared named ∅ ∅ :=
    Extends.foldl_same (fun g e => extends_addAlias g e.1 e.2) declared aliases
  have hholds : Holds s s.links named :=
    Holds.foldl (fun _ _ hg => hg.addAlias ..)
      (((holds_start s).registerAll files).declareAll ds) aliases
  have himplied : Extends named (s.documents.foldl imply named)
      (s.hubEdges ∪ s.ownershipEdges) (s.hubEdges ∪ s.ownershipEdges) := by
    rw [← s.implied_documents]
    exact Extends.foldl (fun _ a hg => hg.imply a)
      (fun _ a ha hg => extends_imply hg (Sources.mem_documents.1 ha)) hholds
  have hdescribed := Extends.foldl_same extends_describeAsset (s.documents.foldl imply named)
    s.documents
  exact (((hregistered.same_trans hdeclared).trans_same hnamed).trans himplied).trans_same
    hdescribed

theorem upEdges_start (s : Sources) : (start s).upEdges = ∅ := by
  ext e
  exact iff_of_false (List.not_mem_nil) (Set.notMem_empty e)

theorem downEdges_start (s : Sources) : (start s).downEdges = ∅ := by
  ext e
  exact iff_of_false (List.not_mem_nil) (Set.notMem_empty e)

theorem distinctEdges_start (s : Sources) : (start s).DistinctEdges :=
  fun _ => ⟨List.nodup_nil, List.nodup_nil⟩

/-- The parents and children of every identifier in the graph of a project. -/
theorem edges_build (s : Sources) :
    (∀ c p, p ∈ (build s).1.uplinks c ↔
      p ∈ s.declaredParents c ∨ (p, c) ∈ s.hubEdges ∨ (p, c) ∈ s.ownershipEdges) ∧
    (∀ p c, c ∈ (build s).1.downlinks p ↔
      c ∈ s.declaredChildren p ∨ (p, c) ∈ s.hubEdges ∨ (p, c) ∈ s.ownershipEdges) ∧
    (∀ id, ((build s).1.uplinks id).Nodup ∧ ((build s).1.downlinks id).Nodup) ∧
    (∀ e, e ∈ s.hubEdges ∨ e ∈ s.ownershipEdges → e.1 ≠ e.2) := by
  have hbuild := extends_build s
  refine ⟨fun c p => ?_, fun p c => ?_, hbuild.distinct (distinctEdges_start s), fun e he => ?_⟩
  · have hup : (p, c) ∈ (build s).1.upEdges ↔ p ∈ (build s).1.uplinks c := Iff.rfl
    rw [← hup, hbuild.upEdges, upEdges_start, Set.empty_union]
    rfl
  · have hdown : (p, c) ∈ (build s).1.downEdges ↔ c ∈ (build s).1.downlinks p := Iff.rfl
    rw [← hdown, hbuild.downEdges, downEdges_start, Set.empty_union]
    rfl
  · rcases he with ⟨a, -, hub, id, -, -, hne, rfl⟩ | ⟨a, -, file, analysis, found, -, -, -, howned⟩
    · exact hne
    · obtain ⟨hne, -, ⟨-, rfl⟩ | ⟨-, rfl⟩, -⟩ := howned
      · exact hne
      · exact hne.symm

end DocTrace.Graph
