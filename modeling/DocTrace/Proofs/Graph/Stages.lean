import DocTrace.Proofs.Graph.EdgeSet

/-! The stages of the assembly, each with the graph that it leaves. What the sources give
as it is reaches the last stage unchanged. -/

namespace DocTrace.Graph

/-! ### The graph after each stage -/

namespace Sources

variable (s : Sources)

/-- The identifiers that documents declare, each with its file. -/
def declarations : List (String × String) :=
  s.documents.flatMap fun a => a.header.allIds.map (·, a.path)

/-- The further names of files, each with its file. -/
def aliases : List (String × String) := s.assets.flatMap fun a => (aliasesOf a).map (·, a.path)

def registered : Graph := ((start s).registerAll s.declarations).1

def drawn : Graph := (s.documents.flatMap declarationsOf).foldl declare s.registered

def addressed : Graph := s.aliases.foldl (fun g e => g.addAlias e.1 e.2) s.drawn

def implied : Graph := s.documents.foldl imply s.addressed

end Sources

theorem build_eq_stages (s : Sources) :
    (build s).1 = s.documents.foldl describeAsset s.implied := rfl

theorem foldl_keeps {P : Graph → Prop} {step : Graph → α → Graph}
    (hstep : ∀ g a, P g → P (step g a)) {g : Graph} (hg : P g) (items : List α) :
    P (items.foldl step g) := by
  induction items generalizing g with
  | nil => exact hg
  | cons a rest ih => exact ih (hstep g a hg)

/-! ### Views that stages leave alone -/

section Views

theorem foldl_same {view : Graph → β} {step : Graph → α → Graph}
    (hstep : ∀ g a, view (step g a) = view g) (g : Graph) (items : List α) :
    view (items.foldl step g) = view g := by
  induction items generalizing g with
  | nil => rfl
  | cons a rest ih => exact (ih _).trans (hstep g a)

theorem registerAll_eq_foldl (g : Graph) (files : List (String × String)) :
    (g.registerAll files).1 = files.foldl (fun g e => (g.register e.1 e.2).1) g := by
  induction files generalizing g with
  | nil => rfl
  | cons e rest ih => exact ih (g.register e.1 e.2).1

variable {view : Graph → β}

theorem registered_same
    (hwrite : ∀ g files duplicates,
      view { g with idToFile := files, duplicates := duplicates } = view g) (s : Sources) :
    view s.registered = view (start s) := by
  have hregister (g : Graph) (e : String × String) : view (g.register e.1 e.2).1 = view g := by
    unfold register
    split
    · exact hwrite ..
    · split
      · rfl
      · exact hwrite ..
  rw [Sources.registered, registerAll_eq_foldl, foldl_same hregister]

theorem drawn_same (hensure : ∀ g id, view (g.ensure id) = view g)
    (hup : ∀ g child parent, view (g.addUplink child parent) = view g)
    (hdown : ∀ g parent child, view (g.addDownlink parent child) = view g)
    (hrecord : ∀ g links refs,
      view { g with declaredLinks := links, referencedIds := refs } = view g) (s : Sources) :
    view s.drawn = view s.registered := by
  have hlink (g : Graph) (l : Link) : view (g.drawLink l) = view g := by
    have hrest (h : Graph) : view (({ h with declaredLinks := h.declaredLinks ++ [l] }.refer
        l.target).ensure l.target) = view h :=
      (hensure _ l.target).trans
        (hrecord h (h.declaredLinks ++ [l]) (addNew h.referencedIds l.target))
    unfold drawLink
    split
    · exact (hrest _).trans (hdown ..)
    · exact (hrest _).trans (hup ..)
  have hdeclare (g : Graph) (d : Declaration) : view (g.declare d) = view g :=
    (foldl_same hlink (g.ensure d.source) d.links).trans (hensure g d.source)
  rw [Sources.drawn, foldl_same hdeclare]

theorem addressed_same
    (hwrite : ∀ g files stems, view { g with idToFile := files, stemIds := stems } = view g)
    (s : Sources) : view s.addressed = view s.drawn := by
  refine foldl_same (fun g e => ?_) s.drawn s.aliases
  unfold addAlias
  split
  · rfl
  · exact hwrite ..

theorem implied_same (hrefer : ∀ g id, view (g.refer id) = view g)
    (hconnect : ∀ g parent child, view (g.connect parent child) = view g) (s : Sources) :
    view s.implied = view s.addressed := by
  have hown (id : String) (g : Graph) (found : String) : view (g.own id found) = view g := by
    unfold own
    split
    · rfl
    · dsimp only
      split
      · exact hrefer ..
      · exact (hconnect ..).trans (hrefer ..)
  have hjoin (g : Graph) (path id : String) : view (g.joinHub path id) = view g := by
    unfold joinHub
    split
    · split
      · rfl
      · exact (hrefer ..).trans (hconnect ..)
    · rfl
  refine foldl_same (fun g a => ?_) s.addressed s.documents
  unfold imply
  dsimp only
  split
  · exact foldl_same hrefer ..
  · rw [foldl_same (hown _), hjoin, foldl_same hrefer]

theorem build_same (hdescribe : ∀ g id key value, view (g.describe id key value) = view g)
    (s : Sources) : view (build s).1 = view s.implied := by
  have hentity (g : Graph) (e : Entity) : view (g.describeEntity e) = view g := by
    unfold describeEntity
    split
    · exact hdescribe ..
    · rfl
  have hclassify (g : Graph) (id : String) (declared : Option String) :
      view (g.classify id declared) = view g := by
    unfold classify
    split
    · exact hdescribe ..
    · split
      · exact hdescribe ..
      · rfl
  rw [build_eq_stages]
  refine foldl_same (fun g a => ?_) s.implied s.documents
  unfold describeAsset
  rw [foldl_same hentity]
  split
  · exact (hclassify ..).trans (hdescribe ..)
  · rfl

end Views

/-! ### Links -/

section Holds

variable {s : Sources} {links : List Link}

theorem Holds.describe (hg : Holds s links g) (id key : String) (value : Value) :
    Holds s links (g.describe id key value) := hg.of_same rfl rfl rfl

theorem Holds.classify (hg : Holds s links g) (id : String) (declared : Option String) :
    Holds s links (g.classify id declared) := by
  unfold Graph.classify
  split
  · exact hg.describe ..
  · split
    · exact hg.describe ..
    · exact hg

theorem Holds.describeEntity (hg : Holds s links g) (e : Entity) :
    Holds s links (g.describeEntity e) := by
  unfold Graph.describeEntity
  split
  · exact hg.describe ..
  · exact hg

theorem Holds.describeAsset (hg : Holds s links g) (a : Asset) :
    Holds s links (g.describeAsset a) := by
  unfold Graph.describeAsset
  refine foldl_keeps (fun _ e hg => hg.describeEntity e) ?_ _
  split
  · exact (hg.describe ..).classify ..
  · exact hg

end Holds

theorem holds_drawn (s : Sources) : Holds s s.links s.drawn :=
  ((holds_start s).registerAll s.declarations).declareAll _

theorem holds_addressed (s : Sources) : Holds s s.links s.addressed :=
  foldl_keeps (fun _ _ hg => hg.addAlias ..) (holds_drawn s) s.aliases

theorem holds_implied (s : Sources) : Holds s s.links s.implied :=
  foldl_keeps (fun _ a hg => hg.imply a) (holds_addressed s) s.documents

theorem holds_build (s : Sources) : Holds s s.links (build s).1 :=
  foldl_keeps (fun _ a hg => hg.describeAsset a) (holds_implied s) s.documents

end DocTrace.Graph
