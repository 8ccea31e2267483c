import DocTrace.Proofs.Graph.Linked
import DocTrace.Proofs.Graph.Mentions
import Mathlib.Data.List.Nodup
import Mathlib.Data.List.Pairwise
import Mathlib.Data.List.Perm.Basic

/-! The metadata of a project's graph as values by identifier. A document writes to its own
identifiers only, so with distinct identifiers the order of documents does not matter. -/

namespace DocTrace

/-! ### Steps that are local to some identifiers -/

/-- A step changes values at some identifiers only, and each by what it was before. -/
structure LocalAt (ids : List String) (step : (String → ν) → String → ν) : Prop where
  others : ∀ values id, id ∉ ids → step values id = values id
  own : ∀ values values' id, id ∈ ids → values id = values' id → step values id = step values' id

namespace LocalAt

variable {ids others : List String} {step next : (String → ν) → String → ν}

theorem id : LocalAt ids (fun values : String → ν => values) :=
  ⟨fun _ _ _ => rfl, fun _ _ _ _ h => h⟩

theorem congr (hstep : LocalAt ids step) {values values' : String → ν} {id : String}
    (h : values id = values' id) : step values id = step values' id := by
  by_cases hid : id ∈ ids
  · exact hstep.own values values' id hid h
  · rw [hstep.others values id hid, hstep.others values' id hid, h]

theorem mono (hstep : LocalAt ids step) (hsubset : ids ⊆ others) : LocalAt others step where
  others values id hid := hstep.others values id fun h => hid (hsubset h)
  own _ _ _ _ h := hstep.congr h

theorem comp (hstep : LocalAt ids step) (hnext : LocalAt ids next) :
    LocalAt ids fun values => next (step values) where
  others values id hid := by rw [hnext.others _ id hid, hstep.others values id hid]
  own _ _ _ _ h := hnext.congr (hstep.congr h)

theorem foldl {step : (String → ν) → α → String → ν} {items : List α}
    (hstep : ∀ a ∈ items, LocalAt ids (step · a)) : LocalAt ids (items.foldl step ·) := by
  induction items with
  | nil => exact .id
  | cons a rest ih =>
    exact (hstep a (List.mem_cons_self ..)).comp
      (ih fun b hb => hstep b (List.mem_cons_of_mem _ hb))

theorem commute (hstep : LocalAt ids step) (hnext : LocalAt others next)
    (hdisjoint : ids.Disjoint others) (values : String → ν) :
    next (step values) = step (next values) := by
  funext id
  by_cases hid : id ∈ ids
  · have hother : id ∉ others := fun h => hdisjoint hid h
    rw [hnext.others _ id hother]
    exact hstep.congr (hnext.others values id hother).symm
  · rw [hstep.others _ id hid]
    exact hnext.congr (hstep.others values id hid)

end LocalAt

/-- Steps for items that are each local to the item's own identifiers come to the same in every
order of the items. -/
theorem foldl_perm_of_local {items others : List α} {ids : α → List String}
    {step : (String → ν) → α → String → ν} (hlocal : ∀ a, LocalAt (ids a) (step · a))
    (hdistinct : (items.flatMap ids).Nodup) (hperm : items.Perm others) (values : String → ν) :
    items.foldl step values = others.foldl step values := by
  refine hperm.foldl_eq' (fun a ha b hb values => ?_) values
  by_cases hsame : a = b
  · rw [hsame]
  · have : Std.Symm (Function.onFun List.Disjoint ids) := ⟨fun _ _ h => List.disjoint_symm h⟩
    have hdisjoint := (List.nodup_flatMap.1 hdistinct).2.forall ha hb hsame
    exact (hlocal a).commute (hlocal b) hdisjoint values

namespace Graph

/-! ### Metadata as values -/

/-- The metadata after a value is written, unless there is one. -/
def noted (metadata : String → String → Option Value) (id key : String) (value : Value) :
    String → String → Option Value :=
  fun other k =>
    if other = id ∧ k = key then some ((metadata id key).getD value) else metadata other k

theorem local_noted (id key : String) (value : Value) :
    LocalAt [id] (noted · id key value) where
  others metadata other hother := by
    have hne : other ≠ id := by simpa using hother
    funext k
    simp [noted, hne]
  own metadata metadata' other hother h := by
    obtain rfl : other = id := by simpa using hother
    funext k
    simp [noted, h]

variable (g : Graph)

theorem metadata?_describe (id key : String) (value : Value) :
    (g.describe id key value).metadata? = noted g.metadata? id key value := by
  funext other k
  simp only [noted, metadata?, describe, Table.find?_update]
  by_cases hid : other = id
  · subst hid
    simp only [true_and, if_true, Option.bind_some, Table.find?_putNew]
    cases g.nodes.find? other <;> rfl
  · simp [hid]

theorem metadata?_of_update {f : Node → Node} (hf : ∀ n, (f n).metadata = n.metadata)
    (id : String) :
    ({ g with nodes := g.nodes.update id {} f } : Graph).metadata? = g.metadata? := by
  funext other k
  simp only [metadata?, Table.find?_update]
  by_cases hid : other = id
  · subst hid
    rw [if_pos rfl, Option.bind_some, hf]
    cases g.nodes.find? other <;> rfl
  · rw [if_neg hid]

theorem metadata?_addUplink (child parent : String) :
    (g.addUplink child parent).metadata? = g.metadata? :=
  metadata?_of_update g (fun _ => by rfl) child

theorem metadata?_addDownlink (parent child : String) :
    (g.addDownlink parent child).metadata? = g.metadata? :=
  metadata?_of_update g (fun _ => by rfl) parent

theorem metadata?_ensure (id : String) : (g.ensure id).metadata? = g.metadata? := by
  funext other k
  simp only [metadata?, ensure, Table.find?_putNew]
  by_cases hid : other = id
  · subst hid
    cases g.nodes.find? other <;> simp
  · simp [hid]

theorem metadata?_implied (s : Sources) : s.implied.metadata? = fun _ _ => none := by
  have himplied : s.implied.metadata? = s.addressed.metadata? :=
    implied_same (fun _ _ => rfl)
      (fun g p c => (metadata?_addDownlink _ p c).trans (metadata?_addUplink g c p)) s
  have haddressed : s.addressed.metadata? = s.drawn.metadata? := addressed_same (fun _ _ _ => rfl) s
  have hdrawn : s.drawn.metadata? = s.registered.metadata? :=
    drawn_same metadata?_ensure metadata?_addUplink metadata?_addDownlink (fun _ _ _ => rfl) s
  have hregistered : s.registered.metadata? = (start s).metadata? :=
    registered_same (fun _ _ _ => rfl) s
  rw [himplied, haddressed, hdrawn, hregistered]
  rfl

/-! ### What a document describes -/

/-- The classification of an identifier, by default that of a main requirement. -/
def classified (isMain : String → Bool) (metadata : String → String → Option Value) (id : String) :
    Option String → String → String → Option Value
  | some text => noted metadata id classificationKey (.str text)
  | none =>
    if Text.beginsWith "REQ_" id && (metadata id classificationKey).isNone && isMain id then
      noted metadata id classificationKey (.str defaultClassification)
    else metadata

def entityNoted (metadata : String → String → Option Value) (e : Entity) :
    String → String → Option Value :=
  match e.classification.filter (· ≠ "") with
  | some text => noted metadata e.id classificationKey (.str text)
  | none => metadata

def assetNoted (isMain : String → Bool) (metadata : String → String → Option Value) (a : Asset) :
    String → String → Option Value :=
  a.header.entities.foldl entityNoted
    (match a.id? with
    | some id =>
      classified isMain (noted metadata id fileRootKey (.bool true)) id a.header.classificationText
    | none => metadata)

/-- Whether no requirement is linked above an identifier. -/
def isMain (g : Graph) (id : String) : Bool := !(g.linkedUplinks id).any (Text.beginsWith "REQ_")

theorem isMain_congr {g h : Graph} (hup : h.upEdges = g.upEdges)
    (hdown : h.downEdges = g.downEdges) : h.isMain = g.isMain := by
  funext id
  have hany : (h.linkedUplinks id).any (Text.beginsWith "REQ_") =
      (g.linkedUplinks id).any (Text.beginsWith "REQ_") := by
    rw [Bool.eq_iff_iff, List.any_eq_true, List.any_eq_true]
    simp only [mem_linkedUplinks, hup, hdown]
  rw [isMain, isMain, hany]

theorem isMain_of_extends {g h : Graph} (hextends : Extends g h ∅ ∅) : h.isMain = g.isMain :=
  isMain_congr (hextends.upEdges.trans (Set.union_empty _))
    (hextends.downEdges.trans (Set.union_empty _))

theorem metadata?_classify (id : String) (declared : Option String) :
    (g.classify id declared).metadata? = classified g.isMain g.metadata? id declared := by
  cases declared with
  | some text => exact metadata?_describe ..
  | none =>
    rw [classify, classified, isMain]
    split
    · exact metadata?_describe ..
    · rfl

theorem metadata?_describeAsset (a : Asset) :
    (g.describeAsset a).metadata? = assetNoted g.isMain g.metadata? a := by
  have hentity (g : Graph) (e : Entity) :
      (g.describeEntity e).metadata? = entityNoted g.metadata? e := by
    rw [describeEntity, entityNoted]
    cases e.classification.filter (· ≠ "") with
    | some text => exact metadata?_describe ..
    | none => rfl
  have hentities (g : Graph) (entities : List Entity) :
      (entities.foldl describeEntity g).metadata? = entities.foldl entityNoted g.metadata? := by
    induction entities generalizing g with
    | nil => rfl
    | cons e rest ih => rw [List.foldl_cons, ih, hentity, List.foldl_cons]
  unfold describeAsset assetNoted
  rw [hentities]
  congr 1
  cases a.id? with
  | none => rfl
  | some id =>
    dsimp only
    rw [metadata?_classify, isMain_of_extends (extends_describe ..), metadata?_describe]

theorem metadata?_build (s : Sources) :
    (build s).1.metadata? =
      s.documents.foldl (assetNoted s.implied.isMain) fun _ _ => none := by
  have hfold (g : Graph) (documents : List Asset) :
      (documents.foldl describeAsset g).metadata? =
        documents.foldl (assetNoted g.isMain) g.metadata? := by
    induction documents generalizing g with
    | nil => rfl
    | cons a rest ih =>
      rw [List.foldl_cons, ih, isMain_of_extends (extends_describeAsset g a),
        metadata?_describeAsset, List.foldl_cons]
  rw [build_eq_stages, hfold, metadata?_implied]

/-! ### The order of documents -/

theorem local_classified (isMain : String → Bool) (id : String) (declared : Option String) :
    LocalAt [id] (classified isMain · id declared) := by
  cases declared with
  | some text => exact local_noted ..
  | none =>
    constructor
    · intro metadata other hother
      rw [classified]
      split
      · exact (local_noted id _ _).others metadata other hother
      · rfl
    · intro metadata metadata' other hother h
      obtain rfl : other = id := by simpa using hother
      simp only [classified, h]
      split
      · exact (local_noted other _ _).congr h
      · exact h

theorem local_entityNoted (e : Entity) : LocalAt [e.id] (entityNoted · e) := by
  unfold entityNoted
  cases e.classification.filter (· ≠ "") with
  | some text => exact local_noted ..
  | none => exact .id

theorem local_assetNoted (isMain : String → Bool) (a : Asset) :
    LocalAt a.header.allIds (assetNoted isMain · a) := by
  have hentities : LocalAt a.header.allIds (a.header.entities.foldl entityNoted ·) := by
    refine .foldl fun e he => (local_entityNoted e).mono ?_
    have hmem : e.id ∈ a.header.allIds := List.mem_append_right _ (List.mem_map_of_mem he)
    simpa using hmem
  refine .comp ?_ hentities
  cases hid : a.id? with
  | none => exact .id
  | some id =>
    have hmem : id ∈ a.header.allIds := List.mem_append_left _ (Option.mem_toList.2 hid)
    have hown : LocalAt [id] fun metadata =>
        classified isMain (noted metadata id fileRootKey (.bool true)) id
          a.header.classificationText :=
      (local_noted id _ _).comp (local_classified isMain id _)
    exact hown.mono (by simpa using hmem)

theorem metadata?_build_perm {s : Sources} {assets : List Asset} (hperm : s.assets.Perm assets)
    (hdistinct : (s.documents.flatMap (·.header.allIds)).Nodup)
    (hmain : s.implied.isMain = ({ s with assets } : Sources).implied.isMain) :
    (build { s with assets }).1.metadata? = (build s).1.metadata? := by
  rw [metadata?_build, metadata?_build, hmain]
  have hdocuments : s.documents.Perm ({ s with assets } : Sources).documents := hperm.filter _
  exact (foldl_perm_of_local (local_assetNoted _) hdistinct hdocuments _).symm

end Graph

end DocTrace
