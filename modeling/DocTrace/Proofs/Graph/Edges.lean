import DocTrace.Graph.Assembly
import Mathlib.Data.Set.Insert

/-! What the assembly steps do to the edges of a graph. Only links and connections
add edges, each at the ends that it names, and an edge list stays without repeats. -/

namespace DocTrace.Graph

/-! ### Single nodes -/

variable {links : Node → List String}

theorem links_putNew (hnew : links {} = []) (nodes : Table String Node) (id other : String) :
    (((nodes.putNew id {}).find? other).map links).getD [] =
      ((nodes.find? other).map links).getD [] := by
  rw [Table.find?_putNew]
  split
  · next h =>
    subst h
    cases nodes.find? other <;> simp [hnew]
  · rfl

theorem links_update (hnew : links {} = []) {f : Node → Node} (hf : ∀ n, links (f n) = links n)
    (nodes : Table String Node) (id other : String) :
    (((nodes.update id {} f).find? other).map links).getD [] =
      ((nodes.find? other).map links).getD [] := by
  rw [Table.find?_update]
  split
  · next h =>
    subst h
    cases nodes.find? other <;> simp [hf, hnew]
  · rfl

@[simp] theorem uplinks_ensure (g : Graph) (id c : String) :
    (g.ensure id).uplinks c = g.uplinks c := links_putNew (by rfl) ..

@[simp] theorem downlinks_ensure (g : Graph) (id p : String) :
    (g.ensure id).downlinks p = g.downlinks p := links_putNew (by rfl) ..

theorem uplinks_addUplink (g : Graph) (child parent c : String) :
    (g.addUplink child parent).uplinks c =
      if c = child then addNew (g.uplinks c) parent else g.uplinks c := by
  simp only [uplinks, addUplink, Table.find?_update]
  split
  · next h =>
    subst h
    cases g.nodes.find? c <;> rfl
  · rfl

@[simp] theorem downlinks_addUplink (g : Graph) (child parent p : String) :
    (g.addUplink child parent).downlinks p = g.downlinks p :=
  links_update (by rfl) (fun _ => by rfl) ..

theorem downlinks_addDownlink (g : Graph) (parent child p : String) :
    (g.addDownlink parent child).downlinks p =
      if p = parent then addNew (g.downlinks p) child else g.downlinks p := by
  simp only [downlinks, addDownlink, Table.find?_update]
  split
  · next h =>
    subst h
    cases g.nodes.find? p <;> rfl
  · rfl

@[simp] theorem uplinks_addDownlink (g : Graph) (parent child c : String) :
    (g.addDownlink parent child).uplinks c = g.uplinks c :=
  links_update (by rfl) (fun _ => by rfl) ..

@[simp] theorem uplinks_describe (g : Graph) (id key : String) (value : Value) (c : String) :
    (g.describe id key value).uplinks c = g.uplinks c :=
  links_update (by rfl) (fun _ => by rfl) ..

@[simp] theorem downlinks_describe (g : Graph) (id key : String) (value : Value) (p : String) :
    (g.describe id key value).downlinks p = g.downlinks p :=
  links_update (by rfl) (fun _ => by rfl) ..

/-! ### Edges as pairs -/

/-- The edges that children know of, as pairs of parent and child. -/
def upEdges (g : Graph) : Set (String × String) := {e | e.1 ∈ g.uplinks e.2}

/-- The edges that parents know of, as pairs of parent and child. -/
def downEdges (g : Graph) : Set (String × String) := {e | e.2 ∈ g.downlinks e.1}

def DistinctEdges (g : Graph) : Prop := ∀ id, (g.uplinks id).Nodup ∧ (g.downlinks id).Nodup

/-- A graph has the edges of another one, those in `up` where children know of them and those
in `down` where parents do. -/
structure Extends (g h : Graph) (up down : Set (String × String)) : Prop where
  upEdges : h.upEdges = g.upEdges ∪ up
  downEdges : h.downEdges = g.downEdges ∪ down
  distinct : g.DistinctEdges → h.DistinctEdges

variable {f g h : Graph} {up down up' down' : Set (String × String)}

theorem extends_of_lists
    (same : ∀ id, h.uplinks id = g.uplinks id ∧ h.downlinks id = g.downlinks id) :
    Extends g h ∅ ∅ where
  upEdges := by
    ext ⟨parent, child⟩
    simp [Graph.upEdges, (same child).1]
  downEdges := by
    ext ⟨parent, child⟩
    simp [Graph.downEdges, (same parent).2]
  distinct hg id := by
    rw [(same id).1, (same id).2]
    exact hg id

theorem Extends.refl (g : Graph) : Extends g g ∅ ∅ := extends_of_lists fun _ => ⟨rfl, rfl⟩

theorem extends_of_nodes (hnodes : h.nodes = g.nodes) : Extends g h ∅ ∅ :=
  extends_of_lists fun id =>
    ⟨by rw [uplinks, uplinks, hnodes], by rw [downlinks, downlinks, hnodes]⟩

theorem Extends.trans (hfg : Extends f g up down) (hgh : Extends g h up' down') :
    Extends f h (up ∪ up') (down ∪ down') where
  upEdges := by rw [hgh.upEdges, hfg.upEdges, Set.union_assoc]
  downEdges := by rw [hgh.downEdges, hfg.downEdges, Set.union_assoc]
  distinct hf := hgh.distinct (hfg.distinct hf)

theorem Extends.trans_same (hfg : Extends f g up down) (hgh : Extends g h ∅ ∅) :
    Extends f h up down := by
  simpa only [Set.union_empty] using hfg.trans hgh

theorem Extends.same_trans (hfg : Extends f g ∅ ∅) (hgh : Extends g h up down) :
    Extends f h up down := by
  simpa only [Set.empty_union] using hfg.trans hgh

/-- Steps that keep a property and add edges under it add the edges of all steps. -/
theorem Extends.foldl {step : Graph → α → Graph} {P : Graph → Prop}
    {up down : α → Set (String × String)} {items : List α} (hkeep : ∀ g a, P g → P (step g a))
    (hstep : ∀ g, ∀ a ∈ items, P g → Extends g (step g a) (up a) (down a)) (hg : P g) :
    Extends g (items.foldl step g) {e | ∃ a ∈ items, e ∈ up a} {e | ∃ a ∈ items, e ∈ down a} := by
  induction items generalizing g with
  | nil => simpa using Extends.refl g
  | cons a rest ih =>
    have hfirst := hstep g a (List.mem_cons_self ..) hg
    have hrest := ih (fun g b hb => hstep g b (List.mem_cons_of_mem _ hb)) (hkeep g a hg)
    have hparts (part : α → Set (String × String)) :
        {e | ∃ b ∈ a :: rest, e ∈ part b} = part a ∪ {e | ∃ b ∈ rest, e ∈ part b} := by
      ext e
      simp
    rw [hparts up, hparts down]
    exact hfirst.trans hrest

theorem Extends.foldl_same {step : Graph → α → Graph} (hstep : ∀ g a, Extends g (step g a) ∅ ∅)
    (g : Graph) (items : List α) : Extends g (items.foldl step g) ∅ ∅ := by
  have hall := Extends.foldl (P := fun _ => True) (fun _ _ _ => trivial)
    (fun g a (_ : a ∈ items) _ => hstep g a) (g := g) trivial
  simpa using hall

theorem extends_addUplink (g : Graph) (child parent : String) :
    Extends g (g.addUplink child parent) {(parent, child)} ∅ where
  upEdges := by
    ext ⟨p, c⟩
    simp only [Graph.upEdges, Set.mem_ofPred_eq, uplinks_addUplink, Set.mem_union,
      Set.mem_singleton_iff, Prod.mk.injEq]
    split
    · next hc => simp [mem_addNew, hc]
    · next hc => simp [hc]
  downEdges := by
    ext ⟨p, c⟩
    simp [Graph.downEdges]
  distinct hg id := by
    rw [uplinks_addUplink, downlinks_addUplink]
    split
    · exact ⟨nodup_addNew (hg id).1 parent, (hg id).2⟩
    · exact hg id

theorem extends_addDownlink (g : Graph) (parent child : String) :
    Extends g (g.addDownlink parent child) ∅ {(parent, child)} where
  upEdges := by
    ext ⟨p, c⟩
    simp [Graph.upEdges]
  downEdges := by
    ext ⟨p, c⟩
    simp only [Graph.downEdges, Set.mem_ofPred_eq, downlinks_addDownlink, Set.mem_union,
      Set.mem_singleton_iff, Prod.mk.injEq]
    split
    · next hp => simp [mem_addNew, hp]
    · next hp => simp [hp]
  distinct hg id := by
    rw [downlinks_addDownlink, uplinks_addDownlink]
    split
    · exact ⟨(hg id).1, nodup_addNew (hg id).2 child⟩
    · exact hg id

theorem extends_connect (g : Graph) (parent child : String) :
    Extends g (g.connect parent child) {(parent, child)} {(parent, child)} := by
  simpa only [connect, Set.union_empty, Set.empty_union] using
    (extends_addUplink g child parent).trans (extends_addDownlink _ parent child)

/-! ### Steps without edges -/

theorem extends_ensure (g : Graph) (id : String) : Extends g (g.ensure id) ∅ ∅ :=
  extends_of_lists fun _ => ⟨uplinks_ensure .., downlinks_ensure ..⟩

theorem extends_refer (g : Graph) (id : String) : Extends g (g.refer id) ∅ ∅ :=
  extends_of_nodes rfl

theorem nodes_register (g : Graph) (id file : String) : (g.register id file).1.nodes = g.nodes := by
  unfold register
  split
  · rfl
  · split <;> rfl

theorem extends_registerAll (g : Graph) (files : List (String × String)) :
    Extends g (g.registerAll files).1 ∅ ∅ := by
  refine extends_of_nodes ?_
  induction files generalizing g with
  | nil => rfl
  | cons e rest ih => exact (ih _).trans (nodes_register g e.1 e.2)

theorem extends_addAlias (g : Graph) (id file : String) : Extends g (g.addAlias id file) ∅ ∅ := by
  refine extends_of_nodes ?_
  unfold addAlias
  split <;> rfl

theorem extends_describe (g : Graph) (id key : String) (value : Value) :
    Extends g (g.describe id key value) ∅ ∅ :=
  extends_of_lists fun _ => ⟨uplinks_describe .., downlinks_describe ..⟩

theorem extends_classify (g : Graph) (id : String) (declared : Option String) :
    Extends g (g.classify id declared) ∅ ∅ := by
  unfold classify
  split
  · exact extends_describe ..
  · split
    · exact extends_describe ..
    · exact .refl g

theorem extends_describeEntity (g : Graph) (e : Entity) : Extends g (g.describeEntity e) ∅ ∅ := by
  unfold describeEntity
  split
  · exact extends_describe ..
  · exact .refl g

theorem extends_describeAsset (g : Graph) (a : Asset) : Extends g (g.describeAsset a) ∅ ∅ := by
  refine Extends.trans_same ?_ (.foldl_same extends_describeEntity _ _)
  split
  · exact (extends_describe ..).trans_same (extends_classify ..)
  · exact .refl g

end DocTrace.Graph
