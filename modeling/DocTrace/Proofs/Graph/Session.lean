import DocTrace.Proofs.Graph.Changes
import DocTrace.Proofs.Graph.EdgeSet
import DocTrace.Proofs.Graph.Linked
import DocTrace.Proofs.Graph.Metadata
import DocTrace.Proofs.Value.Equality

/-! What holds at every point of the work on a graph. Edge lists have no repeats, and an
inverse that is kept is the inverse of the graph as it now is. Queries therefore give what
going through all nodes gives, and parents and children are the two sides of one relation. -/

namespace DocTrace

namespace Graph

/-! ### Edge lists and metadata -/

/-- The edges of a graph as its nodes list them. -/
def edgeLists (g : Graph) : Table String (List String × List String) :=
  g.nodes.mapValues fun n => (n.uplinks, n.downlinks)

section EdgeLists

variable {g h : Graph} (hsame : h.edgeLists = g.edgeLists)
include hsame

theorem keys_of_edgeLists : h.nodes.keys = g.nodes.keys := by
  have hkeys (g : Graph) : g.edgeLists.keys = g.nodes.keys := by
    simp [edgeLists, Table.keys, Table.mapValues, Function.comp_def]
  rw [← hkeys h, hsame, hkeys g]

theorem links_of_edgeLists (id : String) :
    h.uplinks id = g.uplinks id ∧ h.downlinks id = g.downlinks id := by
  have hfind : (h.nodes.find? id).map (fun n => (n.uplinks, n.downlinks)) =
      (g.nodes.find? id).map fun n => (n.uplinks, n.downlinks) := by
    rw [← Table.find?_mapValues, ← Table.find?_mapValues]
    exact congrArg (·.find? id) hsame
  rw [uplinks, uplinks, downlinks, downlinks]
  cases hh : h.nodes.find? id <;> cases hg : g.nodes.find? id <;> simp_all

theorem ofGraph_of_edgeLists : Inverse.ofGraph h = Inverse.ofGraph g := by
  have hfold (g : Graph) : Inverse.ofGraph g =
      g.edgeLists.entries.foldl
        (fun v e => v.addNode e.1 { uplinks := e.2.1, downlinks := e.2.2 }) {} := by
    rw [edgeLists, Table.mapValues, List.foldl_map]
    rfl
  rw [hfold h, hsame, hfold g]

theorem linked_of_edgeLists (id : String) :
    h.linkedUplinks id = g.linkedUplinks id ∧ h.linkedDownlinks id = g.linkedDownlinks id := by
  obtain ⟨hup, hdown⟩ := links_of_edgeLists hsame id
  rw [← Inverse.foldl_parentsOf, ← Inverse.foldl_childrenOf, hup, hdown,
    ofGraph_of_edgeLists hsame, Inverse.foldl_parentsOf, Inverse.foldl_childrenOf]
  exact ⟨rfl, rfl⟩

end EdgeLists

section Ends

variable {g : Graph} {n : Node}

theorem addUplink_ensure (g : Graph) (child parent : String) :
    (g.ensure child).addUplink child parent = g.addUplink child parent := by
  rw [addUplink, ensure, Table.update_putNew]
  rfl

theorem addDownlink_ensure (g : Graph) (parent child : String) :
    (g.ensure parent).addDownlink parent child = g.addDownlink parent child := by
  rw [addDownlink, ensure, Table.update_putNew]
  rfl

theorem addUplink_of_listed {child parent : String} (hn : g.nodes.find? child = some n)
    (hlisted : parent ∈ n.uplinks) : g.addUplink child parent = g := by
  rw [addUplink, Table.update, hn, Option.getD_some, addNew_of_mem hlisted, Table.put_of_find? hn]

theorem addDownlink_of_listed {parent child : String} (hn : g.nodes.find? parent = some n)
    (hlisted : child ∈ n.downlinks) : g.addDownlink parent child = g := by
  rw [addDownlink, Table.update, hn, Option.getD_some, addNew_of_mem hlisted, Table.put_of_find? hn]

end Ends

theorem edgeLists_annotate (g : Graph) (id key : String) (value : Value) (writer : String) :
    (g.annotate id key value writer).2.1.edgeLists = g.edgeLists := by
  rcases annotate_cases g id key value writer with ⟨-, hsame, -⟩ | ⟨-, n, hn, hwritten, -⟩
  · rw [hsame]
  · rw [hwritten, edgeLists, Table.mapValues_put]
    refine Table.put_of_find? ?_
    rw [Table.find?_mapValues, hn]
    rfl

theorem metadata?_annotate (g : Graph) (id key : String) (value : Value) (writer : String)
    (other k : String) :
    (g.annotate id key value writer).2.1.metadata? other k =
      if (g.annotate id key value writer).1 = true ∧ other = id ∧ k = key then some value
      else g.metadata? other k := by
  rcases annotate_cases g id key value writer with ⟨hkept, hsame, -⟩ | ⟨hstored, n, hn, hwritten, -⟩
  · rw [hkept, hsame]
    simp
  · rw [hstored, hwritten]
    simp only [metadata?, Table.find?_put, true_and]
    by_cases hid : other = id
    · subst hid
      simp [hn, Table.find?_put]
    · simp [hid]

def CanonicalMetadata (g : Graph) : Prop :=
  ∀ id key v, g.metadata? id key = some v → v.IsCanonical

theorem CanonicalMetadata.describe {g : Graph} (hg : g.CanonicalMetadata) (id key : String)
    {value : Value} (hvalue : value.IsCanonical) :
    (g.describe id key value).CanonicalMetadata := by
  intro other k v hv
  rw [metadata?_describe, noted] at hv
  split at hv
  · cases hold : g.metadata? id key with
    | none => exact Option.some.inj (by simpa [hold] using hv) ▸ hvalue
    | some old => exact hg id key v (by simpa [hold] using hv)
  · exact hg other k v hv

theorem CanonicalMetadata.describeAsset {g : Graph} (hg : g.CanonicalMetadata) (a : Asset) :
    (g.describeAsset a).CanonicalMetadata := by
  unfold Graph.describeAsset
  refine foldl_keeps (fun g e hg => ?_) ?_ _
  · unfold describeEntity
    split
    · exact hg.describe _ _ (.str _)
    · exact hg
  · split
    · next id _ =>
      have hroot := hg.describe id fileRootKey (.bool true)
      unfold classify
      split
      · exact hroot.describe _ _ (.str _)
      · split
        · exact hroot.describe _ _ (.str _)
        · exact hroot
    · exact hg

theorem canonicalMetadata_build (s : Sources) : (build s).1.CanonicalMetadata := by
  have himplied : s.implied.CanonicalMetadata := by
    intro id key v hv
    simp [metadata?_implied] at hv
  rw [build_eq_stages]
  exact foldl_keeps (fun _ a hg => hg.describeAsset a) himplied s.documents

theorem frozen_build (s : Sources) : (build s).1.frozen = false := by
  have hbuilt : (build s).1.frozen = s.implied.frozen := build_same (fun _ _ _ _ => rfl) s
  have himplied : s.implied.frozen = s.addressed.frozen :=
    implied_same (fun _ _ => rfl) (fun _ _ _ => rfl) s
  have haddressed : s.addressed.frozen = s.drawn.frozen := addressed_same (fun _ _ _ => rfl) s
  have hdrawn : s.drawn.frozen = s.registered.frozen :=
    drawn_same (fun _ _ => rfl) (fun _ _ _ => rfl) (fun _ _ _ => rfl) (fun _ _ _ => rfl) s
  have hregistered : s.registered.frozen = (start s).frozen :=
    registered_same (fun _ _ _ => rfl) s
  rw [hbuilt, himplied, haddressed, hdrawn, hregistered]
  rfl

namespace Session

/-! ### Operations -/

inductive Operation where
  | node (id : String)
  | link (parent child : String)
  | freeze
  | annotate (id key : String) (value : { v : Value // v.IsCanonical }) (writer : String)
  | linkedUplinks (id : String)
  | linkedDownlinks (id : String)

/-- The session after an operation, whether or not it fails. -/
def perform (s : Session) : Operation → Session
  | .node id => (s.node id).session
  | .link parent child => (s.link parent child).session
  | .freeze => s.freeze
  | .annotate id key value writer => (s.annotate id key value writer).2.1
  | .linkedUplinks id => (s.linkedUplinks id).2
  | .linkedDownlinks id => (s.linkedDownlinks id).2

def run (s : Session) (operations : List Operation) : Session := operations.foldl perform s

/-- The sessions that work comes to, on a new graph or on that of a project. -/
inductive Reachable : Session → Prop
  | empty : Reachable {}
  | built (sources : Sources) : Reachable { graph := (build sources).1 }
  | perform {s : Session} (hs : Reachable s) (o : Operation) : Reachable (s.perform o)

theorem Reachable.run {s : Session} (hs : Reachable s) (operations : List Operation) :
    Reachable (s.run operations) := by
  induction operations generalizing s with
  | nil => exact hs
  | cons o rest ih => exact ih (hs.perform o)

/-- What holds at every point of the work. -/
structure Sound (s : Session) : Prop where
  distinct : s.graph.DistinctEdges
  canonical : s.graph.CanonicalMetadata
  /-- Nothing is fixed or kept before the graph is frozen. -/
  growing : s.graph.frozen = false → s.fixed = [] ∧ s.inverse = none
  fixed : s.graph.frozen = true → s.graph.nodes.keys ⊆ s.fixed
  inverse : ∀ v, s.inverse = some v → v = Inverse.ofGraph s.graph

/-! ### A graph that grows -/

section Growing

variable {s : Session} (hopen : s.graph.frozen = false)

include hopen in
theorem node_of_open (id : String) :
    (s.node id).session = { s with graph := s.graph.ensure id } := by
  unfold node
  cases hid : s.graph.nodes.find? id with
  | none => simp [hopen]
  | some n =>
    have hkey : s.graph.nodes.contains id = true :=
      Table.contains_iff.2 (Table.find?_isSome_iff.1 (by simp [hid]))
    simp [ensure, Table.putNew, hkey]

include hopen in
/-- Where a node is added for an end of an edge, the end would have made it anyway. -/
theorem addEnd_of_open (hfixed : s.fixed = []) {owner : String} {isListed : Node → Bool}
    {add : Graph → Graph} (hnew : isListed {} = false)
    (hensure : ∀ g, add (g.ensure owner) = add g)
    (hlisted : ∀ n, s.graph.nodes.find? owner = some n → isListed n = true →
      add s.graph = s.graph) :
    s.addEnd owner isListed add = ⟨.ok (), { s with graph := add s.graph }⟩ := by
  unfold addEnd node
  cases howner : s.graph.nodes.find? owner with
  | none => simp [hopen, Outcome.andThen, hnew, hfixed, hensure]
  | some n =>
    by_cases hn : isListed n = true
    · simp [Outcome.andThen, hn, hlisted n howner hn]
    · simp [Outcome.andThen, hn, hfixed]

include hopen in
/-- No half of a link fails before the freeze. -/
theorem link_of_open (hfixed : s.fixed = []) (parent child : String) :
    s.link parent child = ⟨.ok (), { s with graph := s.graph.connect parent child }⟩ := by
  have hup : s.addUplink child parent =
      ⟨.ok (), { s with graph := s.graph.addUplink child parent }⟩ :=
    addEnd_of_open hopen hfixed rfl (fun g => addUplink_ensure g child parent)
      fun n hn hlisted => addUplink_of_listed hn (by simpa using hlisted)
  have hdown (s : Session) (hopen : s.graph.frozen = false) (hfixed : s.fixed = []) :
      s.addDownlink parent child =
        ⟨.ok (), { s with graph := s.graph.addDownlink parent child }⟩ :=
    addEnd_of_open hopen hfixed rfl (fun g => addDownlink_ensure g parent child)
      fun n hn hlisted => addDownlink_of_listed hn (by simpa using hlisted)
  rw [link, hup]
  exact hdown { s with graph := s.graph.addUplink child parent } hopen hfixed

end Growing

/-! ### A frozen graph -/

section Frozen

variable {s : Session} (hfrozen : s.graph.frozen = true)

include hfrozen in
theorem node_of_frozen (id : String) :
    s.node id =
      ⟨match s.graph.nodes.find? id with
        | some n => .ok n
        | none => .error (.addToFrozen id), s⟩ := by
  unfold node
  cases s.graph.nodes.find? id with
  | none => simp [hfrozen]
  | some n => rfl

theorem Sound.contains_fixed (hs : s.Sound) (hfrozen : s.graph.frozen = true) {id : String}
    {n : Node} (hid : s.graph.nodes.find? id = some n) : s.fixed.contains id = true := by
  have hkey : id ∈ s.graph.nodes.keys := Table.find?_isSome_iff.1 (by simp [hid])
  simpa using hs.fixed hfrozen hkey

theorem Sound.addEnd_of_frozen (hs : s.Sound) (hfrozen : s.graph.frozen = true) (owner : String)
    (isListed : Node → Bool) (add : Graph → Graph) :
    s.addEnd owner isListed add =
      ⟨match s.graph.nodes.find? owner with
        | none => .error (.addToFrozen owner)
        | some n => if isListed n then .ok () else .error .connectInFrozen, s⟩ := by
  rw [addEnd, node_of_frozen hfrozen]
  cases howner : s.graph.nodes.find? owner with
  | none => rfl
  | some n =>
    have hfixed := hs.contains_fixed hfrozen howner
    simp only [Outcome.andThen, hfixed, if_true]
    split <;> rfl

/-- A link between two nodes of a frozen graph is only looked up, at both ends. If it fails at
the parent, the child has listed it before. -/
theorem Sound.link_of_frozen (hs : s.Sound) (hfrozen : s.graph.frozen = true)
    (parent child : String) :
    s.link parent child = ⟨s.graph.checkConnected parent child, s⟩ := by
  rw [link, addUplink, hs.addEnd_of_frozen hfrozen, checkConnected]
  cases s.graph.nodes.find? child with
  | none => rfl
  | some n =>
    dsimp only
    split
    · exact hs.addEnd_of_frozen hfrozen parent (·.downlinks.contains child)
        (·.addDownlink parent child)
    · rfl

end Frozen

/-! ### Looking up the far ends of edges -/

theorem lookUp_fst {s : Session} (hs : s.Sound) : s.lookUp.1 = Inverse.ofGraph s.graph := by
  unfold lookUp
  cases hkept : s.inverse with
  | none => rfl
  | some v => exact hs.inverse v hkept

theorem lookUp_snd (s : Session) :
    s.lookUp.2 = s ∨
      s.graph.frozen = true ∧ s.lookUp.2 = { s with inverse := some (Inverse.ofGraph s.graph) } := by
  unfold lookUp
  cases s.inverse with
  | some v => exact .inl rfl
  | none =>
    cases hfrozen : s.graph.frozen with
    | false => exact .inl (by simp)
    | true => exact .inr ⟨rfl, by simp⟩

theorem graph_lookUp (s : Session) : s.lookUp.2.graph = s.graph := by
  rcases lookUp_snd s with hsame | ⟨-, hkept⟩
  · rw [hsame]
  · rw [hkept]

theorem Sound.linkedUplinks_eq {s : Session} (hs : s.Sound) (id : String) :
    (s.linkedUplinks id).1 = s.graph.linkedUplinks id := by
  have hgraph := graph_lookUp s
  have hinverse := lookUp_fst hs
  simp only [linkedUplinks, hgraph, hinverse]
  exact Inverse.foldl_parentsOf s.graph id

theorem Sound.linkedDownlinks_eq {s : Session} (hs : s.Sound) (id : String) :
    (s.linkedDownlinks id).1 = s.graph.linkedDownlinks id := by
  have hgraph := graph_lookUp s
  have hinverse := lookUp_fst hs
  simp only [linkedDownlinks, hgraph, hinverse]
  exact Inverse.foldl_childrenOf s.graph id

/-! ### Every operation keeps this -/

/-- Before the freeze only the graph changes. -/
theorem sound_of_open {s : Session} (hs : s.Sound) (hopen : s.graph.frozen = false) {g : Graph}
    (hfrozen : g.frozen = false) (hdistinct : g.DistinctEdges)
    (hmetadata : g.metadata? = s.graph.metadata?) :
    Sound { s with graph := g } where
  distinct := hdistinct
  canonical := by
    intro id key v hv
    exact hs.canonical id key v (by rw [← hmetadata]; exact hv)
  growing _ := hs.growing hopen
  fixed h := by simp [hfrozen] at h
  inverse v hv := by simp [(hs.growing hopen).2] at hv

theorem Sound.node {s : Session} (hs : s.Sound) (id : String) : (s.node id).session.Sound := by
  cases hfrozen : s.graph.frozen with
  | false =>
    rw [node_of_open hfrozen]
    have hdistinct := (extends_ensure s.graph id).distinct hs.distinct
    exact sound_of_open hs hfrozen hfrozen hdistinct (metadata?_ensure s.graph id)
  | true =>
    rw [node_of_frozen hfrozen]
    exact hs

theorem Sound.link {s : Session} (hs : s.Sound) (parent child : String) :
    (s.link parent child).session.Sound := by
  cases hfrozen : s.graph.frozen with
  | false =>
    rw [link_of_open hfrozen (hs.growing hfrozen).1]
    have hdistinct := (extends_connect s.graph parent child).distinct hs.distinct
    have hmetadata : (s.graph.connect parent child).metadata? = s.graph.metadata? :=
      (metadata?_addDownlink _ parent child).trans (metadata?_addUplink s.graph child parent)
    exact sound_of_open hs hfrozen hfrozen hdistinct hmetadata
  | true =>
    rw [hs.link_of_frozen hfrozen]
    exact hs

theorem Sound.freeze {s : Session} (hs : s.Sound) : s.freeze.Sound := by
  unfold Session.freeze
  cases hfrozen : s.graph.frozen with
  | true => simpa [hfrozen] using hs
  | false =>
    obtain ⟨hfixed, hinverse⟩ := hs.growing hfrozen
    rw [if_neg (by simp)]
    exact {
      distinct := hs.distinct
      canonical := hs.canonical
      growing := nofun
      fixed := fun _ => List.subset_append_right ..
      inverse := fun v hv => by simp [hinverse] at hv }

theorem Sound.annotate {s : Session} (hs : s.Sound) (id key : String) {value : Value}
    (hvalue : value.IsCanonical) (writer : String) : (s.annotate id key value writer).2.1.Sound := by
  have hlists := edgeLists_annotate s.graph id key value writer
  have hfrozen : (s.graph.annotate id key value writer).2.1.frozen = s.graph.frozen := by
    rcases annotate_cases s.graph id key value writer with ⟨-, hsame, -⟩ | ⟨-, n, -, hwritten, -⟩
    · rw [hsame]
    · rw [hwritten]
  exact {
    distinct := (extends_annotate s.graph id key value writer).distinct hs.distinct
    canonical := fun other k v hv => by
      have hv' : (s.graph.annotate id key value writer).2.1.metadata? other k = some v := hv
      rw [metadata?_annotate] at hv'
      split at hv'
      · exact Option.some.inj hv' ▸ hvalue
      · exact hs.canonical other k v hv'
    growing := fun h => hs.growing (hfrozen ▸ h)
    fixed := fun h => by
      have hkeys := hs.fixed (hfrozen ▸ h)
      rwa [← keys_of_edgeLists hlists] at hkeys
    inverse := fun v hv => (hs.inverse v hv).trans (ofGraph_of_edgeLists hlists).symm }

theorem Sound.lookUp {s : Session} (hs : s.Sound) : s.lookUp.2.Sound := by
  rcases lookUp_snd s with hsame | ⟨hfrozen, hkept⟩
  · rwa [hsame]
  · rw [hkept]
    exact {
      distinct := hs.distinct
      canonical := hs.canonical
      growing := fun h => by simp [hfrozen] at h
      fixed := hs.fixed
      inverse := fun v hv => (Option.some.inj hv).symm }

theorem Sound.perform {s : Session} (hs : s.Sound) (o : Operation) : (s.perform o).Sound := by
  cases o with
  | node id => exact hs.node id
  | link parent child => exact hs.link parent child
  | freeze => exact hs.freeze
  | annotate id key value writer => exact hs.annotate id key value.2 writer
  | linkedUplinks id => exact hs.lookUp
  | linkedDownlinks id => exact hs.lookUp

theorem Sound.run {s : Session} (hs : s.Sound) (operations : List Operation) :
    (s.run operations).Sound := by
  induction operations generalizing s with
  | nil => exact hs
  | cons o rest ih => exact ih (hs.perform o)

/-! ### The graph of a session -/

/-- What an operation changes in the graph; queries change nothing. -/
def Operation.change? : Operation → Option Change
  | .node id => some (.node id)
  | .link parent child => some (.link parent child)
  | .freeze => some .freeze
  | .annotate id key value writer => some (.annotate id key value writer)
  | .linkedUplinks _ => none
  | .linkedDownlinks _ => none

theorem graph_node (s : Session) (id : String) :
    (s.node id).session.graph = s.graph.change (.node id) := by
  simp only [change, Graph.node]
  unfold node
  cases s.graph.nodes.find? id with
  | some n => rfl
  | none => cases s.graph.frozen <;> rfl

theorem Sound.graph_link {s : Session} (hs : s.Sound) (parent child : String) :
    (s.link parent child).session.graph = s.graph.change (.link parent child) := by
  simp only [change, Graph.link]
  cases hfrozen : s.graph.frozen with
  | false =>
    rw [link_of_open hfrozen (hs.growing hfrozen).1]
    rfl
  | true =>
    rw [hs.link_of_frozen hfrozen]
    cases s.graph.checkConnected parent child <;> rfl

theorem graph_freeze (s : Session) : s.freeze.graph = s.graph.change .freeze := by
  unfold freeze
  cases hfrozen : s.graph.frozen with
  | false => rfl
  | true => rw [if_pos rfl, change, Graph.freeze, ← hfrozen]

/-- Taking links in two halves and keeping an inverse makes no difference to the graph. -/
theorem Sound.graph_perform {s : Session} (hs : s.Sound) (o : Operation) :
    (s.perform o).graph = s.graph.changeAll o.change?.toList := by
  cases o with
  | node id => exact graph_node s id
  | link parent child => exact hs.graph_link parent child
  | freeze => exact graph_freeze s
  | annotate id key value writer => rfl
  | linkedUplinks id => exact graph_lookUp s
  | linkedDownlinks id => exact graph_lookUp s

theorem Sound.graph_run {s : Session} (hs : s.Sound) (operations : List Operation) :
    (s.run operations).graph = s.graph.changeAll (operations.filterMap Operation.change?) := by
  induction operations generalizing s with
  | nil => rfl
  | cons o rest ih =>
    have hfirst := hs.graph_perform o
    have hrest := ih (hs.perform o)
    rw [hfirst] at hrest
    refine hrest.trans ?_
    cases hchange : o.change? with
    | none => rw [List.filterMap_cons_none hchange]; rfl
    | some c => rw [List.filterMap_cons_some hchange]; rfl

/-! ### Where work begins -/

theorem sound_of_graph {g : Graph} (hfrozen : g.frozen = false) (hdistinct : g.DistinctEdges)
    (hcanonical : g.CanonicalMetadata) : Sound { graph := g } where
  distinct := hdistinct
  canonical := hcanonical
  growing _ := ⟨rfl, rfl⟩
  fixed h := by simp [hfrozen] at h
  inverse := nofun

theorem Reachable.sound {s : Session} (hs : Reachable s) : s.Sound := by
  induction hs with
  | empty => exact sound_of_graph rfl (fun _ => ⟨.nil, .nil⟩) nofun
  | built sources =>
    have hdistinct := (extends_build sources).distinct (distinctEdges_start sources)
    exact sound_of_graph (frozen_build sources) hdistinct (canonicalMetadata_build sources)
  | perform _ o ih => exact ih.perform o

/-! ### Parents and children -/

/-- Whatever work has been done, and whether or not there are nodes for the identifiers, one is
linked above another exactly where the other is linked below it. -/
theorem linked_converse {s : Session} (hs : Reachable s) (parent child : String) :
    (parent ∈ (s.linkedUplinks child).1 ↔ child ∈ (s.linkedDownlinks parent).1) ∧
      ((s.linkedUplinks child).1.Nodup ∧ s.graph.uplinks child <+: (s.linkedUplinks child).1) ∧
      ((s.linkedDownlinks parent).1.Nodup ∧
        s.graph.downlinks parent <+: (s.linkedDownlinks parent).1) := by
  have hsound := hs.sound
  rw [hsound.linkedUplinks_eq, hsound.linkedDownlinks_eq]
  refine ⟨mem_linkedUplinks.trans mem_linkedDownlinks.symm, ⟨?_, ?_⟩, ?_, ?_⟩
  · exact hsound.distinct.nodup_linkedUplinks child
  · exact prefix_foldl_addNew ..
  · exact hsound.distinct.nodup_linkedDownlinks parent
  · exact prefix_foldl_addNew ..

theorem linked_converse_of_link :
    let s := ({} : Session).run [.link "A" "B", .freeze, .linkedUplinks "C"]
    s.inverse.isSome = true ∧
      ("A" ∈ (s.linkedUplinks "B").1 ↔ "B" ∈ (s.linkedDownlinks "A").1) ∧
      ((s.linkedUplinks "B").1.Nodup ∧ s.graph.uplinks "B" <+: (s.linkedUplinks "B").1) ∧
      ((s.linkedDownlinks "A").1.Nodup ∧ s.graph.downlinks "A" <+: (s.linkedDownlinks "A").1) :=
  ⟨by decide, linked_converse (Reachable.empty.run _) "A" "B"⟩

end Session

end Graph

end DocTrace
