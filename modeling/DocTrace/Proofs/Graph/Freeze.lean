import DocTrace.Proofs.Graph.Session

/-! Once a graph is frozen, its nodes, edges and files stay, and so does every metadata value,
up to equality. -/

namespace DocTrace.Graph

theorem annotate_iff (g : Graph) (id key : String) (value : Value) (writer : String) :
    (g.annotate id key value writer).1 = true ↔
      ∃ n, g.nodes.find? id = some n ∧
        ∀ v, n.metadata.find? key = some v → v.isNull = true ∨ v.eqValue value = true := by
  rcases annotate_cases g id key value writer with ⟨hkept, -, hother⟩ | ⟨hstored, n, hn, -, hequal⟩
  · rw [hkept]
    refine ⟨nofun, ?_⟩
    rintro ⟨n, hn, hfree⟩
    obtain ⟨v, hv, hnull, hdifferent⟩ := hother n hn
    have := hfree v hv
    simp [hnull, hdifferent] at this
  · rw [hstored]
    refine ⟨fun _ => ⟨n, hn, fun v hv => ?_⟩, fun _ => rfl⟩
    cases hnull : v.isNull with
    | true => exact .inl rfl
    | false => exact .inr (hequal v hv hnull)

namespace Session

/-- Metadata values that are not null stay, up to equality. -/
def KeepsMetadata (g h : Graph) : Prop :=
  ∀ id key v, g.metadata? id key = some v → v.isNull = false →
    ∃ w, h.metadata? id key = some w ∧ (w = v ∨ v.eqValue w = true)

theorem KeepsMetadata.refl (g : Graph) : KeepsMetadata g g := fun _ _ v hv _ => ⟨v, hv, .inl rfl⟩

/-- Equality of values can be chained where no double has two forms. -/
theorem KeepsMetadata.trans {f g h : Graph} (hfg : KeepsMetadata f g) (hgh : KeepsMetadata g h)
    (hf : f.CanonicalMetadata) (hg : g.CanonicalMetadata) (hh : h.CanonicalMetadata) :
    KeepsMetadata f h := by
  intro id key u hu hnull
  obtain ⟨v, hv, huv⟩ := hfg id key u hu hnull
  have hsame : v.isNull = false := by
    rcases huv with rfl | huv
    · exact hnull
    · rw [← Value.isNull_of_eqValue huv, hnull]
  obtain ⟨w, hw, hvw⟩ := hgh id key v hv hsame
  refine ⟨w, hw, ?_⟩
  rcases huv with rfl | huv
  · exact hvw
  · rcases hvw with rfl | hvw
    · exact .inr huv
    · exact .inr ((hf id key u hu).eqValue_trans (hg id key v hv) (hh id key w hw) huv hvw)

theorem keepsMetadata_annotate (g : Graph) (id key : String) (value : Value) (writer : String) :
    KeepsMetadata g (g.annotate id key value writer).2.1 := by
  intro other k v hv hnull
  rw [metadata?_annotate]
  split
  · next hwritten =>
    obtain ⟨hstored, rfl, rfl⟩ := hwritten
    obtain ⟨n, hn, hfree⟩ := (annotate_iff g other k value writer).1 hstored
    have hvalue : n.metadata.find? k = some v := by simpa [metadata?, hn] using hv
    refine ⟨value, rfl, .inr ?_⟩
    simpa [hnull] using hfree v hvalue
  · exact ⟨v, hv, .inl rfl⟩

/-- What stays from one point of the work on a frozen graph to a later one. -/
structure Kept (s d : Session) : Prop where
  frozen : d.graph.frozen = true
  edgeLists : d.graph.edgeLists = s.graph.edgeLists
  referencedIds : d.graph.referencedIds = s.graph.referencedIds
  idToFile : d.graph.idToFile = s.graph.idToFile
  metadata : KeepsMetadata s.graph d.graph

theorem kept_of_graph {s d : Session} (hfrozen : s.graph.frozen = true)
    (hgraph : d.graph = s.graph) : Kept s d where
  frozen := hgraph ▸ hfrozen
  edgeLists := by rw [hgraph]
  referencedIds := by rw [hgraph]
  idToFile := by rw [hgraph]
  metadata := hgraph ▸ .refl s.graph

/-- Only a metadata value that is written makes a difference to a frozen graph. -/
theorem kept_perform {s : Session} (hs : s.Sound) (hfrozen : s.graph.frozen = true)
    (o : Operation) : Kept s (s.perform o) := by
  cases o with
  | node id => exact kept_of_graph hfrozen (by rw [perform, node_of_frozen hfrozen])
  | link parent child => exact kept_of_graph hfrozen (by rw [perform, hs.link_of_frozen hfrozen])
  | freeze => exact kept_of_graph hfrozen (by rw [perform, freeze, if_pos hfrozen])
  | linkedUplinks id => exact kept_of_graph hfrozen (graph_lookUp s)
  | linkedDownlinks id => exact kept_of_graph hfrozen (graph_lookUp s)
  | annotate id key value writer =>
    have hgraph : (s.perform (.annotate id key value writer)).graph =
        (s.graph.annotate id key value writer).2.1 := rfl
    have hlists := edgeLists_annotate s.graph id key value writer
    have hmetadata := keepsMetadata_annotate s.graph id key value writer
    rcases annotate_cases s.graph id key value writer with ⟨-, hsame, -⟩ | ⟨-, n, -, hwritten, -⟩
    · exact kept_of_graph hfrozen (hgraph.trans hsame)
    · exact {
        frozen := by rw [hgraph, hwritten]; exact hfrozen
        edgeLists := hgraph ▸ hlists
        referencedIds := by rw [hgraph, hwritten]
        idToFile := by rw [hgraph, hwritten]
        metadata := hgraph ▸ hmetadata }

theorem Kept.trans {r s d : Session} (hrs : Kept r s) (hsd : Kept s d) (hr : r.Sound)
    (hs : s.Sound) (hd : d.Sound) : Kept r d where
  frozen := hsd.frozen
  edgeLists := hsd.edgeLists.trans hrs.edgeLists
  referencedIds := hsd.referencedIds.trans hrs.referencedIds
  idToFile := hsd.idToFile.trans hrs.idToFile
  metadata := hrs.metadata.trans hsd.metadata hr.canonical hs.canonical hd.canonical

theorem kept_run {s : Session} (hs : s.Sound) (hfrozen : s.graph.frozen = true)
    (operations : List Operation) : Kept s (s.run operations) := by
  induction operations generalizing s with
  | nil => exact kept_of_graph hfrozen rfl
  | cons o rest ih =>
    have hfirst := kept_perform hs hfrozen o
    have hnext := hs.perform o
    exact hfirst.trans (ih hnext hfirst.frozen) hs hnext (hnext.run rest)

/-- Whatever is done to a frozen graph, its nodes, its edges, its references and its files stay,
and metadata values stay up to equality. A rule may write a value exactly where the node exists
and has no other one, no node or link changes anything, and queries give what going through the
nodes gives. -/
theorem run_of_frozen {s : Session} (hs : Reachable s) (hfrozen : s.graph.frozen = true)
    (operations : List Operation) :
    let d := s.run operations
    (d.graph.nodes.keys = s.graph.nodes.keys ∧
      (∀ id, d.graph.uplinks id = s.graph.uplinks id ∧
        d.graph.downlinks id = s.graph.downlinks id) ∧
      d.graph.referencedIds = s.graph.referencedIds ∧ d.graph.idToFile = s.graph.idToFile) ∧
    (∀ id key v, s.graph.metadata? id key = some v → v.isNull = false →
      ∃ w, d.graph.metadata? id key = some w ∧ (w = v ∨ v.eqValue w = true)) ∧
    (∀ id key value writer, (d.annotate id key value writer).1 = true ↔
      ∃ n, d.graph.nodes.find? id = some n ∧
        ∀ v, n.metadata.find? key = some v → v.isNull = true ∨ v.eqValue value = true) ∧
    (∀ id, (d.node id).session = d) ∧ (∀ parent child, (d.link parent child).session = d) ∧
    ∀ id, ((d.linkedUplinks id).1 = d.graph.linkedUplinks id ∧
        (d.linkedUplinks id).1 = (s.linkedUplinks id).1) ∧
      (d.linkedDownlinks id).1 = d.graph.linkedDownlinks id ∧
        (d.linkedDownlinks id).1 = (s.linkedDownlinks id).1 := by
  intro d
  have hbefore : s.Sound := hs.sound
  have hafter : d.Sound := hbefore.run operations
  have hkept : Kept s d := kept_run hbefore hfrozen operations
  refine ⟨⟨keys_of_edgeLists hkept.edgeLists, links_of_edgeLists hkept.edgeLists,
    hkept.referencedIds, hkept.idToFile⟩, hkept.metadata,
    annotate_iff d.graph, fun id => ?_, fun parent child => ?_, fun id => ?_⟩
  · rw [node_of_frozen hkept.frozen]
  · rw [hafter.link_of_frozen hkept.frozen]
  · obtain ⟨hup, hdown⟩ := linked_of_edgeLists hkept.edgeLists id
    rw [hafter.linkedUplinks_eq, hafter.linkedDownlinks_eq, hbefore.linkedUplinks_eq,
      hbefore.linkedDownlinks_eq]
    exact ⟨⟨rfl, hup⟩, rfl, hdown⟩

/-- The second value and the second link are refused. -/
theorem run_of_frozen_refused :
    let s := ({} : Session).run [.link "A" "B", .freeze]
    let d := s.run [.annotate "A" "key" ⟨.int 1, .int 1⟩ "first",
      .annotate "A" "key" ⟨.int 2, .int 2⟩ "second", .link "B" "A", .linkedUplinks "B"]
    s.graph.frozen = true ∧ (s.link "B" "A").result = .error .connectInFrozen ∧
      (d.graph.metadata? "A" "key").bind Value.number? = some (.inl 1) ∧
      d.graph.nodes.keys = s.graph.nodes.keys ∧
      (∀ id, d.graph.uplinks id = s.graph.uplinks id ∧
        d.graph.downlinks id = s.graph.downlinks id) ∧
      d.graph.referencedIds = s.graph.referencedIds ∧ d.graph.idToFile = s.graph.idToFile := by
  intro s d
  have hreachable : Reachable s := Reachable.empty.run _
  have hfrozen : s.graph.frozen = true := by decide
  have hvalue : (d.graph.metadata? "A" "key").bind Value.number? = some (.inl 1) := by decide +kernel
  exact ⟨hfrozen, rfl, hvalue, (run_of_frozen hreachable hfrozen _).1⟩

end Session

end DocTrace.Graph
