import DocTrace.Proofs.Diagram.Marks
import Mathlib.Data.List.Induction

/-! What a sketch holds, in the order of its marks: every named node once, where it is first marked,
all edges, and of each identifier the first label. More marks only add to it. -/

namespace DocTrace.Diagram

def Mark.node? : Mark → Option String
  | .node id => some id
  | _ => none

def Mark.edge? : Mark → Option Edge
  | .edge source target text => some ⟨source, target, text⟩
  | _ => none

def Mark.labelOf? (id : String) : Mark → Option String
  | .label other text => if other = id then some text else none
  | _ => none

/-- The names that are marked as nodes, with repeats. -/
def nodeNames (marks : List Mark) : List String := (marks.filterMap Mark.node?).filter (· ≠ "")

theorem Mark.mem_filterMap_node? {marks : List Mark} {id : String} :
    id ∈ marks.filterMap node? ↔ .node id ∈ marks := by
  rw [List.mem_filterMap]
  constructor
  · rintro ⟨_ | _ | _, hm, ⟨⟩⟩
    exact hm
  · exact fun hm => ⟨.node id, hm, rfl⟩

theorem mem_nodeNames {marks : List Mark} {id : String} :
    id ∈ nodeNames marks ↔ Declares marks id := by
  rw [nodeNames, List.mem_filter, Mark.mem_filterMap_node?, decide_eq_true_eq, and_comm, Declares]

theorem nodeNames_of_named {marks : List Mark} (h : .node "" ∉ marks) :
    nodeNames marks = marks.filterMap Mark.node? :=
  List.filter_eq_self.2 fun _ hid => decide_eq_true fun hempty =>
    h (Mark.mem_filterMap_node?.1 (hempty ▸ hid))

theorem nodeNames_append (marks more : List Mark) :
    nodeNames (marks ++ more) = nodeNames marks ++ nodeNames more := by
  rw [nodeNames, List.filterMap_append, List.filter_append, nodeNames, nodeNames]

theorem nodeNames_flatMap (items : List α) (f : α → List Mark) :
    nodeNames (items.flatMap f) = items.flatMap fun a => nodeNames (f a) := by
  rw [nodeNames, List.filterMap_flatMap, List.filter_flatMap]
  rfl

theorem edges_declaration (id : List Char) (label : Option (List Char)) :
    (declaration id label).filterMap Mark.edge? = [] := by
  cases label <;> rfl

theorem nodeNames_declaration {id : List Char} (h : id ≠ []) (label : Option (List Char)) :
    nodeNames (declaration id label) = [.ofList id] := by
  cases label <;> simp [nodeNames, declaration, Mark.node?, h]

theorem nodeNames_connection {source target : List Char} (hs : source ≠ []) (ht : target ≠ [])
    (label : Option (List Char)) :
    nodeNames (connection source target label) = [.ofList source, .ofList target] := by
  simp [nodeNames, connection, Mark.node?, hs, ht]

namespace Sketch

theorem ofMarks_concat (marks : List Mark) (m : Mark) :
    ofMarks (marks ++ [m]) = (ofMarks marks).draw m := by
  rw [ofMarks, List.foldl_append]
  rfl

theorem edges_ofMarks (marks : List Mark) : (ofMarks marks).edges = marks.filterMap Mark.edge? := by
  induction marks using List.reverseRecOn with
  | nil => rfl
  | append_singleton marks m ih =>
    rw [ofMarks_concat, List.filterMap_append, ← ih]
    cases m with
    | node id =>
      simp only [draw]
      split <;> exact (List.append_nil _).symm
    | label id text => exact (List.append_nil _).symm
    | edge source target text => rfl

/-- Nodes stand in the order in which they are first seen. -/
theorem nodes_ofMarks (marks : List Mark) :
    (ofMarks marks).nodes = (nodeNames marks).eraseDups := by
  induction marks using List.reverseRecOn with
  | nil => rfl
  | append_singleton marks m ih =>
    rw [ofMarks_concat, nodeNames_append, List.eraseDups_append, ← ih]
    cases m with
    | node id =>
      have hmem : id ∈ (ofMarks marks).nodes ↔ id ∈ nodeNames marks := by
        rw [mem_nodes_ofMarks, mem_nodeNames]
      simp only [draw, Bool.or_eq_true, decide_eq_true_eq, List.contains_iff_mem, hmem]
      by_cases hid : id = ""
      · have hlast : nodeNames [.node id] = [] := by simp [nodeNames, Mark.node?, hid]
        rw [if_pos (.inl hid), hlast]
        exact (List.append_nil _).symm
      · have hlast : nodeNames [.node id] = [id] := by simp [nodeNames, Mark.node?, hid]
        rw [hlast]
        generalize nodeNames marks = seen
        split
        · next hseen => simp [List.removeAll, hseen.resolve_left hid]
        · next hnew =>
          have hkept : [id].removeAll seen = [id] := by simp_all [List.removeAll]
          rw [hkept]
          rfl
    | label id text => exact (List.append_nil _).symm
    | edge source target text => exact (List.append_nil _).symm

/-- The first label of an identifier stays. -/
theorem find?_labels_ofMarks (marks : List Mark) (id : String) :
    (ofMarks marks).labels.find? id = marks.findSome? (Mark.labelOf? id) := by
  induction marks using List.reverseRecOn with
  | nil => rfl
  | append_singleton marks m ih =>
    rw [ofMarks_concat, List.findSome?_append, ← ih]
    cases m with
    | node other =>
      simp only [draw]
      split <;> exact (Option.or_none ..).symm
    | label other text =>
      simp only [draw, Table.find?_putNew, List.findSome?_cons, Mark.labelOf?]
      by_cases hid : id = other
      · subst hid
        cases (ofMarks marks).labels.find? id <;> simp
      · simp [hid, Ne.symm hid]
    | edge source target text => exact (Option.or_none ..).symm

/-- Later marks add to a sketch and change nothing in it. -/
theorem extends_ofMarks {marks more : List Mark} (h : marks <+: more) :
    (ofMarks marks).nodes <+: (ofMarks more).nodes ∧
      (ofMarks marks).edges <+: (ofMarks more).edges ∧
      ∀ id text, (ofMarks marks).labels.find? id = some text →
        (ofMarks more).labels.find? id = some text := by
  obtain ⟨rest, rfl⟩ := h
  refine ⟨?_, ?_, fun id text htext => ?_⟩
  · rw [nodes_ofMarks, nodes_ofMarks, nodeNames_append, List.eraseDups_append]
    exact List.prefix_append _ _
  · rw [edges_ofMarks, edges_ofMarks, List.filterMap_append]
    exact List.prefix_append _ _
  · rw [find?_labels_ofMarks] at htext ⊢
    rw [List.findSome?_append, htext, Option.some_or]

theorem labels_ofMarks {marks : List Mark} (hnone : ∀ id text, .label id text ∉ marks) :
    (ofMarks marks).labels = {} := by
  induction marks using List.reverseRecOn with
  | nil => rfl
  | append_singleton marks m ih =>
    have hmarks : ∀ id text, Mark.label id text ∉ marks := fun id text hmem =>
      hnone id text (List.mem_append_left _ hmem)
    rw [ofMarks_concat, ← ih hmarks]
    cases m with
    | node id =>
      simp only [draw]
      split <;> rfl
    | label id text => exact absurd (by simp) (hnone id text)
    | edge source target text => rfl

/-- Connections alone give their edges, and their ends as nodes. -/
theorem ofMarks_connections {items : List α} {source target : α → List Char}
    (label : α → Option (List Char)) (hsource : ∀ a ∈ items, source a ≠ [])
    (htarget : ∀ a ∈ items, target a ≠ []) :
    ofMarks (items.flatMap fun a => connection (source a) (target a) (label a)) =
      { nodes := (items.flatMap fun a => [.ofList (source a), .ofList (target a)]).eraseDups
        edges := items.map fun a =>
          ⟨.ofList (source a), .ofList (target a), (label a).map .ofList⟩ } := by
  have hnodes : nodeNames (items.flatMap fun a => connection (source a) (target a) (label a)) =
      items.flatMap fun a => [.ofList (source a), .ofList (target a)] := by
    rw [nodeNames_flatMap]
    exact List.flatMap_congr fun a ha =>
      nodeNames_connection (hsource a ha) (htarget a ha) (label a)
  have hedges : (items.flatMap fun a => connection (source a) (target a) (label a)).filterMap
      Mark.edge? = items.map fun a =>
        ⟨.ofList (source a), .ofList (target a), (label a).map .ofList⟩ := by
    rw [List.filterMap_flatMap, List.map_eq_flatMap]
    rfl
  have hlabels : ∀ id text, Mark.label id text ∉
      items.flatMap fun a => connection (source a) (target a) (label a) := by
    simp [connection]
  have hext (s : Sketch) : s = ⟨s.nodes, s.edges, s.labels⟩ := rfl
  rw [hext (ofMarks _), nodes_ofMarks, edges_ofMarks, labels_ofMarks hlabels, hnodes, hedges]

end Sketch

end DocTrace.Diagram
