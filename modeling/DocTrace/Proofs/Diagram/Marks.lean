import DocTrace.Diagram.Basic
import Mathlib.Data.List.Basic

/-! A sketch is well formed if and only if its marks are grounded: whatever a label or an edge
speaks of is declared by a mark. Marks are grounded piece by piece, and marks that are read line by
line are grounded if every line declares what it speaks of or finds it in the state it is given. -/

namespace DocTrace

/-- The nodes are named and without repeats, and edges and labels speak of nodes alone. -/
structure Analysis.IsWellFormed (a : Analysis) : Prop where
  nodup : a.nodes.Nodup
  named : "" ∉ a.nodes
  ends : ∀ e ∈ a.edges, e.source ∈ a.nodes ∧ e.target ∈ a.nodes
  labelled : ∀ id ∈ a.labels.keys, id ∈ a.nodes

namespace Diagram

/-- The identifiers that a mark speaks of without declaring them. -/
def Mark.mentions : Mark → List String
  | .node _ => []
  | .label id _ => [id]
  | .edge source target _ => [source, target]

/-- The identifier has a name and a mark of its own. -/
def Declares (marks : List Mark) (id : String) : Prop := id ≠ "" ∧ .node id ∈ marks

/-- Whatever the marks mention is known before or declared by one of them. -/
def Grounded (known : List String) (marks : List Mark) : Prop :=
  ∀ m ∈ marks, ∀ id ∈ m.mentions, id ∈ known ∨ Declares marks id

/-! ### What a sketch holds -/

namespace Sketch

/-- The identifiers that edges and labels speak of. -/
def mentioned (s : Sketch) : List String :=
  (s.edges.flatMap fun e => [e.source, e.target]) ++ s.labels.keys

theorem nodup_draw {s : Sketch} (h : s.nodes.Nodup) (m : Mark) : (s.draw m).nodes.Nodup := by
  cases m with
  | node id =>
    simp only [draw]
    split
    · exact h
    · next hnew =>
      have hfresh : id ∉ s.nodes := by simp_all
      exact List.nodup_append.2 ⟨h, by simp, by rintro a ha _ hb rfl; simp_all⟩
  | label id text => exact h
  | edge source target label => exact h

theorem mem_nodes_draw (s : Sketch) (m : Mark) (id : String) :
    id ∈ (s.draw m).nodes ↔ id ∈ s.nodes ∨ Declares [m] id := by
  cases m with
  | node other =>
    simp only [draw, Declares, List.mem_singleton, Mark.node.injEq]
    split
    · next hold =>
      refine (or_iff_left_of_imp ?_).symm
      rintro ⟨hne, rfl⟩
      simpa [hne] using hold
    · next hnew =>
      have hne : other ≠ "" := by simp_all
      rw [List.mem_append, List.mem_singleton]
      refine or_congr_right ⟨?_, And.right⟩
      rintro rfl
      exact ⟨hne, rfl⟩
  | label other text => simp [draw, Declares]
  | edge source target label => simp [draw, Declares]

theorem mem_mentioned_draw (s : Sketch) (m : Mark) (id : String) :
    id ∈ (s.draw m).mentioned ↔ id ∈ s.mentioned ∨ id ∈ m.mentions := by
  cases m with
  | node other =>
    simp only [draw, Mark.mentions, List.not_mem_nil, or_false]
    split <;> rfl
  | label other text =>
    simp only [draw, mentioned, Mark.mentions, Table.keys_putNew, List.mem_append,
      List.mem_singleton, or_assoc]
    refine or_congr_right ?_
    split
    · next hold => exact (or_iff_left_of_imp fun heq => heq ▸ hold).symm
    · rw [List.mem_append, List.mem_singleton]
  | edge source target label =>
    simp only [draw, mentioned, Mark.mentions, List.flatMap_append, List.mem_append,
      List.flatMap_cons, List.flatMap_nil, List.append_nil]
    rw [or_right_comm]

theorem foldl_draw (s : Sketch) (h : s.nodes.Nodup) (marks : List Mark) :
    (marks.foldl draw s).nodes.Nodup ∧
    (∀ id, id ∈ (marks.foldl draw s).nodes ↔ id ∈ s.nodes ∨ Declares marks id) ∧
    ∀ id, id ∈ (marks.foldl draw s).mentioned ↔
      id ∈ s.mentioned ∨ ∃ m ∈ marks, id ∈ m.mentions := by
  induction marks generalizing s with
  | nil => exact ⟨h, by simp [Declares], by simp⟩
  | cons m rest ih =>
    obtain ⟨hnodup, hnodes, hmentioned⟩ := ih (s.draw m) (nodup_draw h m)
    refine ⟨hnodup, fun id => ?_, fun id => ?_⟩
    · rw [List.foldl_cons, hnodes, mem_nodes_draw, or_assoc]
      simp only [Declares, List.mem_cons, List.not_mem_nil, or_false, ← and_or_left]
    · rw [List.foldl_cons, hmentioned, mem_mentioned_draw, or_assoc]
      simp only [List.mem_cons, or_and_right, exists_or, exists_eq_left]

theorem nodup_ofMarks (marks : List Mark) : (ofMarks marks).nodes.Nodup :=
  (foldl_draw {} List.nodup_nil marks).1

theorem mem_nodes_ofMarks {marks : List Mark} {id : String} :
    id ∈ (ofMarks marks).nodes ↔ Declares marks id := by
  rw [ofMarks, (foldl_draw {} List.nodup_nil marks).2.1]
  simp

theorem mem_mentioned_ofMarks {marks : List Mark} {id : String} :
    id ∈ (ofMarks marks).mentioned ↔ ∃ m ∈ marks, id ∈ m.mentions := by
  rw [ofMarks, (foldl_draw {} List.nodup_nil marks).2.2]
  simp [mentioned, Table.keys]

theorem isWellFormed_ofMarks {marks : List Mark} (diagramType : String) :
    ((ofMarks marks).toAnalysis diagramType).IsWellFormed ↔ Grounded [] marks := by
  have hmentioned : Grounded [] marks ↔
      ∀ id ∈ (ofMarks marks).mentioned, id ∈ (ofMarks marks).nodes := by
    simp only [Grounded, mem_mentioned_ofMarks, mem_nodes_ofMarks, List.not_mem_nil, false_or]
    exact ⟨fun h id ⟨m, hm, hid⟩ => h m hm id hid, fun h m hm id hid => h id ⟨m, hm, hid⟩⟩
  rw [hmentioned]
  constructor
  · rintro h id hid
    rcases List.mem_append.1 hid with hid | hid
    · obtain ⟨e, he, hend⟩ := List.mem_flatMap.1 hid
      obtain ⟨hsource, htarget⟩ := h.ends e he
      rcases List.mem_pair.1 hend with rfl | rfl
      · exact hsource
      · exact htarget
    · exact h.labelled id hid
  · intro h
    refine ⟨nodup_ofMarks marks, fun hmem => (mem_nodes_ofMarks.1 hmem).1 rfl, fun e he => ?_,
      fun id hid => h id (List.mem_append_right _ hid)⟩
    have hends : ∀ id ∈ [e.source, e.target], id ∈ (ofMarks marks).nodes := fun id hid =>
      h id (List.mem_append_left _ (List.mem_flatMap.2 ⟨e, he, hid⟩))
    exact ⟨hends _ (by simp), hends _ (by simp)⟩

end Sketch

/-! ### Grounded pieces -/

theorem Declares.mono {marks more : List Mark} {id : String} (h : Declares marks id)
    (hsub : marks ⊆ more) : Declares more id :=
  ⟨h.1, hsub h.2⟩

theorem declares_cons_node {id : List Char} (h : id ≠ []) (marks : List Mark) :
    Declares (.node (.ofList id) :: marks) (.ofList id) :=
  ⟨by simpa using h, List.mem_cons_self ..⟩

theorem grounded_nil (known : List String) : Grounded known [] := by simp [Grounded]

theorem grounded_flatMap {known : List String} {items : List α} {f : α → List Mark}
    (h : ∀ a ∈ items, Grounded known (f a)) : Grounded known (items.flatMap f) := by
  intro m hm id hid
  obtain ⟨a, ha, hma⟩ := List.mem_flatMap.1 hm
  refine (h a ha m hma id hid).imp_right fun hdeclares => hdeclares.mono fun other hother => ?_
  exact List.mem_flatMap.2 ⟨a, ha, hother⟩

theorem grounded_declaration {id : List Char} (h : id ≠ []) (label : Option (List Char)) :
    Grounded [] (declaration id label) := by
  intro m hm other hother
  have hid : other = .ofList id := by
    cases label with
    | none =>
      obtain rfl := List.mem_singleton.1 hm
      exact absurd hother List.not_mem_nil
    | some text =>
      rcases List.mem_pair.1 hm with rfl | rfl
      · exact absurd hother List.not_mem_nil
      · exact List.mem_singleton.1 hother
  rw [hid]
  exact .inr (declares_cons_node h _)

theorem grounded_connection {source target : List Char} (hs : source ≠ []) (ht : target ≠ [])
    (label : Option (List Char)) : Grounded [] (connection source target label) := by
  intro m hm id hid
  have hends : id = .ofList source ∨ id = .ofList target := by
    simp only [connection, List.mem_cons, List.not_mem_nil, or_false] at hm
    rcases hm with rfl | rfl | rfl
    · exact absurd hid List.not_mem_nil
    · exact absurd hid List.not_mem_nil
    · exact List.mem_pair.1 hid
  rcases hends with rfl | rfl
  · exact .inr (declares_cons_node hs _)
  · exact .inr ((declares_cons_node ht _).mono (List.subset_cons_self ..))

/-- Marks that are read line by line are grounded if each line grounds its own in the identifiers of
its state and leaves a state whose identifiers are those of the last one or declared. -/
theorem grounded_marksFrom {step : σ → List Char → σ × List Mark} (known : σ → List String)
    (hstep : ∀ state line, Grounded (known state) (step state line).2 ∧
      ∀ id ∈ known (step state line).1, id ∈ known state ∨ Declares (step state line).2 id)
    (state : σ) (lines : List (List Char)) :
    Grounded (known state) (marksFrom step state lines) := by
  induction lines generalizing state with
  | nil => exact grounded_nil _
  | cons line rest ih =>
    obtain ⟨hline, hnext⟩ := hstep state line
    have hleft {id : String} (h : Declares (step state line).2 id) :
        Declares (marksFrom step state (line :: rest)) id :=
      h.mono (List.subset_append_left ..)
    intro m hm id hid
    rcases List.mem_append.1 hm with hm | hm
    · exact (hline m hm id hid).imp_right hleft
    · rcases ih _ m hm id hid with hknown | hdeclares
      · exact (hnext id hknown).imp_right hleft
      · exact .inr (hdeclares.mono (List.subset_append_right ..))

end Diagram

end DocTrace
