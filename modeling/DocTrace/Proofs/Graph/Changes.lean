import DocTrace.Proofs.Graph.Edges

/-! What may still happen to a graph once it is assembled. A change that is refused leaves
the graph as it was, and an edge that is added is known at both of its ends. -/

namespace DocTrace.Graph

inductive Change where
  | node (id : String)
  | link (parent child : String)
  | freeze
  | annotate (id key : String) (value : Value) (writer : String)

def change (g : Graph) : Change → Graph
  | .node id => ((g.node id).map Prod.fst).toOption.getD g
  | .link parent child => (g.link parent child).toOption.getD g
  | .freeze => g.freeze
  | .annotate id key value writer => (g.annotate id key value writer).2.1

def changeAll (g : Graph) (changes : List Change) : Graph := changes.foldl change g

/-- Every change keeps what the documents declare. -/
structure KeepsDeclared (g h : Graph) : Prop where
  declaredLinks : h.declaredLinks = g.declaredLinks
  idToFile : h.idToFile = g.idToFile

/-- A value is written exactly where a node has no other one. A null counts as none. -/
theorem annotate_cases (g : Graph) (id key : String) (value : Value) (writer : String) :
    ((g.annotate id key value writer).1 = false ∧ (g.annotate id key value writer).2.1 = g ∧
      ∀ n, g.nodes.find? id = some n → ∃ v, n.metadata.find? key = some v ∧
        v.isNull = false ∧ v.eqValue value = false) ∨
    ((g.annotate id key value writer).1 = true ∧ ∃ n, g.nodes.find? id = some n ∧
      (g.annotate id key value writer).2.1 =
        { g with
          nodes := g.nodes.put id { n with metadata := n.metadata.put key value }
          writers := g.writers.put (id, key) writer } ∧
      ∀ v, n.metadata.find? key = some v → v.isNull = false → v.eqValue value = true) := by
  cases hn : g.nodes.find? id with
  | none =>
    rw [annotate, hn]
    exact .inl ⟨rfl, rfl, nofun⟩
  | some n =>
    rw [annotate, hn]
    dsimp only
    split
    · next v hkept =>
      obtain ⟨hfound, hother⟩ := Option.filter_eq_some_iff.1 hkept
      obtain ⟨hvalue, hnull⟩ := Option.filter_eq_some_iff.1 hfound
      refine .inl ⟨rfl, rfl, fun m hm => ⟨v, ?_, by simpa using hnull, by simpa using hother⟩⟩
      rw [← Option.some.inj hm]
      exact hvalue
    · next hnone =>
      refine .inr ⟨rfl, n, rfl, rfl, fun v hvalue hnull => ?_⟩
      by_contra hother
      simp [hvalue, hnull, hother, Option.filter] at hnone

theorem extends_annotate (g : Graph) (id key : String) (value : Value) (writer : String) :
    Extends g (g.annotate id key value writer).2.1 ∅ ∅ := by
  rcases annotate_cases g id key value writer with ⟨-, hsame, -⟩ | ⟨-, n, hn, hwritten, -⟩
  · rw [hsame]
    exact .refl g
  · rw [hwritten]
    refine extends_of_lists fun other => ?_
    simp only [uplinks, downlinks, Table.find?_put]
    split
    · next hother => simp [hother, hn]
    · exact ⟨rfl, rfl⟩

theorem keepsDeclared_annotate (g : Graph) (id key : String) (value : Value) (writer : String) :
    KeepsDeclared g (g.annotate id key value writer).2.1 := by
  rcases annotate_cases g id key value writer with ⟨-, hsame, -⟩ | ⟨-, n, -, hwritten, -⟩
  · rw [hsame]
    exact ⟨rfl, rfl⟩
  · rw [hwritten]
    exact ⟨rfl, rfl⟩

/-- A change adds edges at both ends, if it adds any. -/
theorem exists_extends_change (g : Graph) (c : Change) :
    KeepsDeclared g (g.change c) ∧ ∃ added, Extends g (g.change c) added added := by
  cases c with
  | node id =>
    simp only [change, node]
    cases g.nodes.find? id with
    | some n => exact ⟨⟨rfl, rfl⟩, ∅, .refl g⟩
    | none =>
      cases hfrozen : g.frozen with
      | true => exact ⟨⟨rfl, rfl⟩, ∅, .refl g⟩
      | false => exact ⟨⟨rfl, rfl⟩, ∅, extends_ensure g id⟩
  | link parent child =>
    simp only [change, link]
    cases hfrozen : g.frozen with
    | false => exact ⟨⟨rfl, rfl⟩, {(parent, child)}, extends_connect g parent child⟩
    | true =>
      -- A frozen graph is given back itself, whether or not it has the edge.
      have hsame : (((g.checkConnected parent child).map fun _ => g).toOption.getD g) = g := by
        cases g.checkConnected parent child <;> rfl
      simp only [if_true, hsame]
      exact ⟨⟨rfl, rfl⟩, ∅, .refl g⟩
  | freeze => exact ⟨⟨rfl, rfl⟩, ∅, extends_of_nodes rfl⟩
  | annotate id key value writer =>
    exact ⟨keepsDeclared_annotate g id key value writer, ∅,
      extends_annotate g id key value writer⟩

theorem exists_extends_changes (g : Graph) (changes : List Change) :
    KeepsDeclared g (g.changeAll changes) ∧
      ∃ added, Extends g (g.changeAll changes) added added := by
  induction changes generalizing g with
  | nil => exact ⟨⟨rfl, rfl⟩, ∅, .refl g⟩
  | cons c rest ih =>
    obtain ⟨hfirst, first, hstep⟩ := exists_extends_change g c
    obtain ⟨hrest, more, hrun⟩ := ih (g.change c)
    have hlinks := hrest.declaredLinks.trans hfirst.declaredLinks
    have hfiles := hrest.idToFile.trans hfirst.idToFile
    exact ⟨⟨hlinks, hfiles⟩, first ∪ more, hstep.trans hrun⟩

end DocTrace.Graph
