import DocTrace.Diagram.Kind
import DocTrace.Proofs.Diagram.Sketch
import DocTrace.Proofs.Diagram.WellFormed

/-! The tree of a mindmap. The open branches are those of the earlier lines that no later line has
closed, and below any depth of indentation the innermost of them is the last earlier line that is
indented less. So every line gets its edge from the closest line above that is indented less. -/

namespace DocTrace.Diagram.Mindmap

open Text

/-- The lines that count, in their order: those with an identifier, each with its indentation. -/
def countedLines (s : List Char) : List (ℕ × Node) := (bodyLines s).filterMap lineNode?

def lineId (line : ℕ × Node) : String := .ofList line.2.id

/-- The last line that is indented less. -/
def closest? (earlier : List (ℕ × Node)) (indent : ℕ) : Option (ℕ × Node) :=
  (earlier.filter (·.1 < indent)).getLast?

/-- The edge of a line that stands behind others. -/
def parentEdge? (earlier : List (ℕ × Node)) (line : ℕ × Node) : Option Edge :=
  if line.2.isRoot then none
  else
    ((closest? earlier line.1).filter (!·.2.isRoot)).map fun parent =>
      ⟨lineId parent, lineId line, none⟩

/-- The edges of all lines, each of which looks at those before it. -/
def branchEdges (lines : List (ℕ × Node)) : List Edge :=
  lines.zipIdx.filterMap fun (line, i) => parentEdge? (lines.take i) line

/-- The lines that do not name the root. -/
def branchLines (lines : List (ℕ × Node)) : List (ℕ × Node) := lines.filter (!·.2.isRoot)

/-! ### The open branches -/

/-- What a line leaves open. -/
def branchOf (line : ℕ × Node) : ℕ × Option (List Char) :=
  (line.1, if line.2.isRoot then none else some line.2.id)

/-- At every depth the innermost open branch is that of the last earlier line. -/
def Tracks (branches : Branches) (earlier : List (ℕ × Node)) : Prop :=
  ∀ indent, branches.find? (·.1 < indent) = (closest? earlier indent).map branchOf

theorem closest?_concat (earlier : List (ℕ × Node)) (line : ℕ × Node) (indent : ℕ) :
    closest? (earlier ++ [line]) indent =
      if line.1 < indent then some line else closest? earlier indent := by
  rw [closest?, List.filter_append]
  split
  · next hless => simp [hless]
  · next hless => simp [hless, closest?]

variable {branches : Branches} {earlier : List (ℕ × Node)} {raw : List Char} {line : ℕ × Node}

theorem Tracks.head?_above (h : Tracks branches earlier) (indent : ℕ) :
    (branches.dropWhile fun branch => indent ≤ branch.1).head? =
      (closest? earlier indent).map branchOf := by
  rw [← h indent, List.find?_eq_head?_dropWhile_not]
  simp only [← decide_not, Nat.not_lt]

theorem find?_above {indent depth : ℕ} (h : indent ≤ depth) (branches : Branches) :
    (branches.dropWhile fun branch => depth ≤ branch.1).find? (·.1 < indent) =
      branches.find? (·.1 < indent) := by
  induction branches with
  | nil => rfl
  | cons branch branches ih =>
    rw [List.dropWhile_cons]
    split
    · next hclosed =>
      have hdeep : ¬branch.1 < indent := by simp at hclosed; omega
      rw [ih, List.find?_cons_of_neg (by simpa using hdeep)]
    · rfl

/-- A line closes the branches that are indented as deep and opens its own. -/
theorem step_fst (h : lineNode? raw = some line) :
    (step branches raw).1 =
      branchOf line :: branches.dropWhile fun branch => line.1 ≤ branch.1 := by
  obtain ⟨indent, n⟩ := line
  simp only [step, h, branchOf]
  split <;> rfl

theorem Tracks.step (h : Tracks branches earlier) (hread : lineNode? raw = some line) :
    Tracks (step branches raw).1 (earlier ++ [line]) := by
  intro indent
  rw [step_fst hread, closest?_concat]
  split
  · next hless => rw [List.find?_cons_of_pos (by simp [branchOf, hless]), Option.map_some]
  · next hless =>
    rw [List.find?_cons_of_neg (by simp [branchOf, hless]),
      find?_above (Nat.le_of_not_lt hless), h indent]

/-! ### The marks of one line and of all lines -/

theorem edges_step (h : Tracks branches earlier) (hread : lineNode? raw = some line) :
    (Mindmap.step branches raw).2.filterMap Mark.edge? = (parentEdge? earlier line).toList := by
  have hhead := h.head?_above line.1
  obtain ⟨indent, n⟩ := line
  simp only [Mindmap.step, hread, parentEdge?]
  split
  · rfl
  · rw [List.filterMap_append, edges_declaration, List.nil_append]
    generalize branches.dropWhile (fun branch => indent ≤ branch.1) = above at hhead ⊢
    cases hparent : closest? earlier indent with
    | none =>
      rw [hparent, Option.map_none, List.head?_eq_none_iff] at hhead
      rw [hhead]
      rfl
    | some parent =>
      rw [hparent, Option.map_some] at hhead
      obtain ⟨rest, rfl⟩ := List.head?_eq_some_iff.1 hhead
      cases hroot : parent.2.isRoot <;> simp [branchOf, hroot, Mark.edge?, lineId, Option.filter]

theorem nodeNames_step (hread : lineNode? raw = some line) :
    nodeNames (Mindmap.step branches raw).2 =
      if line.2.isRoot then [] else [lineId line] := by
  have hid := ne_nil_of_lineNode? hread
  obtain ⟨indent, n⟩ := line
  simp only [Mindmap.step, hread]
  split
  · rfl
  · rw [nodeNames_append, nodeNames_declaration hid]
    split <;> rfl

theorem edges_marksFrom (h : Tracks branches earlier) (raws : List (List Char)) :
    (marksFrom Mindmap.step branches raws).filterMap Mark.edge? =
      ((raws.filterMap lineNode?).zipIdx earlier.length).filterMap fun (line, i) =>
        parentEdge? ((earlier ++ raws.filterMap lineNode?).take i) line := by
  induction raws generalizing branches earlier with
  | nil => rfl
  | cons raw raws ih =>
    rw [marksFrom, List.filterMap_append]
    cases hread : lineNode? raw with
    | none =>
      have hstep : Mindmap.step branches raw = (branches, []) := by simp only [Mindmap.step, hread]
      rw [hstep, List.filterMap_cons_none hread, ← ih h]
      rfl
    | some line =>
      have hrest := ih (h.step hread)
      rw [List.append_assoc, List.length_append] at hrest
      rw [edges_step h hread, hrest, List.filterMap_cons_some hread, List.zipIdx_cons,
        List.filterMap_cons]
      simp only [List.take_left]
      cases parentEdge? earlier line <;> rfl

theorem nodeNames_marksFrom (branches : Branches) (raws : List (List Char)) :
    nodeNames (marksFrom Mindmap.step branches raws) =
      (branchLines (raws.filterMap lineNode?)).map lineId := by
  induction raws generalizing branches with
  | nil => rfl
  | cons raw raws ih =>
    rw [marksFrom, nodeNames_append, ih]
    cases hread : lineNode? raw with
    | none =>
      have hstep : Mindmap.step branches raw = (branches, []) := by simp only [Mindmap.step, hread]
      rw [hstep, List.filterMap_cons_none hread]
      rfl
    | some line =>
      rw [nodeNames_step hread, List.filterMap_cons_some hread, branchLines, branchLines,
        List.filter_cons]
      cases line.2.isRoot <;> rfl

theorem analyze_eq (content : String) :
    (DiagramKind.mindmap.analyze content).edges = branchEdges (countedLines content.toList) ∧
      (DiagramKind.mindmap.analyze content).nodes =
        ((branchLines (countedLines content.toList)).map lineId).eraseDups := by
  have hstart : Tracks [] [] := fun _ => rfl
  have hedges := edges_marksFrom hstart (bodyLines content.toList)
  have hnodes := nodeNames_marksFrom [] (bodyLines content.toList)
  rw [← countedLines, List.nil_append, List.length_nil, ← branchEdges] at hedges
  rw [← countedLines] at hnodes
  rw [DiagramKind.analyze, DiagramKind.marks, marks, Sketch.toAnalysis]
  dsimp only
  rw [Sketch.edges_ofMarks, Sketch.nodes_ofMarks, hedges, hnodes]
  exact ⟨rfl, rfl⟩

/-- Every line that counts gets the edge from the last earlier line that is indented less, unless
one of the two names the root, and there are no other edges. The nodes are the identifiers of the
lines that do not name the root, and the root words are none of them. -/
theorem analyze_branches (content : String) :
    (DiagramKind.mindmap.analyze content).edges = branchEdges (countedLines content.toList) ∧
      (DiagramKind.mindmap.analyze content).nodes =
        ((branchLines (countedLines content.toList)).map lineId).eraseDups ∧
      ∀ line ∈ countedLines content.toList, line.2.isRoot = true →
        lineId line ∉ (DiagramKind.mindmap.analyze content).nodes := by
  obtain ⟨hedges, hnodes⟩ := analyze_eq content
  refine ⟨hedges, hnodes, fun line _ hroot hmem => ?_⟩
  rw [hnodes, List.mem_eraseDups, List.mem_map] at hmem
  obtain ⟨other, hother, hid⟩ := hmem
  have hsame : other.2.id = line.2.id := String.ofList_injective hid
  have hplain := (List.mem_filter.1 hother).2
  rw [Node.isRoot, hsame, ← Node.isRoot, hroot] at hplain
  exact absurd hplain (by decide)

-- The indentation need not be regular: `d` is no child of `b`, and `e` is one of the root.
example :
    (DiagramKind.mindmap.analyze "mindmap\n root((M))\n   a\n     b\n       c\n    d\n  e").edges =
      [⟨"a", "b", none⟩, ⟨"b", "c", none⟩, ⟨"a", "d", none⟩] := by
  decide +kernel

end DocTrace.Diagram.Mindmap
