import DocTrace.Proofs.Diagram.LineReading
import DocTrace.Proofs.Diagram.Sketch

/-! A diagram that goes on. What is written behind a line break stands below what was written
before, and every notation reads the lines one after the other, so what it has read stays. -/

namespace DocTrace

namespace Diagram

open Text

theorem prefix_flatMap (f : α → List β) {items more : List α} (h : items <+: more) :
    items.flatMap f <+: more.flatMap f := by
  obtain ⟨rest, rfl⟩ := h
  rw [List.flatMap_append]
  exact List.prefix_append _ _

theorem prefix_marksFrom (step : σ → List Char → σ × List Mark) (state : σ)
    {lines more : List (List Char)} (h : lines <+: more) :
    marksFrom step state lines <+: marksFrom step state more := by
  obtain ⟨rest, rfl⟩ := h
  rw [marksFrom_append]
  exact List.prefix_append _ _

/-- Lines of which each is read by itself. -/
theorem prefix_read (read : List Char → Option α) (marks : α → List Mark)
    {lines more : List (List Char)} (h : lines <+: more) :
    ((lines.map trim).filterMap read).flatMap marks <+:
      ((more.map trim).filterMap read).flatMap marks :=
  prefix_flatMap marks ((h.map trim).filterMap read)

section

variable {s word : List Char} (hword : keyword? s = some word) (hdash : word.head? ≠ some '-')

include hword hdash

theorem prefix_statements (t : List Char) :
    Flowchart.statements s <+: Flowchart.statements (s ++ '\n' :: t) := by
  rw [Flowchart.statements_eq, Flowchart.statements_eq, filledLines_clean_feed hword hdash,
    Flowchart.statementsOf_append (filledLines_clean_ne_nil hword)]
  exact List.prefix_append _ _

theorem prefix_tail_filledLines (t : List Char) :
    (filledLines (clean s)).tail <+: (filledLines (clean (s ++ '\n' :: t))).tail := by
  rw [filledLines_clean_feed hword hdash,
    List.tail_append_of_ne_nil (filledLines_clean_ne_nil hword)]
  exact List.prefix_append _ _

/-- Every notation reads on where it stopped. -/
theorem prefix_marks (kind : DiagramKind) (t : List Char) :
    kind.marks s <+: kind.marks (s ++ '\n' :: t) := by
  have hlines := prefix_tail_filledLines hword hdash t
  cases kind with
  | flowchart => exact prefix_flatMap _ (prefix_statements hword hdash t)
  | sequence =>
    rw [DiagramKind.marks, Sequence.marks_eq, Sequence.marks_eq]
    exact prefix_read _ _ hlines
  | state =>
    rw [DiagramKind.marks, State.marks_eq, State.marks_eq]
    exact prefix_read _ _ hlines
  | er =>
    rw [DiagramKind.marks, EntityRelation.marks_eq, EntityRelation.marks_eq]
    exact prefix_marksFrom _ _ hlines
  | mindmap =>
    rw [DiagramKind.marks, Mindmap.marks_eq, Mindmap.marks_eq]
    exact prefix_marksFrom _ _ hlines
  | requirement =>
    rw [DiagramKind.marks, Requirement.marks_eq, Requirement.marks_eq]
    exact prefix_marksFrom _ _ hlines
  | classes =>
    rw [DiagramKind.marks, Class.marks_eq, Class.marks_eq]
    exact prefix_marksFrom _ _ hlines
  | c4 =>
    rw [DiagramKind.marks, C4.marks_eq, C4.marks_eq]
    exact prefix_read _ _ hlines

end

end Diagram

open Diagram

/-- A diagram of one of the eight kinds that goes on after a line break keeps its nodes and edges in
their places and its labels, and the nodes are those that are named, in first-seen order. -/
theorem analyze_append {content : String} {word : List Char} {kind : DiagramKind}
    (hword : keyword? content.toList = some word) (hkind : .ofList word ∈ kind.openers)
    (more : String) :
    (analyze content).nodes <+: (analyze (content ++ "\n" ++ more)).nodes ∧
      (analyze content).edges <+: (analyze (content ++ "\n" ++ more)).edges ∧
      (∀ id text, (analyze content).labels.find? id = some text →
        (analyze (content ++ "\n" ++ more)).labels.find? id = some text) ∧
      (analyze content).nodes = (nodeNames (kind.marks content.toList)).eraseDups := by
  have hdash := DiagramKind.head?_opener hkind
  have hwhole : (content ++ "\n" ++ more).toList = content.toList ++ '\n' :: more.toList := by
    rw [String.toList_append, String.toList_append, List.append_assoc]
    rfl
  have hnext : keyword? (content ++ "\n" ++ more).toList = some word := by
    rw [hwhole]
    exact keyword?_break hword hdash more.toList
  have hmarks : kind.marks content.toList <+: kind.marks (content ++ "\n" ++ more).toList := by
    rw [hwhole]
    exact prefix_marks hword hdash kind more.toList
  obtain ⟨hnodes, hedges, hlabels⟩ := Sketch.extends_ofMarks hmarks
  rw [analyze_of_opener hword hkind, analyze_of_opener hnext hkind]
  exact ⟨hnodes, hedges, hlabels, Sketch.nodes_ofMarks _⟩

/-! A comment takes the blanks before it away, also those of the text that goes on. -/

def sampleDiagram : String := "---\nid: A\n---\nerDiagram\nA[x] \x7b\n \x7d\nA ||--o| B : has\n  "

theorem analyze_append_comment :
    (keyword? sampleDiagram.toList = some "erDiagram".toList ∧
        "erDiagram" ∈ DiagramKind.er.openers) ∧
      (analyze sampleDiagram).nodes = ["A", "B"] ∧
      ["A", "B"] <+: (analyze (sampleDiagram ++ "\n" ++ " %% C\nB ||--|| D")).nodes ∧
      (analyze (sampleDiagram ++ "\n" ++ " %% C\nB ||--|| D")).labels.find? "A" = some "x" := by
  have hword : keyword? sampleDiagram.toList = some "erDiagram".toList := by decide +kernel
  have hopener : "erDiagram" ∈ DiagramKind.er.openers := by decide
  have hnodes : (analyze sampleDiagram).nodes = ["A", "B"] := by decide +kernel
  have hlabel : (analyze sampleDiagram).labels.find? "A" = some "x" := by decide +kernel
  obtain ⟨hkept, -, hlabels, -⟩ := analyze_append hword hopener " %% C\nB ||--|| D"
  exact ⟨⟨hword, hopener⟩, hnodes, hnodes ▸ hkept, hlabels _ _ hlabel⟩

end DocTrace
