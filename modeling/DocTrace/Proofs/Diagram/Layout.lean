import DocTrace.Inspection.Document
import DocTrace.Proofs.Diagram.LineReading
import Mathlib.Logic.Relation

/-! Layout says nothing. Below the line that names the notation a text may take blank lines and
comments between its lines and blanks at their ends, and its lines may end in a carriage return
too: what is written stays, and so does all that is read from it. -/

namespace DocTrace

namespace Diagram

open Text

/-! ### Carriage returns -/

/-- A text of which each line ends in a carriage return and a line feed. -/
def withReturns (s : List Char) : List Char :=
  s.flatMap fun c => if c = '\n' then ['\r', '\n'] else [c]

@[simp] theorem withReturns_feed (s : List Char) :
    withReturns ('\n' :: s) = '\r' :: '\n' :: withReturns s := rfl

theorem withReturns_cons {c : Char} (h : c ≠ '\n') (s : List Char) :
    withReturns (c :: s) = c :: withReturns s := by
  rw [withReturns, List.flatMap_cons, if_neg h]
  rfl

theorem withReturns_append (s t : List Char) :
    withReturns (s ++ t) = withReturns s ++ withReturns t :=
  List.flatMap_append

theorem withReturns_of_not_mem {s : List Char} (h : '\n' ∉ s) : withReturns s = s := by
  induction s with
  | nil => rfl
  | cons c s ih =>
    rw [List.mem_cons, not_or] at h
    rw [withReturns_cons (Ne.symm h.1), ih h.2]

/-- A carriage return before a line feed is a blank at the end of a line. -/
theorem writtenLines_withReturns (s : List Char) :
    writtenLines (withReturns s) = writtenLines s := by
  obtain ⟨lines, last, hlines, hlast, rfl⟩ := Header.exists_lines s
  induction lines with
  | nil => rw [List.flatten_nil, List.nil_append, withReturns_of_not_mem hlast]
  | cons line lines ih =>
    obtain ⟨⟨text, htext, rfl⟩, hmore⟩ := List.forall_mem_cons.1 hlines
    have hcut : ((text ++ ['\n']) :: lines).flatten ++ last =
        text ++ '\n' :: (lines.flatten ++ last) := by simp
    have hline : writtenLines (text ++ ['\r']) = writtenLines text := by
      have hblanks : writtenLines (text ++ (['\r'] ++ [])) = writtenLines (text ++ []) :=
        writtenLines_append_blanks (List.forall_mem_singleton.2 (by decide)) (by decide) (by simp)
      rwa [List.append_nil, List.append_nil] at hblanks
    rw [hcut, withReturns_append, withReturns_of_not_mem htext, withReturns_feed,
      List.append_cons, writtenLines_append_feed, hline, ih hmore, writtenLines_append_feed]

theorem dropWhile_withReturns (s : List Char) :
    (withReturns s).dropWhile (· = byteOrderMark) =
      withReturns (s.dropWhile (· = byteOrderMark)) := by
  induction s with
  | nil => rfl
  | cons c s ih =>
    by_cases hc : c = byteOrderMark
    · rw [hc, withReturns_cons (by decide), List.dropWhile_cons_of_pos (by decide), ih,
        List.dropWhile_cons_of_pos (by decide)]
    · rw [List.dropWhile_cons_of_neg (by simpa using hc)]
      by_cases hfeed : c = '\n'
      · rw [hfeed, withReturns_feed, List.dropWhile_cons_of_neg (by decide)]
      · rw [withReturns_cons hfeed, List.dropWhile_cons_of_neg (by simpa using hc)]

theorem after?_withReturns {start : List Char} (h : '\n' ∉ start) (hreturn : '\r' ∉ start)
    (s : List Char) : after? start (withReturns s) = (after? start s).map withReturns := by
  induction start generalizing s with
  | nil => cases s <;> rfl
  | cons p start ih =>
    rw [List.mem_cons, not_or] at h hreturn
    cases s with
    | nil => rfl
    | cons c s =>
      by_cases hc : c = '\n'
      · rw [hc, withReturns_feed, after?, after?, if_neg (Ne.symm hreturn.1), if_neg (Ne.symm h.1)]
        rfl
      · rw [withReturns_cons hc, after?, after?, ih h.2 hreturn.2]
        split <;> rfl

theorem newline?_withReturns {s : List Char} (h : '\r' ∉ s) :
    newline? (withReturns s) = (newline? s).map withReturns := by
  cases s with
  | nil => rfl
  | cons c s =>
    by_cases hc : c = '\n'
    · rw [hc]
      rfl
    · have hreturn : c ≠ '\r' := fun heq => h (heq ▸ List.mem_cons_self ..)
      rw [withReturns_cons hc]
      simp [newline?, hc, hreturn]

theorem afterRule?_withReturns {s : List Char} (h : '\r' ∉ s) :
    afterRule? (withReturns s) = (afterRule? s).map withReturns := by
  rw [afterRule?, afterRule?, after?_withReturns (by decide) (by decide)]
  cases hrest : after? dashes s with
  | none => rfl
  | some rest =>
    have hreturn : '\r' ∉ rest := fun hmem => h (mem_of_after? hrest hmem)
    exact newline?_withReturns hreturn

theorem afterBlockEnd?_withReturns {s : List Char} (h : '\r' ∉ s) :
    afterBlockEnd? (withReturns s) = (afterBlockEnd? s).map withReturns := by
  have hrule {t : List Char} (ht : '\r' ∉ t) :
      ((after? dashes (withReturns t)).bind newline?) =
        ((after? dashes t).bind newline?).map withReturns := afterRule?_withReturns ht
  induction s with
  | nil => rfl
  | cons c s ih =>
    rw [List.mem_cons, not_or] at h
    by_cases hc : c = '\n'
    · simp only [hc, withReturns_feed, afterBlockEnd?, newline?, Option.bind_some, hrule h.2,
        ih h.2]
      cases (after? dashes s).bind newline? <;> simp
    · have hreturn : c ≠ '\r' := Ne.symm h.1
      simp [withReturns_cons hc, afterBlockEnd?, newline?, hc, hreturn, ih h.2]

theorem dropHeaderBlock_withReturns {s : List Char} (h : '\r' ∉ s) :
    dropHeaderBlock (withReturns s) = withReturns (dropHeaderBlock s) := by
  rw [dropHeaderBlock_eq, dropHeaderBlock_eq, afterBlock?, afterBlock?, afterRule?_withReturns h]
  cases hrest : afterRule? s with
  | none => rfl
  | some rest =>
    obtain ⟨rule, -, rfl⟩ := afterRule?_eq_some_iff.1 hrest
    have hreturn : '\r' ∉ rest := fun hmem => h (List.mem_append_right _ hmem)
    rw [Option.map_some, Option.bind_some, afterBlockEnd?_withReturns hreturn, Option.bind_some]
    cases afterBlockEnd? rest <;> rfl

theorem uncovered_withReturns {s : List Char} (h : '\r' ∉ s) :
    uncovered (withReturns s) = withReturns (uncovered s) := by
  have hreturn : '\r' ∉ s.dropWhile (· = byteOrderMark) := fun hmem =>
    h (List.dropWhile_subset _ hmem)
  rw [uncovered, dropWhile_withReturns, dropHeaderBlock_withReturns hreturn, uncovered]

/-! ### Texts that differ in layout -/

/-- A text in which a line names one of the eight notations. -/
def OpensDiagram (s : List Char) : Prop :=
  ∃ word, ∃ kind : DiagramKind, keyword? s = some word ∧ .ofList word ∈ kind.openers

/-- A line of blanks, or a comment. -/
def IsIdle (line : List Char) : Prop :=
  '\n' ∉ line ∧ (skipBlanks line = [] ∨ ['%', '%'] <+: skipBlanks line)

/-- A text and the same text with one change of its layout: an idle line more, blanks at the end of
a line, or carriage returns. -/
inductive Relaid : List Char → List Char → Prop
  | idleLine {before line : List Char} (hopens : OpensDiagram before) (hline : IsIdle line)
      (rest : List Char) :
      Relaid (before ++ '\n' :: rest) (before ++ '\n' :: (line ++ '\n' :: rest))
  -- Any of the separators of lines may follow, or nothing.
  | lineEnd {before blanks rest : List Char} (hopens : OpensDiagram before)
      (hblanks : ∀ c ∈ blanks, c = ' ' ∨ c = '\t')
      (hrest : ∀ c ∈ rest.head?, isLineBreak c = true) :
      Relaid (before ++ rest) (before ++ (blanks ++ rest))
  | returns {text : List Char} (hreturn : '\r' ∉ text) : Relaid text (withReturns text)

theorem writtenLines_of_isIdle {line : List Char} (h : IsIdle line) : writtenLines line = [] := by
  obtain ⟨hfeed, hblank | hcomment⟩ := h
  · exact writtenLines_of_blanks (List.dropWhile_eq_nil_iff.1 hblank)
  · exact writtenLines_of_opensComment hfeed (List.isPrefixOf_iff_prefix.2 hcomment)

/-- Nothing is written by a change of the layout, and nothing gets lost. -/
theorem filledLines_clean_of_relaid {s t : List Char} (h : Relaid s t) :
    filledLines (clean t) = filledLines (clean s) := by
  cases h with
  | idleLine hopens hline rest =>
    obtain ⟨word, kind, hword, hkind⟩ := hopens
    have hdash := DiagramKind.head?_opener hkind
    rw [filledLines_clean_feed hword hdash, filledLines_clean_feed hword hdash,
      writtenLines_append_feed, writtenLines_of_isIdle hline, List.nil_append]
  | lineEnd hopens hblanks hrest =>
    obtain ⟨word, kind, hword, hkind⟩ := hopens
    have hdash := DiagramKind.head?_opener hkind
    have hspace {c : Char} (hc : c = ' ' ∨ c = '\t') : isBlank c = true ∧ c ≠ '\n' := by
      rcases hc with rfl | rfl <;> decide
    rw [filledLines_clean, filledLines_clean, uncovered_append hword hdash,
      uncovered_append hword hdash,
      writtenLines_append_blanks (fun c hc => (hspace (hblanks c hc)).1)
        (fun hfeed => (hspace (hblanks _ hfeed)).2 rfl) hrest]
  | returns hreturn =>
    rw [filledLines_clean, filledLines_clean, uncovered_withReturns hreturn,
      writtenLines_withReturns]

theorem filledLines_clean_of_relaid_many {s t : List Char} (h : Relation.ReflTransGen Relaid s t) :
    filledLines (clean t) = filledLines (clean s) := by
  induction h with
  | refl => rfl
  | tail _ hlast ih => rw [filledLines_clean_of_relaid hlast, ih]

end Diagram

open Diagram Inspection

/-- A text keeps its analysis, its type and its first line through any changes of its layout. -/
theorem analyze_relaid {content changed : String}
    (h : Relation.ReflTransGen Relaid content.toList changed.toList) :
    analyze changed = analyze content ∧ detectType changed = detectType content ∧
      ∀ a : Asset, firstLine { a with body := changed } = firstLine { a with body := content } := by
  have hlines := filledLines_clean_of_relaid_many h
  refine ⟨analyze_of_filledLines hlines, detectType_of_filledLines hlines, fun a => ?_⟩
  rw [firstLine, firstLine, ← headD_filledLines_clean, hlines, headD_filledLines_clean]

/-! A comment in a body of members, a tab behind the first line, and carriage returns at last. -/

theorem analyze_relaid_body :
    Relation.ReflTransGen Relaid "classDiagram\nclass A \x7b\n\x7d\nclass B".toList
        "classDiagram\t\r\nclass A \x7b\r\n %% \x7d\r\n\x7d\r\nclass B".toList ∧
      analyze "classDiagram\t\r\nclass A \x7b\r\n %% \x7d\r\n\x7d\r\nclass B" =
        { diagramType := "class", nodes := ["A", "B"] } := by
  have hfirst : OpensDiagram "classDiagram".toList :=
    ⟨"classDiagram".toList, .classes, by decide +kernel, by decide⟩
  have hclass : OpensDiagram "classDiagram\nclass A \x7b".toList :=
    ⟨"classDiagram".toList, .classes, by decide +kernel, by decide⟩
  have hidle : IsIdle " %% \x7d".toList := ⟨by decide, .inr (by decide)⟩
  have hblanks : ∀ c ∈ ['\t'], c = ' ' ∨ c = '\t' := List.forall_mem_singleton.2 (.inr rfl)
  have hbreak : ∀ c ∈ "\nclass A \x7b\n %% \x7d\n\x7d\nclass B".toList.head?,
      Text.isLineBreak c = true := fun _ hc => Option.some.inj hc ▸ by decide
  have hcomment : Relaid "classDiagram\nclass A \x7b\n\x7d\nclass B".toList
      "classDiagram\nclass A \x7b\n %% \x7d\n\x7d\nclass B".toList := .idleLine hclass hidle _
  have htab : Relaid "classDiagram\nclass A \x7b\n %% \x7d\n\x7d\nclass B".toList
      "classDiagram\t\nclass A \x7b\n %% \x7d\n\x7d\nclass B".toList :=
    .lineEnd hfirst hblanks hbreak
  have hreturns : Relaid "classDiagram\t\nclass A \x7b\n %% \x7d\n\x7d\nclass B".toList
      "classDiagram\t\r\nclass A \x7b\r\n %% \x7d\r\n\x7d\r\nclass B".toList :=
    .returns (by decide)
  have hchanges := ((Relation.ReflTransGen.single hcomment).tail htab).tail hreturns
  exact ⟨hchanges, (analyze_relaid hchanges).1.trans (by decide +kernel)⟩

end DocTrace
