import DocTrace.Diagram.Kind
import DocTrace.Proofs.Diagram.WrittenLines

/-! Every notation reads a diagram off the lines that are written in it: a line without characters
says nothing, and neither do blanks at the end of a line. What is written below other lines is read
in the state in which these leave the reader. -/

namespace DocTrace.Diagram

open Text

/-! ### Readers that carry a state -/

/-- The state in which a reader is left by lines. -/
def stateAfter (step : σ → List Char → σ × List Mark) (state : σ) (lines : List (List Char)) : σ :=
  lines.foldl (fun state line => (step state line).1) state

theorem stateAfter_cons (step : σ → List Char → σ × List Mark) (state : σ) (line : List Char)
    (rest : List (List Char)) :
    stateAfter step state (line :: rest) = stateAfter step (step state line).1 rest := rfl

theorem stateAfter_append (step : σ → List Char → σ × List Mark) (state : σ)
    (front back : List (List Char)) :
    stateAfter step state (front ++ back) = stateAfter step (stateAfter step state front) back :=
  List.foldl_append

theorem marksFrom_append (step : σ → List Char → σ × List Mark) (state : σ)
    (front back : List (List Char)) :
    marksFrom step state (front ++ back) =
      marksFrom step state front ++ marksFrom step (stateAfter step state front) back := by
  induction front generalizing state with
  | nil => rfl
  | cons line front ih =>
    rw [List.cons_append, marksFrom, ih, marksFrom, List.append_assoc]
    rfl

/-- A reader to which blanks at the end of a line say nothing, and neither do blanks alone. -/
structure ReadsFilled (step : σ → List Char → σ × List Mark) : Prop where
  empty : ∀ state, step state [] = (state, [])
  blanks : ∀ state line blanks, (∀ c ∈ blanks, isBlank c = true) →
    step state (line ++ blanks) = step state line

section

variable {step : σ → List Char → σ × List Mark} (h : ReadsFilled step)

include h

theorem ReadsFilled.dropEndWhile (state : σ) (line : List Char) :
    step state (dropEndWhile isBlank line) = step state line := by
  obtain ⟨blanks, hblanks, hcut⟩ := exists_dropEndWhile_append line
  rw [← h.blanks state _ _ hblanks, hcut]

theorem ReadsFilled.marksFrom_filled (state : σ) (lines : List (List Char)) :
    marksFrom step state (filled lines) = marksFrom step state lines := by
  induction lines generalizing state with
  | nil => rfl
  | cons line lines ih =>
    have hline := h.dropEndWhile state line
    by_cases hempty : Text.dropEndWhile isBlank line = []
    · rw [hempty, h.empty] at hline
      rw [filled_cons_of_eq_nil hempty, ih, marksFrom, ← hline]
      rfl
    · rw [filled_cons_of_ne_nil hempty, marksFrom, marksFrom, hline, ih]

theorem ReadsFilled.stateAfter_filled (state : σ) (lines : List (List Char)) :
    stateAfter step state (filled lines) = stateAfter step state lines := by
  induction lines generalizing state with
  | nil => rfl
  | cons line lines ih =>
    have hline := h.dropEndWhile state line
    by_cases hempty : Text.dropEndWhile isBlank line = []
    · rw [hempty, h.empty] at hline
      rw [filled_cons_of_eq_nil hempty, ih, stateAfter_cons, ← hline]
    · rw [filled_cons_of_ne_nil hempty, stateAfter_cons, stateAfter_cons, hline, ih]

/-- What is written behind a text is read in the state in which the text leaves the reader. -/
theorem ReadsFilled.marksFrom_feed {s word : List Char} (hkeyword : keyword? s = some word)
    (hdash : word.head? ≠ some '-') (state : σ) (t : List Char) :
    marksFrom step state (filledLines (clean (s ++ '\n' :: t))).tail =
      marksFrom step state (filledLines (clean s)).tail ++
        marksFrom step (stateAfter step state (bodyLines s)) (writtenLines t) := by
  rw [filledLines_clean_feed hkeyword hdash,
    List.tail_append_of_ne_nil (filledLines_clean_ne_nil hkeyword), marksFrom_append,
    tail_filledLines_clean, h.stateAfter_filled]

end

/-! ### Readers of single lines -/

theorem trim_of_blanks {s : List Char} (h : ∀ c ∈ s, isBlank c = true) : trim s = [] :=
  trim_append_of_blanks h []

theorem filterMap_filled {read : List Char → Option α} (hempty : read [] = none)
    (lines : List (List Char)) :
    ((filled lines).map trim).filterMap read = (lines.map trim).filterMap read := by
  induction lines with
  | nil => rfl
  | cons line lines ih =>
    by_cases hblank : dropEndWhile isBlank line = []
    · rw [filled_cons_of_eq_nil hblank, ih, List.map_cons,
        trim_of_blanks (dropEndWhile_eq_nil_iff.1 hblank), List.filterMap_cons_none hempty]
    · rw [filled_cons_of_ne_nil hblank, List.map_cons, List.map_cons, trim_dropEndWhile,
        List.filterMap_cons, List.filterMap_cons, ih]

/-! ### Statements of a flowchart -/

theorem map_trim_splitOn_append {sep : Char} (hsep : isBlank sep = false) {blanks : List Char}
    (h : ∀ c ∈ blanks, isBlank c = true) (s : List Char) :
    (splitOn sep (s ++ blanks)).map trim = (splitOn sep s).map trim := by
  have hend (piece : List Char) : (splitFrom sep piece blanks).map trim = [trim piece.reverse] := by
    induction blanks generalizing piece with
    | nil => rfl
    | cons c blanks ih =>
      rw [List.forall_mem_cons] at h
      have hc : c ≠ sep := by
        rintro rfl
        rw [h.1] at hsep
        contradiction
      rw [splitFrom, if_neg hc, ih h.2, List.reverse_cons,
        trim_append_of_blanks (List.forall_mem_singleton.2 h.1)]
  have hfrom (piece s : List Char) :
      (splitFrom sep piece (s ++ blanks)).map trim = (splitFrom sep piece s).map trim := by
    induction s generalizing piece with
    | nil => exact hend piece
    | cons c s ih =>
      rw [List.cons_append, splitFrom, splitFrom]
      split
      · rw [List.map_cons, List.map_cons, ih]
      · exact ih _
  exact hfrom [] s

theorem exists_dropWhile_append {blanks : List Char} (h : ∀ c ∈ blanks, isBlank c = true)
    (p : Char → Bool) (s : List Char) :
    ∃ rest, (∀ c ∈ rest, isBlank c = true) ∧ (s ++ blanks).dropWhile p = s.dropWhile p ++ rest := by
  rw [List.dropWhile_append]
  split
  · next hnil =>
    refine ⟨blanks.dropWhile p, fun c hc => h c (List.dropWhile_subset _ hc), ?_⟩
    rw [List.isEmpty_iff.1 hnil, List.nil_append]
  · exact ⟨blanks, h, rfl⟩

theorem trim_afterFirstWord_append {blanks : List Char} (h : ∀ c ∈ blanks, isBlank c = true)
    (s : List Char) : trim (afterFirstWord (s ++ blanks)) = trim (afterFirstWord s) := by
  rw [afterFirstWord, afterFirstWord, skipBlanks, skipBlanks]
  obtain ⟨before, hbefore, hs⟩ := exists_dropWhile_append h isBlank s
  obtain ⟨word, hword, hw⟩ :=
    exists_dropWhile_append hbefore (fun c => !isBlank c) (s.dropWhile isBlank)
  obtain ⟨after, hafter, ha⟩ := exists_dropWhile_append hword isBlank
    ((s.dropWhile isBlank).dropWhile fun c => !isBlank c)
  rw [hs, hw, skipBlanks, ha, trim_append_of_blanks hafter, skipBlanks]

namespace Flowchart

/-- The statements of lines that stand below the first. -/
def statementsBelow (lines : List (List Char)) : List (List Char) :=
  ((lines.flatMap (splitOn ';')).map trim).filter (!·.isEmpty)

/-- The statements of all lines. -/
def statementsOf : List (List Char) → List (List Char)
  | [] => []
  | first :: rest => statementsBelow (dropDirection (trim (afterFirstWord first)) :: rest)

theorem statementsBelow_append (front back : List (List Char)) :
    statementsBelow (front ++ back) = statementsBelow front ++ statementsBelow back := by
  rw [statementsBelow, List.flatMap_append, List.map_append, List.filter_append, statementsBelow,
    statementsBelow]

theorem statementsOf_append {front : List (List Char)} (h : front ≠ []) (back : List (List Char)) :
    statementsOf (front ++ back) = statementsOf front ++ statementsBelow back := by
  obtain ⟨first, rest, rfl⟩ := List.exists_cons_of_ne_nil h
  exact statementsBelow_append (dropDirection (trim (afterFirstWord first)) :: rest) back

theorem statementsBelow_filled (lines : List (List Char)) :
    statementsBelow (filled lines) = statementsBelow lines := by
  induction lines with
  | nil => rfl
  | cons line lines ih =>
    obtain ⟨blanks, hblanks, hcut⟩ := exists_dropEndWhile_append line
    have hsep : isBlank ';' = false := by decide
    have hpieces := map_trim_splitOn_append hsep hblanks (dropEndWhile isBlank line)
    rw [hcut] at hpieces
    have hline : statementsBelow [line] = statementsBelow [dropEndWhile isBlank line] := by
      simp only [statementsBelow, List.flatMap_singleton, hpieces]
    rw [← List.singleton_append, statementsBelow_append, ← ih, List.singleton_append, hline]
    by_cases hempty : dropEndWhile isBlank line = []
    · rw [filled_cons_of_eq_nil hempty, hempty]
      rfl
    · rw [filled_cons_of_ne_nil hempty, ← statementsBelow_append, List.singleton_append]

theorem trim_afterFirstWord_trim (s : List Char) :
    trim (afterFirstWord (trim s)) = trim (afterFirstWord s) := by
  obtain ⟨blanks, hblanks, hcut⟩ := exists_dropEndWhile_append (skipBlanks s)
  have hskip : skipBlanks (skipBlanks s) = skipBlanks s :=
    List.dropWhile_idempotent isBlank s
  have hleft : afterFirstWord (skipBlanks s) = afterFirstWord s := by
    rw [afterFirstWord, afterFirstWord, hskip]
  have hright := trim_afterFirstWord_append hblanks (dropEndWhile isBlank (skipBlanks s))
  rw [hcut, hleft] at hright
  exact hright.symm

theorem statements_eq (s : List Char) : statements s = statementsOf (filledLines (clean s)) := by
  have hstatements : statements s = statementsOf (cleanLines s) := by
    rw [statements.eq_def]
    cases cleanLines s <;> rfl
  rw [hstatements]
  cases h : cleanLines s with
  | nil => rw [filledLines_clean_of_nil h]
  | cons first rest =>
    rw [filledLines_clean_of_cons h, statementsOf, statementsOf, trim_afterFirstWord_trim,
      ← List.singleton_append, ← List.singleton_append (l := filled rest), statementsBelow_append,
      statementsBelow_append, statementsBelow_filled]

theorem marks_eq (s : List Char) :
    marks s = (statementsOf (filledLines (clean s))).flatMap statementMarks := by
  rw [marks, statements_eq]

end Flowchart

/-! ### The other notations -/

theorem lineNode?_append {line blanks : List Char} (h : ∀ c ∈ blanks, isBlank c = true) :
    Mindmap.lineNode? (line ++ blanks) = Mindmap.lineNode? line := by
  rw [Mindmap.lineNode?, Mindmap.lineNode?, trim_append_of_blanks h]
  split
  · rfl
  · next htext =>
    have hindent : Mindmap.indentation (line ++ blanks) = Mindmap.indentation line := by
      rw [Mindmap.indentation, Mindmap.indentation, List.takeWhile_append]
      split
      · next hall =>
        -- A line of spaces and tabs alone has no text.
        have hline := (List.takeWhile_prefix _).eq_of_length hall
        have hblank : trim line = [] := trim_of_blanks fun c hc => by
          rw [← hline] at hc
          have hc := List.mem_takeWhile_imp hc
          simp only [Bool.or_eq_true, decide_eq_true_eq] at hc
          rcases hc with rfl | rfl <;> rfl
        simp [hblank] at htext
      · rfl
    rw [hindent]

theorem Mindmap.readsFilled : ReadsFilled Mindmap.step where
  empty _ := rfl
  blanks state line blanks h := by simp only [Mindmap.step, lineNode?_append h]

theorem EntityRelation.readsFilled : ReadsFilled EntityRelation.step where
  empty inBlock := by cases inBlock <;> rfl
  blanks state line blanks h := by simp only [EntityRelation.step, trim_append_of_blanks h]

theorem Requirement.readsFilled : ReadsFilled Requirement.step where
  empty current := by cases current <;> rfl
  blanks state line blanks h := by simp only [Requirement.step, trim_append_of_blanks h]

theorem Class.readsFilled : ReadsFilled Class.step where
  empty depth := by
    by_cases hdepth : depth = 0
    · rw [hdepth]
      rfl
    · simp [Class.step, hdepth, trim_of_blanks, Class.balance]
  blanks state line blanks h := by simp only [Class.step, trim_append_of_blanks h]

theorem Mindmap.marks_eq (s : List Char) :
    marks s = marksFrom step [] (filledLines (clean s)).tail := by
  rw [tail_filledLines_clean, readsFilled.marksFrom_filled, marks]

theorem EntityRelation.marks_eq (s : List Char) :
    marks s = marksFrom step false (filledLines (clean s)).tail := by
  rw [tail_filledLines_clean, readsFilled.marksFrom_filled, marks]

theorem Requirement.marks_eq (s : List Char) :
    marks s = marksFrom step none (filledLines (clean s)).tail := by
  rw [tail_filledLines_clean, readsFilled.marksFrom_filled, marks]

theorem Class.marks_eq (s : List Char) :
    marks s = marksFrom step 0 (filledLines (clean s)).tail := by
  rw [tail_filledLines_clean, readsFilled.marksFrom_filled, marks]

theorem Sequence.marks_eq (s : List Char) :
    marks s =
      (((filledLines (clean s)).tail.map trim).filterMap statement?).flatMap Statement.marks := by
  rw [tail_filledLines_clean, filterMap_filled rfl, marks]

theorem State.marks_eq (s : List Char) :
    marks s =
      (((filledLines (clean s)).tail.map trim).filterMap statement?).flatMap Statement.marks := by
  rw [tail_filledLines_clean, filterMap_filled rfl, marks]

theorem C4.marks_eq (s : List Char) :
    marks s = (((filledLines (clean s)).tail.map trim).filterMap call?).flatMap Call.marks := by
  rw [tail_filledLines_clean, filterMap_filled rfl, marks]

/-! ### What is read depends on what is written -/

theorem toList_append_feed (content more : String) :
    (content ++ "\n" ++ more).toList = content.toList ++ '\n' :: more.toList := by
  rw [String.toList_append, String.toList_append, List.append_assoc]
  rfl

theorem marks_of_filledLines (kind : DiagramKind) {s t : List Char}
    (h : filledLines (clean s) = filledLines (clean t)) : kind.marks s = kind.marks t := by
  cases kind with
  | flowchart => rw [DiagramKind.marks, Flowchart.marks_eq, h, Flowchart.marks_eq]
  | sequence => rw [DiagramKind.marks, Sequence.marks_eq, h, Sequence.marks_eq]
  | state => rw [DiagramKind.marks, State.marks_eq, h, State.marks_eq]
  | er => rw [DiagramKind.marks, EntityRelation.marks_eq, h, EntityRelation.marks_eq]
  | mindmap => rw [DiagramKind.marks, Mindmap.marks_eq, h, Mindmap.marks_eq]
  | requirement => rw [DiagramKind.marks, Requirement.marks_eq, h, Requirement.marks_eq]
  | classes => rw [DiagramKind.marks, Class.marks_eq, h, Class.marks_eq]
  | c4 => rw [DiagramKind.marks, C4.marks_eq, h, C4.marks_eq]

theorem detectType_of_filledLines {s t : String}
    (h : filledLines (clean s.toList) = filledLines (clean t.toList)) :
    detectType s = detectType t := by
  rw [detectType, detectType, keyword?_congr (congrArg (·.headD []) h)]

theorem analyze_of_filledLines {s t : String}
    (h : filledLines (clean s.toList) = filledLines (clean t.toList)) : analyze s = analyze t := by
  have hkind (kind : DiagramKind) : kind.analyze s = kind.analyze t := by
    rw [DiagramKind.analyze, DiagramKind.analyze, marks_of_filledLines kind h]
  simp only [analyze, analyzeAs, detectType_of_filledLines h, hkind]

end DocTrace.Diagram

namespace DocTrace

theorem DiagramKind.head?_opener {kind : DiagramKind} {word : List Char}
    (h : .ofList word ∈ kind.openers) : word.head? ≠ some '-' := by
  have hall : ∀ kind ∈ all, ∀ opener ∈ kind.openers, opener.toList.head? ≠ some '-' := by decide
  have hhead := hall kind kind.mem_all _ h
  rwa [String.toList_ofList] at hhead

end DocTrace
