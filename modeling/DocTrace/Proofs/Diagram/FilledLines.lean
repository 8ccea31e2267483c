import DocTrace.Proofs.Diagram.PlainText

/-! The lines of a text that hold a character that is no blank, without the blanks at their ends. A
text can be cut at any line break: the filled lines of the whole are those of the two parts. Blanks
at the end count for nothing, and those at the beginning only move the first line. -/

namespace DocTrace.Diagram

open Text

/-! ### Lines that hold a character -/

/-- Lines without the blanks at their ends, where anything is left. -/
def filled (lines : List (List Char)) : List (List Char) :=
  (lines.map (dropEndWhile isBlank)).filter (!·.isEmpty)

def filledLines (s : List Char) : List (List Char) := filled (lines s)

theorem dropEndWhile_append (p : Char → Bool) (s t : List Char) :
    dropEndWhile p (s ++ t) =
      if dropEndWhile p t = [] then dropEndWhile p s else s ++ dropEndWhile p t := by
  simp only [dropEndWhile, List.reverse_append, List.dropWhile_append, List.isEmpty_iff,
    List.reverse_eq_nil_iff]
  split
  · rfl
  · rw [List.reverse_append, List.reverse_reverse]

theorem dropEndWhile_eq_nil_iff {p : Char → Bool} {s : List Char} :
    dropEndWhile p s = [] ↔ ∀ c ∈ s, p c = true := by
  simp [dropEndWhile, List.dropWhile_eq_nil_iff]

theorem dropEndWhile_append_of_forall {p : Char → Bool} {t : List Char} (h : ∀ c ∈ t, p c = true)
    (s : List Char) : dropEndWhile p (s ++ t) = dropEndWhile p s := by
  rw [dropEndWhile_append, if_pos (dropEndWhile_eq_nil_iff.2 h)]

section

variable {blanks : List Char} (hblanks : ∀ c ∈ blanks, isBlank c = true)

include hblanks

theorem filled_blanks : filled [blanks] = [] := by
  simp [filled, dropEndWhile_eq_nil_iff.2 hblanks]

theorem filled_append_blanks (line : List Char) : filled [line ++ blanks] = filled [line] := by
  simp only [filled, List.map_singleton, dropEndWhile_append_of_forall hblanks]

end

theorem filled_append (front back : List (List Char)) :
    filled (front ++ back) = filled front ++ filled back := by
  rw [filled, List.map_append, List.filter_append, filled, filled]

theorem filled_cons (line : List Char) (rest : List (List Char)) :
    filled (line :: rest) = filled [line] ++ filled rest :=
  filled_append [line] rest

theorem filled_cons_of_eq_nil {line : List Char} (h : dropEndWhile isBlank line = [])
    (rest : List (List Char)) : filled (line :: rest) = filled rest := by
  simp [filled, h]

theorem filled_cons_of_ne_nil {line : List Char} (h : dropEndWhile isBlank line ≠ [])
    (rest : List (List Char)) :
    filled (line :: rest) = dropEndWhile isBlank line :: filled rest := by
  simp [filled, h]

theorem filled_linesFrom_nil (line : List Char) :
    filled (linesFrom line []) = filled [line.reverse] := by
  cases line with
  | nil => rfl
  | cons c line => rfl

theorem filled_linesFrom_cons_break {c : Char} (hc : isLineBreak c = true) (line s : List Char) :
    filled (linesFrom line (c :: s)) = filled [line.reverse] ++ filledLines s := by
  by_cases hpair : c = '\r' ∧ s.head? = some '\n'
  · obtain ⟨rfl, hhead⟩ := hpair
    obtain ⟨t, rfl⟩ := List.head?_eq_some_iff.1 hhead
    rw [linesFrom, filled_cons]
    rfl
  · rw [linesFrom_cons_break hc fun heq hhead => hpair ⟨heq, hhead⟩, filled_cons, filledLines,
      lines]

/-- A text can be cut at any line break. -/
theorem filled_linesFrom_append_break {c : Char} (hc : isLineBreak c = true)
    (line s t : List Char) :
    filled (linesFrom line (s ++ c :: t)) = filled (linesFrom line s) ++ filledLines t := by
  induction s generalizing line with
  | nil => rw [List.nil_append, filled_linesFrom_cons_break hc, filled_linesFrom_nil]
  | cons d s ih =>
    rw [List.cons_append]
    cases hd : isLineBreak d with
    | true =>
      rw [filled_linesFrom_cons_break hd, filled_linesFrom_cons_break hd, filledLines, lines, ih,
        List.append_assoc]
      rfl
    | false => rw [linesFrom_cons hd, linesFrom_cons hd, ih]

theorem filledLines_append_break {c : Char} (hc : isLineBreak c = true) (s t : List Char) :
    filledLines (s ++ c :: t) = filledLines s ++ filledLines t :=
  filled_linesFrom_append_break hc [] s t

theorem filled_linesFrom_append_blanks {blanks : List Char} (h : ∀ c ∈ blanks, isBlank c = true)
    (line s : List Char) : filled (linesFrom line (s ++ blanks)) = filled (linesFrom line s) := by
  induction s generalizing line with
  | nil =>
    rw [List.nil_append, filled_linesFrom_nil]
    induction blanks generalizing line with
    | nil => exact filled_linesFrom_nil line
    | cons c blanks ih =>
      rw [List.forall_mem_cons] at h
      cases hc : isLineBreak c with
      | true =>
        have hrest : filledLines blanks = [] := ih h.2 []
        rw [filled_linesFrom_cons_break hc, hrest, List.append_nil]
      | false =>
        rw [linesFrom_cons hc, ih h.2, List.reverse_cons,
          filled_append_blanks (List.forall_mem_singleton.2 h.1)]
  | cons d s ih =>
    rw [List.cons_append]
    cases hd : isLineBreak d with
    | true =>
      rw [filled_linesFrom_cons_break hd, filled_linesFrom_cons_break hd, filledLines, lines, ih]
      rfl
    | false => rw [linesFrom_cons hd, linesFrom_cons hd, ih]

theorem filledLines_append_blanks {blanks : List Char} (h : ∀ c ∈ blanks, isBlank c = true)
    (s : List Char) : filledLines (s ++ blanks) = filledLines s :=
  filled_linesFrom_append_blanks h [] s

theorem filledLines_of_blanks {blanks : List Char} (h : ∀ c ∈ blanks, isBlank c = true) :
    filledLines blanks = [] :=
  filledLines_append_blanks h []

theorem filled_linesFrom_line {s : List Char} (h : ∀ c ∈ s, isLineBreak c = false)
    (line : List Char) : filled (linesFrom line s) = filled [line.reverse ++ s] := by
  induction s generalizing line with
  | nil => rw [filled_linesFrom_nil, List.append_nil]
  | cons c s ih =>
    rw [List.forall_mem_cons] at h
    rw [linesFrom_cons h.1, ih h.2, List.reverse_cons, List.append_assoc, List.singleton_append]

theorem filledLines_line {s : List Char} (h : ∀ c ∈ s, isLineBreak c = false) :
    filledLines s = filled [s] :=
  filled_linesFrom_line h []

theorem filledLines_dropEndWhile (s : List Char) :
    filledLines (dropEndWhile isBlank s) = filledLines s := by
  obtain ⟨blanks, hblanks, hcut⟩ := exists_dropEndWhile_append s
  rw [← filledLines_append_blanks hblanks, hcut]

/-! ### Blanks before the first line -/

/-- Lines of which the first is moved to the left. -/
def unindented : List (List Char) → List (List Char)
  | [] => []
  | line :: rest => skipBlanks line :: rest

theorem unindented_append {front : List (List Char)} (h : front ≠ []) (back : List (List Char)) :
    unindented (front ++ back) = unindented front ++ back := by
  obtain ⟨line, rest, rfl⟩ := List.exists_cons_of_ne_nil h
  rfl

/-- What was read before belongs to the first line alone. -/
theorem exists_linesFrom_append_line {begun : List Char} (h : begun ≠ []) (line s : List Char) :
    ∃ first rest, linesFrom begun s = first :: rest ∧ begun.reverse <+: first ∧
      linesFrom (begun ++ line) s = (line.reverse ++ first) :: rest := by
  induction s generalizing begun with
  | nil => exact ⟨begun.reverse, [], by simp [linesFrom, h], List.prefix_refl _, by
      simp [linesFrom, h]⟩
  | cons c s ih =>
    cases hc : isLineBreak c with
    | true =>
      by_cases hpair : c = '\r' ∧ s.head? = some '\n'
      · obtain ⟨rfl, hhead⟩ := hpair
        obtain ⟨t, rfl⟩ := List.head?_eq_some_iff.1 hhead
        exact ⟨begun.reverse, lines t, rfl, List.prefix_refl _, by
          rw [linesFrom, List.reverse_append]; rfl⟩
      · have hnext : c = '\r' → s.head? ≠ some '\n' := fun heq hhead => hpair ⟨heq, hhead⟩
        exact ⟨begun.reverse, lines s, linesFrom_cons_break hc hnext begun, List.prefix_refl _, by
          rw [linesFrom_cons_break hc hnext, List.reverse_append]; rfl⟩
    | false =>
      obtain ⟨first, rest, hfirst, hprefix, hwhole⟩ := ih (List.cons_ne_nil c begun)
      refine ⟨first, rest, by rw [linesFrom_cons hc, hfirst], ?_, by
        rw [linesFrom_cons hc, ← List.cons_append, hwhole]⟩
      rw [List.reverse_cons] at hprefix
      exact (List.prefix_append _ _).trans hprefix

theorem unindented_filled_linesFrom {line : List Char} (hline : ∀ c ∈ line, isBlank c = true)
    (s : List Char) :
    unindented (filled (linesFrom line s)) = filledLines (s.dropWhile isBlank) := by
  induction s generalizing line with
  | nil =>
    have hblank : ∀ c ∈ line.reverse, isBlank c = true := by simpa using hline
    rw [filled_linesFrom_nil, filled_blanks hblank]
    rfl
  | cons c s ih =>
    cases hc : isBlank c with
    | true =>
      rw [List.dropWhile_cons_of_pos hc]
      cases hbreak : isLineBreak c with
      | true =>
        have hblank : ∀ c ∈ line.reverse, isBlank c = true := by simpa using hline
        rw [filled_linesFrom_cons_break hbreak, filled_blanks hblank, List.nil_append]
        exact ih (List.forall_mem_nil _)
      | false =>
        rw [linesFrom_cons hbreak]
        exact ih (List.forall_mem_cons.2 ⟨hc, hline⟩)
    | false =>
      have hbreak : isLineBreak c = false := isLineBreak_eq_false hc
      obtain ⟨first, rest, hfirst, ⟨more, rfl⟩, hwhole⟩ :=
        exists_linesFrom_append_line (List.cons_ne_nil c []) line s
      have hkept : dropEndWhile isBlank (c :: more) ≠ [] := by
        rw [dropEndWhile_cons hc]
        exact List.cons_ne_nil c _
      have hwide : dropEndWhile isBlank (line.reverse ++ c :: more) =
          line.reverse ++ dropEndWhile isBlank (c :: more) := by
        rw [dropEndWhile_append, if_neg hkept]
      have hleft : skipBlanks (line.reverse ++ dropEndWhile isBlank (c :: more)) =
          dropEndWhile isBlank (c :: more) := by
        rw [skipBlanks, List.dropWhile_append_of_pos (by simpa using hline), dropEndWhile_cons hc,
          List.dropWhile_cons_of_neg (by simp [hc])]
      rw [List.dropWhile_cons_of_neg (by simp [hc]), filledLines, lines, linesFrom_cons hbreak,
        linesFrom_cons hbreak, ← List.singleton_append, hwhole, hfirst, List.reverse_singleton,
        List.singleton_append, filled_cons_of_ne_nil hkept,
        filled_cons_of_ne_nil (by simp [hwide, hkept]), hwide, unindented, hleft]

theorem filledLines_trim (s : List Char) : filledLines (trim s) = unindented (filledLines s) := by
  rw [trim, stripChars, filledLines_dropEndWhile]
  exact (unindented_filled_linesFrom (List.forall_mem_nil _) s).symm

end DocTrace.Diagram
