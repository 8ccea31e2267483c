import DocTrace.Proofs.Diagram.Cleaning
import DocTrace.Proofs.Header.Fences
import DocTrace.Proofs.Header.Parsing
import Mathlib.Data.List.DropRight

/-! The header block that cleaning takes off a diagram, beside the header that a document is split
at. The block stands between two lines of three dashes alone that are not next to each other, and
the second ends with a line break. A document whose header is no such block, or whose body opens
with a block of its own, is not cleaned as a whole as it is after it is split. -/

namespace DocTrace.Diagram

open Text Header

/-- Three dashes alone on a line. -/
def IsRule (line : List Char) : Prop := line = dashes ++ ['\n'] ∨ line = dashes ++ ['\r', '\n']

/-- A text that begins with a block: lines between two lines of three dashes alone. -/
def OpensBlock (s : List Char) : Prop :=
  ∃ opening lines closing rest, IsRule opening ∧ lines ≠ [] ∧ (∀ line ∈ lines, IsLine line) ∧
    IsRule closing ∧ s = opening ++ lines.flatten ++ closing ++ rest

/-- The header of a text is a block as well. -/
structure IsBlock (f : Framed) : Prop where
  opens : IsRule f.opening
  lines : f.lines ≠ []
  closes : IsRule f.closing

theorem IsRule.isFence {line : List Char} (h : IsRule line) : IsFence line :=
  ⟨dashes, ⟨[], by simp, by simp⟩, h⟩

/-! ### The block that is found -/

/-- What follows a line of three dashes alone. -/
def afterRule? (s : List Char) : Option (List Char) := (after? dashes s).bind newline?

/-- What follows the first line of three dashes alone. -/
def afterFirstRule? (s : List Char) : Option (List Char) :=
  (afterRule? s).orElse fun _ => afterBlockEnd? s

/-- What follows the block that a text opens with. -/
def afterBlock? (s : List Char) : Option (List Char) := (afterRule? s).bind afterBlockEnd?

theorem dropHeaderBlock_eq (s : List Char) : dropHeaderBlock s = (afterBlock? s).getD s := rfl

theorem afterRule?_eq_some_iff {s rest : List Char} :
    afterRule? s = some rest ↔ ∃ line, IsRule line ∧ s = line ++ rest := by
  simp only [afterRule?, Option.bind_eq_some_iff, newline?_eq_some_iff]
  constructor
  · rintro ⟨t, ht, rfl | rfl⟩
    · exact ⟨_, .inl rfl, by simpa using eq_append_of_after? ht⟩
    · exact ⟨_, .inr rfl, by simpa using eq_append_of_after? ht⟩
  · rintro ⟨line, rfl | rfl, rfl⟩
    · exact ⟨'\n' :: rest, by simpa using after?_append dashes ('\n' :: rest), .inl rfl⟩
    · exact ⟨'\r' :: '\n' :: rest, by simpa using after?_append dashes ('\r' :: '\n' :: rest),
        .inr rfl⟩

theorem afterRule?_rule {line : List Char} (h : IsRule line) (rest : List Char) :
    afterRule? (line ++ rest) = some rest := afterRule?_eq_some_iff.2 ⟨line, h, rfl⟩

theorem afterRule?_line {line : List Char} (hline : IsLine line) (hrule : ¬IsRule line)
    (rest : List Char) : afterRule? (line ++ rest) = none := by
  rw [Option.eq_none_iff_forall_ne_some]
  intro after hafter
  obtain ⟨rule, hisRule, hsame⟩ := afterRule?_eq_some_iff.1 hafter
  obtain ⟨rfl, -⟩ := line_inj hline hisRule.isFence.isLine hsame
  exact hrule hisRule

/-- The end of the block is looked for behind a line break, so never on the first line. -/
theorem afterBlockEnd?_line {line : List Char} (hline : IsLine line) (rest : List Char) :
    afterBlockEnd? (line ++ rest) = afterFirstRule? rest := by
  obtain ⟨text, htext, rfl⟩ := hline
  rw [List.append_assoc, List.singleton_append]
  induction text with
  | nil => rfl
  | cons c text ih =>
    have hc : c ≠ '\n' := fun h => htext (h ▸ List.mem_cons_self ..)
    have hrest := ih fun h => htext (.tail _ h)
    rw [List.cons_append, afterBlockEnd?, hrest]
    cases hbreak : newline? (c :: (text ++ '\n' :: rest)) with
    | none => rfl
    | some after =>
      -- The line ends with both characters of a line break, and the search stops at the first.
      have hafter : after = rest := by
        rcases newline?_eq_some_iff.1 hbreak with h | h
        · exact absurd (List.cons.inj h).1 hc
        · cases text with
          | nil => exact (by simpa using h.symm : '\r' = c ∧ after = rest).2
          | cons d text =>
            have hd : d = '\n' := by simpa using (List.cons.inj (List.cons.inj h).2).1
            exact absurd (hd ▸ .tail _ (List.mem_cons_self ..)) htext
      rw [hafter]
      show (afterRule? rest).orElse (fun _ => afterFirstRule? rest) = afterFirstRule? rest
      rw [afterFirstRule?]
      cases afterRule? rest <;> rfl

theorem afterBlockEnd?_noBreak {s : List Char} (h : '\n' ∉ s) : afterBlockEnd? s = none := by
  induction s with
  | nil => rfl
  | cons c s ih =>
    have hbreak : newline? (c :: s) = none := by
      rw [Option.eq_none_iff_forall_ne_some]
      intro rest hrest
      rcases newline?_eq_some_iff.1 hrest with heq | heq
      · exact h (heq ▸ List.mem_cons_self ..)
      · exact h (heq ▸ .tail _ (List.mem_cons_self ..))
    rw [afterBlockEnd?, hbreak, ih fun hmem => h (.tail _ hmem)]
    rfl

theorem afterFirstRule?_rule {line : List Char} (h : IsRule line) (rest : List Char) :
    afterFirstRule? (line ++ rest) = some rest := by
  rw [afterFirstRule?, afterRule?_rule h]
  rfl

theorem afterFirstRule?_line {line : List Char} (hline : IsLine line) (hrule : ¬IsRule line)
    (rest : List Char) : afterFirstRule? (line ++ rest) = afterFirstRule? rest := by
  rw [afterFirstRule?, afterRule?_line hline hrule, ← afterBlockEnd?_line hline]
  rfl

theorem afterFirstRule?_lines {lines : List (List Char)}
    (hlines : ∀ line ∈ lines, IsLine line ∧ ¬IsRule line) (rest : List Char) :
    afterFirstRule? (lines.flatten ++ rest) = afterFirstRule? rest := by
  induction lines with
  | nil => rfl
  | cons line lines ih =>
    obtain ⟨⟨hline, hrule⟩, hmore⟩ := List.forall_mem_cons.1 hlines
    rw [List.flatten_cons, List.append_assoc, afterFirstRule?_line hline hrule, ih hmore]

theorem afterFirstRule?_noBreak {s : List Char} (h : '\n' ∉ s) : afterFirstRule? s = none := by
  have hrule : afterRule? s = none := by
    rw [Option.eq_none_iff_forall_ne_some]
    intro rest hrest
    obtain ⟨line, hline, rfl⟩ := afterRule?_eq_some_iff.1 hrest
    obtain ⟨text, -, rfl⟩ := hline.isFence.isLine
    exact h (by simp)
  rw [afterFirstRule?, hrule, afterBlockEnd?_noBreak h]
  rfl

/-- What is found stands behind the first line of three dashes alone. -/
theorem exists_of_afterFirstRule? {s rest : List Char} (h : afterFirstRule? s = some rest) :
    ∃ (lines : List (List Char)) (rule : List Char),
      (∀ line ∈ lines, IsLine line ∧ ¬IsRule line) ∧ IsRule rule ∧
        s = lines.flatten ++ rule ++ rest := by
  obtain ⟨lines, last, hlines, hlast, rfl⟩ := exists_lines s
  induction lines with
  | nil =>
    rw [List.flatten_nil, List.nil_append, afterFirstRule?_noBreak hlast] at h
    contradiction
  | cons line lines ih =>
    obtain ⟨hline, hmore⟩ := List.forall_mem_cons.1 hlines
    rw [List.flatten_cons, List.append_assoc] at h ⊢
    by_cases hrule : IsRule line
    · rw [afterFirstRule?_rule hrule] at h
      exact ⟨[], line, by simp, hrule, by rw [← Option.some.inj h]; simp⟩
    · rw [afterFirstRule?_line hline hrule] at h
      obtain ⟨before, rule, hbefore, hisRule, hsame⟩ := ih hmore h
      refine ⟨line :: before, rule, List.forall_mem_cons.2 ⟨⟨hline, hrule⟩, hbefore⟩, hisRule, ?_⟩
      rw [hsame]
      simp

theorem isSome_afterFirstRule? {lines : List (List Char)} {rule : List Char}
    (hlines : ∀ line ∈ lines, IsLine line) (hrule : IsRule rule) (rest : List Char) :
    (afterFirstRule? (lines.flatten ++ rule ++ rest)).isSome := by
  induction lines with
  | nil =>
    rw [List.flatten_nil, List.nil_append, afterFirstRule?_rule hrule]
    rfl
  | cons line lines ih =>
    obtain ⟨hline, hmore⟩ := List.forall_mem_cons.1 hlines
    rw [List.flatten_cons, List.append_assoc, List.append_assoc, ← List.append_assoc lines.flatten]
    by_cases hisRule : IsRule line
    · rw [afterFirstRule?_rule hisRule]
      rfl
    · rw [afterFirstRule?_line hline hisRule]
      exact ih hmore

/-- The end of the block is found behind the first line. -/
theorem exists_of_afterBlockEnd? {s rest : List Char} (h : afterBlockEnd? s = some rest) :
    ∃ first after, IsLine first ∧ s = first ++ after ∧ afterFirstRule? after = some rest := by
  obtain ⟨lines, last, hlines, hlast, rfl⟩ := exists_lines s
  cases lines with
  | nil =>
    rw [List.flatten_nil, List.nil_append, afterBlockEnd?_noBreak hlast] at h
    contradiction
  | cons first lines =>
    have hfirst := hlines first (List.mem_cons_self ..)
    rw [List.flatten_cons, List.append_assoc] at h ⊢
    rw [afterBlockEnd?_line hfirst] at h
    exact ⟨first, _, hfirst, rfl, h⟩

theorem opensBlock_iff {s : List Char} : OpensBlock s ↔ ∃ rest, afterBlock? s = some rest := by
  constructor
  · rintro ⟨opening, lines, closing, rest, hopening, hne, hlines, hclosing, rfl⟩
    obtain ⟨first, more, rfl⟩ := List.exists_cons_of_ne_nil hne
    obtain ⟨hfirst, hmore⟩ := List.forall_mem_cons.1 hlines
    have hblock : afterBlock? (opening ++ (first :: more).flatten ++ closing ++ rest) =
        afterFirstRule? (more.flatten ++ closing ++ rest) := by
      simp only [List.flatten_cons, List.append_assoc]
      rw [afterBlock?, afterRule?_rule hopening, Option.bind_some, afterBlockEnd?_line hfirst]
    rw [hblock]
    exact Option.isSome_iff_exists.1 (isSome_afterFirstRule? hmore hclosing rest)
  · rintro ⟨rest, h⟩
    obtain ⟨after, hafter, hend⟩ := Option.bind_eq_some_iff.1 h
    obtain ⟨opening, hopening, rfl⟩ := afterRule?_eq_some_iff.1 hafter
    obtain ⟨first, behind, hfirst, rfl, hfound⟩ := exists_of_afterBlockEnd? hend
    obtain ⟨more, closing, hmore, hclosing, rfl⟩ := exists_of_afterFirstRule? hfound
    exact ⟨opening, first :: more, closing, rest, hopening, by simp,
      List.forall_mem_cons.2 ⟨hfirst, fun line hline => (hmore line hline).1⟩, hclosing, by simp⟩

theorem dropHeaderBlock_of_not_opensBlock {s : List Char} (h : ¬OpensBlock s) :
    dropHeaderBlock s = s := by
  have hnone : afterBlock? s = none := by
    rw [Option.eq_none_iff_forall_ne_some]
    exact fun rest hrest => h (opensBlock_iff.2 ⟨rest, hrest⟩)
  rw [dropHeaderBlock_eq, hnone, Option.getD_none]

/-! ### A block is found in any text that goes on -/

theorem afterFirstRule?_append {s rest : List Char} (h : afterFirstRule? s = some rest)
    (t : List Char) : afterFirstRule? (s ++ t) = some (rest ++ t) := by
  obtain ⟨lines, rule, hlines, hrule, rfl⟩ := exists_of_afterFirstRule? h
  rw [List.append_assoc, List.append_assoc, afterFirstRule?_lines hlines,
    afterFirstRule?_rule hrule]

theorem afterBlock?_append {s rest : List Char} (h : afterBlock? s = some rest) (t : List Char) :
    afterBlock? (s ++ t) = some (rest ++ t) := by
  obtain ⟨after, hafter, hend⟩ := Option.bind_eq_some_iff.1 h
  obtain ⟨opening, hopening, rfl⟩ := afterRule?_eq_some_iff.1 hafter
  obtain ⟨first, behind, hfirst, rfl, hfound⟩ := exists_of_afterBlockEnd? hend
  rw [List.append_assoc, List.append_assoc, afterBlock?, afterRule?_rule hopening,
    Option.bind_some, afterBlockEnd?_line hfirst, afterFirstRule?_append hfound]

/-! ### The dashes that are left -/

theorem count_dropWhile {p : Char → Bool} {c : Char} (h : p c = false) (s : List Char) :
    (s.dropWhile p).count c = s.count c := by
  have hbefore : (s.takeWhile p).count c = 0 := by
    rw [List.count_eq_zero]
    intro hmem
    rw [List.mem_takeWhile_imp hmem] at h
    contradiction
  have hsum := congrArg (List.count c) (List.takeWhile_append_dropWhile (p := p) (l := s))
  rw [List.count_append, hbefore, Nat.zero_add] at hsum
  exact hsum

theorem count_trim {c : Char} (h : isBlank c = false) (s : List Char) :
    (trim s).count c = s.count c := by
  rw [trim, stripChars, dropEndWhile, List.count_reverse, count_dropWhile h, List.count_reverse,
    count_dropWhile h]

/-- How many dashes are left of a text without its comments. -/
def dashesLeft (s : List Char) : ℕ := (dropComments s).count '-'

theorem count_clean {s : List Char} (h : s.dropWhile (· = byteOrderMark) = s) :
    (clean s).count '-' = dashesLeft (dropHeaderBlock s) := by
  rw [clean, count_trim (by decide), h, dashesLeft]

theorem endsLine_flatten {lines : List (List Char)} (hlines : ∀ line ∈ lines, IsLine line) :
    EndsLine lines.flatten := by
  rcases List.eq_nil_or_concat lines with rfl | ⟨before, line, rfl⟩
  · simp [EndsLine]
  · obtain ⟨text, -, rfl⟩ := hlines line (by simp)
    intro c hc
    simpa [eq_comm] using hc

/-- A line of dashes is no comment. -/
theorem dropComments_fence {before line : List Char} (hbefore : EndsLine before)
    (hline : IsFence line) (rest : List Char) :
    dropComments (before ++ line ++ rest) = dropComments before ++ line ++ dropComments rest := by
  obtain ⟨text, htext, rfl⟩ := hline.isLine
  have hopens : opensComment (text ++ '\n' :: rest) = false := by
    obtain ⟨d, ⟨blanks, -, rfl⟩, hd | hd⟩ := hline
    · rw [List.append_cancel_right hd]
      rfl
    · have htext : text = dashes ++ blanks ++ ['\r'] :=
        List.append_cancel_right (hd.trans (by simp))
      rw [htext]
      rfl
  have hwhole : before ++ (text ++ ['\n']) ++ rest = before ++ (text ++ '\n' :: rest) := by simp
  rw [hwhole, dropComments_append hbefore hopens, dropComments_line htext hopens]
  simp

theorem dashesLeft_fence {before line : List Char} (hbefore : EndsLine before)
    (hline : IsFence line) (rest : List Char) :
    dashesLeft rest < dashesLeft (before ++ line ++ rest) := by
  have hdash : 0 < line.count '-' := by
    obtain ⟨_, ⟨blanks, -, rfl⟩, rfl | rfl⟩ := hline
    · simp [dashes]
    · simp [dashes]
  rw [dashesLeft, dashesLeft, dropComments_fence hbefore hline, List.count_append,
    List.count_append]
  omega

theorem dashesLeft_afterFirstRule {s rest : List Char} (h : afterFirstRule? s = some rest) :
    dashesLeft rest < dashesLeft s := by
  obtain ⟨lines, rule, hlines, hrule, rfl⟩ := exists_of_afterFirstRule? h
  have hends : EndsLine lines.flatten := endsLine_flatten fun line hline => (hlines line hline).1
  exact dashesLeft_fence hends hrule.isFence rest

/-- The end of a block is also behind the first line of three dashes alone after its opening. -/
theorem dashesLeft_afterBlock {s rest : List Char} (h : afterBlock? s = some rest) :
    ∃ after, afterFirstRule? s = some after ∧ dashesLeft rest < dashesLeft after := by
  obtain ⟨after, hafter, hend⟩ := Option.bind_eq_some_iff.1 h
  obtain ⟨first, behind, hfirst, rfl, hfound⟩ := exists_of_afterBlockEnd? hend
  obtain ⟨lines, rule, hlines, hrule, rfl⟩ := exists_of_afterFirstRule? hfound
  refine ⟨_, by rw [afterFirstRule?, hafter]; rfl, ?_⟩
  have hends : EndsLine (first :: lines).flatten :=
    endsLine_flatten (List.forall_mem_cons.2 ⟨hfirst, fun line hline => (hlines line hline).1⟩)
  simpa using dashesLeft_fence hends hrule.isFence rest

theorem dashesLeft_dropHeaderBlock_lt {s : List Char} (h : OpensBlock s) :
    dashesLeft (dropHeaderBlock s) < dashesLeft s := by
  obtain ⟨rest, hrest⟩ := opensBlock_iff.1 h
  obtain ⟨after, hafter, hless⟩ := dashesLeft_afterBlock hrest
  rw [dropHeaderBlock_eq, hrest, Option.getD_some]
  exact hless.trans (dashesLeft_afterFirstRule hafter)

theorem dashesLeft_dropHeaderBlock_le (s : List Char) :
    dashesLeft (dropHeaderBlock s) ≤ dashesLeft s := by
  by_cases hopens : OpensBlock s
  · exact (dashesLeft_dropHeaderBlock_lt hopens).le
  · rw [dropHeaderBlock_of_not_opensBlock hopens]

/-- A text is never cut behind the first line of three dashes alone: its block goes on behind that
line, or there is no block. -/
theorem dashesLeft_dropHeaderBlock_ne {s after : List Char} (h : afterFirstRule? s = some after) :
    dashesLeft (dropHeaderBlock s) ≠ dashesLeft after := by
  rw [dropHeaderBlock_eq]
  cases hblock : afterBlock? s with
  | none => exact (dashesLeft_afterFirstRule h).ne'
  | some rest =>
    obtain ⟨other, hother, hless⟩ := dashesLeft_afterBlock hblock
    obtain rfl := Option.some.inj (h.symm.trans hother)
    exact hless.ne

/-! ### Texts with a header -/

section Documents

variable {f : Framed}

/-- A text with a header, without the mark before it. -/
def unmarkedText (f : Framed) : List Char :=
  f.opening ++ (f.lines.flatten ++ (f.closing ++ f.body))

theorem dropWhile_text (f : Framed) :
    f.text.dropWhile (· = byteOrderMark) = unmarkedText f := by
  obtain ⟨d, ⟨blanks, -, rfl⟩, hopening⟩ := f.opens
  have hstart : ∃ t, unmarkedText f = '-' :: t := by
    rcases hopening with hopening | hopening
    · exact ⟨_, by rw [unmarkedText, hopening]; rfl⟩
    · exact ⟨_, by rw [unmarkedText, hopening]; rfl⟩
  obtain ⟨t, ht⟩ := hstart
  have hkept : (unmarkedText f).dropWhile (· = byteOrderMark) = unmarkedText f := by
    rw [ht]
    rfl
  have htext : f.text = f.mark ++ unmarkedText f := by simp [Framed.text, unmarkedText]
  rw [htext]
  rcases f.isMark with hmark | hmark
  · rw [hmark]
    exact hkept
  · rw [hmark, List.singleton_append, List.dropWhile_cons_of_pos (by simp)]
    exact hkept

theorem dropWhile_unmarkedText (f : Framed) :
    (unmarkedText f).dropWhile (· = byteOrderMark) = unmarkedText f := by
  rw [← dropWhile_text, List.dropWhile_idempotent]

theorem clean_text (f : Framed) : clean f.text = clean (unmarkedText f) := by
  rw [clean, clean, dropWhile_text, dropWhile_unmarkedText]

/-- The lines of the header are none of dashes, so the search for the end of the block passes
over them. -/
theorem afterFirstRule?_between {lines : List (List Char)} (hlines : ∀ line ∈ lines, IsLine line)
    (hfirst : ∀ line ∈ lines, ¬IsFence line) (rest : List Char) :
    afterFirstRule? (lines.flatten ++ rest) = afterFirstRule? rest :=
  afterFirstRule?_lines (fun line hline =>
    ⟨hlines line hline, fun hrule => hfirst line hline hrule.isFence⟩) rest

theorem afterBlock?_of_isBlock (hfirst : f.IsFirst) (hblock : IsBlock f) :
    afterBlock? (unmarkedText f) = some f.body := by
  obtain ⟨first, more, hlines⟩ := List.exists_cons_of_ne_nil hblock.lines
  obtain ⟨hline, hmore⟩ := List.forall_mem_cons.1 (hlines ▸ f.isLine)
  have hpassed : ∀ line ∈ more, ¬IsFence line := fun line hmem =>
    hfirst line (hlines ▸ List.mem_cons_of_mem first hmem)
  rw [afterBlock?, unmarkedText, afterRule?_rule hblock.opens, Option.bind_some, hlines,
    List.flatten_cons, List.append_assoc, afterBlockEnd?_line hline,
    afterFirstRule?_between hmore hpassed, afterFirstRule?_rule hblock.closes]

/-- Where the header is no block, the block ends within the body, if it ends at all. -/
theorem afterBlock?_of_not_isBlock (hfirst : f.IsFirst) (hblock : ¬IsBlock f) :
    afterBlock? (unmarkedText f) = none ∨
      afterBlock? (unmarkedText f) = afterFirstRule? f.body := by
  by_cases hopening : IsRule f.opening
  · rw [afterBlock?, unmarkedText, afterRule?_rule hopening, Option.bind_some]
    cases hlines : f.lines with
    | nil =>
      rw [List.flatten_nil, List.nil_append]
      rcases f.closes with hclosing | ⟨hclosing, hbody⟩
      · exact .inr (afterBlockEnd?_line hclosing.isLine _)
      · rw [hbody, List.append_nil]
        exact .inl (afterBlockEnd?_noBreak (newline_not_mem_of_isDashes hclosing))
    | cons first more =>
      obtain ⟨hline, hmore⟩ := List.forall_mem_cons.1 (hlines ▸ f.isLine)
      have hpassed : ∀ line ∈ more, ¬IsFence line := fun line hmem =>
        hfirst line (hlines ▸ List.mem_cons_of_mem first hmem)
      have hclosing : ¬IsRule f.closing := fun hrule =>
        hblock ⟨hopening, by simp [hlines], hrule⟩
      rw [List.flatten_cons, List.append_assoc, afterBlockEnd?_line hline,
        afterFirstRule?_between hmore hpassed]
      rcases f.closes with hfence | ⟨hdashes, hbody⟩
      · exact .inr (afterFirstRule?_line hfence.isLine hclosing _)
      · rw [hbody, List.append_nil]
        exact .inl (afterFirstRule?_noBreak (newline_not_mem_of_isDashes hdashes))
  · left
    rw [afterBlock?, unmarkedText, afterRule?_line f.opens.isLine hopening, Option.bind_none]

theorem dashesLeft_body (f : Framed) : dashesLeft f.body < dashesLeft (unmarkedText f) := by
  have hnothing : EndsLine [] := by simp [EndsLine]
  have hopening : dashesLeft (f.lines.flatten ++ (f.closing ++ f.body)) <
      dashesLeft (unmarkedText f) := dashesLeft_fence hnothing f.opens _
  refine lt_of_le_of_lt ?_ hopening
  rcases f.closes with hclosing | ⟨-, hbody⟩
  · rw [← List.append_assoc]
    exact (dashesLeft_fence (endsLine_flatten f.isLine) hclosing f.body).le
  · rw [hbody]
    exact Nat.zero_le _

theorem dropHeaderBlock_of_isBlock (hfirst : f.IsFirst) (hblock : IsBlock f) :
    dropHeaderBlock (unmarkedText f) = f.body := by
  rw [dropHeaderBlock_eq, afterBlock?_of_isBlock hfirst hblock, Option.getD_some]

theorem dashesLeft_dropHeaderBlock_of_not_isBlock (hfirst : f.IsFirst) (hblock : ¬IsBlock f) :
    dashesLeft (dropHeaderBlock f.body) ≠ dashesLeft (dropHeaderBlock (unmarkedText f)) := by
  -- The whole text keeps its header unless its block ends within the body.
  have hwhole : dashesLeft (dropHeaderBlock f.body) < dashesLeft (unmarkedText f) :=
    lt_of_le_of_lt (dashesLeft_dropHeaderBlock_le f.body) (dashesLeft_body f)
  rw [dropHeaderBlock_eq (unmarkedText f)]
  rcases afterBlock?_of_not_isBlock hfirst hblock with hnone | hwithin
  · rw [hnone]
    exact hwhole.ne
  · rw [hwithin]
    cases hrule : afterFirstRule? f.body with
    | none => exact hwhole.ne
    | some after => exact dashesLeft_dropHeaderBlock_ne hrule

/-- A text with a header is cleaned as its body is exactly where the header is a block and the body
opens with none. -/
theorem clean_body_iff (hfirst : f.IsFirst) (hmark : f.body.head? ≠ some byteOrderMark) :
    clean f.body = clean f.text ↔ IsBlock f ∧ ¬OpensBlock f.body := by
  have hbody : f.body.dropWhile (· = byteOrderMark) = f.body := by
    cases hcut : f.body with
    | nil => rfl
    | cons c body =>
      rw [hcut] at hmark
      exact List.dropWhile_cons_of_neg (by simpa using hmark)
  rw [clean_text]
  constructor
  · intro hclean
    have hcount : dashesLeft (dropHeaderBlock f.body) =
        dashesLeft (dropHeaderBlock (unmarkedText f)) := by
      rw [← count_clean hbody, hclean, count_clean (dropWhile_unmarkedText f)]
    have hblock : IsBlock f := by
      by_contra hnot
      exact dashesLeft_dropHeaderBlock_of_not_isBlock hfirst hnot hcount
    refine ⟨hblock, fun hopens => ?_⟩
    rw [dropHeaderBlock_of_isBlock hfirst hblock] at hcount
    exact (dashesLeft_dropHeaderBlock_lt hopens).ne hcount
  · rintro ⟨hblock, hopens⟩
    rw [clean, clean, dropWhile_unmarkedText, hbody, dropHeaderBlock_of_not_opensBlock hopens,
      dropHeaderBlock_of_isBlock hfirst hblock]

end Documents

/-! ### Whole documents -/

theorem clean_bodyOf_of_headerOf_none {text : String} (h : headerOf text = none) :
    clean (bodyOf text).toList = clean text.toList := by
  have hbody : (split text.toList).2 = text.toList.dropWhile (· = byteOrderMark) := by
    have hnone : (split text.toList).1 = none := by simpa [headerOf] using h
    exact (split_eq_none_iff.1 (Prod.ext hnone rfl)).2
  rw [bodyOf, String.toList_ofList, hbody, clean, clean, List.dropWhile_idempotent]

theorem bodyOf_of_framed {f : Framed} {text : String} (htext : f.text = text.toList)
    (hfirst : f.IsFirst) : (bodyOf text).toList = f.body := by
  obtain ⟨header, hheader⟩ := exists_losesBreak f.isLine
  have hsplit : split text.toList = (some header, f.body) :=
    split_eq_some_iff_framed.2 ⟨f, htext, hfirst, hheader, rfl⟩
  rw [bodyOf, hsplit, String.toList_ofList]

/-- Two texts with the same analysis whose cleaned texts begin with the same line. -/
def SameDiagram (s t : String) : Prop :=
  analyze s = analyze t ∧ (cleanLines s.toList).head? = (cleanLines t.toList).head?

theorem sameDiagram_of_clean {s t : String} (h : clean s.toList = clean t.toList) :
    SameDiagram s t := ⟨analyze_congr h, congrArg List.head? (cleanLines_congr h)⟩

/-- A document is analyzed as its body is where it has no header, and where its header is a block
and its body opens with none. Any other header leaves more of the whole document than of the body,
or less, unless the body begins with a mark. -/
theorem sameDiagram_bodyOf (text : String) :
    (headerOf text = none → SameDiagram (bodyOf text) text) ∧
      ∀ f : Framed, f.text = text.toList → f.IsFirst → f.body.head? ≠ some byteOrderMark →
        (clean (bodyOf text).toList = clean text.toList ↔ IsBlock f ∧ ¬OpensBlock f.body) ∧
          (IsBlock f ∧ ¬OpensBlock f.body → SameDiagram (bodyOf text) text) := by
  refine ⟨fun hnone => sameDiagram_of_clean (clean_bodyOf_of_headerOf_none hnone), ?_⟩
  intro f htext hfirst hmark
  have hclean : clean (bodyOf text).toList = clean text.toList ↔
      IsBlock f ∧ ¬OpensBlock f.body := by
    rw [bodyOf_of_framed htext hfirst, ← htext]
    exact clean_body_iff hfirst hmark
  exact ⟨hclean, fun hsame => sameDiagram_of_clean (hclean.2 hsame)⟩

/-- Some lines between two lines of three dashes alone, and a flowchart. -/
def framedFlowchart (lines : List (List Char)) (hlines : ∀ line ∈ lines, IsLine line) : Framed where
  mark := []
  opening := dashes ++ ['\n']
  lines := lines
  closing := dashes ++ ['\n']
  body := "graph TD\nA --> B\n".toList
  isMark := .inl rfl
  opens := IsRule.isFence (.inl rfl)
  isLine := hlines
  closes := .inl (IsRule.isFence (.inl rfl))

theorem sameDiagram_bodyOf_flowchart :
    (headerOf "graph TD\nA --> B\n" = none ∧
      SameDiagram (bodyOf "graph TD\nA --> B\n") "graph TD\nA --> B\n") ∧
    (∃ f : Framed, f.text = "---\nid: A\n---\ngraph TD\nA --> B\n".toList ∧ f.IsFirst ∧
      f.body.head? ≠ some byteOrderMark ∧ IsBlock f ∧ ¬OpensBlock f.body ∧
      SameDiagram (bodyOf "---\nid: A\n---\ngraph TD\nA --> B\n")
        "---\nid: A\n---\ngraph TD\nA --> B\n") ∧
    ∃ f : Framed, f.text = "---\n---\ngraph TD\nA --> B\n".toList ∧ f.IsFirst ∧
      f.body.head? ≠ some byteOrderMark ∧ ¬IsBlock f ∧
      clean (bodyOf "---\n---\ngraph TD\nA --> B\n").toList ≠
        clean "---\n---\ngraph TD\nA --> B\n".toList ∧
      ¬SameDiagram (bodyOf "---\n---\ngraph TD\nA --> B\n") "---\n---\ngraph TD\nA --> B\n" := by
  have hnone : headerOf "graph TD\nA --> B\n" = none := by decide +kernel
  have hline : ∀ line ∈ ["id: A\n".toList], IsLine line := by
    intro line hmem
    rw [List.mem_singleton.1 hmem]
    exact ⟨"id: A".toList, by decide, by decide⟩
  have hfirst : (framedFlowchart ["id: A\n".toList] hline).IsFirst := by
    intro line hmem hfence
    rw [List.mem_singleton.1 hmem] at hfence
    exact absurd (closing?_fence hfence []) (by decide)
  have hblock : IsBlock (framedFlowchart ["id: A\n".toList] hline) :=
    ⟨.inl rfl, List.cons_ne_nil _ _, .inl rfl⟩
  have hopens : ¬OpensBlock "graph TD\nA --> B\n".toList := by
    intro hopens
    obtain ⟨rest, hrest⟩ := opensBlock_iff.1 hopens
    have hafter : afterBlock? "graph TD\nA --> B\n".toList = none := by decide
    rw [hafter] at hrest
    contradiction
  have hmark : "graph TD\nA --> B\n".toList.head? ≠ some byteOrderMark := by decide
  have hempty : ¬IsBlock (framedFlowchart [] (by simp)) := fun h => h.lines rfl
  have hdiffers : ¬SameDiagram (bodyOf "---\n---\ngraph TD\nA --> B\n")
      "---\n---\ngraph TD\nA --> B\n" := by
    intro h
    exact absurd h.1 (by decide +kernel)
  have htitled : (framedFlowchart ["id: A\n".toList] hline).text =
      "---\nid: A\n---\ngraph TD\nA --> B\n".toList := by
    show [] ++ (dashes ++ ['\n']) ++ ["id: A\n".toList].flatten ++ (dashes ++ ['\n']) ++
      "graph TD\nA --> B\n".toList = _
    decide
  have huntitled : (framedFlowchart [] (by simp)).text =
      "---\n---\ngraph TD\nA --> B\n".toList := by decide
  refine ⟨⟨hnone, (sameDiagram_bodyOf _).1 hnone⟩, ⟨_, htitled, hfirst, hmark, hblock, hopens, ?_⟩,
    ⟨_, huntitled, by simp [Framed.IsFirst, framedFlowchart], hmark, hempty, ?_, hdiffers⟩⟩
  · exact ((sameDiagram_bodyOf _).2 _ htitled hfirst hmark).2 ⟨hblock, hopens⟩
  · intro hclean
    have hsame := (sameDiagram_bodyOf _).2 _ huntitled (by simp [Framed.IsFirst, framedFlowchart])
      hmark
    exact hempty (hsame.1.1 hclean).1

end DocTrace.Diagram
