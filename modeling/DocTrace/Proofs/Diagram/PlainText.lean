import DocTrace.Proofs.Diagram.Cleaning
import DocTrace.Proofs.Inspection.Opening
import Mathlib.Data.List.DropRight

/-! A text that begins with a word and opens no comment is clean already, up to the blanks at its
end. If its last line ends with a character that is no blank, then the cleaned text has the same
lines. -/

namespace DocTrace.Diagram

open Text

/-! ### Lines of a text and of its beginning -/

theorem linesFrom_cons {c : Char} (hc : isLineBreak c = false) (line s : List Char) :
    linesFrom line (c :: s) = linesFrom (c :: line) s := by
  rw [linesFrom.eq_def]
  split
  · next h => simp at h
  · next h =>
    obtain ⟨rfl, -⟩ := List.cons.inj h
    exact absurd hc (by decide)
  · next h =>
    obtain ⟨rfl, rfl⟩ := List.cons.inj h
    simp [hc]

theorem linesFrom_cons_break {c : Char} {s : List Char} (hc : isLineBreak c = true)
    (hpair : c = '\r' → s.head? ≠ some '\n') (line : List Char) :
    linesFrom line (c :: s) = line.reverse :: linesFrom [] s := by
  rw [linesFrom.eq_def]
  split
  · next h => simp at h
  · next h =>
    obtain ⟨rfl, rfl⟩ := List.cons.inj h
    exact absurd rfl (hpair rfl)
  · next h =>
    obtain ⟨rfl, rfl⟩ := List.cons.inj h
    simp [hc]

/-- What follows a character of a line changes only that line and the lines after it. -/
theorem exists_linesFrom_append {d : Char} (hd : isLineBreak d = false) (line s : List Char) :
    ∃ front begun, ∀ rest,
      linesFrom line (s ++ d :: rest) = front ++ linesFrom (d :: begun) rest := by
  fun_induction linesFrom line s with
  | case1 line | case2 line => exact ⟨[], line, linesFrom_cons hd line⟩
  | case3 line s ih =>
    obtain ⟨front, begun, h⟩ := ih
    refine ⟨line.reverse :: front, begun, fun rest => ?_⟩
    rw [List.cons_append, List.cons_append, linesFrom, h, List.cons_append]
  | case4 line c s hpair hbreak ih =>
    obtain ⟨front, begun, h⟩ := ih
    refine ⟨line.reverse :: front, begun, fun rest => ?_⟩
    have hnext : c = '\r' → (s ++ d :: rest).head? ≠ some '\n' := by
      rintro rfl hhead
      cases s with
      | nil =>
        obtain rfl := Option.some.inj hhead
        exact absurd hd (by decide)
      | cons e s =>
        obtain rfl := Option.some.inj hhead
        exact hpair s rfl rfl
    rw [List.cons_append, linesFrom_cons_break hbreak hnext, h, List.cons_append]
  | case5 line c s hpair hbreak ih =>
    obtain ⟨front, begun, h⟩ := ih
    refine ⟨front, begun, fun rest => ?_⟩
    rw [List.cons_append, linesFrom_cons (by simpa using hbreak), h]

/-! ### Blanks around a text -/

theorem skipBlanks_cons {c : Char} (h : isBlank c = false) (s : List Char) :
    skipBlanks (c :: s) = c :: s :=
  List.dropWhile_cons_of_neg (by simp [h])

/-- A text that begins and ends with a character that is no blank. -/
structure IsTight (s : List Char) : Prop where
  first : ∃ c ∈ s.head?, isBlank c = false
  last : ∃ c ∈ s.getLast?, isBlank c = false

section

variable {s t : List Char}

theorem isTight_of_forall (hne : s ≠ []) (hs : ∀ c ∈ s, isBlank c = false) : IsTight s where
  first := ⟨s.head hne, List.head?_eq_some_head hne, hs _ (List.head_mem hne)⟩
  last := ⟨s.getLast hne, List.getLast?_eq_some_getLast hne, hs _ (List.getLast_mem hne)⟩

theorem isTight_name (hne : s ≠ []) (hs : ∀ c ∈ s, isNameChar c = true) : IsTight s :=
  isTight_of_forall hne fun c hc => isBlank_of_isNameChar (hs c hc)

theorem isTight_singleton {c : Char} (h : isBlank c = false) : IsTight [c] :=
  isTight_of_forall (List.cons_ne_nil c []) (List.forall_mem_singleton.2 h)

theorem IsTight.append (hs : IsTight s) (ht : IsTight t) (between : List Char) :
    IsTight (s ++ (between ++ t)) where
  first := by
    obtain ⟨c, hc, hplain⟩ := hs.first
    obtain ⟨rest, rfl⟩ := List.head?_eq_some_iff.1 hc
    exact ⟨c, rfl, hplain⟩
  last := by
    obtain ⟨c, hc, hplain⟩ := ht.last
    have hne : t ≠ [] := by
      rintro rfl
      simp at hc
    refine ⟨c, ?_, hplain⟩
    rwa [← List.append_assoc, List.getLast?_append_of_ne_nil _ hne]

theorem IsTight.skipBlanks_append (h : IsTight s) (rest : List Char) :
    skipBlanks (s ++ rest) = s ++ rest := by
  obtain ⟨c, hc, hplain⟩ := h.first
  obtain ⟨t, rfl⟩ := List.head?_eq_some_iff.1 hc
  exact List.dropWhile_cons_of_neg (by simp [hplain])

/-- A text is found behind a mark with blanks around it. -/
theorem IsTight.after?_mark (hs : IsTight s) (ht : IsTight t) (rest : List Char) :
    (after? s (skipBlanks (' ' :: (s ++ ' ' :: (t ++ rest))))).map skipBlanks =
      some (t ++ rest) := by
  have hleft : skipBlanks (' ' :: (s ++ ' ' :: (t ++ rest))) = s ++ ' ' :: (t ++ rest) :=
    hs.skipBlanks_append _
  have hright : skipBlanks (' ' :: (t ++ rest)) = t ++ rest := ht.skipBlanks_append rest
  rw [hleft, after?_append, Option.map_some, hright]

theorem IsTight.trim_append (h : IsTight s) (t : List Char) :
    trim (s ++ t) = s ++ dropEndWhile isBlank t := by
  obtain ⟨c, hc, hplain⟩ := h.last
  obtain ⟨before, rfl⟩ := List.getLast?_eq_some_iff.1 hc
  have hstart := h.skipBlanks_append t
  rw [skipBlanks] at hstart
  rw [trim, stripChars, hstart, dropEndWhile, List.reverse_append, List.dropWhile_append]
  split
  · next hnil => simp [dropEndWhile, List.isEmpty_iff.1 hnil, hplain]
  · rw [List.reverse_append, List.reverse_reverse, dropEndWhile]

theorem IsTight.trim_eq (h : IsTight s) : trim s = s := by
  simpa [dropEndWhile] using h.trim_append []

theorem isTight_trim (h : trim s ≠ []) : IsTight (trim s) where
  first := by
    obtain ⟨c, rest, hcons⟩ := List.exists_cons_of_ne_nil h
    exact ⟨c, by rw [hcons]; rfl, isBlank_of_trim_eq_cons hcons⟩
  last :=
    ⟨(trim s).getLast h, List.getLast?_eq_some_getLast h,
      Bool.not_eq_true _ ▸ List.rdropWhile_last_not isBlank (skipBlanks s) h⟩

end

/-- Blanks before a text are not told from those that begin it. -/
theorem trim_blanks_append {blanks : List Char} (h : ∀ c ∈ blanks, isBlank c = true)
    (s : List Char) : trim (blanks ++ s) = trim s := by
  rw [trim, stripChars, List.dropWhile_append_of_pos h]
  rfl

/-- Blanks behind a text are not told from those that end it. -/
theorem trim_append_of_blanks {blanks : List Char} (h : ∀ c ∈ blanks, isBlank c = true)
    (s : List Char) : trim (s ++ blanks) = trim s := by
  rw [trim, trim, stripChars, stripChars, List.dropWhile_append]
  split
  · next hnil =>
    rw [List.isEmpty_iff.1 hnil, List.dropWhile_eq_nil_iff.2 h]
  · rw [dropEndWhile, List.reverse_append, List.dropWhile_append_of_pos (by simpa using h),
      dropEndWhile]

/-- What a text loses at its end are blanks. -/
theorem exists_dropEndWhile_append (s : List Char) :
    ∃ blanks, (∀ c ∈ blanks, isBlank c = true) ∧ dropEndWhile isBlank s ++ blanks = s :=
  ⟨s.rtakeWhile isBlank, fun _ hc => List.mem_rtakeWhile_imp hc,
    List.rdropWhile_append_rtakeWhile⟩

theorem trim_dropEndWhile (s : List Char) : trim (dropEndWhile isBlank s) = trim s := by
  obtain ⟨blanks, hblanks, hcut⟩ := exists_dropEndWhile_append s
  rw [← trim_append_of_blanks hblanks, hcut]

/-! ### Blanks at the end of a text -/

theorem mem_of_mem_linesFrom {line s piece : List Char} {c : Char} (h : piece ∈ linesFrom line s)
    (hc : c ∈ piece) : c ∈ line ∨ c ∈ s := by
  fun_induction linesFrom line s with
  | case1 line => simp at h
  | case2 line => simp_all
  | case3 line s ih | case4 line d s hpair hbreak ih =>
    rcases List.mem_cons.1 h with rfl | h
    · exact .inl (List.mem_reverse.1 hc)
    · have := ih h
      simp_all
  | case5 line d s hpair hbreak ih =>
    have := ih h
    simp_all [or_assoc, or_left_comm]

theorem isLineBreak_of_mem_linesFrom {line s piece : List Char} {c : Char}
    (hline : ∀ c ∈ line, isLineBreak c = false) (h : piece ∈ linesFrom line s) (hc : c ∈ piece) :
    isLineBreak c = false := by
  fun_induction linesFrom line s with
  | case1 line => simp at h
  | case2 line => simp_all
  | case3 line s ih | case4 line d s hpair hbreak ih =>
    rcases List.mem_cons.1 h with rfl | h
    · exact hline c (List.mem_reverse.1 hc)
    · exact ih (List.forall_mem_nil _) h
  | case5 line d s hpair hbreak ih =>
    exact ih (List.forall_mem_cons.2 ⟨by simpa using hbreak, hline⟩) h

/-- Only the first line holds what was read before. -/
theorem mem_of_mem_tail_linesFrom {line s piece : List Char} {c : Char}
    (h : piece ∈ (linesFrom line s).tail) (hc : c ∈ piece) : c ∈ s := by
  fun_induction linesFrom line s with
  | case1 line | case2 line => exact absurd h List.not_mem_nil
  | case3 line s | case4 line d s =>
    have := (mem_of_mem_linesFrom h hc).resolve_left List.not_mem_nil
    simp [this]
  | case5 line d s hpair hbreak ih => exact List.mem_cons_of_mem d (ih h)

theorem linesFrom_ne_nil {line s : List Char} (hline : line ≠ []) : linesFrom line s ≠ [] := by
  fun_induction linesFrom line s with
  | case1 line h => exact absurd (List.isEmpty_iff.1 h) hline
  | case2 line h => simp
  | case3 line s | case4 line d s => simp
  | case5 line d s hpair hbreak ih => exact ih (by simp)

/-- What follows the last character that is no blank goes on with its line and begins others. -/
theorem exists_lines_append {s : List Char} {d : Char} (hlast : s.getLast? = some d)
    (hd : isBlank d = false) (rest : List Char) :
    ∃ front last more, lines s = front ++ [last] ∧
      lines (s ++ rest) =
        front ++ (last ++ rest.takeWhile fun c => !isLineBreak c) :: more ∧
      ∀ line ∈ more, ∀ c ∈ line, c ∈ rest := by
  obtain ⟨before, rfl⟩ := List.getLast?_eq_some_iff.1 hlast
  have hbreak : isLineBreak d = false := isLineBreak_eq_false hd
  obtain ⟨front, begun, hlines⟩ := exists_linesFrom_append hbreak [] before
  obtain ⟨first, more, hcons⟩ :=
    List.exists_cons_of_ne_nil (linesFrom_ne_nil (s := rest) (List.cons_ne_nil d begun))
  have hfirst := headD_linesFrom (d :: begun) rest
  rw [hcons, List.headD_cons] at hfirst
  refine ⟨front, (d :: begun).reverse, more, by simp [lines, hlines, linesFrom], ?_, ?_⟩
  · rw [← List.append_cons, lines, hlines, hcons, hfirst]
  · intro line hline c hc
    exact mem_of_mem_tail_linesFrom (by rwa [hcons]) hc

/-- The last line of a text holds a character that is no blank. -/
def EndsFull (lines : List (List Char)) : Prop :=
  ∃ line ∈ lines.getLast?, ∃ c ∈ line, isBlank c = false

/-- The last line of a text ends with a character that is no blank. -/
def EndsPlain (lines : List (List Char)) : Prop :=
  ∃ line ∈ lines.getLast?, ∃ c ∈ line.getLast?, isBlank c = false

theorem EndsPlain.endsFull {lines : List (List Char)} (h : EndsPlain lines) : EndsFull lines := by
  obtain ⟨line, hline, c, hc, hplain⟩ := h
  exact ⟨line, hline, c, List.mem_of_getLast? hc, hplain⟩

/-- Without the blanks at its end a text has the same lines, up to blanks behind the last one, if
that holds another character. -/
theorem exists_lines_dropEndWhile {s : List Char} (hends : EndsFull (lines s)) :
    ∃ front last blanks, (∀ c ∈ blanks, isBlank c = true) ∧
      lines (dropEndWhile isBlank s) = front ++ [last] ∧ lines s = front ++ [last ++ blanks] := by
  obtain ⟨blanks, hblanks, hcut⟩ := exists_dropEndWhile_append s
  have hplain (hne : dropEndWhile isBlank s ≠ []) :
      isBlank ((dropEndWhile isBlank s).getLast hne) = false :=
    Bool.not_eq_true _ ▸ List.rdropWhile_last_not isBlank s hne
  obtain ⟨line, hline, c, hc, hcplain⟩ := hends
  have hne : dropEndWhile isBlank s ≠ [] := by
    intro hnil
    rw [hnil, List.nil_append] at hcut
    have hmem := (mem_of_mem_linesFrom (List.mem_of_getLast? hline) hc).resolve_left
      List.not_mem_nil
    rw [hblanks c (hcut.symm ▸ hmem)] at hcplain
    contradiction
  obtain ⟨front, last, more, hkept, hwhole, hmore⟩ :=
    exists_lines_append (List.getLast?_eq_some_getLast hne) (hplain hne) blanks
  rw [hcut] at hwhole
  refine ⟨front, last, blanks.takeWhile fun c => !isLineBreak c,
    fun c hc => hblanks c (List.takeWhile_subset _ hc), hkept, ?_⟩
  obtain rfl | ⟨others, final, rfl⟩ := List.eq_nil_or_concat' more
  · exact hwhole
  · rw [hwhole, ← List.cons_append, ← List.append_assoc, List.getLast?_concat] at hline
    obtain rfl := Option.some.inj hline
    rw [hblanks c (hmore _ (by simp) c hc)] at hcplain
    contradiction

/-- The lines stay when the blanks at the end are cut off, if the last line does not end in one. -/
theorem lines_dropEndWhile {s : List Char} (hends : EndsPlain (lines s)) :
    lines (dropEndWhile isBlank s) = lines s := by
  obtain ⟨front, last, blanks, hblanks, hkept, hwhole⟩ := exists_lines_dropEndWhile hends.endsFull
  obtain rfl | ⟨others, final, rfl⟩ := List.eq_nil_or_concat' blanks
  · rw [hkept, hwhole, List.append_nil]
  · obtain ⟨line, hline, c, hc, hplain⟩ := hends
    rw [hwhole, List.getLast?_concat] at hline
    obtain rfl := Option.some.inj hline
    rw [← List.append_assoc, List.getLast?_concat] at hc
    obtain rfl := Option.some.inj hc
    rw [hblanks final (by simp)] at hplain
    contradiction

/-! ### Comments -/

theorem exists_opensComment {line s : List Char} (hline : ∀ c ∈ line, isBlank c = true)
    (hs : opensComment s = true) : ∃ piece ∈ linesFrom line s, opensComment piece = true := by
  fun_induction linesFrom line s with
  | case1 line | case2 line => exact absurd hs (by decide)
  | case3 line s ih =>
    rw [opensComment_cons_of_isBlank (by decide), opensComment_cons_of_isBlank (by decide)] at hs
    obtain ⟨piece, hpiece, hopens⟩ := ih (by simp) hs
    exact ⟨piece, List.mem_cons_of_mem _ hpiece, hopens⟩
  | case4 line d s hpair hbreak ih =>
    rw [opensComment_cons_of_isBlank (isBlank_of_isLineBreak hbreak)] at hs
    obtain ⟨piece, hpiece, hopens⟩ := ih (by simp) hs
    exact ⟨piece, List.mem_cons_of_mem _ hpiece, hopens⟩
  | case5 line d s hpair hbreak ih =>
    cases hd : isBlank d with
    | true =>
      rw [opensComment_cons_of_isBlank hd] at hs
      refine ih ?_ hs
      rw [List.forall_mem_cons]
      exact ⟨hd, hline⟩
    | false =>
      have hskip : skipBlanks (d :: s) = d :: s := skipBlanks_cons hd s
      rw [opensComment, hskip, List.isPrefixOf_iff_prefix] at hs
      obtain ⟨rest, hrest⟩ := hs
      obtain ⟨rfl, rfl⟩ := List.cons.inj hrest
      have hhead := headD_linesFrom ('%' :: line) ('%' :: rest)
      have hne : linesFrom ('%' :: line) ('%' :: rest) ≠ [] :=
        linesFrom_ne_nil (List.cons_ne_nil '%' line)
      obtain ⟨piece, more, hlines⟩ := List.exists_cons_of_ne_nil hne
      refine ⟨piece, hlines ▸ List.mem_cons_self .., ?_⟩
      rw [hlines, List.headD_cons, List.reverse_cons, List.append_assoc] at hhead
      have hblank : ∀ c ∈ line.reverse, isBlank c = true := by simpa using hline
      rw [hhead, opensComment, skipBlanks, List.dropWhile_append_of_pos hblank]
      rfl

theorem dropCommentsFrom_inLine_cons (c : Char) (s : List Char) :
    dropCommentsFrom .inLine (c :: s) =
      c :: dropCommentsFrom (if c = '\n' then .lineStart else .inLine) s :=
  dropCommentsFrom_cons .inLine c s

theorem dropComments_eq_inLine {s : List Char}
    (h : ∀ line ∈ lines s, opensComment line = false) :
    dropComments s = dropCommentsFrom .inLine s := by
  refine dropComments_of_not_opensComment ?_
  by_contra hopens
  rw [Bool.not_eq_false] at hopens
  obtain ⟨line, hline, hcomment⟩ := exists_opensComment (List.forall_mem_nil _) hopens
  rw [h line hline] at hcomment
  contradiction

theorem dropCommentsFrom_inLine_eq_self {line s : List Char}
    (h : ∀ piece ∈ linesFrom line s, opensComment piece = false) :
    dropCommentsFrom .inLine s = s := by
  fun_induction linesFrom line s with
  | case1 line | case2 line => rfl
  | case3 line s ih =>
    rw [List.forall_mem_cons] at h
    rw [dropCommentsFrom_inLine_cons, if_neg (by decide), dropCommentsFrom_inLine_cons, if_pos rfl,
      ← dropComments, dropComments_eq_inLine h.2, ih h.2]
  | case4 line d s hpair hbreak ih =>
    rw [List.forall_mem_cons] at h
    rw [dropCommentsFrom_inLine_cons]
    split
    · rw [← dropComments, dropComments_eq_inLine h.2, ih h.2]
    · rw [ih h.2]
  | case5 line d s hpair hbreak ih =>
    have hd : d ≠ '\n' := by
      rintro rfl
      exact hbreak (by decide)
    rw [dropCommentsFrom_inLine_cons, if_neg hd, ih h]

/-- A text is kept if none of its lines opens a comment. -/
theorem dropComments_eq_self {s : List Char} (h : ∀ line ∈ lines s, opensComment line = false) :
    dropComments s = s :=
  (dropComments_eq_inLine h).trans (dropCommentsFrom_inLine_eq_self h)

/-! ### Cleaned texts -/

theorem isBlank_of_isKeywordChar {c : Char} (h : isKeywordChar c = true) : isBlank c = false := by
  by_contra hblank
  rw [isKeywordChar_of_isBlank (by simpa using hblank)] at h
  contradiction

theorem opensComment_eq_false {c : Char} (hblank : isBlank c = false) (hc : c ≠ '%')
    (s : List Char) : opensComment (c :: s) = false := by
  rw [opensComment, skipBlanks_cons hblank, List.isPrefixOf_cons_cons, beq_false_of_ne (Ne.symm hc),
    Bool.false_and]

theorem opensComment_name {c : Char} (h : isNameChar c = true) (s : List Char) :
    opensComment (c :: s) = false := by
  have hpercent : c ≠ '%' := by
    rintro rfl
    exact absurd h (by decide)
  exact opensComment_eq_false (isBlank_of_isNameChar h) hpercent s

/-- The texts that begin with a word and hold no comment. -/
structure IsUncommented (s : List Char) : Prop where
  opening : ∃ c ∈ s.head?, isKeywordChar c = true ∧ c ≠ '-'
  comments : ∀ line ∈ lines s, opensComment line = false

/-- Texts of this kind that end in a line that is plain up to its end. -/
structure IsPlain (s : List Char) : Prop extends IsUncommented s where
  ending : EndsPlain (lines s)

theorem IsUncommented.of_lines {s first : List Char} {texts : List (List Char)} {c : Char}
    (h : lines s = (c :: first) :: texts) (hc : isKeywordChar c = true) (hdash : c ≠ '-')
    (hcomments : ∀ text ∈ texts, opensComment text = false) : IsUncommented s where
  opening := by
    have hfirst := headD_linesFrom [] s
    rw [← lines, h, List.headD_cons, List.reverse_nil, List.nil_append] at hfirst
    obtain ⟨rest, hrest⟩ := List.takeWhile_prefix fun c => !isLineBreak c
    rw [← hfirst] at hrest
    exact ⟨c, hrest ▸ rfl, hc, hdash⟩
  comments := by
    have hpercent : c ≠ '%' := by
      rintro rfl
      exact absurd hc (by decide)
    rw [h, List.forall_mem_cons]
    exact ⟨opensComment_eq_false (isBlank_of_isKeywordChar hc) hpercent first, hcomments⟩

theorem IsUncommented.clean_eq {s : List Char} (h : IsUncommented s) :
    clean s = dropEndWhile isBlank s := by
  obtain ⟨c, hhead, hc, hdash⟩ := h.opening
  obtain ⟨rest, rfl⟩ := List.head?_eq_some_iff.1 hhead
  have hmark : c ≠ byteOrderMark := by
    rintro rfl
    exact absurd hc (by decide)
  have hblank : isBlank c = false := isBlank_of_isKeywordChar hc
  have hheader : dropHeaderBlock (c :: rest) = c :: rest := by
    simp [dropHeaderBlock, dashes, after?, Ne.symm hdash]
  rw [clean, List.dropWhile_cons_of_neg (by simpa using hmark), hheader,
    dropComments_eq_self h.comments, trim_cons hblank, dropEndWhile_cons hblank]

/-- The word that opens the text opens its first line. -/
theorem IsUncommented.takeWhile_clean {s : List Char} (h : IsUncommented s) :
    (clean s).takeWhile isKeywordChar = ((lines s).headD []).takeWhile isKeywordChar := by
  rw [h.clean_eq, ← takeWhile_isKeywordChar (fun _ hc => hc), takeWhile_dropEndWhile,
    takeWhile_isKeywordChar fun _ hc => hc, lines, headD_linesFrom, List.reverse_nil,
    List.nil_append, takeWhile_isKeywordChar fun _ hc => isBlank_of_isLineBreak hc]

theorem IsPlain.cleanLines_eq {s : List Char} (h : IsPlain s) : cleanLines s = lines s := by
  rw [cleanLines, h.clean_eq, lines_dropEndWhile h.ending]

end DocTrace.Diagram
