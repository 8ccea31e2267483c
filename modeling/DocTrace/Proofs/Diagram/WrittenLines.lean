import DocTrace.Proofs.Diagram.FilledLines
import DocTrace.Proofs.Diagram.HeaderBlock

/-! What is written in a text: its filled lines without the comments. A text can be cut at any line
feed, and what is written in the whole is what is written in its two parts. A cleaned text holds
what is written behind the header block, with the first line moved to the left, and a text that
opens a diagram keeps its header block where it goes on. -/

namespace DocTrace.Diagram

open Text

/-! ### Comments -/

/-- A comment that has begun is passed over up to the end of its line. -/
theorem head?_dropCommentsFrom {state : CommentState}
    (hstate : state = .beforeComment ∨ state = .inComment) (s : List Char) :
    ∀ c ∈ (dropCommentsFrom state s).head?, c = '\n' := by
  induction s generalizing state with
  | nil =>
    have hnil : dropCommentsFrom state [] = [] := rfl
    simp [hnil]
  | cons c s ih =>
    rw [dropCommentsFrom_cons]
    rcases hstate with rfl | rfl
    · dsimp only
      split
      · exact ih (.inl rfl)
      · exact ih (.inr rfl)
    · dsimp only
      split
      · next hc => simp [hc]
      · exact ih (.inr rfl)

theorem mem_of_mem_dropCommentsFrom {state : CommentState} {s : List Char} {c : Char}
    (h : c ∈ dropCommentsFrom state s) : c ∈ s := by
  induction s generalizing state with
  | nil => exact h
  | cons d s ih =>
    rw [dropCommentsFrom_cons] at h
    cases state with
    | inLine =>
      rcases List.mem_cons.1 h with rfl | h
      · exact List.mem_cons_self ..
      · exact List.mem_cons_of_mem d (ih h)
    | beforeComment => exact List.mem_cons_of_mem d (ih h)
    | inComment =>
      dsimp only at h
      split at h
      · rcases List.mem_cons.1 h with rfl | h
        · exact List.mem_cons_self ..
        · exact List.mem_cons_of_mem d (ih h)
      · exact List.mem_cons_of_mem d (ih h)
    | lineStart =>
      dsimp only at h
      split at h
      · exact List.mem_cons_of_mem d (ih h)
      · rcases List.mem_cons.1 h with rfl | h
        · exact List.mem_cons_self ..
        · exact List.mem_cons_of_mem d (ih h)

/-- Whether a comment is opened shows before the first blank behind a character that is none. -/
theorem opensComment_append_blank {s t : List Char} (h : skipBlanks s ≠ [])
    (ht : ∀ c ∈ t.head?, isBlank c = true) : opensComment (s ++ t) = opensComment s := by
  obtain ⟨c, u, hcut⟩ := List.exists_cons_of_ne_nil h
  have hskip : skipBlanks (s ++ t) = c :: u ++ t := by
    rw [skipBlanks] at hcut
    rw [skipBlanks, List.dropWhile_append, hcut, List.isEmpty_cons, if_neg Bool.false_ne_true]
  rw [opensComment, opensComment, hskip, hcut]
  cases u with
  | cons d u => rfl
  | nil =>
    cases t with
    | nil => rfl
    | cons d t =>
      have hd : d ≠ '%' := by
        rintro rfl
        exact absurd (ht '%' rfl) (by decide)
      simp [List.isPrefixOf, Ne.symm hd]

theorem opensComment_append_of_blanks {blanks : List Char} (h : ∀ c ∈ blanks, isBlank c = true)
    (t : List Char) : opensComment (blanks ++ t) = opensComment t := by
  rw [opensComment, skipBlanks, List.dropWhile_append_of_pos h]
  rfl

theorem opensComment_of_blanks {s : List Char} (h : ∀ c ∈ s, isBlank c = true) :
    opensComment s = false := by
  rw [opensComment, skipBlanks, List.dropWhile_eq_nil_iff.2 h]
  rfl

theorem dropComments_of_blanks {s : List Char} (h : ∀ c ∈ s, isBlank c = true) :
    dropComments s = s :=
  dropComments_eq_self fun _ hline => opensComment_of_blanks fun c hc =>
    h c ((mem_of_mem_linesFrom hline hc).resolve_left List.not_mem_nil)

/-- Blanks before a comment get lost with it. -/
theorem dropCommentsFrom_beforeComment {blanks t : List Char} (h : ∀ c ∈ blanks, isBlank c = true)
    (hopens : opensComment t = true) :
    dropCommentsFrom .beforeComment (blanks ++ t) = dropComments t := by
  induction blanks with
  | nil => exact (dropComments_of_opensComment hopens).symm
  | cons c blanks ih =>
    rw [List.forall_mem_cons] at h
    rw [List.cons_append, dropCommentsFrom_cons]
    dsimp only
    rw [if_pos h.1]
    exact ih h.2

/-! ### Cut at a line feed -/

/-- What is left of a text alone, and of the text with a line feed and `t` behind it. What follows
the line feed is left as it would be alone, and only blanks before it can get lost, with the line
feed itself. -/
def IsCutAtFeed (t alone whole : List Char) : Prop :=
  ∃ kept blanks rest, (∀ c ∈ blanks, isBlank c = true) ∧ (∀ c ∈ rest.head?, c = '\n') ∧
    (rest = '\n' :: dropComments t ∨ rest = dropComments t) ∧
    alone = kept ++ blanks ∧ whole = kept ++ rest

namespace IsCutAtFeed

variable {t : List Char}

theorem cons {alone whole : List Char} (h : IsCutAtFeed t alone whole) (c : Char) :
    IsCutAtFeed t (c :: alone) (c :: whole) := by
  obtain ⟨kept, blanks, rest, hblanks, hhead, hrest, rfl, rfl⟩ := h
  exact ⟨c :: kept, blanks, rest, hblanks, hhead, hrest, rfl, rfl⟩

/-- The line feed is kept. -/
theorem feed (t : List Char) : IsCutAtFeed t [] ('\n' :: dropComments t) :=
  ⟨[], [], _, List.forall_mem_nil _, by simp, .inl rfl, rfl, rfl⟩

/-- The blanks get lost, and the line feed with them: a comment stands behind. -/
theorem lost {s : List Char} (hblanks : ∀ c ∈ s, isBlank c = true)
    (hopens : opensComment (s ++ '\n' :: t) = true) :
    IsCutAtFeed t s (dropCommentsFrom .beforeComment (s ++ '\n' :: t)) := by
  have hfeed : ∀ c ∈ s ++ ['\n'], isBlank c = true := by
    simpa [List.forall_mem_append, or_imp, forall_and, isBlank] using hblanks
  have hlost : dropCommentsFrom .beforeComment (s ++ '\n' :: t) = dropComments t := by
    rw [List.append_cons] at hopens ⊢
    rw [opensComment_append_of_blanks hfeed] at hopens
    exact dropCommentsFrom_beforeComment hfeed hopens
  exact ⟨[], s, _, hblanks, head?_dropCommentsFrom (.inl rfl) _, .inr hlost, rfl, rfl⟩

/-- The start of a line of blanks: they are kept, or a comment opens behind them. -/
theorem lineStart_of_blanks {s : List Char} (hblanks : ∀ c ∈ s, isBlank c = true)
    (hinLine : IsCutAtFeed t (dropCommentsFrom .inLine s)
      (dropCommentsFrom .inLine (s ++ '\n' :: t))) :
    IsCutAtFeed t (dropComments s) (dropComments (s ++ '\n' :: t)) := by
  cases hopens : opensComment (s ++ '\n' :: t) with
  | true =>
    rw [dropComments_of_blanks hblanks, dropComments_of_opensComment hopens]
    exact lost hblanks hopens
  | false =>
    rwa [dropComments_of_not_opensComment (opensComment_of_blanks hblanks),
      dropComments_of_not_opensComment hopens]

end IsCutAtFeed

theorem isCutAtFeed_dropCommentsFrom {state : CommentState} {s t : List Char}
    (hstate : state = .beforeComment → opensComment (s ++ '\n' :: t) = true) :
    IsCutAtFeed t (dropCommentsFrom state s) (dropCommentsFrom state (s ++ '\n' :: t)) := by
  induction s generalizing state with
  | nil =>
    have hinLine : IsCutAtFeed t [] (dropCommentsFrom .inLine ('\n' :: t)) := .feed t
    cases state with
    | inComment => exact .feed t
    | inLine => exact hinLine
    | beforeComment => exact .lost (List.forall_mem_nil _) (hstate rfl)
    | lineStart => exact .lineStart_of_blanks (List.forall_mem_nil _) hinLine
  | cons c s ih =>
    have hinLine : IsCutAtFeed t (dropCommentsFrom .inLine (c :: s))
        (dropCommentsFrom .inLine (c :: s ++ '\n' :: t)) := by
      rw [List.cons_append, dropCommentsFrom_cons, dropCommentsFrom_cons]
      exact (ih (by split <;> simp)).cons c
    have hbeforeComment (hopens : opensComment (c :: s ++ '\n' :: t) = true) :
        IsCutAtFeed t (dropCommentsFrom .beforeComment (c :: s))
          (dropCommentsFrom .beforeComment (c :: s ++ '\n' :: t)) := by
      rw [List.cons_append, dropCommentsFrom_cons, dropCommentsFrom_cons]
      refine ih fun hnext => ?_
      cases hc : isBlank c with
      | true => rwa [List.cons_append, opensComment_cons_of_isBlank hc] at hopens
      | false => simp [hc] at hnext
    cases state with
    | inLine => exact hinLine
    | beforeComment => exact hbeforeComment (hstate rfl)
    | inComment =>
      rw [List.cons_append, dropCommentsFrom_cons, dropCommentsFrom_cons]
      dsimp only
      split
      · exact (ih (by simp)).cons c
      · exact ih (by simp)
    | lineStart =>
      change IsCutAtFeed t (dropComments (c :: s)) (dropComments (c :: s ++ '\n' :: t))
      by_cases hblanks : ∀ d ∈ c :: s, isBlank d = true
      · exact .lineStart_of_blanks hblanks hinLine
      · -- Behind a character that is no blank, what follows decides nothing.
        have hskip : skipBlanks (c :: s) ≠ [] := mt List.dropWhile_eq_nil_iff.1 hblanks
        have hsame : opensComment (c :: s ++ '\n' :: t) = opensComment (c :: s) :=
          opensComment_append_blank hskip (by simp [isBlank])
        cases hopens : opensComment (c :: s) with
        | true =>
          rw [dropComments_of_opensComment hopens,
            dropComments_of_opensComment (hsame.trans hopens)]
          exact hbeforeComment (hsame.trans hopens)
        | false =>
          rwa [dropComments_of_not_opensComment hopens,
            dropComments_of_not_opensComment (hsame.trans hopens)]

/-! ### What is written -/

/-- The filled lines of a text without its comments. -/
def writtenLines (s : List Char) : List (List Char) := filledLines (dropComments s)

/-- A text can be cut at any line feed. -/
theorem writtenLines_append_feed (s t : List Char) :
    writtenLines (s ++ '\n' :: t) = writtenLines s ++ writtenLines t := by
  have hfeed : isLineBreak '\n' = true := by decide
  have hcut : IsCutAtFeed t (dropComments s) (dropComments (s ++ '\n' :: t)) :=
    isCutAtFeed_dropCommentsFrom (by simp)
  obtain ⟨kept, blanks, rest, hblanks, hhead, hrest, hs, ht⟩ := hcut
  have hkept : filledLines (kept ++ rest) = filledLines kept ++ filledLines rest := by
    cases rest with
    | nil => rw [List.append_nil]; exact (List.append_nil _).symm
    | cons c rest =>
      obtain rfl := hhead c rfl
      have hnothing : filledLines ('\n' :: rest) = filledLines rest :=
        filledLines_append_break hfeed [] rest
      rw [filledLines_append_break hfeed, hnothing]
  have hwritten : filledLines rest = writtenLines t := by
    rcases hrest with rfl | rfl
    · exact filledLines_append_break hfeed [] _
    · rfl
  have hbefore : writtenLines s = filledLines kept := by
    rw [writtenLines, hs, filledLines_append_blanks hblanks]
  rw [hbefore, ← hwritten, ← hkept, writtenLines, ht]

theorem writtenLines_feed (t : List Char) : writtenLines ('\n' :: t) = writtenLines t :=
  writtenLines_append_feed [] t

theorem writtenLines_append {rest : List Char} (h : ∀ c ∈ rest.head?, c = '\n') (s : List Char) :
    writtenLines (s ++ rest) = writtenLines s ++ writtenLines rest := by
  cases rest with
  | nil => rw [List.append_nil]; exact (List.append_nil _).symm
  | cons c rest =>
    obtain rfl := h c rfl
    rw [writtenLines_append_feed, writtenLines_feed]

theorem writtenLines_of_blanks {s : List Char} (h : ∀ c ∈ s, isBlank c = true) :
    writtenLines s = [] := by
  rw [writtenLines, dropComments_of_blanks h, filledLines_of_blanks h]

/-- A comment is no written line. -/
theorem writtenLines_of_opensComment {line : List Char} (hline : '\n' ∉ line)
    (hopens : opensComment line = true) : writtenLines line = [] := by
  have hlost : dropComments line = [] := by
    rw [dropComments_of_opensComment hopens]
    by_contra hne
    obtain ⟨c, rest, hrest⟩ := List.exists_cons_of_ne_nil hne
    have hhead := head?_dropCommentsFrom (.inl rfl) line c (by rw [hrest]; rfl)
    have hmem : '\n' ∈ dropCommentsFrom .beforeComment line := by
      rw [hrest, hhead]
      exact List.mem_cons_self ..
    exact hline (mem_of_mem_dropCommentsFrom hmem)
  rw [writtenLines, hlost]
  rfl

theorem dropCommentsFrom_inLine_of_line {line : List Char} (h : '\n' ∉ line) :
    dropCommentsFrom .inLine line = line := by
  induction line with
  | nil => rfl
  | cons c line ih =>
    rw [List.mem_cons, not_or] at h
    rw [dropCommentsFrom_inLine_cons, if_neg (Ne.symm h.1), ih h.2]

/-- Any other line is written as it stands. -/
theorem writtenLines_of_not_opensComment {line : List Char} (hline : '\n' ∉ line)
    (hopens : opensComment line = false) : writtenLines line = filledLines line := by
  rw [writtenLines, dropComments_of_not_opensComment hopens,
    dropCommentsFrom_inLine_of_line hline]

/-- A line that begins with a name is written without the blanks at its end. -/
theorem writtenLines_line {s : List Char} {c : Char} (hhead : s.head? = some c)
    (hc : isNameChar c = true) (hline : ∀ d ∈ s, isLineBreak d = false) :
    writtenLines s = [trim s] := by
  obtain ⟨t, rfl⟩ := List.head?_eq_some_iff.1 hhead
  have hfeed : '\n' ∉ c :: t := fun hmem => absurd (hline _ hmem) (by decide)
  have hblank : isBlank c = false := isBlank_of_isNameChar hc
  have hkept := dropEndWhile_cons hblank t
  rw [writtenLines_of_not_opensComment hfeed (opensComment_name hc t), filledLines_line hline,
    filled_cons_of_ne_nil (hkept ▸ List.cons_ne_nil c _), hkept, trim_cons hblank]
  rfl

theorem writtenLines_line_append_blanks {line blanks rest : List Char}
    (hline : '\n' ∉ line) (hblanks : ∀ c ∈ blanks, isBlank c = true) (hfeed : '\n' ∉ blanks)
    (hrest : ∀ c ∈ rest.head?, isLineBreak c = true) (hmore : '\n' ∉ rest) :
    writtenLines (line ++ (blanks ++ rest)) = writtenLines (line ++ rest) := by
  have hsame : opensComment (line ++ (blanks ++ rest)) = opensComment (line ++ rest) := by
    by_cases hskip : skipBlanks line = []
    · have hblank := List.dropWhile_eq_nil_iff.1 hskip
      rw [opensComment_append_of_blanks hblank, opensComment_append_of_blanks hblank,
        opensComment_append_of_blanks hblanks]
    · have hnext : ∀ c ∈ rest.head?, isBlank c = true := fun c hc =>
        isBlank_of_isLineBreak (hrest c hc)
      have hblank : ∀ c ∈ (blanks ++ rest).head?, isBlank c = true := by
        cases blanks with
        | nil => exact hnext
        | cons c blanks =>
          rintro d ⟨⟩
          exact hblanks c (List.mem_cons_self ..)
      rw [opensComment_append_blank hskip hblank, opensComment_append_blank hskip hnext]
  have hshort : '\n' ∉ line ++ rest := by simp [hline, hmore]
  have hlong : '\n' ∉ line ++ (blanks ++ rest) := by simp [hline, hfeed, hmore]
  cases hopens : opensComment (line ++ rest) with
  | true =>
    rw [writtenLines_of_opensComment hlong (hsame.trans hopens),
      writtenLines_of_opensComment hshort hopens]
  | false =>
    rw [writtenLines_of_not_opensComment hlong (hsame.trans hopens),
      writtenLines_of_not_opensComment hshort hopens, ← List.append_assoc]
    cases rest with
    | nil => rw [List.append_nil, List.append_nil, filledLines_append_blanks hblanks]
    | cons c rest =>
      have hc := hrest c rfl
      rw [filledLines_append_break hc, filledLines_append_break hc,
        filledLines_append_blanks hblanks]

/-- Blanks before a line break, or at the end, count for nothing. -/
theorem writtenLines_append_blanks {before blanks rest : List Char}
    (hblanks : ∀ c ∈ blanks, isBlank c = true) (hfeed : '\n' ∉ blanks)
    (hrest : ∀ c ∈ rest.head?, isLineBreak c = true) :
    writtenLines (before ++ (blanks ++ rest)) = writtenLines (before ++ rest) := by
  obtain ⟨lines, last, hlines, hlast, rfl⟩ := Header.exists_lines before
  induction lines with
  | nil =>
    rw [List.flatten_nil, List.nil_append]
    by_cases hmem : '\n' ∈ rest
    · obtain ⟨line, more, rfl, hline⟩ := List.eq_append_cons_of_mem hmem
      have hhead : ∀ c ∈ line.head?, isLineBreak c = true := by
        cases line with
        | nil => simp
        | cons d line => exact hrest
      rw [← List.append_assoc, ← List.append_assoc, ← List.append_assoc,
        writtenLines_append_feed, writtenLines_append_feed, List.append_assoc,
        writtenLines_line_append_blanks hlast hblanks hfeed hhead hline]
    · exact writtenLines_line_append_blanks hlast hblanks hfeed hrest hmem
  | cons line lines ih =>
    obtain ⟨⟨text, htext, rfl⟩, hmore⟩ := List.forall_mem_cons.1 hlines
    have hcut (t : List Char) : ((text ++ ['\n']) :: lines).flatten ++ last ++ t =
        text ++ '\n' :: (lines.flatten ++ last ++ t) := by simp
    rw [hcut, hcut, writtenLines_append_feed, writtenLines_append_feed, ih hmore]

/-! ### Cleaned texts -/

/-- A text without the mark and the header block before it. -/
def uncovered (s : List Char) : List Char := dropHeaderBlock (s.dropWhile (· = byteOrderMark))

theorem filledLines_clean (s : List Char) :
    filledLines (clean s) = unindented (writtenLines (uncovered s)) :=
  filledLines_trim _

/-- The first line of a cleaned text is filled. -/
theorem filledLines_clean_of_cons {s first : List Char} {rest : List (List Char)}
    (h : cleanLines s = first :: rest) : filledLines (clean s) = trim first :: filled rest := by
  have hne : clean s ≠ [] := by
    intro hnil
    rw [cleanLines, hnil] at h
    exact absurd h (by simp [lines, linesFrom])
  obtain ⟨c, t, ht⟩ := List.exists_cons_of_ne_nil hne
  have hc : isBlank c = false := isBlank_of_trim_eq_cons ht
  have hbreak : isLineBreak c = false := isLineBreak_eq_false hc
  obtain ⟨line, more, hlines, ⟨tail, rfl⟩, -⟩ :=
    exists_linesFrom_append_line (List.cons_ne_nil c []) [] t
  rw [cleanLines, ht, lines, linesFrom_cons hbreak, hlines] at h
  obtain ⟨rfl, rfl⟩ := List.cons.inj h
  have hkept : trim ([c].reverse ++ tail) = dropEndWhile isBlank (c :: tail) := by
    rw [List.reverse_singleton, List.singleton_append, trim_cons hc, dropEndWhile_cons hc]
  rw [filledLines, ht, lines, linesFrom_cons hbreak, hlines, filled_cons, hkept]
  simp [filled, dropEndWhile_cons hc]

theorem filledLines_clean_of_nil {s : List Char} (h : cleanLines s = []) :
    filledLines (clean s) = [] := by
  rw [cleanLines] at h
  rw [filledLines, h]
  rfl

theorem tail_filledLines_clean (s : List Char) :
    (filledLines (clean s)).tail = filled (bodyLines s) := by
  rw [bodyLines]
  cases h : cleanLines s with
  | nil => rw [filledLines_clean_of_nil h]; rfl
  | cons first rest => rw [filledLines_clean_of_cons h]; rfl

theorem headD_filledLines_clean (s : List Char) :
    (filledLines (clean s)).headD [] = trim ((cleanLines s).headD []) := by
  cases h : cleanLines s with
  | nil => rw [filledLines_clean_of_nil h]; rfl
  | cons first rest => rw [filledLines_clean_of_cons h]; rfl

/-- The lines below the first of a text that has no header block and no comments. -/
theorem tail_filledLines_clean_of_lines {s first : List Char} {texts : List (List Char)} {c : Char}
    (h : lines s = (c :: first) :: texts) (hs : IsUncommented s) (hc : isKeywordChar c = true) :
    (filledLines (clean s)).tail = filled texts := by
  have hkept : dropEndWhile isBlank (c :: first) ≠ [] := by
    rw [dropEndWhile_cons (isBlank_of_isKeywordChar hc)]
    exact List.cons_ne_nil c _
  rw [hs.clean_eq, filledLines_dropEndWhile, filledLines, h, filled_cons_of_ne_nil hkept,
    List.tail_cons]

/-! ### The first word -/

theorem skipBlanks_trim (s : List Char) : skipBlanks (trim s) = trim s := by
  cases h : trim s with
  | nil => rfl
  | cons c t => exact skipBlanks_cons (isBlank_of_trim_eq_cons h) t

theorem trim_trim (s : List Char) : trim (trim s) = trim s := by
  have hleft : trim (trim s) = dropEndWhile isBlank (skipBlanks (trim s)) := rfl
  rw [hleft, skipBlanks_trim]
  exact List.rdropWhile_idempotent isBlank (skipBlanks s)

theorem takeWhile_headD_filledLines_clean (s : List Char) :
    ((filledLines (clean s)).headD []).takeWhile isKeywordChar =
      (clean s).takeWhile isKeywordChar := by
  have hfirst : firstWord (trim ((cleanLines s).headD [])) =
      (clean s).takeWhile fun c => !isBlank c := firstWord_headD_lines _
  rw [firstWord, skipBlanks_trim] at hfirst
  rw [headD_filledLines_clean, ← takeWhile_isKeywordChar fun _ hc => hc, hfirst,
    takeWhile_isKeywordChar fun _ hc => hc]

/-- The first word stands in the first written line. -/
theorem keyword?_congr {s t : List Char}
    (h : (filledLines (clean s)).headD [] = (filledLines (clean t)).headD []) :
    keyword? s = keyword? t := by
  have hsame : (clean s).takeWhile isKeywordChar = (clean t).takeWhile isKeywordChar := by
    rw [← takeWhile_headD_filledLines_clean, h, takeWhile_headD_filledLines_clean]
  ext word
  rw [keyword?_eq_some_iff, keyword?_eq_some_iff, hsame]

/-! ### Texts that open a diagram -/

theorem dropHeaderBlock_append {s : List Char} (hne : s ≠ [])
    (h : s.head? = some '-' → ∃ rest, afterBlock? s = some rest) (t : List Char) :
    dropHeaderBlock (s ++ t) = dropHeaderBlock s ++ t := by
  rw [dropHeaderBlock_eq, dropHeaderBlock_eq]
  cases hblock : afterBlock? s with
  | some rest => rw [afterBlock?_append hblock, Option.getD_some, Option.getD_some]
  | none =>
    obtain ⟨c, u, rfl⟩ := List.exists_cons_of_ne_nil hne
    have hc : c ≠ '-' := by
      rintro rfl
      obtain ⟨rest, hrest⟩ := h rfl
      rw [hblock] at hrest
      contradiction
    have hnone : afterBlock? (c :: u ++ t) = none := by
      simp [afterBlock?, afterRule?, dashes, after?, Ne.symm hc]
    rw [hnone, Option.getD_none, Option.getD_none]

section

variable {s word : List Char} (hword : keyword? s = some word) (hdash : word.head? ≠ some '-')

include hword

theorem clean_ne_nil : clean s ≠ [] := by
  obtain ⟨hne, hcut⟩ := keyword?_eq_some_iff.1 hword
  intro hnil
  rw [hnil] at hcut
  exact hne hcut

theorem head?_clean : (clean s).head? = word.head? := by
  obtain ⟨hne, hcut⟩ := keyword?_eq_some_iff.1 hword
  obtain ⟨rest, hrest⟩ := List.takeWhile_prefix isKeywordChar (l := clean s)
  rw [← hcut] at hrest
  rw [← hrest, List.head?_append_of_ne_nil _ hne]

theorem filledLines_clean_ne_nil : filledLines (clean s) ≠ [] := by
  intro hnil
  obtain ⟨hne, hcut⟩ := keyword?_eq_some_iff.1 hword
  rw [← takeWhile_headD_filledLines_clean, hnil] at hcut
  exact hne hcut

include hdash

/-- A text that opens a diagram keeps its header block, however it goes on. -/
theorem uncovered_append (t : List Char) : uncovered (s ++ t) = uncovered s ++ t := by
  have hne := clean_ne_nil hword
  have hhead : (clean s).head? ≠ some '-' := head?_clean hword ▸ hdash
  rw [clean] at hne hhead
  rw [uncovered, uncovered, List.dropWhile_append]
  generalize s.dropWhile (· = byteOrderMark) = u at hne hhead ⊢
  have hu : u ≠ [] := by
    rintro rfl
    exact hne rfl
  have hblock (hopens : u.head? = some '-') : ∃ rest, afterBlock? u = some rest := by
    by_contra hnone
    obtain ⟨v, rfl⟩ := List.head?_eq_some_iff.1 hopens
    rw [dropHeaderBlock_of_not_opensBlock (mt opensBlock_iff.1 hnone),
      dropComments_of_not_opensComment (opensComment_eq_false (by decide) (by decide) v),
      dropCommentsFrom_inLine_cons, trim_cons (by decide)] at hhead
    exact hhead rfl
  rw [if_neg (by simpa using hu), dropHeaderBlock_append hu hblock]

/-- What follows the line feed is written below what was written before. -/
theorem filledLines_clean_feed (t : List Char) :
    filledLines (clean (s ++ '\n' :: t)) = filledLines (clean s) ++ writtenLines t := by
  have hne : writtenLines (uncovered s) ≠ [] := by
    intro hnil
    have hlines := filledLines_clean s
    rw [hnil] at hlines
    exact filledLines_clean_ne_nil hword hlines
  rw [filledLines_clean, uncovered_append hword hdash, writtenLines_append_feed,
    unindented_append hne, filledLines_clean]

theorem keyword?_break (t : List Char) : keyword? (s ++ '\n' :: t) = some word := by
  obtain ⟨first, rest, hlines⟩ := List.exists_cons_of_ne_nil (filledLines_clean_ne_nil hword)
  rw [← hword]
  refine keyword?_congr ?_
  rw [filledLines_clean_feed hword hdash, hlines]
  rfl

section

variable {rest : List Char} (hrest : ∀ c ∈ rest.head?, c = '\n')

include hrest

/-- A text that goes on behind a line feed, if at all, goes on below. -/
theorem filledLines_clean_append :
    filledLines (clean (s ++ rest)) = filledLines (clean s) ++ writtenLines rest := by
  cases rest with
  | nil => rw [List.append_nil]; exact (List.append_nil _).symm
  | cons c rest =>
    obtain rfl := hrest c rfl
    rw [filledLines_clean_feed hword hdash, writtenLines_feed]

theorem keyword?_append : keyword? (s ++ rest) = some word := by
  cases rest with
  | nil => rwa [List.append_nil]
  | cons c rest =>
    obtain rfl := hrest c rfl
    exact keyword?_break hword hdash rest

end

end

end DocTrace.Diagram
