import DocTrace.Diagram.Kind
import DocTrace.Proofs.Text.Beginning
import DocTrace.Text.Case

/-! What cleaning leaves of a text, and what the analysis makes of it. A text can be cut before a
line that opens no comment: what is removed from the whole is what is removed from the two parts.
Everything that is read out of a diagram is read out of the cleaned text. -/

namespace DocTrace.Diagram

open Text

/-! ### Small letters -/

/-- A character that is its own small letter stays in the text. -/
theorem mem_lower {c : Char} {s : List Char} (hc : lowerChar c = c) (hsigma : c ≠ '\u03a3')
    (hdotted : c ≠ '\u0130') (h : c ∈ s) : c ∈ lower s := by
  have hfrom (before s : List Char) (h : c ∈ s) : c ∈ lowerFrom before s := by
    induction s generalizing before with
    | nil => exact absurd h List.not_mem_nil
    | cons d s ih =>
      rw [lowerFrom, List.mem_append]
      rcases List.mem_cons.1 h with rfl | h
      · exact .inl (by simp [hc, hsigma, hdotted])
      · exact .inr (ih _ h)
  exact hfrom [] s h

/-! ### Quotes and blanks around a text -/

/-- The code points of the blank characters. -/
def blankCodes : List ℕ :=
  List.range' 9 5 ++ List.range' 28 5 ++ List.range' 0x2000 11 ++
    [0x85, 0xA0, 0x1680, 0x2028, 0x2029, 0x202F, 0x205F, 0x3000]

theorem toNat_mem_blankCodes {c : Char} (h : isBlank c = true) : c.toNat ∈ blankCodes := by
  simp only [isBlank, Bool.or_eq_true, Bool.and_eq_true, decide_eq_true_eq] at h
  simp only [blankCodes, List.mem_append, List.mem_range'_1, List.mem_cons, List.not_mem_nil,
    or_false]
  omega

theorem isNameChar_of_isBlank {c : Char} (h : isBlank c = true) : isNameChar c = false := by
  have hnone : ∀ n ∈ blankCodes, isNameChar (Char.ofNat n) = false := by decide +kernel
  rw [← Char.ofNat_toNat c]
  exact hnone _ (toNat_mem_blankCodes h)

theorem isBlank_of_isNameChar {c : Char} (h : isNameChar c = true) : isBlank c = false := by
  by_contra hblank
  rw [isNameChar_of_isBlank (by simpa using hblank)] at h
  contradiction

theorem isNameChar_of_isWord {c : Char} (h : isWord c = true) : isNameChar c = true := by
  simp [isNameChar, h]

theorem isBlank_of_isWord {c : Char} (h : isWord c = true) : isBlank c = false :=
  isBlank_of_isNameChar (isNameChar_of_isWord h)

theorem isQuote_of_isNameChar {c : Char} (h : isNameChar c = true) : isQuote c = false := by
  by_contra hquote
  simp only [isQuote, Bool.not_eq_false, Bool.or_eq_true, decide_eq_true_eq] at hquote
  rcases hquote with rfl | rfl <;> exact absurd h (by decide)

theorem dropEndWhile_cons {p : Char → Bool} {c : Char} (h : p c = false) (s : List Char) :
    dropEndWhile p (c :: s) = c :: dropEndWhile p s := by
  simp only [dropEndWhile, List.reverse_cons, List.dropWhile_append]
  split
  · next hnil => simp_all
  · simp

theorem dropEndWhile_concat {p : Char → Bool} {c : Char} (h : p c = false) (s : List Char) :
    dropEndWhile p (s ++ [c]) = s ++ [c] := by
  simp [dropEndWhile, h]

theorem trim_cons {c : Char} (h : isBlank c = false) (s : List Char) :
    trim (c :: s) = c :: dropEndWhile isBlank s := by
  rw [trim, stripChars, List.dropWhile_cons_of_neg (by simp [h]), dropEndWhile_cons h]

theorem unquote_cons_ne_nil {c : Char} (hblank : isBlank c = false) (hquote : isQuote c = false)
    (s : List Char) : unquote (c :: s) ≠ [] := by
  rw [unquote, trim_cons hblank]
  simp [hquote]

theorem unquote_quoted {quote : Char} (h : isQuote quote = true) (s : List Char) :
    unquote (quote :: s ++ [quote]) = s := by
  have hblank : isBlank quote = false := by
    simp only [isQuote, Bool.or_eq_true, decide_eq_true_eq] at h
    rcases h with rfl | rfl <;> rfl
  rw [unquote, List.cons_append, trim_cons hblank, dropEndWhile_concat hblank]
  simp [h]

/-! ### Comments are removed line by line -/

/-- A text that ends with a line, or is empty. -/
def EndsLine (s : List Char) : Prop := ∀ c ∈ s.getLast?, c = '\n'

theorem EndsLine.tail {c : Char} {s : List Char} (h : EndsLine (c :: s)) : EndsLine s := by
  cases s with
  | nil => simp [EndsLine]
  | cons d s =>
    intro e he
    exact h e (by rwa [List.getLast?_cons_cons])

theorem EndsLine.ne_nil {c : Char} {s : List Char} (h : EndsLine (c :: s)) (hc : c ≠ '\n') :
    s ≠ [] := by
  rintro rfl
  exact hc (h c rfl)

theorem opensComment_cons_of_isBlank {c : Char} (h : isBlank c = true) (s : List Char) :
    opensComment (c :: s) = opensComment s := by
  have hskip : skipBlanks (c :: s) = skipBlanks s := List.dropWhile_cons_of_pos h
  rw [opensComment, opensComment, hskip]

/-- Whether a comment is opened shows before the end of the line. -/
theorem opensComment_append {before rest : List Char} (hbefore : EndsLine before)
    (hrest : opensComment rest = false) : opensComment (before ++ rest) = opensComment before := by
  induction before with
  | nil => exact hrest
  | cons c before ih =>
    rw [List.cons_append]
    cases hc : isBlank c with
    | true => rw [opensComment_cons_of_isBlank hc, opensComment_cons_of_isBlank hc, ih hbefore.tail]
    | false =>
      have hline : c ≠ '\n' := by
        rintro rfl
        exact absurd hc (by decide)
      obtain ⟨d, more, rfl⟩ := List.exists_cons_of_ne_nil (hbefore.ne_nil hline)
      have hskip (t : List Char) : skipBlanks (c :: t) = c :: t :=
        List.dropWhile_cons_of_neg (by simp [hc])
      rw [opensComment, opensComment, hskip, hskip]
      rfl

/-- One character of a text whose comments are removed. -/
theorem dropCommentsFrom_cons (state : CommentState) (c : Char) (s : List Char) :
    dropCommentsFrom state (c :: s) =
      match state with
      | .inComment =>
        if c = '\n' then c :: dropCommentsFrom .lineStart s else dropCommentsFrom .inComment s
      | .beforeComment => dropCommentsFrom (if isBlank c then .beforeComment else .inComment) s
      | .lineStart =>
        if opensComment (c :: s) then
          dropCommentsFrom (if isBlank c then .beforeComment else .inComment) s
        else c :: dropCommentsFrom (if c = '\n' then .lineStart else .inLine) s
      | .inLine => c :: dropCommentsFrom (if c = '\n' then .lineStart else .inLine) s :=
  dropCommentsFrom.eq_def state (c :: s)

/-- A line that opens no comment is read as one that has begun. -/
theorem dropComments_of_not_opensComment {s : List Char} (h : opensComment s = false) :
    dropComments s = dropCommentsFrom .inLine s := by
  cases s with
  | nil => rfl
  | cons c s => simp [dropComments, dropCommentsFrom_cons, h]

/-- A line that opens a comment is read as one whose blanks get lost with it. -/
theorem dropComments_of_opensComment {s : List Char} (h : opensComment s = true) :
    dropComments s = dropCommentsFrom .beforeComment s := by
  cases s with
  | nil => rfl
  | cons c s => simp [dropComments, dropCommentsFrom_cons, h]

/-- What is removed from a text is removed from its parts, where the second part starts a line that
opens no comment. -/
theorem dropCommentsFrom_append {before rest : List Char} {state : CommentState}
    (hbefore : EndsLine before) (hempty : before = [] → state = .lineStart)
    (hstate : state = .beforeComment → opensComment before = true)
    (hrest : opensComment rest = false) :
    dropCommentsFrom state (before ++ rest) =
      dropCommentsFrom state before ++ dropComments rest := by
  induction before generalizing state with
  | nil =>
    rw [hempty rfl]
    rfl
  | cons c before ih =>
    have htail := hbefore.tail
    have hmore (hc : c ≠ '\n') (next : CommentState) : before = [] → next = .lineStart :=
      fun hnil => absurd hnil (hbefore.ne_nil hc)
    have hinLine : dropCommentsFrom .inLine (c :: before ++ rest) =
        dropCommentsFrom .inLine (c :: before) ++ dropComments rest := by
      rw [List.cons_append, dropCommentsFrom_cons, dropCommentsFrom_cons, List.cons_append]
      by_cases hc : c = '\n'
      · simp only [if_pos hc]
        rw [ih htail (fun _ => rfl) (by simp)]
      · simp only [if_neg hc]
        rw [ih htail (hmore hc _) (by simp)]
    have hbeforeComment (hopens : opensComment (c :: before) = true) :
        dropCommentsFrom .beforeComment (c :: before ++ rest) =
          dropCommentsFrom .beforeComment (c :: before) ++ dropComments rest := by
      rw [List.cons_append, dropCommentsFrom_cons, dropCommentsFrom_cons]
      cases hc : isBlank c with
      | true =>
        rw [opensComment_cons_of_isBlank hc] at hopens
        have hne : before ≠ [] := by
          rintro rfl
          exact absurd hopens (by decide)
        exact ih htail (fun hnil => absurd hnil hne) fun _ => hopens
      | false =>
        have hline : c ≠ '\n' := by
          rintro rfl
          exact absurd hc (by decide)
        exact ih htail (hmore hline _) (by simp)
    cases state with
    | inLine => exact hinLine
    | beforeComment => exact hbeforeComment (hstate rfl)
    | inComment =>
      rw [List.cons_append, dropCommentsFrom_cons, dropCommentsFrom_cons]
      by_cases hc : c = '\n'
      · simp only [if_pos hc]
        rw [ih htail (fun _ => rfl) (by simp), List.cons_append]
      · simp only [if_neg hc]
        exact ih htail (hmore hc _) (by simp)
    | lineStart =>
      -- The start of a line is read as one of the two states above, in the whole as in the part.
      change dropComments (c :: before ++ rest) = dropComments (c :: before) ++ dropComments rest
      have hsame : opensComment (c :: before ++ rest) = opensComment (c :: before) :=
        opensComment_append hbefore hrest
      cases hopens : opensComment (c :: before) with
      | true =>
        rw [dropComments_of_opensComment (hsame.trans hopens),
          dropComments_of_opensComment hopens, hbeforeComment hopens]
      | false =>
        rw [dropComments_of_not_opensComment (hsame.trans hopens),
          dropComments_of_not_opensComment hopens, hinLine]

theorem dropComments_append {before rest : List Char} (hbefore : EndsLine before)
    (hrest : opensComment rest = false) :
    dropComments (before ++ rest) = dropComments before ++ dropComments rest :=
  dropCommentsFrom_append hbefore (fun _ => rfl) (by simp) hrest

theorem dropCommentsFrom_inLine {text : List Char} (htext : '\n' ∉ text) (rest : List Char) :
    dropCommentsFrom .inLine (text ++ '\n' :: rest) = text ++ '\n' :: dropComments rest := by
  induction text with
  | nil => rfl
  | cons c text ih =>
    have hc : c ≠ '\n' := fun h => htext (h ▸ List.mem_cons_self ..)
    have hrest : '\n' ∉ text := fun h => htext (.tail _ h)
    simp only [List.cons_append, dropCommentsFrom_cons, if_neg hc, ih hrest]

theorem dropComments_line {text : List Char} (htext : '\n' ∉ text) {rest : List Char}
    (hopens : opensComment (text ++ '\n' :: rest) = false) :
    dropComments (text ++ '\n' :: rest) = text ++ '\n' :: dropComments rest := by
  rw [dropComments_of_not_opensComment hopens, dropCommentsFrom_inLine htext]

/-! ### Only the cleaned text counts -/

theorem cleanLines_congr {s t : List Char} (h : clean s = clean t) :
    cleanLines s = cleanLines t := by
  rw [cleanLines, cleanLines, h]

theorem marks_congr (kind : DiagramKind) {s t : List Char} (h : clean s = clean t) :
    kind.marks s = kind.marks t := by
  have hlines := cleanLines_congr h
  have hbody : bodyLines s = bodyLines t := by rw [bodyLines, bodyLines, hlines]
  cases kind with
  | flowchart => simp only [DiagramKind.marks, Flowchart.marks, Flowchart.statements, hlines]
  | sequence => simp only [DiagramKind.marks, Sequence.marks, hbody]
  | state => simp only [DiagramKind.marks, State.marks, hbody]
  | er => simp only [DiagramKind.marks, EntityRelation.marks, hbody]
  | mindmap => simp only [DiagramKind.marks, Mindmap.marks, hbody]
  | requirement => simp only [DiagramKind.marks, Requirement.marks, hbody]
  | classes => simp only [DiagramKind.marks, Class.marks, hbody]
  | c4 => simp only [DiagramKind.marks, C4.marks, hbody]

theorem analyze_congr {s t : String} (h : clean s.toList = clean t.toList) :
    analyze s = analyze t := by
  have hkeyword : keyword? s.toList = keyword? t.toList := by rw [keyword?, keyword?, h]
  have htype : detectType s = detectType t := by rw [detectType, detectType, hkeyword]
  have hkind (kind : DiagramKind) : kind.analyze s = kind.analyze t := by
    rw [DiagramKind.analyze, DiagramKind.analyze, marks_congr kind h]
  simp only [analyze, analyzeAs, htype, hkind]

end DocTrace.Diagram
