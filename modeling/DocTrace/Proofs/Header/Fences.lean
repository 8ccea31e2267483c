import DocTrace.Header.Split
import Mathlib.Data.List.TakeWhile

/-! The header of a text by its lines. A text has a header where its first line is a line of
dashes, after one mark at most, and so is a later line. The header is what stands between the
first line and the next line of dashes, and the body is all that follows that line. -/

namespace DocTrace.Header

open Text Diagram

/-- A line with the line feed that ends it. -/
def IsLine (line : List Char) : Prop := ∃ text, '\n' ∉ text ∧ line = text ++ ['\n']

/-- Three dashes, with nothing but spaces and tabs after them. -/
def IsDashes (s : List Char) : Prop :=
  ∃ blanks, (∀ c ∈ blanks, c = ' ' ∨ c = '\t') ∧ s = dashes ++ blanks

/-- A line of dashes with its end. -/
def IsFence (line : List Char) : Prop :=
  ∃ s, IsDashes s ∧ (line = s ++ ['\n'] ∨ line = s ++ ['\r', '\n'])

/-- A text between two lines of dashes, cut into its parts. Only a line of dashes may end with
the text itself. -/
structure Framed where
  mark : List Char
  opening : List Char
  lines : List (List Char)
  closing : List Char
  body : List Char
  isMark : mark = [] ∨ mark = [byteOrderMark]
  opens : IsFence opening
  isLine : ∀ line ∈ lines, IsLine line
  closes : IsFence closing ∨ IsDashes closing ∧ body = []

namespace Framed

def text (f : Framed) : List Char :=
  f.mark ++ f.opening ++ f.lines.flatten ++ f.closing ++ f.body

/-- Whether the line that closes the header is the first that could. -/
def IsFirst (f : Framed) : Prop := ∀ line ∈ f.lines, ¬IsFence line

end Framed

/-- A text without the line break at its end, if there is one. -/
inductive LosesBreak : List Char → List Char → Prop
  | empty : LosesBreak [] []
  | lf {s : List Char} (hlast : s.getLast? ≠ some '\r') : LosesBreak (s ++ ['\n']) s
  | crlf (s : List Char) : LosesBreak (s ++ ['\r', '\n']) s

/-! ### Lines of dashes -/

theorem isLineBlank_iff {c : Char} : isLineBlank c = true ↔ c = ' ' ∨ c = '\t' := by
  simp [isLineBlank]

theorem newline_not_mem_of_isDashes {s : List Char} (h : IsDashes s) : '\n' ∉ s := by
  obtain ⟨blanks, hblanks, rfl⟩ := h
  intro hmem
  rcases List.mem_append.1 hmem with hdash | hblank
  · simp [dashes] at hdash
  · rcases hblanks _ hblank with heq | heq
    all_goals simp at heq

theorem IsFence.isLine {line : List Char} (h : IsFence line) : IsLine line := by
  obtain ⟨s, hs, rfl | rfl⟩ := h
  · exact ⟨s, newline_not_mem_of_isDashes hs, rfl⟩
  · refine ⟨s ++ ['\r'], fun hmem => ?_, by simp⟩
    rcases List.mem_append.1 hmem with hmem | hmem
    · exact newline_not_mem_of_isDashes hs hmem
    · simp at hmem

/-- Two lines at the beginning of the same text are the same. -/
theorem line_inj {a b s t : List Char} (ha : IsLine a) (hb : IsLine b) (h : a ++ s = b ++ t) :
    a = b ∧ s = t := by
  obtain ⟨x, hx, rfl⟩ := ha
  obtain ⟨y, hy, rfl⟩ := hb
  simp only [List.append_assoc, List.singleton_append] at h
  induction x generalizing y with
  | nil =>
    cases y with
    | nil => simpa using h
    | cons d y =>
      obtain ⟨rfl, -⟩ := List.cons.inj h
      simp at hy
  | cons c x ih =>
    cases y with
    | nil =>
      obtain ⟨rfl, -⟩ := List.cons.inj h
      simp at hx
    | cons d y =>
      obtain ⟨rfl, hrest⟩ := List.cons.inj h
      obtain ⟨hlines, hsame⟩ :=
        ih (fun hmem => hx (.tail _ hmem)) y (fun hmem => hy (.tail _ hmem)) hrest
      exact ⟨by simpa using hlines, hsame⟩

theorem newline?_eq_some_iff {s rest : List Char} :
    newline? s = some rest ↔ s = '\n' :: rest ∨ s = '\r' :: '\n' :: rest := by
  unfold newline?
  split
  · simp
  · simp
  · next hlf hcrlf =>
    refine ⟨fun h => by simp at h, ?_⟩
    rintro (rfl | rfl)
    · exact (hlf _ rfl).elim
    · exact (hcrlf _ rfl).elim

/-- All blanks are taken, so what is left begins with none. -/
theorem dashLine?_eq_some_iff {s rest : List Char} :
    dashLine? s = some rest ↔
      (∃ d, IsDashes d ∧ s = d ++ rest) ∧ ∀ c ∈ rest.head?, isLineBlank c = false := by
  unfold dashLine?
  constructor
  · intro h
    obtain ⟨t, ht, rfl⟩ := Option.map_eq_some_iff.1 h
    refine ⟨⟨dashes ++ t.takeWhile isLineBlank, ⟨_, fun c hc => ?_, rfl⟩, ?_⟩, fun c hc => ?_⟩
    · exact isLineBlank_iff.1 (List.mem_takeWhile_imp hc)
    · rw [eq_append_of_after? ht, List.append_assoc, List.takeWhile_append_dropWhile]
    · have hhead := List.head?_dropWhile_not isLineBlank t
      rw [Option.mem_def.1 hc] at hhead
      simpa using hhead
  · rintro ⟨⟨_, ⟨blanks, hblanks, rfl⟩, rfl⟩, hhead⟩
    rw [List.append_assoc, after?_append, Option.map_some]
    have hall : ∀ c ∈ blanks, isLineBlank c = true := fun c hc => isLineBlank_iff.2 (hblanks c hc)
    have hrest : rest.dropWhile isLineBlank = rest := by
      cases rest with
      | nil => rfl
      | cons c rest => simp [hhead c rfl]
    rw [List.dropWhile_append_of_pos hall, hrest]

theorem opening_line_iff {s rest : List Char} :
    (dashLine? s).bind newline? = some rest ↔ ∃ line, IsFence line ∧ s = line ++ rest := by
  simp only [Option.bind_eq_some_iff, dashLine?_eq_some_iff, newline?_eq_some_iff]
  constructor
  · rintro ⟨_, ⟨⟨d, hd, rfl⟩, -⟩, rfl | rfl⟩
    · exact ⟨d ++ ['\n'], ⟨d, hd, .inl rfl⟩, by simp⟩
    · exact ⟨d ++ ['\r', '\n'], ⟨d, hd, .inr rfl⟩, by simp⟩
  · rintro ⟨_, ⟨d, hd, rfl | rfl⟩, rfl⟩
    · exact ⟨'\n' :: rest, ⟨⟨d, hd, by simp⟩, by simp [isLineBlank]⟩, .inl rfl⟩
    · exact ⟨'\r' :: '\n' :: rest, ⟨⟨d, hd, by simp⟩, by simp [isLineBlank]⟩, .inr rfl⟩

theorem closing?_eq_some_iff {s body : List Char} :
    closing? s = some body ↔
      ∃ line, (IsFence line ∨ IsDashes line ∧ body = []) ∧ s = line ++ body := by
  constructor
  · intro h
    obtain ⟨rest, hdash, hend⟩ := Option.bind_eq_some_iff.1 h
    split at hend
    · next hempty =>
      obtain rfl := List.isEmpty_iff.1 hempty
      obtain rfl := Option.some.inj hend
      obtain ⟨⟨d, hd, rfl⟩, -⟩ := dashLine?_eq_some_iff.1 hdash
      exact ⟨d, .inr ⟨hd, rfl⟩, rfl⟩
    · obtain ⟨line, hline, rfl⟩ :=
        opening_line_iff.1 (Option.bind_eq_some_iff.2 ⟨rest, hdash, hend⟩)
      exact ⟨line, .inl hline, rfl⟩
  · rintro ⟨line, hline | ⟨hline, rfl⟩, rfl⟩
    · have hopens : (dashLine? (line ++ body)).bind newline? = some body :=
        opening_line_iff.2 ⟨line, hline, rfl⟩
      obtain ⟨rest, hdash, hend⟩ := Option.bind_eq_some_iff.1 hopens
      have hrest : rest.isEmpty = false := by
        rcases newline?_eq_some_iff.1 hend with rfl | rfl
        all_goals rfl
      rw [closing?, hdash, Option.bind_some, hrest]
      exact hend
    · have hdash : dashLine? (line ++ []) = some [] :=
        dashLine?_eq_some_iff.2 ⟨⟨line, hline, rfl⟩, by simp⟩
      rw [closing?, hdash]
      rfl

theorem closing?_fence {line : List Char} (h : IsFence line) (rest : List Char) :
    closing? (line ++ rest) = some rest := closing?_eq_some_iff.2 ⟨line, .inl h, rfl⟩

/-- A line closes a header only if it is a line of dashes as a whole. -/
theorem closing?_of_line {line rest : List Char} (hline : IsLine line) (hfence : ¬IsFence line) :
    closing? (line ++ rest) = none := by
  rw [Option.eq_none_iff_forall_ne_some]
  intro body hbody
  obtain ⟨closing, hclosing, hsame⟩ := closing?_eq_some_iff.1 hbody
  rcases hclosing with hclosing | ⟨hclosing, rfl⟩
  · obtain ⟨rfl, -⟩ := line_inj hline hclosing.isLine hsame
    exact hfence hclosing
  · obtain ⟨text, -, rfl⟩ := hline
    refine newline_not_mem_of_isDashes hclosing ?_
    rw [← List.append_nil closing, ← hsame]
    simp

/-! ### The search for the closing line -/

/-- Inside of a line nothing closes. -/
theorem upToClosing_inLine {text rest : List Char} (htext : '\n' ∉ text) :
    upToClosing false (text ++ '\n' :: rest) =
      (upToClosing true rest).map fun cut => (text ++ '\n' :: cut.1, cut.2) := by
  induction text with
  | nil => simp [upToClosing]
  | cons c text ih =>
    have hc : c ≠ '\n' := fun h => htext (h ▸ List.mem_cons_self ..)
    have hrest : '\n' ∉ text := fun h => htext (.tail _ h)
    simp [upToClosing, hc, ih hrest, Function.comp_def]

theorem upToClosing_end {text : List Char} (htext : '\n' ∉ text) :
    upToClosing false text = none := by
  induction text with
  | nil => rfl
  | cons c text ih =>
    have hc : c ≠ '\n' := fun h => htext (h ▸ List.mem_cons_self ..)
    have hrest : '\n' ∉ text := fun h => htext (.tail _ h)
    simp [upToClosing, hc, ih hrest]

theorem upToClosing_of_closing {s body : List Char} (h : closing? s = some body) :
    upToClosing true s = some ([], body) := by
  cases s with
  | nil => simp [closing?, dashLine?, dashes, after?] at h
  | cons c s => simp [upToClosing, h]

/-- A text whose first line closes nothing is searched as one inside of a line. -/
theorem upToClosing_of_not_closing {s : List Char} (h : closing? s = none) :
    upToClosing true s = upToClosing false s := by
  cases s with
  | nil => rfl
  | cons c s => simp [upToClosing, h]

theorem upToClosing_line {line rest : List Char} (hline : IsLine line) (hfence : ¬IsFence line) :
    upToClosing true (line ++ rest) =
      (upToClosing true rest).map fun cut => (line ++ cut.1, cut.2) := by
  rw [upToClosing_of_not_closing (closing?_of_line hline hfence)]
  obtain ⟨text, htext, rfl⟩ := hline
  have hsearch : upToClosing false (text ++ '\n' :: rest) =
      (upToClosing true rest).map fun cut => (text ++ '\n' :: cut.1, cut.2) :=
    upToClosing_inLine htext
  simpa using hsearch

/-- A text is a list of lines and a rest without a line feed. -/
theorem exists_lines (s : List Char) :
    ∃ lines : List (List Char), ∃ last,
      (∀ line ∈ lines, IsLine line) ∧ '\n' ∉ last ∧ s = lines.flatten ++ last := by
  induction s with
  | nil => exact ⟨[], [], by simp, by simp, rfl⟩
  | cons c s ih =>
    obtain ⟨lines, last, hlines, hlast, rfl⟩ := ih
    by_cases hc : c = '\n'
    · refine ⟨['\n'] :: lines, last, ?_, hlast, by simp [hc]⟩
      exact List.forall_mem_cons.2 ⟨⟨[], by simp, rfl⟩, hlines⟩
    · cases lines with
      | nil => exact ⟨[], c :: last, by simp, by simp [Ne.symm hc, hlast], rfl⟩
      | cons line lines =>
        obtain ⟨⟨text, htext, rfl⟩, hrest⟩ := List.forall_mem_cons.1 hlines
        refine ⟨(c :: text ++ ['\n']) :: lines, last, ?_, hlast, by simp⟩
        exact List.forall_mem_cons.2 ⟨⟨c :: text, by simp [Ne.symm hc, htext], rfl⟩, hrest⟩

/-- What the search finds: some lines that are none of dashes, and then one that closes. -/
def Finds (s between body : List Char) : Prop :=
  ∃ lines : List (List Char), ∃ closing, (∀ line ∈ lines, IsLine line ∧ ¬IsFence line) ∧
    (IsFence closing ∨ IsDashes closing ∧ body = []) ∧ between = lines.flatten ∧
      s = lines.flatten ++ closing ++ body

theorem finds_of_closing {s body : List Char} (h : closing? s = some body) : Finds s [] body := by
  obtain ⟨closing, hcloses, rfl⟩ := closing?_eq_some_iff.1 h
  exact ⟨[], closing, by simp, hcloses, rfl, rfl⟩

theorem Finds.cons {line s between body : List Char} (h : Finds s between body)
    (hline : IsLine line) (hfence : ¬IsFence line) :
    Finds (line ++ s) (line ++ between) body := by
  obtain ⟨lines, closing, hlines, hcloses, rfl, rfl⟩ := h
  exact ⟨line :: lines, closing, List.forall_mem_cons.2 ⟨⟨hline, hfence⟩, hlines⟩, hcloses,
    by simp, by simp⟩

theorem finds_of_upToClosing {s between body : List Char}
    (h : upToClosing true s = some (between, body)) : Finds s between body := by
  obtain ⟨lines, last, hlines, hlast, rfl⟩ := exists_lines s
  induction lines generalizing between with
  | nil =>
    rw [List.flatten_nil, List.nil_append] at h ⊢
    cases hclosing : closing? last with
    | some after =>
      rw [upToClosing_of_closing hclosing] at h
      obtain ⟨rfl, rfl⟩ := Prod.mk.inj (Option.some.inj h)
      exact finds_of_closing hclosing
    | none =>
      rw [upToClosing_of_not_closing hclosing, upToClosing_end hlast] at h
      contradiction
  | cons line lines ih =>
    obtain ⟨hline, hrest⟩ := List.forall_mem_cons.1 hlines
    rw [List.flatten_cons, List.append_assoc] at h ⊢
    by_cases hfence : IsFence line
    · have hclosing := closing?_fence hfence (lines.flatten ++ last)
      rw [upToClosing_of_closing hclosing] at h
      obtain ⟨rfl, rfl⟩ := Prod.mk.inj (Option.some.inj h)
      exact finds_of_closing hclosing
    · rw [upToClosing_line hline hfence] at h
      obtain ⟨⟨more, after⟩, hmore, heq⟩ := Option.map_eq_some_iff.1 h
      obtain ⟨rfl, rfl⟩ := Prod.mk.inj heq
      exact (ih hrest hmore).cons hline hfence

theorem upToClosing_eq_some_iff {s between body : List Char} :
    upToClosing true s = some (between, body) ↔ Finds s between body := by
  refine ⟨finds_of_upToClosing, ?_⟩
  rintro ⟨lines, closing, hlines, hcloses, rfl, rfl⟩
  induction lines with
  | nil => exact upToClosing_of_closing (closing?_eq_some_iff.2 ⟨closing, hcloses, rfl⟩)
  | cons line lines ih =>
    obtain ⟨⟨hline, hfence⟩, hrest⟩ := List.forall_mem_cons.1 hlines
    have hfound := ih hrest
    rw [List.flatten_cons, List.append_assoc, List.append_assoc, upToClosing_line hline hfence,
      ← List.append_assoc, hfound]
    rfl

/-- Where some line closes, the search finds one. -/
theorem isSome_upToClosing {lines : List (List Char)} {closing body : List Char}
    (hlines : ∀ line ∈ lines, IsLine line)
    (hcloses : IsFence closing ∨ IsDashes closing ∧ body = []) :
    (upToClosing true (lines.flatten ++ closing ++ body)).isSome := by
  induction lines with
  | nil =>
    have hclosing : closing? (closing ++ body) = some body :=
      closing?_eq_some_iff.2 ⟨closing, hcloses, rfl⟩
    rw [List.flatten_nil, List.nil_append, upToClosing_of_closing hclosing]
    rfl
  | cons line lines ih =>
    obtain ⟨hline, hrest⟩ := List.forall_mem_cons.1 hlines
    have hfound := ih hrest
    rw [List.flatten_cons, List.append_assoc, List.append_assoc, ← List.append_assoc lines.flatten]
    by_cases hfence : IsFence line
    · rw [upToClosing_of_closing (closing?_fence hfence _)]
      rfl
    · rw [upToClosing_line hline hfence, Option.isSome_map]
      exact hfound

/-! ### Whole texts -/

theorem opening?_eq_some_iff {s rest : List Char} :
    opening? s = some rest ↔
      ∃ mark line, (mark = [] ∨ mark = [byteOrderMark]) ∧ IsFence line ∧
        s = mark ++ line ++ rest := by
  have hstart {line : List Char} (h : IsFence line) : ∃ t, line = '-' :: t := by
    obtain ⟨_, ⟨blanks, -, rfl⟩, rfl | rfl⟩ := h
    · exact ⟨_, rfl⟩
    · exact ⟨_, rfl⟩
  unfold opening?
  dsimp only
  rw [opening_line_iff]
  constructor
  · rintro ⟨line, hline, hs⟩
    split at hs
    · next c t =>
      split at hs
      · next hmark => exact ⟨[byteOrderMark], line, .inr rfl, hline, by simp [hmark, hs]⟩
      · exact ⟨[], line, .inl rfl, hline, by simpa using hs⟩
    · exact ⟨[], line, .inl rfl, hline, by simpa using hs⟩
  · rintro ⟨mark, line, rfl | rfl, hline, rfl⟩
    · obtain ⟨t, rfl⟩ := hstart hline
      exact ⟨'-' :: t, hline, by simp [byteOrderMark]⟩
    · exact ⟨line, hline, by simp⟩

/-- Lines end with a line break, so there is one to lose unless there are no lines. -/
theorem exists_losesBreak {lines : List (List Char)} (hlines : ∀ line ∈ lines, IsLine line) :
    ∃ s, LosesBreak lines.flatten s := by
  rcases List.eq_nil_or_concat lines with rfl | ⟨before, line, rfl⟩
  · exact ⟨[], .empty⟩
  · obtain ⟨text, -, rfl⟩ := hlines line (by simp)
    have hend : (before.concat (text ++ ['\n'])).flatten = (before.flatten ++ text) ++ ['\n'] := by
      simp
    rw [hend]
    by_cases hlast : (before.flatten ++ text).getLast? = some '\r'
    · obtain ⟨s, hs⟩ := List.getLast?_eq_some_iff.1 hlast
      rw [hs, List.append_assoc]
      exact ⟨s, .crlf s⟩
    · exact ⟨_, .lf hlast⟩

theorem LosesBreak.dropLastBreak_eq {s t : List Char} (h : LosesBreak s t) :
    dropLastBreak s = t := by
  cases h with
  | empty => rfl
  | crlf => simp [dropLastBreak]
  | lf hlast =>
    unfold dropLastBreak
    split
    · next r hreverse =>
      have hcr : t.reverse = '\r' :: r := by simpa using hreverse
      rw [← List.head?_reverse, hcr] at hlast
      exact absurd rfl hlast
    · next r _ hreverse =>
      have hr : t.reverse = r := by simpa using hreverse
      rw [← hr, List.reverse_reverse]
    · next hother => exact absurd (by simp) (hother t.reverse)

theorem losesBreak_iff {lines : List (List Char)} (hlines : ∀ line ∈ lines, IsLine line)
    {header : List Char} :
    LosesBreak lines.flatten header ↔ dropLastBreak lines.flatten = header := by
  refine ⟨LosesBreak.dropLastBreak_eq, ?_⟩
  rintro rfl
  obtain ⟨s, hs⟩ := exists_losesBreak hlines
  rwa [hs.dropLastBreak_eq]

theorem split_eq_some_iff {s header body : List Char} :
    split s = (some header, body) ↔
      ∃ rest between, opening? s = some rest ∧ upToClosing true rest = some (between, body) ∧
        dropLastBreak between = header := by
  unfold split
  cases hopening : opening? s with
  | none => simp
  | some rest =>
    cases hsearch : upToClosing true rest with
    | none => simp [hsearch]
    | some cut =>
      obtain ⟨between, after⟩ := cut
      simp only [Option.bind_some, hsearch, Prod.mk.injEq, Option.some.injEq]
      constructor
      · rintro ⟨rfl, rfl⟩
        exact ⟨rest, between, rfl, hsearch, rfl⟩
      · rintro ⟨_, _, rfl, hfound, rfl⟩
        obtain ⟨rfl, rfl⟩ := Prod.mk.inj (Option.some.inj (hsearch.symm.trans hfound))
        exact ⟨rfl, rfl⟩

theorem split_eq_none_iff {s body : List Char} :
    split s = (none, body) ↔
      (∀ header after, split s ≠ (some header, after)) ∧
        body = s.dropWhile (· = byteOrderMark) := by
  unfold split
  split
  · simp
  · simp [eq_comm]

theorem split_eq_some_iff_framed {s header body : List Char} :
    split s = (some header, body) ↔
      ∃ f : Framed, f.text = s ∧ f.IsFirst ∧ LosesBreak f.lines.flatten header ∧
        f.body = body := by
  rw [split_eq_some_iff]
  constructor
  · rintro ⟨rest, between, hopening, hsearch, hheader⟩
    obtain ⟨mark, opening, hmark, hopens, rfl⟩ := opening?_eq_some_iff.1 hopening
    obtain ⟨lines, closing, hlines, hcloses, rfl, rfl⟩ := upToClosing_eq_some_iff.1 hsearch
    have hisLine : ∀ line ∈ lines, IsLine line := fun line hline => (hlines line hline).1
    refine ⟨⟨mark, opening, lines, closing, body, hmark, hopens, hisLine, hcloses⟩, ?_,
      fun line hline => (hlines line hline).2, (losesBreak_iff hisLine).2 hheader, rfl⟩
    simp [Framed.text]
  · rintro ⟨f, rfl, hfirst, hheader, rfl⟩
    refine ⟨f.lines.flatten ++ f.closing ++ f.body, f.lines.flatten, ?_, ?_,
      hheader.dropLastBreak_eq⟩
    · refine opening?_eq_some_iff.2 ⟨f.mark, f.opening, f.isMark, f.opens, ?_⟩
      simp [Framed.text]
    · exact upToClosing_eq_some_iff.2
        ⟨f.lines, f.closing, fun line hline => ⟨f.isLine line hline, hfirst line hline⟩,
          f.closes, rfl, rfl⟩

/-- A text that is framed by two lines of dashes has a header, also where more lines than one could
close it. -/
theorem exists_split_eq_some_iff {s : List Char} :
    (∃ header body, split s = (some header, body)) ↔ ∃ f : Framed, f.text = s := by
  constructor
  · rintro ⟨header, body, h⟩
    obtain ⟨f, hf, -⟩ := split_eq_some_iff_framed.1 h
    exact ⟨f, hf⟩
  · rintro ⟨f, rfl⟩
    have hopening : opening? f.text = some (f.lines.flatten ++ f.closing ++ f.body) :=
      opening?_eq_some_iff.2 ⟨f.mark, f.opening, f.isMark, f.opens, by simp [Framed.text]⟩
    obtain ⟨⟨between, body⟩, hfound⟩ :=
      Option.isSome_iff_exists.1 (isSome_upToClosing f.isLine f.closes)
    exact ⟨_, body, split_eq_some_iff.2 ⟨_, between, hopening, hfound, rfl⟩⟩

/-- A text has a header exactly where it can be framed by two lines of dashes. The header is then
all between the first line and the next such line but for the last line break, and the body all
that follows; else the body is the text without the marks that it begins with. -/
theorem split_iff_framed (s : List Char) :
    ((∃ header body, split s = (some header, body)) ↔ ∃ f : Framed, f.text = s) ∧
      (∀ header body, split s = (some header, body) ↔
        ∃ f : Framed, f.text = s ∧ f.IsFirst ∧ LosesBreak f.lines.flatten header ∧
          f.body = body) ∧
      ∀ body, split s = (none, body) ↔
        (¬∃ f : Framed, f.text = s) ∧ body = s.dropWhile (· = byteOrderMark) := by
  refine ⟨exists_split_eq_some_iff, fun header body => split_eq_some_iff_framed, fun body => ?_⟩
  rw [split_eq_none_iff, ← exists_split_eq_some_iff]
  simp only [not_exists, ne_eq]

/-- A line that only begins with dashes closes nothing, and the end of the text may close. -/
example : split "---\r\nid: a\r\n--- b\r\n---\t".toList = (some "id: a\r\n--- b".toList, []) := by
  decide

end DocTrace.Header
