import DocTrace.Proofs.Path.Language

/-! Patterns as regular expressions. The text of the expression is read by the syntax of regular
expressions alone, and what is read from it has the words of the pattern. -/

namespace DocTrace

/-! ### Regular expressions -/

inductive Regex where
  | empty
  | char (c : Char)
  /-- Any character but one. -/
  | butNot (c : Char)
  | seq (first second : Regex)
  | alt (first second : Regex)
  | star (r : Regex)
  | option (r : Regex)
deriving DecidableEq

namespace Regex

open scoped Computability

def language : Regex → Language Char
  | .empty => 1
  | .char c => {[c]}
  | .butNot c => {u | ∃ d, d ≠ c ∧ u = [d]}
  | .seq first second => first.language * second.language
  | .alt first second => first.language + second.language
  | .star r => r.language∗
  | .option r => 1 + r.language

/-- An expression that is anchored at both ends leaves a line feed at the end of a text aside. -/
def Accepts (r : Regex) (text : List Char) : Prop :=
  text ∈ r.language ∨ ∃ u ∈ r.language, text = u ++ ['\n']

/-! ### The syntax -/

/-- A group that is being read. Its alternatives are finished, and the items of the current one
stand last first. -/
structure Frame where
  alternatives : List Regex := []
  items : List Regex := []

namespace Frame

def current (f : Frame) : Regex := f.items.foldr (fun item before => .seq before item) .empty

def push (f : Frame) (item : Regex) : Frame := { f with items := item :: f.items }

def nextAlternative (f : Frame) : Frame := ⟨f.alternatives ++ [f.current], []⟩

def close (f : Frame) : Regex := f.alternatives.foldr .alt f.current

/-- Puts a repetition on the last item, which must be there and have none yet. -/
def repeatLast? (f : Frame) (repetition : Regex → Regex) : Option Frame :=
  match f.items with
  | [] => none
  | .star _ :: _ => none
  | .option _ :: _ => none
  | item :: items => some { f with items := repetition item :: items }

end Frame

/-- The characters that stand for themselves only behind a backslash. -/
def syntaxChars : List Char :=
  ['.', '^', '$', '*', '+', '?', '\x7b', '[', '\\', '|', '(', ')']

/-- Reads an expression up to the anchor at its end; `outer` holds the groups around the one that is
being read. -/
def readFrom (outer : List Frame) (f : Frame) : List Char → Option Regex
  | [] => none
  | ['$'] => if outer.isEmpty then some f.close else none
  | '\\' :: c :: s => if c.isAlphanum then none else readFrom outer (f.push (.char c)) s
  | '[' :: '^' :: c :: ']' :: s => readFrom outer (f.push (.butNot c)) s
  | '(' :: '?' :: ':' :: s => readFrom (f :: outer) {} s
  | c :: s =>
    if c = '.' then readFrom outer (f.push (.butNot '\n')) s
    else if c = '*' then
      match f.repeatLast? .star with
      | some f => readFrom outer f s
      | none => none
    else if c = '?' then
      match f.repeatLast? .option with
      | some f => readFrom outer f s
      | none => none
    else if c = '|' then if outer.isEmpty then none else readFrom outer f.nextAlternative s
    else if c = ')' then
      match outer with
      | [] => none
      | o :: os => readFrom os (o.push f.close) s
    else if syntaxChars.contains c then none
    else readFrom outer (f.push (.char c)) s

/-- The expression of a text that is anchored at both ends. -/
def ofText? : List Char → Option Regex
  | '^' :: s => readFrom [] {} s
  | _ => none

end Regex

/-! ### The expression of a pattern -/

namespace Glob

/-- The characters that are written with a backslash. -/
def escapedChars : List Char :=
  ['(', ')', '[', ']', '\x7b', '\x7d', '?', '*', '+', '-', '|', '^', '$', '\\', '.', '&', '~', '#',
    ' ', '\t', '\n', '\r', '\x0b', '\x0c']

def escape (c : Char) : List Char := if escapedChars.contains c then ['\\', c] else [c]

/-- The expression for a pattern inside of `depth` groups. -/
def expressionFrom (depth : ℕ) : List Char → List Char
  | [] => List.replicate depth ')'
  | '*' :: '*' :: '/' :: s =>
    ['(', '?', ':', '.', '*', '/', ')', '?'] ++ expressionFrom depth s
  | '*' :: '*' :: s => ['.', '*'] ++ expressionFrom depth s
  | c :: s =>
    if c = '*' then ['[', '^', '/', ']', '*'] ++ expressionFrom depth s
    else if c = '?' then ['[', '^', '/', ']'] ++ expressionFrom depth s
    else if c = '\x7b' then ['(', '?', ':'] ++ expressionFrom (depth + 1) s
    else if c = '\x7d' ∧ depth ≠ 0 then [')'] ++ expressionFrom (depth - 1) s
    else if c = ',' ∧ depth ≠ 0 then ['|'] ++ expressionFrom depth s
    else escape c ++ expressionFrom depth s

def expression (pattern : String) : List Char :=
  '^' :: (expressionFrom 0 pattern.toList ++ ['$'])

end Glob

/-! ### Expressions and globs -/

namespace Regex

open Glob (Group)

/-- Without line feeds the expression and the glob have the same words. -/
def Agrees (r : Regex) (g : Glob) : Prop :=
  ∀ u, '\n' ∉ u → (u ∈ r.language ↔ u ∈ g.language)

theorem mem_star_butNot {c : Char} {u : List Char} : u ∈ (star (butNot c)).language ↔ c ∉ u := by
  rw [language, Language.mem_kstar]
  constructor
  · rintro ⟨parts, rfl, hparts⟩ hc
    obtain ⟨part, hpart, hc⟩ := List.mem_flatten.1 hc
    obtain ⟨d, hd, rfl⟩ := hparts part hpart
    exact hd (List.mem_singleton.1 hc).symm
  · intro hc
    refine ⟨u.map fun d => [d], (List.flatMap_singleton' u).symm, fun part hpart => ?_⟩
    obtain ⟨d, hd, rfl⟩ := List.mem_map.1 hpart
    exact ⟨d, ne_of_mem_of_not_mem hd hc, rfl⟩

theorem agrees_empty : Agrees .empty .empty := fun _ _ => Iff.rfl

theorem agrees_char (c : Char) : Agrees (.char c) (.char c) := fun _ _ => Iff.rfl

theorem agrees_inSegment : Agrees (.butNot '/') .inSegment := fun _ _ => Iff.rfl

theorem agrees_segment : Agrees (.star (.butNot '/')) .segment := fun _ _ => mem_star_butNot

theorem agrees_text : Agrees (.star (.butNot '\n')) .text :=
  fun _ hline => iff_of_true (mem_star_butNot.2 hline) trivial

theorem Agrees.seq {r t : Regex} {g h : Glob} (hr : Agrees r g) (ht : Agrees t h) :
    Agrees (.seq r t) (.seq g h) := by
  intro u hline
  rw [language, Glob.language, Language.mem_mul, Language.mem_mul]
  constructor
  · rintro ⟨v, hv, w, hw, rfl⟩
    rw [List.mem_append, not_or] at hline
    exact ⟨v, (hr v hline.1).1 hv, w, (ht w hline.2).1 hw, rfl⟩
  · rintro ⟨v, hv, w, hw, rfl⟩
    rw [List.mem_append, not_or] at hline
    exact ⟨v, (hr v hline.1).2 hv, w, (ht w hline.2).2 hw, rfl⟩

theorem Agrees.alt {r t : Regex} {g h : Glob} (hr : Agrees r g) (ht : Agrees t h) :
    Agrees (.alt r t) (.alt g h) := by
  intro u hline
  rw [language, Glob.language, Language.mem_add, Language.mem_add, hr u hline, ht u hline]

theorem Agrees.foldr {rs : List Regex} {gs : List Glob} (h : List.Forall₂ Agrees rs gs) {r : Regex}
    {g : Glob} (hr : Agrees r g) : Agrees (rs.foldr .alt r) (gs.foldr .alt g) := by
  induction h with
  | nil => exact hr
  | cons hfirst _ ih => exact hfirst.alt ih

theorem agrees_folders :
    Agrees (.option (.seq (.seq .empty (.star (.butNot '\n'))) (.char '/'))) .folders := by
  intro u hline
  simp only [language, one_mul, Language.mem_add, Language.mem_mul]
  constructor
  · rintro (hnil | ⟨v, -, _, rfl, rfl⟩)
    · exact .inl ((Language.mem_one u).1 hnil)
    · exact .inr ⟨v, rfl⟩
  · rintro (rfl | ⟨v, rfl⟩)
    · exact .inl Language.nil_mem_one
    · rw [List.mem_append, not_or] at hline
      exact .inr ⟨v, mem_star_butNot.2 hline.1, ['/'], rfl, rfl⟩

/-- The frame of an expression stands where the group of a glob does. -/
structure Represents (f : Frame) (g : Group) : Prop where
  alternatives : List.Forall₂ Agrees f.alternatives g.alternatives
  current : Agrees f.current g.current

namespace Represents

variable {f : Frame} {g : Group}

theorem start : Represents {} {} := ⟨.nil, agrees_empty⟩

theorem push (h : Represents f g) {r : Regex} {item : Glob} (hitem : Agrees r item) :
    Represents (f.push r) (g.add item) :=
  ⟨h.alternatives, h.current.seq hitem⟩

theorem nextAlternative (h : Represents f g) :
    Represents f.nextAlternative g.nextAlternative :=
  ⟨List.rel_append h.alternatives (.cons h.current .nil), agrees_empty⟩

theorem close (h : Represents f g) : Agrees f.close g.close := .foldr h.alternatives h.current

end Represents

theorem readFrom_plain {c : Char} (hc : c ∉ syntaxChars) (fs : List Frame) (f : Frame)
    (rest : List Char) : readFrom fs f (c :: rest) = readFrom fs (f.push (.char c)) rest := by
  have hother : ∀ d ∈ syntaxChars, c ≠ d := fun d hd hcd => hc (hcd ▸ hd)
  simp only [syntaxChars, List.mem_cons, List.not_mem_nil, or_false, forall_eq_or_imp, forall_eq]
    at hother
  rw [readFrom.eq_def]
  split <;> simp_all

theorem readFrom_escape (fs : List Frame) (f : Frame) (c : Char) (rest : List Char) :
    readFrom fs f (Glob.escape c ++ rest) = readFrom fs (f.push (.char c)) rest := by
  unfold Glob.escape
  split
  · next hc =>
    have hall : Glob.escapedChars.all (fun c => !c.isAlphanum) = true := by decide
    have hletter : c.isAlphanum = false := by
      simpa using List.all_eq_true.1 hall c (by simpa using hc)
    simp [readFrom, hletter]
  · next hc =>
    have hall : syntaxChars.all Glob.escapedChars.contains = true := by decide
    have hplain : c ∉ syntaxChars := fun h => hc (List.all_eq_true.1 hall c h)
    exact readFrom_plain hplain fs f rest

end Regex

namespace Glob

open Regex (Frame Represents)

theorem expressionFrom_text {s : List Char} (hs : s.head? ≠ some '/') (depth : ℕ) :
    expressionFrom depth ('*' :: '*' :: s) = ['.', '*'] ++ expressionFrom depth s := by
  cases s with
  | nil => rfl
  | cons c t =>
    have hc : c ≠ '/' := by simpa using hs
    simp [expressionFrom, hc]

theorem expressionFrom_segment {s : List Char} (hs : s.head? ≠ some '*') (depth : ℕ) :
    expressionFrom depth ('*' :: s) = ['[', '^', '/', ']', '*'] ++ expressionFrom depth s := by
  cases s with
  | nil => rfl
  | cons c t =>
    have hc : c ≠ '*' := by simpa using hs
    rw [expressionFrom.eq_def]
    simp [hc]

theorem expressionFrom_char {c : Char} (hc : c ∉ ['*', '?', '\x7b']) {depth : ℕ}
    (hdepth : depth = 0 ∨ [c] ∉ [[','], ['\x7d']]) (s : List Char) :
    expressionFrom depth (c :: s) = escape c ++ expressionFrom depth s := by
  simp only [List.mem_cons, List.not_mem_nil, or_false, not_or, List.cons.injEq, and_true]
    at hc hdepth
  rcases hdepth with rfl | hplain
  · simp [expressionFrom, hc]
  · simp [expressionFrom, hc, hplain]

/-- A token is written as an expression that is read as one item. -/
theorem IsToken.exists_item {written s : List Char} {item : Glob} (h : IsToken written s item)
    {depth : ℕ} (hdepth : depth = 0 ∨ written ∉ [[','], ['\x7d']]) :
    ∃ r text, Regex.Agrees r item ∧
      expressionFrom depth (written ++ s) = text ++ expressionFrom depth s ∧
      ∀ fs f rest, Regex.readFrom fs f (text ++ rest) = Regex.readFrom fs (f.push r) rest := by
  cases h with
  | folders => exact ⟨_, _, Regex.agrees_folders, rfl, fun fs f rest => rfl⟩
  | text hs =>
    exact ⟨_, _, Regex.agrees_text, expressionFrom_text hs depth, fun fs f rest => rfl⟩
  | segment hs =>
    exact ⟨_, _, Regex.agrees_segment, expressionFrom_segment hs depth, fun fs f rest => rfl⟩
  | inSegment => exact ⟨_, _, Regex.agrees_inSegment, rfl, fun fs f rest => rfl⟩
  | @char c _ hc =>
    exact ⟨_, _, Regex.agrees_char c, expressionFrom_char hc hdepth s,
      fun fs f => Regex.readFrom_escape fs f c⟩

/-- Groups that the pattern leaves open are closed at its end. -/
theorem exists_readFrom_close {fs : List Frame} {gs : List Group}
    (hs : List.Forall₂ Represents fs gs) {f : Frame} {g : Group} (h : Represents f g) :
    ∃ r, Regex.readFrom fs f (List.replicate gs.length ')' ++ ['$']) = some r ∧
      r.Agrees (read gs g []) := by
  induction hs generalizing f g with
  | nil => exact ⟨f.close, rfl, h.close⟩
  | cons ho _ ih => exact ih (ho.push h.close)

theorem exists_readFrom {fs : List Frame} {gs : List Group} (hs : List.Forall₂ Represents fs gs)
    {f : Frame} {g : Group} (h : Represents f g) (s : List Char) :
    ∃ r, Regex.readFrom fs f (expressionFrom gs.length s ++ ['$']) = some r ∧
      r.Agrees (read gs g s) := by
  induction hlength : s.length using Nat.strong_induction_on generalizing fs gs f g s with
  | _ n ih =>
    subst hlength
    rcases exists_token s with rfl | ⟨t, rfl⟩ | ⟨written, rest, item, htoken, rfl⟩
    · exact exists_readFrom_close hs h
    · exact ih t.length (by simp) (.cons h hs) .start t rfl
    · by_cases hplain : gs.length = 0 ∨ written ∉ [[','], ['\x7d']]
      · obtain ⟨r, text, hr, htext, hread⟩ := htoken.exists_item hplain
        rw [htext, List.append_assoc, hread,
          htoken.read_append (hplain.imp_left List.length_eq_zero_iff.1)]
        exact ih rest.length htoken.length_lt hs (h.push hr) rest rfl
      · simp only [List.mem_cons, List.not_mem_nil, or_false, not_or, not_and_or, not_not]
          at hplain
        obtain ⟨hopen, hwritten⟩ := hplain
        cases hs with
        | nil => exact absurd rfl hopen
        | cons ho hos =>
          rcases hwritten with rfl | rfl
          · exact ih rest.length htoken.length_lt (.cons ho hos) h.nextAlternative rest rfl
          · exact ih rest.length htoken.length_lt hos (ho.push h.close) rest rfl

/-- The expression of a pattern is well formed. A path without a line feed matches it, or is accepted
by the glob of the pattern, if and only if the pattern stands for the path. -/
theorem accepts_iff_reads (pattern : String) :
    ∃ r, Regex.ofText? (expression pattern) = some r ∧
      ∀ path : String, '\n' ∉ path.toList →
        (r.Accepts path.toList ↔ Reads pattern.toList path.toList) ∧
        ((ofPattern pattern).accepts path = true ↔ Reads pattern.toList path.toList) := by
  obtain ⟨r, hread, hr⟩ := exists_readFrom .nil .start pattern.toList
  refine ⟨r, hread, fun path hline => ?_⟩
  have hwords : path.toList ∈ (ofPattern pattern).language ↔ Reads pattern.toList path.toList := by
    rw [language_ofPattern]
    exact Iff.rfl
  rw [← hwords, accepts_iff_of_not_mem hline]
  refine ⟨?_, Iff.rfl⟩
  have hsame : path.toList ∈ r.language ↔ path.toList ∈ (ofPattern pattern).language :=
    hr path.toList hline
  rw [Regex.Accepts, ← hsame]
  refine or_iff_left ?_
  rintro ⟨u, -, hpath⟩
  exact hline (by simp [hpath])

theorem accepts_iff_reads_nested :
    '\n' ∉ "x/bd/k/y.md".toList ∧ '\n' ∉ "x/be/y.md".toList ∧
      Reads "x/\x7ba,b\x7bc,d\x7d/**/*.md".toList "x/bd/k/y.md".toList ∧
      ¬Reads "x/\x7ba,b\x7bc,d\x7d/**/*.md".toList "x/be/y.md".toList := by
  obtain ⟨r, -, hr⟩ := accepts_iff_reads "x/\x7ba,b\x7bc,d\x7d/**/*.md"
  have hline : '\n' ∉ "x/bd/k/y.md".toList := by decide
  have hother : '\n' ∉ "x/be/y.md".toList := by decide
  refine ⟨hline, hother, (hr _ hline).2.1 (by decide +kernel), fun hreads => ?_⟩
  exact absurd ((hr _ hother).2.2 hreads) (by decide +kernel)

end Glob

end DocTrace
