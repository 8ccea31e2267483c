import DocTrace.Path.Glob
import Mathlib.Computability.Language

/-! The words that a pattern stands for, said of its text alone and read from left to right. A glob
that is read from the pattern accepts those words and no others, as long as no line feed is among
the characters. -/

namespace DocTrace.Glob

open Text.Endings

/-! ### Patterns as they are written -/

/-- How many groups are open after a character. -/
def depthAfter (depth : ℕ) (c : Char) : ℕ :=
  if c = '\x7b' then depth + 1 else if c = '\x7d' then depth - 1 else depth

/-- The alternatives of a group, from the text behind its opening brace; `depth` counts the groups
inside of it that are open. -/
def alternatives (depth : ℕ) : List Char → List (List Char)
  | [] => [[]]
  | c :: s =>
    if depth = 0 ∧ c = '\x7d' then [[]]
    else if depth = 0 ∧ c = ',' then [] :: alternatives 0 s
    else (alternatives (depthAfter depth c) s).modifyHead (c :: ·)

/-- What follows the brace that closes a group. -/
def afterGroup (depth : ℕ) : List Char → List Char
  | [] => []
  | c :: s => if depth = 0 ∧ c = '\x7d' then s else afterGroup (depthAfter depth c) s

/-- The pattern stands for the word. -/
inductive Reads : List Char → List Char → Prop
  | nil : Reads [] []
  | folders {s u w : List Char} : (u = [] ∨ ∃ v, u = v ++ ['/']) → Reads s w →
      Reads ('*' :: '*' :: '/' :: s) (u ++ w)
  | text {s u w : List Char} : s.head? ≠ some '/' → Reads s w → Reads ('*' :: '*' :: s) (u ++ w)
  | segment {s u w : List Char} : s.head? ≠ some '*' → '/' ∉ u → Reads s w →
      Reads ('*' :: s) (u ++ w)
  | inSegment {s w : List Char} {c : Char} : c ≠ '/' → Reads s w → Reads ('?' :: s) (c :: w)
  | group {s a u w : List Char} : a ∈ alternatives 0 s → Reads a u → Reads (afterGroup 0 s) w →
      Reads ('\x7b' :: s) (u ++ w)
  | char {s w : List Char} {c : Char} : c ∉ ['*', '?', '\x7b'] → Reads s w →
      Reads (c :: s) (c :: w)

def words (pattern : List Char) : Language Char := {w | Reads pattern w}

/-! ### Globs as languages -/

def language : Glob → Language Char
  | .empty => 1
  | .char c => {[c]}
  | .inSegment => {u | ∃ c, c ≠ '/' ∧ u = [c]}
  | .segment => {u | '/' ∉ u}
  | .text => ⊤
  | .folders => {u | u = [] ∨ ∃ v, u = v ++ ['/']}
  | .seq first second => first.language * second.language
  | .alt first second => first.language + second.language

theorem words_nil : words [] = 1 := by
  ext w
  constructor
  · rintro ⟨⟩
    exact Language.nil_mem_one
  · intro h
    rw [(Language.mem_one w).1 h]
    exact .nil

theorem words_folders (s : List Char) :
    words ('*' :: '*' :: '/' :: s) = folders.language * words s := by
  ext w
  rw [Language.mem_mul]
  constructor
  · intro h
    cases h with
    | folders hu hw => exact ⟨_, hu, _, hw, rfl⟩
    | text hs _ => exact absurd rfl hs
    | segment hs _ _ => exact absurd rfl hs
    | char hc _ => exact absurd hc (by decide)
  · rintro ⟨u, hu, w, hw, rfl⟩
    exact .folders hu hw

theorem words_text {s : List Char} (hs : s.head? ≠ some '/') :
    words ('*' :: '*' :: s) = text.language * words s := by
  ext w
  rw [Language.mem_mul]
  constructor
  · intro h
    cases h with
    | folders hu hw => exact absurd rfl hs
    | text _ hw => exact ⟨_, trivial, _, hw, rfl⟩
    | segment hs' _ _ => exact absurd rfl hs'
    | char hc _ => exact absurd hc (by decide)
  · rintro ⟨u, -, w, hw, rfl⟩
    exact .text hs hw

theorem words_segment {s : List Char} (hs : s.head? ≠ some '*') :
    words ('*' :: s) = segment.language * words s := by
  ext w
  rw [Language.mem_mul]
  constructor
  · intro h
    cases h with
    | folders _ _ => exact absurd rfl hs
    | text _ _ => exact absurd rfl hs
    | segment _ hu hw => exact ⟨_, hu, _, hw, rfl⟩
    | char hc _ => exact absurd hc (by decide)
  · rintro ⟨u, hu, w, hw, rfl⟩
    exact .segment hs hu hw

theorem words_inSegment (s : List Char) : words ('?' :: s) = inSegment.language * words s := by
  ext w
  rw [Language.mem_mul]
  constructor
  · intro h
    cases h with
    | inSegment hc hw => exact ⟨_, ⟨_, hc, rfl⟩, _, hw, rfl⟩
    | char hc _ => exact absurd hc (by decide)
  · rintro ⟨_, ⟨c, hc, rfl⟩, w, hw, rfl⟩
    exact .inSegment hc hw

theorem words_char {s : List Char} {c : Char} (hc : c ∉ ['*', '?', '\x7b']) :
    words (c :: s) = (char c).language * words s := by
  ext w
  rw [Language.mem_mul]
  constructor
  · intro h
    cases h with
    | char _ hw => exact ⟨_, rfl, _, hw, rfl⟩
    | _ => exact absurd (by decide) hc
  · rintro ⟨_, rfl, w, hw, rfl⟩
    exact .char hc hw

theorem mem_sum (languages : List (Language Char)) (w : List Char) :
    w ∈ languages.sum ↔ ∃ l ∈ languages, w ∈ l := by
  induction languages with
  | nil => simp [Language.notMem_zero]
  | cons l languages ih => simp [Language.mem_add, ih]

theorem words_group (s : List Char) :
    words ('\x7b' :: s) = ((alternatives 0 s).map words).sum * words (afterGroup 0 s) := by
  ext w
  rw [Language.mem_mul]
  constructor
  · intro h
    cases h with
    | group ha hu hw => exact ⟨_, (mem_sum _ _).2 ⟨_, List.mem_map_of_mem ha, hu⟩, _, hw, rfl⟩
    | char hc _ => exact absurd hc (by decide)
  · rintro ⟨u, hu, w, hw, rfl⟩
    obtain ⟨_, hl, hu⟩ := (mem_sum _ _).1 hu
    obtain ⟨a, ha, rfl⟩ := List.mem_map.1 hl
    exact .group ha hu hw

/-! ### Groups inside of groups -/

/-- The text of a group up to the brace that closes it. -/
def groupText (depth : ℕ) : List Char → List Char
  | [] => []
  | c :: s => if depth = 0 ∧ c = '\x7d' then [c] else c :: groupText (depthAfter depth c) s

theorem depthAfter_succ {depth : ℕ} {c : Char} (h : ¬(depth = 0 ∧ c = '\x7d')) :
    depthAfter (depth + 1) c = depthAfter depth c + 1 := by
  unfold depthAfter
  split_ifs with hopen hclose
  · rfl
  · have hdepth : depth ≠ 0 := fun hzero => h ⟨hzero, hclose⟩
    omega
  · rfl

theorem groupText_append_afterGroup (depth : ℕ) (s : List Char) :
    groupText depth s ++ afterGroup depth s = s := by
  induction s generalizing depth with
  | nil => rfl
  | cons c s ih =>
    simp only [groupText, afterGroup]
    split
    · rfl
    · rw [List.cons_append, ih]

theorem afterGroup_succ (depth : ℕ) (s : List Char) :
    afterGroup (depth + 1) s = afterGroup 0 (afterGroup depth s) := by
  induction s generalizing depth with
  | nil => rfl
  | cons c s ih =>
    by_cases hclose : depth = 0 ∧ c = '\x7d'
    · obtain ⟨rfl, rfl⟩ := hclose
      rfl
    · have hopen : ¬(depth + 1 = 0 ∧ c = '\x7d') := fun h => Nat.succ_ne_zero _ h.1
      rw [afterGroup, if_neg hopen, depthAfter_succ hclose, ih, afterGroup, if_neg hclose]

theorem alternatives_succ (depth : ℕ) (s : List Char) :
    alternatives (depth + 1) s =
      (alternatives 0 (afterGroup depth s)).modifyHead (groupText depth s ++ ·) := by
  induction s generalizing depth with
  | nil => rfl
  | cons c s ih =>
    have hopen (d : Char) : ¬(depth + 1 = 0 ∧ c = d) := fun h => Nat.succ_ne_zero _ h.1
    rw [alternatives, if_neg (hopen _), if_neg (hopen _), groupText, afterGroup]
    by_cases hclose : depth = 0 ∧ c = '\x7d'
    · obtain ⟨rfl, rfl⟩ := hclose
      rfl
    · rw [if_neg hclose, if_neg hclose, depthAfter_succ hclose, ih, List.modifyHead_modifyHead]
      rfl

theorem afterGroup_groupText {depth : ℕ} {s x : List Char} (h : x <+: afterGroup depth s) :
    afterGroup depth (groupText depth s ++ x) = x := by
  induction s generalizing depth with
  | nil => rw [List.eq_nil_of_prefix_nil h]; rfl
  | cons c s ih =>
    rw [afterGroup] at h
    rw [groupText]
    split
    · next hclose => rw [List.singleton_append, afterGroup, if_pos hclose]
    · next hclose =>
      rw [if_neg hclose] at h
      rw [List.cons_append, afterGroup, if_neg hclose, ih h]

theorem alternatives_groupText {depth : ℕ} {s x : List Char} (h : x <+: afterGroup depth s) :
    alternatives depth (groupText depth s ++ x) = alternatives depth s := by
  induction s generalizing depth with
  | nil => rw [List.eq_nil_of_prefix_nil h]; rfl
  | cons c s ih =>
    rw [afterGroup] at h
    rw [groupText]
    split
    · next hclose =>
      rw [List.singleton_append, alternatives, if_pos hclose, alternatives, if_pos hclose]
    · next hclose =>
      rw [if_neg hclose] at h
      rw [List.cons_append, alternatives, if_neg hclose, alternatives, if_neg hclose, ih h]
      split
      · next hcomma =>
        obtain ⟨rfl, rfl⟩ := hcomma
        have hrest : x <+: afterGroup 0 s := h
        exact congrArg _ (ih hrest)
      · rfl

theorem alternatives_ne_nil (depth : ℕ) (s : List Char) : alternatives depth s ≠ [] := by
  induction s generalizing depth with
  | nil => simp [alternatives]
  | cons c s ih =>
    rw [alternatives]
    split
    · simp
    · split
      · simp
      · simpa using ih _

theorem length_afterGroup_le (depth : ℕ) (s : List Char) :
    (afterGroup depth s).length ≤ s.length := by
  have hlength := congrArg List.length (groupText_append_afterGroup depth s)
  rw [List.length_append] at hlength
  omega

theorem prefix_of_alternatives {depth : ℕ} {s a : List Char}
    (h : (alternatives depth s).head? = some a) : a <+: s := by
  induction s generalizing depth a with
  | nil => simp_all [alternatives]
  | cons c s ih =>
    rw [alternatives] at h
    split at h
    · simp_all
    · split at h
      · simp_all
      · rw [List.head?_modifyHead, Option.map_eq_some_iff] at h
        obtain ⟨b, hb, rfl⟩ := h
        exact List.cons_prefix_cons.2 ⟨rfl, ih hb⟩

/-! ### Tokens -/

/-- What is written, with the rest after it, stands for one glob at any depth. -/
inductive IsToken : List Char → List Char → Glob → Prop
  | folders (s : List Char) : IsToken ['*', '*', '/'] s .folders
  | text {s : List Char} : s.head? ≠ some '/' → IsToken ['*', '*'] s .text
  | segment {s : List Char} : s.head? ≠ some '*' → IsToken ['*'] s .segment
  | inSegment (s : List Char) : IsToken ['?'] s .inSegment
  | char {c : Char} (s : List Char) : c ∉ ['*', '?', '\x7b'] → IsToken [c] s (.char c)

theorem exists_token (s : List Char) :
    s = [] ∨ (∃ t, s = '\x7b' :: t) ∨ ∃ written rest item, IsToken written rest item ∧
      s = written ++ rest := by
  rcases s with _ | ⟨c, s⟩
  · exact .inl rfl
  right
  by_cases hc : c ∉ ['*', '?', '\x7b']
  · exact .inr ⟨[c], s, _, .char s hc, rfl⟩
  simp only [List.mem_cons, List.not_mem_nil, or_false, not_not] at hc
  rcases hc with rfl | rfl | rfl
  · right
    by_cases hs : s.head? = some '*'
    · obtain ⟨t, rfl⟩ := List.head?_eq_some_iff.1 hs
      by_cases ht : t.head? = some '/'
      · obtain ⟨u, rfl⟩ := List.head?_eq_some_iff.1 ht
        exact ⟨_, u, _, .folders u, rfl⟩
      · exact ⟨_, t, _, .text ht, rfl⟩
    · exact ⟨_, s, _, .segment hs, rfl⟩
  · exact .inr ⟨_, s, _, .inSegment s, rfl⟩
  · exact .inl ⟨s, rfl⟩

namespace IsToken

variable {written s : List Char} {item : Glob}

theorem mono (h : IsToken written s item) {a : List Char} (ha : a <+: s) :
    IsToken written a item := by
  have hhead {c : Char} (hs : s.head? ≠ some c) : a.head? ≠ some c := by
    intro hc
    obtain ⟨t, rfl⟩ := ha
    exact hs (by rw [List.head?_append, hc]; rfl)
  cases h with
  | folders => exact .folders a
  | text hs => exact .text (hhead hs)
  | segment hs => exact .segment (hhead hs)
  | inSegment => exact .inSegment a
  | char _ hc => exact .char a hc

theorem length_lt (h : IsToken written s item) : s.length < (written ++ s).length := by
  have hne : written ≠ [] := by cases h <;> simp
  have hlength := List.length_pos_iff.2 hne
  rw [List.length_append]
  omega

theorem words_append (h : IsToken written s item) :
    words (written ++ s) = item.language * words s := by
  cases h with
  | folders => exact words_folders s
  | text hs => exact words_text hs
  | segment hs => exact words_segment hs
  | inSegment => exact words_inSegment s
  | char _ hc => exact words_char hc

theorem read_append (h : IsToken written s item) {outer : List Group}
    (houter : outer = [] ∨ written ∉ [[','], ['\x7d']]) (g : Group) :
    read outer g (written ++ s) = read outer (g.add item) s := by
  cases h with
  | folders => rfl
  | text hs =>
    cases s with
    | nil => rfl
    | cons c t =>
      have hc : c ≠ '/' := by simpa using hs
      simp [read, hc]
  | segment hs =>
    cases s with
    | nil => rfl
    | cons c t =>
      have hc : c ≠ '*' := by simpa using hs
      rw [List.singleton_append, read.eq_def]
      simp [hc]
  | inSegment => rfl
  | @char c _ hc =>
    simp only [List.mem_cons, List.not_mem_nil, or_false, not_or] at hc
    obtain ⟨hstar, hany, hopen⟩ := hc
    rcases outer with _ | ⟨o, os⟩
    · simp [read, hstar, hany, hopen]
    · have hplain : c ≠ ',' ∧ c ≠ '\x7d' := by simpa using houter
      simp [read, hstar, hany, hopen, hplain]

theorem alternatives_append (h : IsToken written s item) (hwritten : written ∉ [[','], ['\x7d']]) :
    alternatives 0 (written ++ s) = (alternatives 0 s).modifyHead (written ++ ·) := by
  cases h with
  | @char c _ hc =>
    simp only [List.mem_cons, List.not_mem_nil, or_false, not_or, List.cons.injEq, and_true]
      at hc hwritten
    simp [alternatives, depthAfter, hc, hwritten]
  | _ => simp [alternatives, depthAfter, Function.comp_def]

theorem afterGroup_append (h : IsToken written s item) (hwritten : written ∉ [[','], ['\x7d']]) :
    afterGroup 0 (written ++ s) = afterGroup 0 s := by
  cases h with
  | @char c _ hc =>
    simp only [List.mem_cons, List.not_mem_nil, or_false, not_or, List.cons.injEq, and_true]
      at hc hwritten
    simp [afterGroup, depthAfter, hc, hwritten]
  | _ => rfl

end IsToken

/-! ### Reading a pattern -/

namespace Group

/-- The words of a group whose current alternative goes on with the first of some patterns. -/
def finish (g : Group) : List (List Char) → Language Char
  | [] => 0
  | a :: as =>
    (g.alternatives.map language).sum + (g.current.language * words a + (as.map words).sum)

theorem language_close (g : Group) :
    g.close.language = (g.alternatives.map language).sum + g.current.language := by
  unfold close
  induction g.alternatives with
  | nil => simp
  | cons a as ih => simp [language, ih, add_assoc]

theorem finish_nil (g : Group) : g.finish [[]] = g.close.language := by
  simp [finish, language_close, words_nil]

theorem finish_nextAlternative (g : Group) {patterns : List (List Char)} (h : patterns ≠ []) :
    g.nextAlternative.finish patterns = g.finish ([] :: patterns) := by
  obtain ⟨a, as, rfl⟩ := List.exists_cons_of_ne_nil h
  simp [finish, nextAlternative, language, words_nil, add_assoc]

theorem finish_add (g : Group) {item : Glob} {written : List Char} (patterns : List (List Char))
    (h : ∀ a ∈ patterns.head?, words (written ++ a) = item.language * words a) :
    (g.add item).finish patterns = g.finish (patterns.modifyHead (written ++ ·)) := by
  cases patterns with
  | nil => rfl
  | cons a as =>
    have ha := h a rfl
    simp [finish, add, language, ha, mul_assoc]

theorem finish_empty (patterns : List (List Char)) :
    finish {} patterns = (patterns.map words).sum := by
  cases patterns <;> simp [finish, language]

end Group

theorem words_group_append {s a : List Char} (h : a <+: afterGroup 0 s) :
    words ('\x7b' :: groupText 0 s ++ a) = ((alternatives 0 s).map words).sum * words a := by
  rw [List.cons_append, words_group, alternatives_groupText h, afterGroup_groupText h]

theorem alternatives_group (s : List Char) :
    alternatives 0 ('\x7b' :: s) =
      (alternatives 0 (afterGroup 0 s)).modifyHead ('\x7b' :: groupText 0 s ++ ·) := by
  have hcons : alternatives 0 ('\x7b' :: s) = (alternatives 1 s).modifyHead ('\x7b' :: ·) := rfl
  rw [hcons, alternatives_succ, List.modifyHead_modifyHead]
  rfl

theorem afterGroup_group (s : List Char) :
    afterGroup 0 ('\x7b' :: s) = afterGroup 0 (afterGroup 0 s) :=
  afterGroup_succ 0 s

theorem exists_read_group (o : Group) (os : List Group) (g : Group) (s : List Char) :
    ∃ inner : Glob, read (o :: os) g s = read os (o.add inner) (afterGroup 0 s) ∧
      inner.language = g.finish (alternatives 0 s) := by
  induction hlength : s.length using Nat.strong_induction_on generalizing o os g s with
  | _ n ih =>
    subst hlength
    rcases exists_token s with rfl | ⟨t, rfl⟩ | ⟨written, rest, item, htoken, rfl⟩
    · exact ⟨g.close, rfl, g.finish_nil.symm⟩
    · have hle := length_afterGroup_le 0 t
      obtain ⟨inner, hread, hinner⟩ := ih t.length (by simp) g (o :: os) {} t rfl
      obtain ⟨whole, hread', hwhole⟩ :=
        ih _ (by simp; omega) o os (g.add inner) (afterGroup 0 t) rfl
      refine ⟨whole, ?_, ?_⟩
      · have hopen : read (o :: os) g ('\x7b' :: t) = read (g :: o :: os) {} t := rfl
        rw [hopen, hread, hread', afterGroup_group]
      · rw [hwhole, alternatives_group]
        refine Group.finish_add g _ fun a ha => ?_
        rw [words_group_append (prefix_of_alternatives ha), hinner, Group.finish_empty]
    · by_cases hplain : written ∉ [[','], ['\x7d']]
      · obtain ⟨whole, hread, hwhole⟩ := ih _ htoken.length_lt o os (g.add item) rest rfl
        refine ⟨whole, ?_, ?_⟩
        · rw [htoken.read_append (.inr hplain), hread, htoken.afterGroup_append hplain]
        · rw [hwhole, htoken.alternatives_append hplain]
          refine Group.finish_add g _ fun a ha => ?_
          exact (htoken.mono (prefix_of_alternatives ha)).words_append
      · simp only [List.mem_cons, List.not_mem_nil, or_false, not_not] at hplain
        rcases hplain with rfl | rfl
        · obtain ⟨whole, hread, hwhole⟩ := ih _ htoken.length_lt o os g.nextAlternative rest rfl
          exact ⟨whole, hread, hwhole.trans (g.finish_nextAlternative (alternatives_ne_nil 0 rest))⟩
        · exact ⟨g.close, rfl, g.finish_nil.symm⟩

theorem language_read (g : Group) (s : List Char) : (read [] g s).language = g.finish [s] := by
  induction hlength : s.length using Nat.strong_induction_on generalizing g s with
  | _ n ih =>
    subst hlength
    rcases exists_token s with rfl | ⟨t, rfl⟩ | ⟨written, rest, item, htoken, rfl⟩
    · exact g.finish_nil.symm
    · obtain ⟨inner, hread, hinner⟩ := exists_read_group g [] {} t
      have hopen : read [] g ('\x7b' :: t) = read [g] {} t := rfl
      have htext : '\x7b' :: groupText 0 t ++ afterGroup 0 t = '\x7b' :: t := by
        rw [List.cons_append, groupText_append_afterGroup]
      have hle := length_afterGroup_le 0 t
      rw [hopen, hread, ih _ (by simp; omega) _ _ rfl, ← htext]
      refine Group.finish_add g [afterGroup 0 t] fun a ha => ?_
      obtain rfl := Option.some.inj ha
      rw [words_group_append List.prefix_rfl, hinner, Group.finish_empty]
    · rw [htoken.read_append (.inl rfl), ih _ htoken.length_lt _ _ rfl]
      refine Group.finish_add g [rest] fun a ha => ?_
      obtain rfl := Option.some.inj ha
      exact htoken.words_append

theorem language_ofPattern (pattern : String) :
    (ofPattern pattern).language = words pattern.toList := by
  rw [ofPattern, language_read, Group.finish]
  simp [language]

/-! ### Matching -/

theorem afterOne_iff {p : Char → Bool} {rest : List Char → Bool} {s : List Char} :
    afterOne p rest s = true ↔ ∃ c v, s = c :: v ∧ p c = true ∧ rest v = true := by
  cases s <;> simp [afterOne]

theorem afterSome_iff {p : Char → Bool} {rest : List Char → Bool} {s : List Char} :
    afterSome p rest s = true ↔
      ∃ u v, s = u ++ v ∧ (∀ c ∈ u, p c = true) ∧ rest v = true := by
  induction s with
  | nil => simp [afterSome]
  | cons c s ih =>
    rw [afterSome, Bool.or_eq_true, Bool.and_eq_true, ih]
    constructor
    · rintro (hrest | ⟨hc, u, v, rfl, hu, hv⟩)
      · exact ⟨[], c :: s, rfl, by simp, hrest⟩
      · exact ⟨c :: u, v, rfl, by simpa using ⟨hc, hu⟩, hv⟩
    · rintro ⟨_ | ⟨d, u⟩, v, hs, hu, hv⟩
      · left
        rwa [hs]
      · obtain ⟨rfl, rfl⟩ := List.cons.inj hs
        rw [List.forall_mem_cons] at hu
        exact .inr ⟨hu.1, u, v, rfl, hu.2, hv⟩

theorem exists_of_matchThen {g : Glob} {rest : List Char → Bool} {s : List Char}
    (h : g.matchThen rest s = true) : ∃ u v, s = u ++ v ∧ u ∈ g.language ∧ rest v = true := by
  induction g generalizing rest s with
  | empty => exact ⟨[], s, rfl, Language.nil_mem_one, h⟩
  | char c =>
    obtain ⟨d, v, rfl, hd, hv⟩ := afterOne_iff.1 h
    obtain rfl : d = c := by simpa using hd
    exact ⟨[d], v, rfl, rfl, hv⟩
  | inSegment =>
    obtain ⟨c, v, rfl, hc, hv⟩ := afterOne_iff.1 h
    exact ⟨[c], v, rfl, ⟨c, by simpa using hc, rfl⟩, hv⟩
  | segment =>
    obtain ⟨u, v, rfl, hu, hv⟩ := afterSome_iff.1 h
    exact ⟨u, v, rfl, fun hslash => absurd (hu _ hslash) (by simp), hv⟩
  | text =>
    obtain ⟨u, v, rfl, -, hv⟩ := afterSome_iff.1 h
    exact ⟨u, v, rfl, trivial, hv⟩
  | folders =>
    rw [matchThen, Bool.or_eq_true] at h
    rcases h with h | h
    · exact ⟨[], s, rfl, .inl rfl, h⟩
    · obtain ⟨u, v, rfl, -, h⟩ := afterSome_iff.1 h
      obtain ⟨c, w, rfl, hc, hw⟩ := afterOne_iff.1 h
      obtain rfl : c = '/' := by simpa using hc
      exact ⟨u ++ ['/'], w, by simp, .inr ⟨u, rfl⟩, hw⟩
  | seq first second ihfirst ihsecond =>
    obtain ⟨u, v, rfl, hu, h⟩ := ihfirst h
    obtain ⟨v, w, rfl, hv, hw⟩ := ihsecond h
    exact ⟨u ++ v, w, by simp, Language.mem_mul.2 ⟨u, hu, v, hv, rfl⟩, hw⟩
  | alt first second ihfirst ihsecond =>
    rw [matchThen, Bool.or_eq_true] at h
    rcases h with h | h
    · obtain ⟨u, v, rfl, hu, hv⟩ := ihfirst h
      exact ⟨u, v, rfl, .inl hu, hv⟩
    · obtain ⟨u, v, rfl, hu, hv⟩ := ihsecond h
      exact ⟨u, v, rfl, .inr hu, hv⟩

theorem matchThen_append {g : Glob} {rest : List Char → Bool} {u v : List Char}
    (hu : u ∈ g.language) (hline : '\n' ∉ u) (hv : rest v = true) :
    g.matchThen rest (u ++ v) = true := by
  induction g generalizing rest u v with
  | empty =>
    obtain rfl := (Language.mem_one u).1 hu
    exact hv
  | char c =>
    obtain rfl : u = [c] := hu
    exact afterOne_iff.2 ⟨c, v, rfl, by simp, hv⟩
  | inSegment =>
    obtain ⟨c, hc, rfl⟩ := hu
    exact afterOne_iff.2 ⟨c, v, rfl, by simpa using hc, hv⟩
  | segment =>
    have hslash : '/' ∉ u := hu
    refine afterSome_iff.2 ⟨u, v, rfl, fun c hc => ?_, hv⟩
    exact decide_eq_true (ne_of_mem_of_not_mem hc hslash)
  | text =>
    refine afterSome_iff.2 ⟨u, v, rfl, fun c hc => ?_, hv⟩
    exact decide_eq_true (ne_of_mem_of_not_mem hc hline)
  | folders =>
    rw [matchThen, Bool.or_eq_true]
    rcases hu with rfl | ⟨w, rfl⟩
    · exact .inl hv
    · right
      rw [List.mem_append, not_or] at hline
      refine afterSome_iff.2 ⟨w, '/' :: v, by simp, fun c hc => ?_, ?_⟩
      · exact decide_eq_true (ne_of_mem_of_not_mem hc hline.1)
      · exact afterOne_iff.2 ⟨'/', v, rfl, rfl, hv⟩
  | seq first second ihfirst ihsecond =>
    obtain ⟨a, ha, b, hb, rfl⟩ := Language.mem_mul.1 hu
    rw [List.mem_append, not_or] at hline
    rw [List.append_assoc]
    exact ihfirst ha hline.1 (ihsecond hb hline.2 hv)
  | alt first second ihfirst ihsecond =>
    rw [matchThen, Bool.or_eq_true]
    exact hu.imp (ihfirst · hline hv) (ihsecond · hline hv)

theorem exists_of_accepts {g : Glob} {path : String} (h : g.accepts path = true) :
    ∃ u ∈ g.language, path.toList = u ∨ path.toList = u ++ ['\n'] := by
  rw [accepts_eq_matchThen] at h
  obtain ⟨u, v, hpath, hu, hv⟩ := exists_of_matchThen h
  rw [hpath]
  refine ⟨u, hu, ?_⟩
  simpa [atEnd] using hv

theorem accepts_iff_of_not_mem {g : Glob} {path : String} (hline : '\n' ∉ path.toList) :
    g.accepts path = true ↔ path.toList ∈ g.language := by
  constructor
  · intro h
    obtain ⟨u, hu, heq | heq⟩ := exists_of_accepts h
    · rwa [heq]
    · exact absurd (by simp [heq]) hline
  · intro h
    rw [accepts_eq_matchThen, ← List.append_nil path.toList]
    exact matchThen_append h hline rfl

end DocTrace.Glob
