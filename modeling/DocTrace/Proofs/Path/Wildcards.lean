import DocTrace.Path.Wildcard
import DocTrace.Proofs.Path.Language

/-! What a wildcard pattern says of a text that goes on. A star takes any text, and every item
behind the last star takes one character, so the end of a text alone decides whether a pattern that
accepts the text still accepts it with more characters behind it. -/

namespace DocTrace.Wildcard

open Text.Endings
open Glob (afterOne_iff afterSome_iff)

/-! ### The texts of a pattern -/

def Item.words : Item → Language Char
  | .star => ⊤
  | i => {u | ∃ c, i.takes c = true ∧ u = [c]}

def words (is : List Item) : Language Char := (is.map Item.words).prod

theorem words_cons (i : Item) (is : List Item) : words (i :: is) = i.words * words is :=
  List.prod_cons

theorem words_append (is js : List Item) : words (is ++ js) = words is * words js := by
  rw [words, List.map_append, List.prod_append]
  rfl

theorem Item.mem_words {i : Item} (hi : i ≠ .star) {u : List Char} :
    u ∈ i.words ↔ ∃ c, i.takes c = true ∧ u = [c] := by
  cases i with
  | star => exact absurd rfl hi
  | _ => rfl

theorem mem_words_star {is : List Item} {s : List Char} :
    s ∈ words (.star :: is) ↔ ∃ v ∈ words is, v <:+ s := by
  rw [words_cons, Language.mem_mul]
  constructor
  · rintro ⟨u, -, v, hv, rfl⟩
    exact ⟨v, hv, u, rfl⟩
  · rintro ⟨v, hv, u, rfl⟩
    exact ⟨u, trivial, v, hv, rfl⟩

theorem mem_words_last_star (s : List Char) : s ∈ words [.star] :=
  mem_words_star.2 ⟨[], Language.nil_mem_one, List.nil_suffix⟩

theorem mem_words_cons {i : Item} (hi : i ≠ .star) {is : List Item} {s : List Char} :
    s ∈ words (i :: is) ↔ ∃ c v, s = c :: v ∧ i.takes c = true ∧ v ∈ words is := by
  rw [words_cons, Language.mem_mul]
  constructor
  · rintro ⟨u, hu, v, hv, rfl⟩
    obtain ⟨c, hc, rfl⟩ := (Item.mem_words hi).1 hu
    exact ⟨c, v, rfl, hc, hv⟩
  · rintro ⟨c, v, rfl, hc, hv⟩
    exact ⟨[c], (Item.mem_words hi).2 ⟨c, hc, rfl⟩, v, hv, rfl⟩

theorem takesAll_iff (is : List Item) (s : List Char) : takesAll is s = true ↔ s ∈ words is := by
  induction is generalizing s with
  | nil =>
    rw [takesAll, List.isEmpty_iff]
    exact (Language.mem_one s).symm
  | cons i is ih =>
    by_cases hi : i = .star
    · subst hi
      rw [mem_words_star, takesAll, afterSome_iff]
      constructor
      · rintro ⟨u, v, rfl, -, hv⟩
        exact ⟨v, (ih v).1 hv, u, rfl⟩
      · rintro ⟨v, hv, u, rfl⟩
        exact ⟨u, v, rfl, fun _ _ => rfl, (ih v).2 hv⟩
    · have hone : takesAll (i :: is) s = afterOne i.takes (takesAll is) s := by
        cases i with
        | star => exact absurd rfl hi
        | _ => rfl
      simp only [hone, mem_words_cons hi, afterOne_iff, ih]

theorem accepts_iff {pattern text : String} :
    accepts pattern text = true ↔ text.toList ∈ words (items pattern.toList) := by
  rw [accepts_eq_takesAll, takesAll_iff]

theorem length_of_mem_words {is : List Item} (hstar : .star ∉ is) {s : List Char}
    (hs : s ∈ words is) : s.length = is.length := by
  induction is generalizing s with
  | nil =>
    obtain rfl := (Language.mem_one s).1 hs
    rfl
  | cons i is ih =>
    rw [List.mem_cons, not_or] at hstar
    obtain ⟨c, v, rfl, -, hv⟩ := (mem_words_cons (Ne.symm hstar.1)).1 hs
    rw [List.length_cons, List.length_cons, ih hstar.2 hv]

/-! ### Patterns that go on -/

/-- Nothing behind a star of the pattern rejects a character. The last place may reject a slash,
because no path ends with one. -/
def GoesOn (pattern : String) : Prop :=
  ∃ before behind, items pattern.toList = before ++ .star :: behind ∧
    (∀ i ∈ behind.dropLast, ∀ c, i.takes c = true) ∧
    ∀ i ∈ behind.getLast?, ∀ c, c ≠ '/' → i.takes c = true

theorem append_mem_words_star {is : List Item} (hall : ∀ i ∈ is, ∀ c, i.takes c = true)
    {s : List Char} (hs : s ∈ words is) (t : List Char) : s ++ t ∈ words (.star :: is) := by
  induction is generalizing s with
  | nil => exact mem_words_last_star _
  | cons i is ih =>
    rw [List.forall_mem_cons] at hall
    by_cases hi : i = .star
    · subst hi
      obtain ⟨v, hv, u, rfl⟩ := mem_words_star.1 hs
      have hmore := ih hall.2 hv
      exact mem_words_star.2 ⟨v ++ t, hmore, u, (List.append_assoc ..).symm⟩
    · obtain ⟨c, v, rfl, -, hv⟩ := (mem_words_cons hi).1 hs
      obtain ⟨w, hw, u, hcut⟩ := mem_words_star.1 (ih hall.2 hv)
      -- The item takes the character before what the others take: it takes any.
      obtain ⟨u', d, hlast⟩ : ∃ u' d, c :: u = u' ++ [d] :=
        ⟨_, _, (List.dropLast_append_getLast (List.cons_ne_nil c u)).symm⟩
      refine mem_words_star.2 ⟨d :: w, (mem_words_cons hi).2 ⟨d, w, rfl, hall.1 d, hw⟩, u', ?_⟩
      calc u' ++ d :: w = (u' ++ [d]) ++ w := by simp
        _ = c :: (u ++ w) := by rw [← hlast, List.cons_append]
        _ = c :: v ++ t := by rw [hcut, List.cons_append]

/-- Behind a star, items of which only the last may reject a slash still take what they took with
more behind it that ends with no slash. -/
theorem append_mem_words_behind {behind : List Item}
    (hinner : ∀ i ∈ behind.dropLast, ∀ c, i.takes c = true)
    (hlast : ∀ i ∈ behind.getLast?, ∀ c, c ≠ '/' → i.takes c = true) {s : List Char}
    (hs : s ∈ words (.star :: behind)) (t : List Char) {d : Char} (hd : d ≠ '/') :
    s ++ (t ++ [d]) ∈ words (.star :: behind) := by
  rcases List.eq_nil_or_concat behind with rfl | ⟨inner, last, rfl⟩
  · exact mem_words_last_star _
  · rw [List.concat_eq_append] at hinner hlast hs ⊢
    rw [List.dropLast_concat] at hinner
    rw [List.getLast?_concat] at hlast
    obtain ⟨v, hv, u, rfl⟩ := mem_words_star.1 hs
    rw [words_append, Language.mem_mul] at hv
    obtain ⟨v, hv, w, -, rfl⟩ := hv
    obtain ⟨x, hx, y, hxy⟩ := mem_words_star.1 (append_mem_words_star hinner hv (w ++ t))
    have hend : [d] ∈ words [last] := by
      by_cases hstar : last = .star
      · exact hstar ▸ mem_words_last_star _
      · exact (mem_words_cons hstar).2 ⟨d, [], rfl, hlast last rfl d hd, Language.nil_mem_one⟩
    have hwhole : x ++ [d] ∈ words (inner ++ [last]) := by
      rw [words_append, Language.mem_mul]
      exact ⟨x, hx, [d], hend, rfl⟩
    refine mem_words_star.2 ⟨x ++ [d], hwhole, u ++ y, ?_⟩
    calc u ++ y ++ (x ++ [d]) = u ++ ((y ++ x) ++ [d]) := by simp
      _ = u ++ (v ++ w) ++ (t ++ [d]) := by rw [hxy]; simp

/-- A pattern that goes on accepts every longer text that does not end with a slash. -/
theorem GoesOn.accepts_append {pattern text more : String} (h : GoesOn pattern)
    (htext : accepts pattern text = true) {t : List Char} {d : Char}
    (hmore : more.toList = t ++ [d]) (hd : d ≠ '/') : accepts pattern (text ++ more) = true := by
  obtain ⟨before, behind, hitems, hinner, hlast⟩ := h
  rw [accepts_iff, hitems, words_append, Language.mem_mul] at htext ⊢
  obtain ⟨u, hu, w, hw, hwhole⟩ := htext
  have hbehind := append_mem_words_behind hinner hlast hw t hd
  refine ⟨u, hu, w ++ (t ++ [d]), hbehind, ?_⟩
  rw [String.toList_append, hmore, ← hwhole, List.append_assoc]

theorem exists_last_star {is : List Item} (h : .star ∈ is) :
    ∃ before behind, is = before ++ .star :: behind ∧ .star ∉ behind := by
  obtain ⟨behind, before, hreverse, hbehind⟩ :=
    List.eq_append_cons_of_mem (List.mem_reverse.2 h)
  refine ⟨before.reverse, behind.reverse, ?_, fun hmem => hbehind (List.mem_reverse.1 hmem)⟩
  simpa using congrArg List.reverse hreverse

/-- Behind each star of a pattern that does not go on, an item rejects a character. -/
theorem exists_rejecting {pattern : String} (h : ¬GoesOn pattern) {before behind : List Item}
    (hitems : items pattern.toList = before ++ .star :: behind) : ∃ first i last c,
      behind = first ++ i :: last ∧ i.takes c = false ∧ (c = '/' → last ≠ []) := by
  by_contra hnone
  refine h ⟨before, behind, hitems, fun i hi c => ?_, fun i hi c hc => ?_⟩
  · obtain ⟨first, inner, hcut⟩ := List.append_of_mem hi
    have hne : behind ≠ [] := by
      rintro rfl
      simp at hi
    have hwhole : behind = first ++ i :: (inner ++ [behind.getLast hne]) := by
      rw [← List.cons_append, ← List.append_assoc, ← hcut, List.dropLast_append_getLast]
    by_contra hreject
    exact hnone ⟨first, i, _, c, hwhole, by simpa using hreject, fun _ => by simp⟩
  · obtain ⟨first, rfl⟩ := List.getLast?_eq_some_iff.1 hi
    by_contra hreject
    exact hnone ⟨first, i, [], c, rfl, by simpa using hreject, fun hslash => absurd hslash hc⟩

/-- An item behind which no star stands keeps a character away from its place, counted from the
end. -/
theorem length_ne_of_rejects {before last : List Item} {i : Item} {c : Char} (hi : i ≠ .star)
    (hlast : .star ∉ last) (hreject : i.takes c = false) {s : List Char}
    (hs : s ∈ words (before ++ i :: last)) :
    last.length < s.length ∧ ∀ u v, s = u ++ c :: v → v.length ≠ last.length := by
  rw [words_append, Language.mem_mul] at hs
  obtain ⟨u, -, w, hw, rfl⟩ := hs
  obtain ⟨d, w, rfl, hd, hw⟩ := (mem_words_cons hi).1 hw
  have hlength : w.length = last.length := length_of_mem_words hlast hw
  constructor
  · simp only [List.length_append, List.length_cons]
    omega
  · intro start v hcut hv
    obtain ⟨-, htail⟩ := List.append_inj' hcut (by simp [hlength, hv])
    obtain ⟨rfl, -⟩ := List.cons.inj htail
    rw [hreject] at hd
    exact Bool.false_ne_true hd

/-- A pattern that does not go on settles how long its texts are, or keeps a character away from a
place that is counted from the end. -/
theorem settles_of_not_goesOn {pattern : String} (h : ¬GoesOn pattern) :
    (∃ n, ∀ s ∈ words (items pattern.toList), s.length = n) ∨
      ∃ c n, (c = '/' → n ≠ 0) ∧ ∀ s ∈ words (items pattern.toList),
        n < s.length ∧ ∀ u v, s = u ++ c :: v → v.length ≠ n := by
  by_cases hstar : .star ∈ items pattern.toList
  · right
    obtain ⟨before, behind, hitems, hbehind⟩ := exists_last_star hstar
    obtain ⟨first, i, last, c, rfl, hreject, hslash⟩ := exists_rejecting h hitems
    rw [List.mem_append, List.mem_cons, not_or, not_or] at hbehind
    have hwhole : items pattern.toList = (before ++ .star :: first) ++ i :: last := by
      rw [hitems, List.append_assoc, List.cons_append]
    refine ⟨c, last.length, fun hc => ?_, fun s hs => ?_⟩
    · exact fun hnil => hslash hc (List.length_eq_zero_iff.1 hnil)
    · rw [hwhole] at hs
      exact length_ne_of_rejects (Ne.symm hbehind.2.1) hbehind.2.2 hreject hs
  · exact .inl ⟨_, fun s hs => length_of_mem_words hstar hs⟩

/-- Below a text that a pattern accepts there is a name at which a pattern that does not go on
stops accepting. -/
theorem exists_rejected {pattern text : String} (h : ¬GoesOn pattern)
    (htext : accepts pattern text = true) : ∃ name : String,
      name.toList.head? = some 'x' ∧ '/' ∉ name.toList ∧ accepts pattern name = false ∧
        accepts pattern (text ++ "/" ++ name) = false := by
  have hrejected {s : String} (hs : s.toList ∉ words (items pattern.toList)) :
      accepts pattern s = false := by
    rw [← Bool.not_eq_true, accepts_iff]
    exact hs
  rw [accepts_iff] at htext
  rcases settles_of_not_goesOn h with ⟨n, hlength⟩ | ⟨c, n, hslash, hplace⟩
  · refine ⟨.ofList (List.replicate (n + 1) 'x'), ?_, ?_, hrejected fun hs => ?_,
      hrejected fun hs => ?_⟩
    · simp [List.replicate_succ]
    · simp [List.mem_replicate]
    · simpa using hlength _ hs
    · have hshort := hlength _ htext
      have hlong := hlength _ hs
      simp at hlong
      omega
  · by_cases hc : c = '/'
    · subst hc
      obtain ⟨m, rfl⟩ := Nat.exists_eq_succ_of_ne_zero (hslash rfl)
      refine ⟨.ofList (List.replicate (m + 1) 'x'), ?_, ?_, hrejected fun hs => ?_,
        hrejected fun hs => ?_⟩
      · simp [List.replicate_succ]
      · simp [List.mem_replicate]
      · simpa using (hplace _ hs).1
      · exact (hplace _ hs).2 text.toList (List.replicate (m + 1) 'x') (by simp) (by simp)
    · refine ⟨.ofList ('x' :: c :: List.replicate n 'x'), ?_, ?_, hrejected fun hs => ?_,
        hrejected fun hs => ?_⟩
      · simp
      · simp [List.mem_replicate, Ne.symm hc]
      · exact (hplace _ hs).2 ['x'] (List.replicate n 'x') (by simp) (by simp)
      · exact (hplace _ hs).2 (text.toList ++ ['/', 'x']) (List.replicate n 'x') (by simp) (by simp)

/-! ### Patterns that end with a star -/

theorem takeWhile_inside {inside : List Char} (h : ']' ∉ inside) (more : List Char) :
    (inside ++ ']' :: more).takeWhile (· ≠ ']') = inside := by
  rw [List.takeWhile_append_of_pos fun c hc => by simpa using ne_of_mem_of_not_mem hc h]
  simp

/-- What stands in brackets, said of a text that may go on. -/
theorem exists_inside?_append (s : List Char) : ∃ start rest, s = start ++ rest ∧
    ∀ t : List Char, t.head? ≠ some '!' → t.head? ≠ some ']' → inside? (s ++ t) =
      if ']' ∈ rest ++ t then some (start ++ (rest ++ t).takeWhile (· ≠ ']')) else none := by
  rcases s with _ | ⟨c, s⟩
  · exact ⟨[], [], rfl, fun t hmark hfirst => by simp [inside?, hmark, hfirst]⟩
  by_cases hmark : c = '!'
  · subst hmark
    rcases s with _ | ⟨d, s⟩
    · exact ⟨['!'], [], rfl, fun t hmark hfirst => by simp [inside?, hfirst]⟩
    by_cases hfirst : d = ']'
    · exact ⟨['!', ']'], s, by rw [hfirst]; rfl, fun t _ _ => by simp [inside?, hfirst]⟩
    · exact ⟨['!'], d :: s, rfl, fun t _ _ => by simp [inside?, hfirst]⟩
  · by_cases hfirst : c = ']'
    · exact ⟨[']'], s, by rw [hfirst]; rfl, fun t _ _ => by simp [inside?, hfirst]⟩
    · exact ⟨[], c :: s, rfl, fun t _ _ => by simp [inside?, hmark, hfirst]⟩

theorem inside?_concat_star (s : List Char) : inside? (s ++ ['*']) = inside? s := by
  obtain ⟨start, rest, -, hinside⟩ := exists_inside?_append s
  have hshort := hinside [] (by simp) (by simp)
  have hlong := hinside ['*'] (by simp) (by simp)
  rw [List.append_nil, List.append_nil] at hshort
  rw [hshort, hlong]
  by_cases hclose : ']' ∈ rest
  · obtain ⟨inside, more, rfl, hnone⟩ := List.eq_append_cons_of_mem hclose
    rw [if_pos (by simp), if_pos (by simp), List.append_assoc, List.cons_append,
      takeWhile_inside hnone, takeWhile_inside hnone]
  · simp [hclose]

theorem length_inside?_lt {s inside : List Char} (h : inside? s = some inside) :
    inside.length < s.length := by
  obtain ⟨start, rest, rfl, hinside⟩ := exists_inside?_append s
  have hwhole := hinside [] (by simp) (by simp)
  simp only [List.append_nil] at hwhole
  rw [hwhole] at h
  split at h
  · next hclose =>
    obtain rfl := Option.some.inj h
    obtain ⟨inside, more, rfl, hnone⟩ := List.eq_append_cons_of_mem hclose
    rw [takeWhile_inside hnone]
    simp only [List.length_append, List.length_cons]
    omega
  · simp at h

theorem itemsFrom_concat_star {skip : ℕ} {s : List Char} (h : skip ≤ s.length) :
    itemsFrom skip (s ++ ['*']) = itemsFrom skip s ++ [.star] := by
  induction s generalizing skip with
  | nil =>
    obtain rfl := Nat.le_zero.1 h
    rfl
  | cons c s ih =>
    rw [List.cons_append, itemsFrom, itemsFrom, inside?_concat_star]
    by_cases hskip : skip = 0
    · subst hskip
      have hnext := ih (Nat.zero_le s.length)
      by_cases hset : c = '['
      · subst hset
        cases hinside : inside? s with
        | none => simp [hnext]
        | some inside => simp [ih (length_inside?_lt hinside)]
      · simp only [hset, hnext]
        grind
    · have hrest : skip - 1 ≤ s.length := by
        rw [List.length_cons] at h
        omega
      simp [hskip, ih hrest]

theorem goesOn_of_last_star {pattern : String} (h : pattern.toList.getLast? = some '*') :
    GoesOn pattern := by
  obtain ⟨s, hs⟩ := List.getLast?_eq_some_iff.1 h
  refine ⟨items s, [], ?_, by simp, by simp⟩
  rw [hs, items, itemsFrom_concat_star (Nat.zero_le _)]
  rfl

end DocTrace.Wildcard
