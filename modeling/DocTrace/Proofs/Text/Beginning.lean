import DocTrace.Text.Blank
import DocTrace.Text.Split
import Mathlib.Data.List.TakeDrop
import Mathlib.Data.List.TakeWhile

/-! Readers of the beginning of a text. What is found is a beginning of one class, which ends where
the rest was read; and a beginning with such a rest behind it is found. -/

namespace DocTrace.Text

/-- A beginning of a class does not reach into a text that begins with another character. -/
theorem takeWhile_append_of_head {p : Char → Bool} (s : List Char) {rest : List Char}
    (hrest : ∀ c ∈ rest.head?, p c = false) : (s ++ rest).takeWhile p = s.takeWhile p := by
  induction s with
  | nil =>
    cases rest with
    | nil => rfl
    | cons c rest => exact List.takeWhile_cons_of_neg (by simp [hrest c rfl])
  | cons c s ih => rw [List.cons_append, List.takeWhile_cons, List.takeWhile_cons, ih]

/-- The characters of a class at the beginning of a text, where another one follows them. -/
theorem takeWhile_append_eq {p : Char → Bool} {s rest : List Char} (hs : ∀ c ∈ s, p c = true)
    (hrest : ∀ c ∈ rest.head?, p c = false) : (s ++ rest).takeWhile p = s := by
  rw [takeWhile_append_of_head s hrest, List.takeWhile_eq_self_iff.2 hs]

theorem forall_head?_cons {p : Char → Bool} {c : Char} (h : p c = false) (s : List Char) :
    ∀ d ∈ (c :: s).head?, p d = false := by
  rintro d ⟨⟩
  exact h

theorem forall_eq_false_of_all {p : Char → Bool} {s : List Char}
    (h : (s.all fun c => !p c) = true) : ∀ c ∈ s, p c = false := by
  simpa using h

/-- A beginning of a class is read up to where the text leaves the class. -/
theorem span1?_append {p : Char → Bool} {s rest : List Char} (hne : s ≠ [])
    (hs : ∀ c ∈ s, p c = true) (hrest : ∀ c ∈ rest.head?, p c = false) :
    span1? p (s ++ rest) = some (s, rest) := by
  have htake := takeWhile_append_eq hs hrest
  have hdrop : (s ++ rest).dropWhile p = rest := by
    have hcut := List.takeWhile_append_dropWhile (p := p) (l := s ++ rest)
    rw [htake] at hcut
    exact List.append_cancel_left hcut
  rw [span1?, List.span_eq_takeWhile_dropWhile, htake, hdrop]
  split
  · next heq => exact absurd (Prod.mk.inj heq).1 hne
  · rfl

theorem span1?_whole {p : Char → Bool} {s : List Char} (hne : s ≠ []) (hs : ∀ c ∈ s, p c = true) :
    span1? p s = some (s, []) := by
  have hspan : span1? p (s ++ []) = some (s, []) := span1?_append hne hs (by simp)
  rwa [List.append_nil] at hspan

theorem eq_of_span1? {p : Char → Bool} {s : List Char} {cut : List Char × List Char}
    (h : span1? p s = some cut) : cut.1 ≠ [] ∧ cut = (s.takeWhile p, s.dropWhile p) := by
  rw [span1?, List.span_eq_takeWhile_dropWhile] at h
  split at h
  · simp at h
  · next hne =>
    obtain rfl := Option.some.inj h
    exact ⟨fun hnil => hne _ (Prod.ext hnil rfl), rfl⟩

theorem ne_nil_of_span1? {p : Char → Bool} {s : List Char} {cut : List Char × List Char}
    (h : span1? p s = some cut) : cut.1 ≠ [] :=
  (eq_of_span1? h).1

theorem forall_of_span1? {p : Char → Bool} {s : List Char} {cut : List Char × List Char}
    (h : span1? p s = some cut) : ∀ c ∈ cut.1, p c = true := by
  rw [(eq_of_span1? h).2]
  exact fun c hc => List.mem_takeWhile_imp hc

theorem mem_of_span1? {p : Char → Bool} {s : List Char} {cut : List Char × List Char} {c : Char}
    (h : span1? p s = some cut) (hc : c ∈ cut.2) : c ∈ s := by
  rw [(eq_of_span1? h).2] at hc
  exact List.dropWhile_subset _ hc

theorem mem_of_after? {start s rest : List Char} {c : Char} (h : after? start s = some rest)
    (hc : c ∈ rest) : c ∈ s :=
  eq_append_of_after? h ▸ List.mem_append_right _ hc

theorem mem_of_skipBlanks1? {s rest : List Char} {c : Char} (h : skipBlanks1? s = some rest)
    (hc : c ∈ rest) : c ∈ s := by
  cases s with
  | nil => simp [skipBlanks1?] at h
  | cons d s =>
    obtain ⟨-, h⟩ := Option.ite_none_right_eq_some.1 h
    obtain rfl := Option.some.inj h
    exact List.mem_cons_of_mem d (List.dropWhile_subset _ hc)

theorem eq_some_of_orElse {o : Option α} {f : Unit → Option α} {a : α}
    (h : o.orElse f = some a) : o = some a ∨ f () = some a := by
  rw [Option.orElse_eq_or, Option.or_eq_some_iff] at h
  exact h.imp_right And.right

/-- The text is cut where the rest succeeds. -/
theorem exists_of_longest? {p : Char → Bool} {rest? : List Char → Option β} {s : List Char}
    {found : List Char × β} (h : longest? p rest? s = some found) :
    ∃ t, s = found.1 ++ t ∧ (∀ c ∈ found.1, p c = true) ∧ rest? t = some found.2 := by
  induction s generalizing found with
  | nil =>
    obtain ⟨b, hb, rfl⟩ := Option.map_eq_some_iff.1 h
    exact ⟨[], rfl, List.forall_mem_nil _, hb⟩
  | cons c s ih =>
    have hhere (h : ((rest? (c :: s)).map fun b => ([], b)) = some found) :
        ∃ t, c :: s = found.1 ++ t ∧ (∀ c ∈ found.1, p c = true) ∧ rest? t = some found.2 := by
      obtain ⟨b, hb, rfl⟩ := Option.map_eq_some_iff.1 h
      exact ⟨c :: s, rfl, List.forall_mem_nil _, hb⟩
    simp only [longest?] at h
    split at h
    · next hc =>
      rcases eq_some_of_orElse h with h | h
      · obtain ⟨r, hr, rfl⟩ := Option.map_eq_some_iff.1 h
        obtain ⟨t, hs, hclass, ht⟩ := ih hr
        exact ⟨t, congrArg (c :: ·) hs, List.forall_mem_cons.2 ⟨hc, hclass⟩, ht⟩
      · exact hhere h
    · exact hhere h

theorem exists_of_shortest? {p : Char → Bool} {rest? : List Char → Option β} {s : List Char}
    {found : List Char × β} (h : shortest? p rest? s = some found) :
    ∃ t, s = found.1 ++ t ∧ (∀ c ∈ found.1, p c = true) ∧ rest? t = some found.2 := by
  induction s generalizing found with
  | nil =>
    obtain ⟨b, hb, rfl⟩ := Option.map_eq_some_iff.1 h
    exact ⟨[], rfl, List.forall_mem_nil _, hb⟩
  | cons c s ih =>
    simp only [shortest?] at h
    split at h
    · next b hb =>
      obtain rfl := Option.some.inj h
      exact ⟨c :: s, rfl, List.forall_mem_nil _, hb⟩
    · obtain ⟨hc, h⟩ := Option.ite_none_right_eq_some.1 h
      obtain ⟨r, hr, rfl⟩ := Option.map_eq_some_iff.1 h
      obtain ⟨t, hs, hclass, ht⟩ := ih hr
      exact ⟨t, congrArg (c :: ·) hs, List.forall_mem_cons.2 ⟨hc, hclass⟩, ht⟩

/-- A search for a beginning that is made behind a first character of the class. -/
theorem exists_of_search1 {p : Char → Bool} {rest? : List Char → Option β}
    {search? : List Char → Option (List Char × β)}
    (hsearch : ∀ {s found}, search? s = some found →
      ∃ t, s = found.1 ++ t ∧ (∀ c ∈ found.1, p c = true) ∧ rest? t = some found.2)
    {c : Char} {s : List Char} {found : List Char × β}
    (h : (if p c then (search? s).map fun r => (c :: r.1, r.2) else none) = some found) :
    found.1 ≠ [] ∧ ∃ t, c :: s = found.1 ++ t ∧ (∀ c ∈ found.1, p c = true) ∧
      rest? t = some found.2 := by
  obtain ⟨hc, h⟩ := Option.ite_none_right_eq_some.1 h
  obtain ⟨r, hr, rfl⟩ := Option.map_eq_some_iff.1 h
  obtain ⟨t, hs, hclass, ht⟩ := hsearch hr
  exact ⟨List.cons_ne_nil _ _, t, congrArg (c :: ·) hs, List.forall_mem_cons.2 ⟨hc, hclass⟩, ht⟩

theorem exists_of_longest1? {p : Char → Bool} {rest? : List Char → Option β} {s : List Char}
    {found : List Char × β} (h : longest1? p rest? s = some found) :
    found.1 ≠ [] ∧ ∃ t, s = found.1 ++ t ∧ (∀ c ∈ found.1, p c = true) ∧
      rest? t = some found.2 := by
  cases s with
  | nil => simp [longest1?] at h
  | cons c s => exact exists_of_search1 (p := p) exists_of_longest? h

theorem exists_of_shortest1? {p : Char → Bool} {rest? : List Char → Option β} {s : List Char}
    {found : List Char × β} (h : shortest1? p rest? s = some found) :
    found.1 ≠ [] ∧ ∃ t, s = found.1 ++ t ∧ (∀ c ∈ found.1, p c = true) ∧
      rest? t = some found.2 := by
  cases s with
  | nil => simp [shortest1?] at h
  | cons c s => exact exists_of_search1 (p := p) exists_of_shortest? h

/-- The shortest beginning ends where the rest first succeeds. -/
theorem shortest?_append {p : Char → Bool} {rest? : List Char → Option β} {s t : List Char} {b : β}
    (hs : ∀ c ∈ s, p c = true) (hnone : ∀ c u, c :: u <:+ s → rest? (c :: u ++ t) = none)
    (ht : rest? t = some b) : shortest? p rest? (s ++ t) = some (s, b) := by
  induction s with
  | nil => cases t <;> simp [shortest?, ht]
  | cons c s ih =>
    rw [List.forall_mem_cons] at hs
    have hrest := ih hs.2 fun d u hu => hnone d u (hu.trans (List.suffix_cons c s))
    have hhere := hnone c s (List.suffix_refl _)
    rw [List.cons_append] at hhere ⊢
    simp [shortest?, hhere, hs.1, hrest]

/-- The longest beginning is all of a class where another character follows it. -/
theorem longest?_append {p : Char → Bool} {rest? : List Char → Option β} {s t : List Char} {b : β}
    (hs : ∀ c ∈ s, p c = true) (hstop : ∀ c ∈ t.head?, p c = false) (ht : rest? t = some b) :
    longest? p rest? (s ++ t) = some (s, b) := by
  induction s with
  | nil =>
    cases t with
    | nil => simp [longest?, ht]
    | cons c t => simp [longest?, hstop c rfl, ht]
  | cons c s ih =>
    rw [List.forall_mem_cons] at hs
    simp [longest?, hs.1, ih hs.2]

theorem longest1?_append {p : Char → Bool} {rest? : List Char → Option β} {s t : List Char} {b : β}
    (hne : s ≠ []) (hs : ∀ c ∈ s, p c = true) (hstop : ∀ c ∈ t.head?, p c = false)
    (ht : rest? t = some b) : longest1? p rest? (s ++ t) = some (s, b) := by
  obtain ⟨c, s, rfl⟩ := List.exists_cons_of_ne_nil hne
  rw [List.forall_mem_cons] at hs
  rw [List.cons_append, longest1?, if_pos hs.1, longest?_append hs.2 hstop ht]
  rfl

theorem isSome_longest? {p : Char → Bool} {rest? : List Char → Option β} {s t : List Char}
    (hs : ∀ c ∈ s, p c = true) (ht : (rest? t).isSome) : (longest? p rest? (s ++ t)).isSome := by
  induction s with
  | nil =>
    cases t with
    | nil => simpa [longest?] using ht
    | cons c t =>
      simp only [List.nil_append, longest?]
      split <;> simp [ht]
  | cons c s ih =>
    rw [List.forall_mem_cons] at hs
    simp [longest?, hs.1, ih hs.2]

theorem isSome_shortest? {p : Char → Bool} {rest? : List Char → Option β} {s t : List Char}
    (hs : ∀ c ∈ s, p c = true) (ht : (rest? t).isSome) : (shortest? p rest? (s ++ t)).isSome := by
  induction s with
  | nil =>
    obtain ⟨b, hb⟩ := Option.isSome_iff_exists.1 ht
    cases t <;> simp [shortest?, hb]
  | cons c s ih =>
    rw [List.forall_mem_cons] at hs
    simp only [List.cons_append, shortest?]
    split
    · rfl
    · simp [hs.1, ih hs.2]

theorem exists_of_firstSome {f : α → Option β} {as : List α} {b : β}
    (h : firstSome f as = some b) : ∃ a ∈ as, f a = some b := by
  induction as with
  | nil => simp [firstSome] at h
  | cons a as ih =>
    rcases eq_some_of_orElse h with ha | hrest
    · exact ⟨a, List.mem_cons_self .., ha⟩
    · obtain ⟨a', ha', hf⟩ := ih hrest
      exact ⟨a', List.mem_cons_of_mem _ ha', hf⟩

theorem firstSome_map (f : β → Option γ) (g : α → β) (as : List α) :
    firstSome f (as.map g) = firstSome (fun a => f (g a)) as := by
  induction as with
  | nil => rfl
  | cons a as ih => rw [List.map_cons, firstSome, firstSome, ih]

theorem isSome_firstSome {f : α → Option β} {as : List α} {a : α} (ha : a ∈ as)
    (h : (f a).isSome) : (firstSome f as).isSome := by
  induction as with
  | nil => exact absurd ha List.not_mem_nil
  | cons first as ih =>
    rw [firstSome, Option.orElse_eq_or, Option.isSome_or]
    rcases List.mem_cons.1 ha with rfl | ha
    · rw [h, Bool.true_or]
    · rw [ih ha, Bool.or_true]

end DocTrace.Text
