import DocTrace.Proofs.Diagram.Chain
import Mathlib.Data.List.Infix

/-! The texts in which an arrow is found. Of an arrow that is read only some characters count, for
strokes and dots may be repeated and the label between two halves may hold blanks; the arrows from
which nothing can be left out are found in a text exactly where one is read. -/

namespace DocTrace.Diagram.Flowchart

open Text

/-- The arrows that can be written in one way only. -/
def fixedArrows : List String := ["-->", "---", "--o", "--x", "==>", "===", "==o", "==x"]

/-- The arrows from which nothing can be left out. -/
inductive IsArrow : List Char → Prop
  | fixed (arrow : String) (h : arrow ∈ fixedArrows) : IsArrow arrow.toList
  | dotted (n : ℕ) : IsArrow ('-' :: (List.replicate (n + 1) '.' ++ ['-']))
  | halved (before after : Char) (text : List Char) (hbefore : isBlank before = true)
      (hafter : isBlank after = true) (hne : text ≠ []) (htext : ∀ c ∈ text, isArrowText c = true) :
      IsArrow ("-.".toList ++ before :: (text ++ after :: ".->".toList))

def HoldsArrow (s : List Char) : Prop := ∃ arrow, IsArrow arrow ∧ arrow <:+: s

theorem HoldsArrow.mono {s t : List Char} (h : HoldsArrow s) (hs : s <:+: t) : HoldsArrow t := by
  obtain ⟨arrow, harrow, hpart⟩ := h
  exact ⟨arrow, harrow, hpart.trans hs⟩

theorem IsArrow.holdsArrow {arrow : List Char} (h : IsArrow arrow) (before after : List Char) :
    HoldsArrow (before ++ (arrow ++ after)) :=
  ⟨arrow, h, before, after, by simp⟩

/-! ### The ends of an arrow -/

/-- The characters that arrows end with. -/
def arrowEnds : List Char := ['-', '=', '>', 'o', 'x']

theorem IsArrow.exists_cons {arrow : List Char} (h : IsArrow arrow) :
    ∃ c ∈ arrowStarts, ∃ s, arrow = c :: s := by
  cases h with
  | fixed arrow h =>
    have hall : ∀ arrow ∈ fixedArrows, arrow.toList.head?.any arrowStarts.contains = true := by
      decide
    obtain ⟨c, hc, hmem⟩ := (Option.any_eq_true _ _).1 (hall arrow h)
    exact ⟨c, List.contains_iff_mem.1 hmem, List.head?_eq_some_iff.1 hc⟩
  | dotted n => exact ⟨'-', by decide, _, rfl⟩
  | halved before after text => exact ⟨'-', by decide, _, rfl⟩

theorem IsArrow.exists_concat {arrow : List Char} (h : IsArrow arrow) :
    ∃ c ∈ arrowEnds, ∃ s, arrow = s ++ [c] := by
  cases h with
  | fixed arrow h =>
    have hall : ∀ arrow ∈ fixedArrows, arrow.toList.getLast?.any arrowEnds.contains = true := by
      decide
    obtain ⟨c, hc, hmem⟩ := (Option.any_eq_true _ _).1 (hall arrow h)
    exact ⟨c, List.contains_iff_mem.1 hmem, List.getLast?_eq_some_iff.1 hc⟩
  | dotted n => exact ⟨'-', by decide, _, (List.cons_append ..).symm⟩
  | halved before after text =>
    exact ⟨'>', by decide, "-.".toList ++ before :: (text ++ after :: ".-".toList), by simp⟩

/-- A character that no arrow begins with can be left out before a text. -/
theorem HoldsArrow.of_cons {c : Char} {s : List Char} (h : HoldsArrow (c :: s))
    (hc : c ∉ arrowStarts) : HoldsArrow s := by
  obtain ⟨arrow, harrow, hpart⟩ := h
  refine ⟨arrow, harrow, (List.infix_cons_iff.1 hpart).resolve_left fun hbegins => ?_⟩
  obtain ⟨d, hd, t, rfl⟩ := harrow.exists_cons
  rw [List.cons_prefix_cons] at hbegins
  exact hc (hbegins.1 ▸ hd)

/-- A character that no arrow ends with can be left out behind a text. -/
theorem HoldsArrow.of_concat {c : Char} {s : List Char} (h : HoldsArrow (s ++ [c]))
    (hc : c ∉ arrowEnds) : HoldsArrow s := by
  obtain ⟨arrow, harrow, hpart⟩ := h
  refine ⟨arrow, harrow, (List.infix_concat_iff.1 hpart).resolve_left fun hsuffix => ?_⟩
  obtain ⟨d, hd, t, rfl⟩ := harrow.exists_concat
  obtain ⟨before, hbefore⟩ := hsuffix
  rw [← List.append_assoc] at hbefore
  have hsame : [d] = [c] := (List.append_inj' hbefore rfl).2
  exact hc (List.singleton_inj.1 hsame ▸ hd)

theorem holdsArrow_of_append {s t : List Char} (h : HoldsArrow (s ++ t))
    (hs : ∀ c ∈ s, c ∉ arrowStarts) : HoldsArrow t := by
  induction s with
  | nil => exact h
  | cons c s ih =>
    rw [List.forall_mem_cons] at hs
    exact ih (h.of_cons hs.1) hs.2

/-! ### Where an arrow is read, the text holds one -/

theorem exists_of_run? {c : Char} {least : ℕ} {s rest : List Char}
    (h : run? c least s = some rest) :
    ∃ more, s = List.replicate (more + least) c ++ rest := by
  simp only [run?, List.span_eq_takeWhile_dropWhile] at h
  obtain ⟨hleast, h⟩ := Option.ite_none_right_eq_some.1 h
  have hrun : s.takeWhile (· = c) = List.replicate (s.takeWhile (· = c)).length c :=
    List.eq_replicate_of_mem fun d hd => by simpa using List.mem_takeWhile_imp hd
  refine ⟨(s.takeWhile (· = c)).length - least, ?_⟩
  rw [Nat.sub_add_cancel hleast, ← hrun, ← Option.some.inj h, List.takeWhile_append_dropWhile]

theorem exists_of_skipBlanks1? {s rest : List Char} (h : skipBlanks1? s = some rest) :
    ∃ blanks, blanks ≠ [] ∧ (∀ c ∈ blanks, isBlank c = true) ∧ s = blanks ++ rest := by
  cases s with
  | nil => simp [skipBlanks1?] at h
  | cons c s =>
    obtain ⟨hc, h⟩ := Option.ite_none_right_eq_some.1 h
    refine ⟨c :: s.takeWhile isBlank, List.cons_ne_nil _ _, ?_, ?_⟩
    · exact List.forall_mem_cons.2 ⟨hc, fun d hd => List.mem_takeWhile_imp hd⟩
    · rw [← Option.some.inj h, skipBlanks, List.cons_append, List.takeWhile_append_dropWhile]

theorem isArrowText_of_isBlank {c : Char} (h : isBlank c = true) : isArrowText c = true := by
  by_contra hc
  simp only [isArrowText, Bool.and_eq_true, decide_eq_true_eq, not_and_or, not_not] at hc
  rcases hc with rfl | rfl <;> exact absurd h (by decide)

/-- The parts of an arrow in two halves. Only one blank on either side of the label is told from
the label. -/
theorem exists_of_halvedArrow? {opening : String} {closings : List String} {s : List Char}
    {found : List Char × List Char} (h : halvedArrow? opening closings s = some found) :
    ∃ closing ∈ closings, ∃ before after text rest, isBlank before = true ∧
      isBlank after = true ∧ text ≠ [] ∧ (∀ c ∈ text, isArrowText c = true) ∧
      s = (opening.toList ++ before :: (text ++ after :: closing.toList)) ++ rest := by
  simp only [halvedArrow?, Option.bind_eq_bind, Option.bind_eq_some_iff] at h
  obtain ⟨after, hafter, cut, hcut, -⟩ := h
  obtain ⟨hbefore, inner, rfl, hblank, hinner⟩ := exists_of_longest1? hcut
  obtain ⟨hne, behind, rfl, htext, hclosing⟩ := exists_of_shortest1? hinner
  obtain ⟨half, hhalf, hfirst⟩ := Option.bind_eq_some_iff.1 hclosing
  obtain ⟨closing, hmem, hrest⟩ := exists_of_firstSome hfirst
  obtain ⟨blanks, hblanks, hblank', rfl⟩ := exists_of_skipBlanks1? hhalf
  obtain ⟨b, more, hmore⟩ := List.exists_cons_of_ne_nil hbefore
  obtain rfl | ⟨others, a, rfl⟩ := List.eq_nil_or_concat' blanks
  · exact absurd rfl hblanks
  rw [hmore, List.forall_mem_cons] at hblank
  rw [List.forall_mem_append, List.forall_mem_singleton] at hblank'
  refine ⟨closing, hmem, b, a, more ++ cut.2.1 ++ others, cut.2.2, hblank.1, hblank'.2,
    by simp [hne], ?_, ?_⟩
  · simp only [List.forall_mem_append]
    exact ⟨⟨fun c hc => isArrowText_of_isBlank (hblank.2 c hc), htext⟩,
      fun c hc => isArrowText_of_isBlank (hblank'.1 c hc)⟩
  · rw [eq_append_of_after? hafter, hmore, eq_append_of_after? hrest]
    simp

/-- The arrows in two halves, tried in this order. -/
def halves? (s : List Char) : Option (List Char × List Char) :=
  firstSome (fun (read : List Char → Option (List Char × List Char)) => read s)
    [halvedArrow? "--" ["-->", "---"], halvedArrow? "==" ["==>", "==="],
      halvedArrow? "-." [".->"]]

theorem isSome_arrow? (s : List Char) :
    (arrow? s).isSome =
      ((halves? (skipBlanks s)).isSome || (plainArrow? (skipBlanks s)).isSome) := by
  simp only [arrow?, halves?]
  generalize firstSome _ _ = halved
  cases halved with
  | some found => rfl
  | none => cases plainArrow? (skipBlanks s) <;> rfl

theorem holdsArrow_of_halves? {s : List Char} (h : (halves? s).isSome) : HoldsArrow s := by
  obtain ⟨found, h⟩ := Option.isSome_iff_exists.1 h
  obtain ⟨read, hread, h⟩ := exists_of_firstSome h
  -- The closing half of a line is an arrow by itself.
  have hfixed {opening : String} {closings : List String}
      (hclosings : ∀ closing ∈ closings, closing ∈ fixedArrows)
      (h : halvedArrow? opening closings s = some found) : HoldsArrow s := by
    obtain ⟨closing, hmem, before, after, text, rest, -, -, -, -, rfl⟩ := exists_of_halvedArrow? h
    have hholds := (IsArrow.fixed closing (hclosings closing hmem)).holdsArrow
      (opening.toList ++ before :: (text ++ [after])) rest
    simpa using hholds
  simp only [List.mem_cons, List.not_mem_nil, or_false] at hread
  rcases hread with rfl | rfl | rfl
  · exact hfixed (by decide) h
  · exact hfixed (by decide) h
  · obtain ⟨closing, hmem, before, after, text, rest, hbefore, hafter, hne, htext, rfl⟩ :=
      exists_of_halvedArrow? h
    obtain rfl := List.mem_singleton.1 hmem
    exact (IsArrow.halved before after text hbefore hafter hne htext).holdsArrow [] rest

theorem holdsArrow_of_plainArrow? {s : List Char} (h : (plainArrow? s).isSome) : HoldsArrow s := by
  obtain ⟨rest, h⟩ := Option.isSome_iff_exists.1 h
  obtain ⟨read, hread, h⟩ := exists_of_firstSome h
  have hfixed (arrow : String) (harrow : arrow ∈ fixedArrows) (before after : List Char)
      (hs : s = before ++ (arrow.toList ++ after)) : HoldsArrow s :=
    hs ▸ (IsArrow.fixed arrow harrow).holdsArrow before after
  have hdotted (n : ℕ) (before after : List Char)
      (hs : s = before ++ ('-' :: (List.replicate (n + 1) '.' ++ ['-']) ++ after)) : HoldsArrow s :=
    hs ▸ (IsArrow.dotted n).holdsArrow before after
  -- Of a run of strokes that is longer than it has to be the last ones are taken.
  have hrun {c : Char} {least : ℕ} {t : List Char} (h : run? c least s = some t) :
      ∃ more, s = List.replicate more c ++ (List.replicate least c ++ t) := by
    obtain ⟨more, hs⟩ := exists_of_run? h
    exact ⟨more, by rw [hs, List.replicate_add, List.append_assoc]⟩
  have hdots {t : List Char} (h : (after? ['-'] s).bind (run? '.' 1) = some t) :
      ∃ n, s = '-' :: (List.replicate (n + 1) '.' ++ t) := by
    obtain ⟨dots, hdots, hrun⟩ := Option.bind_eq_some_iff.1 h
    obtain ⟨n, rfl⟩ := exists_of_run? hrun
    exact ⟨n, eq_append_of_after? hdots⟩
  have hwhole (arrow : String) (h : after? arrow.toList s = some rest) :
      s = arrow.toList ++ rest := eq_append_of_after? h
  simp only [List.mem_cons, List.not_mem_nil, or_false] at hread
  rcases hread with rfl | rfl | rfl | rfl | rfl | rfl | rfl | rfl | rfl | rfl | rfl | rfl | rfl
  · exact hfixed "-->" (by decide) ['<'] rest (hwhole "<-->" h)
  · exact hfixed "==>" (by decide) ['<'] rest (hwhole "<==>" h)
  · exact hdotted 0 ['<'] ('>' :: rest) (hwhole "<-.->" h)
  · obtain ⟨t, hstrokes, hend⟩ := Option.bind_eq_some_iff.1 h
    obtain ⟨more, hs⟩ := hrun hstrokes
    rw [eq_append_of_after? hend] at hs
    exact hfixed "-->" (by decide) (List.replicate more '-') rest hs
  · obtain ⟨t, hstrokes, hend⟩ := Option.bind_eq_some_iff.1 h
    obtain ⟨more, hs⟩ := hrun hstrokes
    rw [eq_append_of_after? hend] at hs
    exact hfixed "==>" (by decide) (List.replicate more '=') rest hs
  · obtain ⟨t, hstart, hend⟩ := Option.bind_eq_some_iff.1 h
    obtain ⟨n, hs⟩ := hdots hstart
    rw [eq_append_of_after? hend] at hs
    exact hdotted n [] ('>' :: rest) (by simpa using hs)
  · obtain ⟨more, hs⟩ := hrun h
    exact hfixed "---" (by decide) (List.replicate more '-') rest hs
  · obtain ⟨more, hs⟩ := hrun h
    exact hfixed "===" (by decide) (List.replicate more '=') rest hs
  · obtain ⟨t, hstart, hend⟩ := Option.bind_eq_some_iff.1 h
    obtain ⟨n, hs⟩ := hdots hstart
    rw [eq_append_of_after? hend] at hs
    exact hdotted n [] rest (by simpa using hs)
  · exact hfixed "--o" (by decide) [] rest (hwhole "--o" h)
  · exact hfixed "--x" (by decide) [] rest (hwhole "--x" h)
  · exact hfixed "==o" (by decide) [] rest (hwhole "==o" h)
  · exact hfixed "==x" (by decide) [] rest (hwhole "==x" h)

theorem holdsArrow_of_arrow? {s : List Char} (h : (arrow? s).isSome) : HoldsArrow s := by
  rw [isSome_arrow?, Bool.or_eq_true] at h
  have hstart : HoldsArrow (skipBlanks s) := h.elim holdsArrow_of_halves? holdsArrow_of_plainArrow?
  exact hstart.mono (List.dropWhile_suffix _).isInfix

/-! ### Every arrow is read -/

theorem isSome_halvedArrow? {before after : Char} {text : List Char}
    (hbefore : isBlank before = true) (hafter : isBlank after = true) (hne : text ≠ [])
    (htext : ∀ c ∈ text, isArrowText c = true) (rest : List Char) :
    (halvedArrow? "-." [".->"]
      ("-.".toList ++ (before :: (text ++ after :: (".->".toList ++ rest))))).isSome := by
  obtain ⟨c, text, rfl⟩ := List.exists_cons_of_ne_nil hne
  rw [List.forall_mem_cons] at htext
  -- The closing half, then the label before it, then the blanks before the label.
  let closing? (t : List Char) : Option (List Char) :=
    (skipBlanks1? t).bind fun u => firstSome (fun c => after? c.toList u) [".->"]
  have hclosing : (closing? (after :: (".->".toList ++ rest))).isSome := by
    have hskip : skipBlanks (".->".toList ++ rest) = ".->".toList ++ rest :=
      skipBlanks_cons (by decide) _
    simp only [closing?, skipBlanks1?, hafter, if_true, hskip, Option.bind_some, firstSome,
      after?_append]
    rfl
  have hlabel : (shortest1? isArrowText closing?
      (c :: text ++ after :: (".->".toList ++ rest))).isSome := by
    rw [List.cons_append, shortest1?, if_pos htext.1, Option.isSome_map]
    exact isSome_shortest? htext.2 hclosing
  have hwhole : (longest1? isBlank (shortest1? isArrowText closing?)
      (before :: (c :: text ++ after :: (".->".toList ++ rest)))).isSome := by
    rw [longest1?, if_pos hbefore, Option.isSome_map]
    exact isSome_longest? (s := []) (List.forall_mem_nil _) hlabel
  obtain ⟨found, hfound⟩ := Option.isSome_iff_exists.1 hwhole
  simp only [halvedArrow?, after?_append, Option.bind_eq_bind, Option.bind_some]
  rw [hfound]
  rfl

theorem isSome_plainArrow?_dotted (n : ℕ) (rest : List Char) :
    (plainArrow? ('-' :: (List.replicate (n + 1) '.' ++ '-' :: rest))).isSome := by
  have hdots : ∀ c ∈ List.replicate (n + 1) '.', decide (c = '.') = true := fun c hc =>
    decide_eq_true (List.eq_of_mem_replicate hc)
  have hrun : run? '.' 1 (List.replicate (n + 1) '.' ++ '-' :: rest) = some ('-' :: rest) := by
    rw [run?, List.span_eq_takeWhile_dropWhile, List.takeWhile_append_of_pos hdots,
      List.dropWhile_append_of_pos hdots]
    simp
  simp [plainArrow?, firstSome, after?, hrun]

theorem isSome_plainArrow?_fixed {arrow : String} (h : arrow ∈ fixedArrows) (rest : List Char) :
    (plainArrow? (arrow.toList ++ rest)).isSome := by
  simp only [fixedArrows, List.mem_cons, List.not_mem_nil, or_false] at h
  rcases h with rfl | rfl | rfl | rfl | rfl | rfl | rfl | rfl <;>
    simp [plainArrow?, firstSome, after?, run?, List.span_eq_takeWhile_dropWhile]

theorem IsArrow.isSome_arrow? {arrow : List Char} (h : IsArrow arrow) (rest : List Char) :
    (arrow? (arrow ++ rest)).isSome := by
  have hstart : skipBlanks (arrow ++ rest) = arrow ++ rest := by
    obtain ⟨c, hc, s, rfl⟩ := h.exists_cons
    exact skipBlanks_cons (not_plain_of_mem_arrowStarts hc).2 (s ++ rest)
  rw [Flowchart.isSome_arrow?, hstart, Bool.or_eq_true]
  cases h with
  | fixed arrow h => exact .inr (isSome_plainArrow?_fixed h rest)
  | dotted n =>
    have hread := isSome_plainArrow?_dotted n rest
    exact .inr (by simpa using hread)
  | halved before after text hbefore hafter hne htext =>
    have hread := isSome_halvedArrow? hbefore hafter hne htext rest
    exact .inl (isSome_firstSome (a := halvedArrow? "-." [".->"]) (by simp) (by simpa using hread))

/-! ### Groups hold no arrow -/

/-- A text without an arrow is one group. -/
theorem groups_of_not_holdsArrow {s : List Char} (h : ¬HoldsArrow s) : groups s = (s, []) := by
  have hread (group s : List Char) (h : ¬HoldsArrow s) :
      groupsFrom 0 group s = (group.reverse ++ s, []) := by
    induction s generalizing group with
    | nil => simp [groupsFrom_nil]
    | cons c s ih =>
      have hnone : arrow? (c :: s) = none := by
        by_contra hsome
        exact h (holdsArrow_of_arrow? (Option.isSome_iff_ne_none.2 hsome))
      have hrest : ¬HoldsArrow s := fun hs => h (hs.mono (List.suffix_cons c s).isInfix)
      rw [groupsFrom_cons]
      simp only [hnone]
      rw [ih _ hrest, List.reverse_cons, List.append_assoc, List.singleton_append]
  exact hread [] s h

theorem not_holdsArrow_of_arrow?_eq_none {s rest : List Char}
    (h : ∀ u, u ≠ [] → u <:+ s → arrow? (u ++ rest) = none) : ¬HoldsArrow s := by
  rintro ⟨arrow, harrow, before, after, rfl⟩
  obtain ⟨c, -, t, rfl⟩ := harrow.exists_cons
  have hread := harrow.isSome_arrow? (after ++ rest)
  rw [← List.append_assoc, h _ (by simp) ⟨before, (List.append_assoc ..).symm⟩] at hread
  contradiction

/-- In what was read of a group no arrow begins, whatever is still to be read. -/
theorem not_holdsArrow_groupsFrom {skip : ℕ} {group s : List Char}
    (h : ∀ u, u ≠ [] → u <:+ group.reverse → skip = 0 ∧ arrow? (u ++ s) = none) :
    ¬HoldsArrow (groupsFrom skip group s).1 ∧
      ∀ link ∈ (groupsFrom skip group s).2, ¬HoldsArrow link.2 := by
  have hgroup : ¬HoldsArrow group.reverse :=
    not_holdsArrow_of_arrow?_eq_none fun u hne hu => (h u hne hu).2
  induction s generalizing skip group with
  | nil => exact ⟨hgroup, List.forall_mem_nil _⟩
  | cons c s ih =>
    -- Behind an arrow a new group begins.
    have hnew (skip : ℕ) : ¬HoldsArrow (groupsFrom skip [] s).1 ∧
        ∀ link ∈ (groupsFrom skip [] s).2, ¬HoldsArrow link.2 := by
      have hnil (u : List Char) (hne : u ≠ []) (hu : u <:+ [].reverse) :
          skip = 0 ∧ arrow? (u ++ s) = none := absurd (List.suffix_nil.1 hu) hne
      exact ih hnil (not_holdsArrow_of_arrow?_eq_none fun u hne hu => (hnil u hne hu).2)
    rw [groupsFrom_cons]
    split
    · next skip =>
      have hnil : group = [] := by
        by_contra hne
        have hskip := (h group.reverse (by simpa using hne) (List.suffix_refl _)).1
        exact absurd hskip (Nat.succ_ne_zero _)
      rw [hnil]
      exact hnew skip
    · split
      · next label rest harrow =>
        obtain ⟨hfirst, hlinks⟩ := hnew (s.length - rest.length)
        exact ⟨hgroup, List.forall_mem_cons.2 ⟨hfirst, hlinks⟩⟩
      · next hnone =>
        have hmore (u : List Char) (hne : u ≠ []) (hu : u <:+ (c :: group).reverse) :
            0 = 0 ∧ arrow? (u ++ s) = none := by
          rw [List.reverse_cons, List.suffix_concat_iff] at hu
          obtain rfl | ⟨v, rfl, hv⟩ := hu
          · exact absurd rfl hne
          · rw [List.append_assoc, List.singleton_append]
            by_cases hnil : v = []
            · exact ⟨rfl, by rwa [hnil]⟩
            · exact ⟨rfl, (h v hnil hv).2⟩
        exact ih hmore (not_holdsArrow_of_arrow?_eq_none fun u hne hu => (hmore u hne hu).2)

theorem not_holdsArrow_groups (s : List Char) :
    ¬HoldsArrow (groups s).1 ∧ ∀ link ∈ (groups s).2, ¬HoldsArrow link.2 :=
  not_holdsArrow_groupsFrom fun _ hne hu => absurd (List.suffix_nil.1 hu) hne

end DocTrace.Diagram.Flowchart
