import DocTrace.Diagram.Flowchart
import DocTrace.Proofs.Diagram.PlainText
import DocTrace.Proofs.Path.Folder
import Mathlib.Data.List.ProdSigma

/-! Statements of a flowchart that link groups of plain names by arrows, and how they are read. An
arrow is looked for at every character, so what is to be shown of a group is that no arrow begins
in it, and of an arrow that it is read to its end and no further. -/

namespace DocTrace.Diagram.Flowchart

open Text

/-! ### Written statements -/

/-- The letters, digits and underscores of ASCII. -/
def isPlain (c : Char) : Bool := c.isAlphanum || c = '_'

/-- A node that is written without a shape. -/
structure Name where
  text : List Char
  ne_nil : text ≠ []
  plain : text.all isPlain = true

def Name.id (n : Name) : String := .ofList n.text

structure Group where
  first : Name
  others : List Name := []

def Group.names (g : Group) : List Name := g.first :: g.others

def joiner : List Char := [' ', '&', ' ']

def Group.text (g : Group) : List Char := joiner.intercalate (g.names.map Name.text)

inductive Stroke where
  | line
  | lineArrow
  | thick
  | thickArrow
  | dotted
  | dottedArrow
  | both

def Stroke.text : Stroke → List Char
  | .line => ['-', '-', '-']
  | .lineArrow => ['-', '-', '>']
  | .thick => ['=', '=', '=']
  | .thickArrow => ['=', '=', '>']
  | .dotted => ['-', '.', '-']
  | .dottedArrow => ['-', '.', '-', '>']
  | .both => ['<', '-', '-', '>']

/-- One blank, or none. -/
def blankIf (present : Bool) : List Char := if present then [' '] else []

/-- A label between bars, with or without blanks before and after them. -/
structure Label where
  before : Bool := false
  text : List Char
  after : Bool := true
  noBar : '|' ∉ text
  noSemicolon : ';' ∉ text

def Label.written (l : Label) : List Char :=
  blankIf l.before ++ '|' :: (l.text ++ '|' :: blankIf l.after)

structure Arrow where
  stroke : Stroke
  label : Option Label := none

/-- The arrow with the blanks that keep it apart from the groups. -/
def Arrow.text (a : Arrow) : List Char :=
  ' ' :: (a.stroke.text ++ a.label.elim [' '] Label.written)

/-- The label as it is shown. An empty one is none. -/
def Arrow.shown (a : Arrow) : Option (List Char) :=
  ((a.label.map (·.text)).filter (!·.isEmpty)).map unquote

structure Link where
  arrow : Arrow
  target : Group

/-- A group and the links that follow it. Its first name does not make it a statement of another
kind. -/
structure Chain where
  first : Group
  links : List Link := []
  opening : lowerString first.first.id ∉ "subgraph" :: skippedWords

def linksText (links : List Link) : List Char :=
  links.flatMap fun link => link.arrow.text ++ link.target.text

/-- Each arrow links every name before it with every name after it. -/
def linkEdges (first : Group) (links : List Link) : List Edge :=
  ((first :: links.map (·.target)).zip links).flatMap fun (source, link) =>
    (source.names ×ˢ link.target.names).map fun (a, b) =>
      ⟨a.id, b.id, link.arrow.shown.map .ofList⟩

namespace Chain

def text (c : Chain) : List Char := c.first.text ++ linksText c.links

def groups (c : Chain) : List Group := c.first :: c.links.map (·.target)

def names (c : Chain) : List Name := c.groups.flatMap Group.names

def edges (c : Chain) : List Edge := linkEdges c.first c.links

end Chain

/-! ### Plain characters -/

theorem ne_of_isPlain {c d : Char} (hc : isPlain c = true) (hd : isPlain d = false) : c ≠ d := by
  rintro rfl
  rw [hc] at hd
  contradiction

theorem toNat_lt_of_isAlphanum {c : Char} (h : c.isAlphanum = true) : c.toNat < 128 := by
  have hbelow (high : Char) (hc : c.val ≤ high.val) (hhigh : high.toNat < 128) : c.toNat < 128 :=
    (UInt32.le_iff_toNat_le.1 hc).trans_lt hhigh
  rcases Bool.or_eq_true_iff.1 h with hletter | hdigit
  · rcases Bool.or_eq_true_iff.1 hletter with hupper | hlower
    · exact hbelow 'Z' (of_decide_eq_true hupper).2 (by decide)
    · exact hbelow 'z' (of_decide_eq_true (Bool.and_eq_true_iff.1 hlower).2) (by decide)
  · exact hbelow '9' (of_decide_eq_true (Bool.and_eq_true_iff.1 hdigit).2) (by decide)

theorem isNameChar_of_isPlain {c : Char} (h : isPlain c = true) : isNameChar c = true := by
  have hcode : c.toNat < 128 := by
    rcases Bool.or_eq_true_iff.1 h with hletter | hunderscore
    · exact toNat_lt_of_isAlphanum hletter
    · rw [of_decide_eq_true hunderscore]
      decide
  have hword : isWord c = true := by
    rw [isWord, if_pos hcode]
    exact h
  simp [isNameChar, hword]

theorem isBlank_of_isPlain {c : Char} (h : isPlain c = true) : isBlank c = false :=
  isBlank_of_isNameChar (isNameChar_of_isPlain h)

/-! ### Arrows -/

theorem plainArrow?_stroke (k : Stroke) {c : Char} (hc : c = ' ' ∨ c = '|') (s : List Char) :
    plainArrow? (k.text ++ c :: s) = some (c :: s) := by
  rcases hc with rfl | rfl <;> cases k <;> rfl

/-- No arrow in two halves begins as one of the strokes. -/
theorem halved_stroke (k : Stroke) (s : List Char) :
    firstSome (fun (read : List Char → Option (List Char × List Char)) => read (k.text ++ s))
      [halvedArrow? "--" ["-->", "---"], halvedArrow? "==" ["==>", "==="],
        halvedArrow? "-." [".->"]] = none := by
  cases k <;> rfl

theorem arrow?_stroke (k : Stroke) {c : Char} (hc : c = ' ' ∨ c = '|') (s : List Char) :
    arrow? (' ' :: (k.text ++ c :: s)) =
      let found := barLabel (skipBlanks (c :: s))
      some ((found.1.filter (!·.isEmpty)).map unquote, found.2) := by
  have hstart : skipBlanks (' ' :: (k.text ++ c :: s)) = k.text ++ c :: s := by
    cases k <;> rfl
  simp only [arrow?, hstart, halved_stroke, plainArrow?_stroke k hc]
  simp

theorem barLabel_label (l : Label) {c : Char} (hc : isBlank c = false) (s : List Char) :
    barLabel ('|' :: (l.text ++ '|' :: (blankIf l.after ++ c :: s))) = (some l.text, c :: s) := by
  have htext : ∀ d ∈ l.text, decide (d ≠ '|') = true := fun d hd =>
    decide_eq_true fun heq => l.noBar (heq ▸ hd)
  have hskip : skipBlanks (blankIf l.after ++ c :: s) = c :: s := by
    cases l.after <;> exact skipBlanks_cons hc s
  rw [barLabel, List.span_eq_takeWhile_dropWhile, List.takeWhile_append_of_pos htext,
    List.dropWhile_append_of_pos htext]
  simp [hskip]

theorem arrow?_bare (k : Stroke) {c : Char} (hc : isPlain c = true) (s : List Char) :
    arrow? (' ' :: (k.text ++ ' ' :: c :: s)) = some (none, c :: s) := by
  have hskip : skipBlanks (' ' :: c :: s) = c :: s := skipBlanks_cons (isBlank_of_isPlain hc) s
  have hbar : barLabel (c :: s) = (none, c :: s) := by
    have hne : c ≠ '|' := ne_of_isPlain hc (by decide)
    unfold barLabel
    split
    · next heq => exact absurd (List.cons.inj heq).1 hne
    · rfl
  rw [arrow?_stroke k (.inl rfl), hskip, hbar]
  rfl

theorem arrow?_label (k : Stroke) (l : Label) {c : Char} (hc : isPlain c = true) (s : List Char) :
    arrow? (' ' :: (k.text ++ (l.written ++ c :: s))) =
      some (((some l.text).filter (!·.isEmpty)).map unquote, c :: s) := by
  have hbar := barLabel_label l (isBlank_of_isPlain hc) s
  have hwritten : l.written ++ c :: s =
      blankIf l.before ++ '|' :: (l.text ++ '|' :: (blankIf l.after ++ c :: s)) := by
    simp [Label.written]
  rw [hwritten]
  generalize l.text ++ '|' :: (blankIf l.after ++ c :: s) = tail at hbar ⊢
  have hskip : skipBlanks ('|' :: tail) = '|' :: tail := skipBlanks_cons (by decide) tail
  have hspaced : skipBlanks (' ' :: '|' :: tail) = '|' :: tail := hskip
  cases l.before with
  | false =>
    have hread := arrow?_stroke k (.inr rfl) tail
    rwa [hskip, hbar] at hread
  | true =>
    have hread := arrow?_stroke k (.inl rfl) ('|' :: tail)
    rwa [hspaced, hbar] at hread

/-- An arrow is read with its label up to the group that follows. -/
theorem arrow?_text (a : Arrow) {c : Char} (hc : isPlain c = true) (s : List Char) :
    arrow? (a.text ++ c :: s) = some (a.shown, c :: s) := by
  obtain ⟨stroke, none | label⟩ := a
  · have hread := arrow?_bare stroke hc s
    simpa [Arrow.text, Arrow.shown] using hread
  · have hread := arrow?_label stroke label hc s
    simpa [Arrow.text, Arrow.shown] using hread

theorem Arrow.semicolon_not_mem (a : Arrow) : ';' ∉ a.text := by
  have hstroke (k : Stroke) : ';' ∉ k.text := by cases k <;> decide
  obtain ⟨stroke, none | label⟩ := a
  · simp [text, hstroke]
  · have hblank (present : Bool) : ';' ∉ blankIf present := by cases present <;> decide
    simp [text, Label.written, hstroke, label.noSemicolon, hblank]

/-- The characters that arrows begin with. -/
def arrowStarts : List Char := ['-', '=', '<']

theorem not_plain_of_mem_arrowStarts {c : Char} (h : c ∈ arrowStarts) :
    isPlain c = false ∧ isBlank c = false := by
  have hall : arrowStarts.all (fun c => !isPlain c && !isBlank c) = true := by decide
  simpa using List.all_eq_true.1 hall c h

/-- Where a text begins with another character, blanks left aside, no arrow begins. -/
theorem arrow?_eq_none {s : List Char} (h : ∀ c ∈ (skipBlanks s).head?, c ∉ arrowStarts) :
    arrow? s = none := by
  cases hskip : skipBlanks s with
  | nil =>
    simp only [arrow?, hskip]
    rfl
  | cons c t =>
    rw [hskip] at h
    have hc : c ∉ arrowStarts := h c rfl
    simp only [arrowStarts, List.mem_cons, List.not_mem_nil, or_false, not_or] at hc
    obtain ⟨hdash, hequal, hangle⟩ := hc
    simp [arrow?, hskip, firstSome, halvedArrow?, plainArrow?, after?, run?, hdash, hequal,
      Ne.symm hdash, Ne.symm hequal, Ne.symm hangle]

/-! ### Groups -/

theorem Name.isPlain_of_mem (n : Name) {c : Char} (hc : c ∈ n.text) : isPlain c = true :=
  List.all_eq_true.1 n.plain c hc

theorem Name.isBlank_of_mem (n : Name) {c : Char} (hc : c ∈ n.text) : isBlank c = false :=
  isBlank_of_isPlain (n.isPlain_of_mem hc)

theorem Name.exists_cons (n : Name) : ∃ c s, isPlain c = true ∧ n.text = c :: s := by
  obtain ⟨c, s, hs⟩ := List.exists_cons_of_ne_nil n.ne_nil
  exact ⟨c, s, n.isPlain_of_mem (hs ▸ List.mem_cons_self ..), hs⟩

theorem Name.isTight (n : Name) : IsTight n.text :=
  isTight_of_forall n.ne_nil fun _ hc => n.isBlank_of_mem hc

theorem Group.text_single (n : Name) : Group.text ⟨n, []⟩ = n.text := by
  simp [Group.text, Group.names]

theorem Group.text_cons (n next : Name) (more : List Name) :
    Group.text ⟨n, next :: more⟩ = n.text ++ (joiner ++ Group.text ⟨next, more⟩) := by
  simp [Group.text, Group.names, List.intercalate_cons_cons]

@[elab_as_elim]
theorem Group.inductNames {motive : Group → Prop} (single : ∀ n, motive ⟨n, []⟩)
    (cons : ∀ n next more, motive ⟨next, more⟩ → motive ⟨n, next :: more⟩) (g : Group) :
    motive g := by
  obtain ⟨n, others⟩ := g
  induction others generalizing n with
  | nil => exact single n
  | cons next more ih => exact cons n next more (ih next)

theorem Group.mem_text {g : Group} {c : Char} (hc : c ∈ g.text) :
    isPlain c = true ∨ c ∈ joiner := by
  induction g using inductNames with
  | single n =>
    rw [text_single] at hc
    exact .inl (n.isPlain_of_mem hc)
  | cons n next more ih =>
    rw [text_cons, List.mem_append, List.mem_append] at hc
    rcases hc with hname | hjoins | hmore
    · exact .inl (n.isPlain_of_mem hname)
    · exact .inr hjoins
    · exact ih hmore

theorem Group.isTight (g : Group) : IsTight g.text := by
  induction g using inductNames with
  | single n => exact text_single n ▸ n.isTight
  | cons n next more ih => exact text_cons n next more ▸ n.isTight.append ih joiner

theorem Group.exists_cons_text (g : Group) : ∃ c s, isPlain c = true ∧ g.text = c :: s := by
  obtain ⟨c, s, hc, hs⟩ := g.first.exists_cons
  obtain ⟨n, _ | ⟨next, more⟩⟩ := g
  · exact ⟨c, s, hc, by rw [text_single, hs]⟩
  · exact ⟨c, s ++ (joiner ++ text ⟨next, more⟩), hc, by rw [text_cons, hs, List.cons_append]⟩

/-- Texts in which no arrow begins, whatever follows them. -/
structure IsQuiet (s : List Char) : Prop where
  plain : ∀ c ∈ s, c ∉ arrowStarts
  ending : ∀ c ∈ s.getLast?, isBlank c = false

theorem IsQuiet.tail {c : Char} {s : List Char} (h : IsQuiet (c :: s)) : IsQuiet s where
  plain d hd := h.plain d (List.mem_cons_of_mem c hd)
  ending d hd := by
    cases s with
    | nil => simp at hd
    | cons e s => exact h.ending d (by rwa [List.getLast?_cons_cons])

theorem IsQuiet.arrow?_append {c : Char} {s : List Char} (h : IsQuiet (c :: s))
    (rest : List Char) : arrow? (c :: s ++ rest) = none := by
  refine arrow?_eq_none fun d hd => h.plain d ?_
  have hne : (c :: s).dropWhile isBlank ≠ [] := by
    intro hnil
    have hlast := List.getLast?_eq_some_getLast (List.cons_ne_nil c s)
    have hblank := List.dropWhile_eq_nil_iff.1 hnil _ (List.getLast_mem (List.cons_ne_nil c s))
    rw [h.ending _ hlast] at hblank
    contradiction
  rw [skipBlanks, List.dropWhile_append, if_neg (by simpa using hne)] at hd
  rw [List.head?_append_of_ne_nil _ hne] at hd
  exact (List.dropWhile_subset _) (List.mem_of_mem_head? hd)

theorem groupsFrom_nil (skip : ℕ) (group : List Char) :
    groupsFrom skip group [] = (group.reverse, []) := rfl

/-- A character is passed over, or it begins an arrow, or it is one of the group. All of `skip` is
left open here, since the cases of zero do not unfold in reasonable time. -/
theorem groupsFrom_cons (skip : ℕ) (group : List Char) (c : Char) (s : List Char) :
    groupsFrom skip group (c :: s) =
      match skip with
      | skip + 1 => groupsFrom skip group s
      | 0 =>
        match arrow? (c :: s) with
        | some (label, rest) =>
          let next := groupsFrom (s.length - rest.length) [] s
          (group.reverse, (label, next.1) :: next.2)
        | none => groupsFrom 0 (c :: group) s := by
  cases skip <;> rfl

theorem groupsFrom_skip (group s rest : List Char) :
    groupsFrom s.length group (s ++ rest) = groupsFrom 0 group rest := by
  induction s with
  | nil => rfl
  | cons c s ih => exact ih

theorem IsQuiet.groupsFrom_append {s : List Char} (h : IsQuiet s) (group rest : List Char) :
    groupsFrom 0 group (s ++ rest) = groupsFrom 0 (s.reverse ++ group) rest := by
  induction s generalizing group with
  | nil => rfl
  | cons c s ih =>
    have hnone := h.arrow?_append rest
    rw [List.cons_append] at hnone ⊢
    rw [groupsFrom_cons]
    simp only [hnone]
    rw [ih h.tail, List.reverse_cons, List.append_assoc]
    rfl

theorem groupsFrom_arrow (a : Arrow) {c : Char} (hc : isPlain c = true) (group s : List Char) :
    groupsFrom 0 group (a.text ++ c :: s) =
      (group.reverse, (a.shown, (groups (c :: s)).1) :: (groups (c :: s)).2) := by
  have hread := arrow?_text a hc s
  rw [Arrow.text, List.cons_append] at hread ⊢
  have hskipped := groupsFrom_skip [] (a.stroke.text ++ a.label.elim [' '] Label.written)
    (c :: s)
  rw [groupsFrom_cons]
  simp only [hread, List.length_append, Nat.add_sub_cancel] at hskipped ⊢
  rw [hskipped]
  rfl

theorem isQuiet_group (g : Group) : IsQuiet g.text where
  plain c hc hstart := by
    have hjoiner : joiner.all (!arrowStarts.contains ·) = true := by decide
    rcases Group.mem_text hc with hplain | hjoins
    · exact ne_of_isPlain hplain (not_plain_of_mem_arrowStarts hstart).1 rfl
    · simpa [hstart] using List.all_eq_true.1 hjoiner c hjoins
  ending c hc := by
    obtain ⟨d, hd, hblank⟩ := g.isTight.last
    rwa [Option.some.inj (hc.symm.trans hd)]

theorem linksText_cons (link : Link) (rest : List Link) :
    linksText (link :: rest) = link.arrow.text ++ (link.target.text ++ linksText rest) := by
  simp [linksText]

/-- A text is cut into its groups at the arrows. -/
theorem groups_links (g : Group) (links : List Link) :
    groups (g.text ++ linksText links) =
      (g.text, links.map fun link => (link.arrow.shown, link.target.text)) := by
  induction links generalizing g with
  | nil =>
    rw [groups, linksText, List.flatMap_nil, (isQuiet_group g).groupsFrom_append,
      List.append_nil, groupsFrom_nil, List.reverse_reverse, List.map_nil]
  | cons link rest ih =>
    obtain ⟨c, s, hc, hs⟩ := link.target.exists_cons_text
    have hnext := ih link.target
    rw [hs, List.cons_append] at hnext
    rw [groups, (isQuiet_group g).groupsFrom_append, linksText_cons, hs, List.cons_append,
      groupsFrom_arrow _ hc, hnext]
    simp [hs]

/-! ### Nodes -/

theorem map_trim_splitOn_blank (s : List Char) :
    (splitOn '&' (' ' :: s)).map trim = (splitOn '&' s).map trim := by
  obtain ⟨first, others, hsplit⟩ := List.exists_cons_of_ne_nil (List.splitOn_ne_nil '&' s)
  rw [splitOn_eq, splitOn_eq, List.splitOn_cons_eq_if_modifyHead, if_neg (by decide), hsplit]
  rfl

theorem Group.map_trim_splitOn (g : Group) :
    (splitOn '&' g.text).map trim = g.names.map Name.text := by
  have hname (n : Name) : '&' ∉ n.text := fun hmem =>
    ne_of_isPlain (n.isPlain_of_mem hmem) (by decide) rfl
  induction g using Group.inductNames with
  | single n =>
    rw [text_single, splitOn_eq, List.splitOn_eq_singleton (hname n), List.map_singleton,
      n.isTight.trim_eq]
    rfl
  | cons n next more ih =>
    have hpiece : '&' ∉ n.text ++ [' '] := by simp [hname n]
    have hcut : n.text ++ (joiner ++ text ⟨next, more⟩) =
        terminated '&' [n.text ++ [' ']] ++ ' ' :: text ⟨next, more⟩ := by
      simp [terminated, joiner]
    rw [text_cons, hcut, splitOn_eq, splitOn_terminated_append (by simpa using hpiece),
      ← splitOn_eq, List.map_append, map_trim_splitOn_blank, ih, List.map_singleton,
      n.isTight.trim_append [' ']]
    simp [dropEndWhile, isBlank, Group.names]

theorem shape?_eq_none {c : Char} (hc : isPlain c = true) (s : List Char) :
    shape? (c :: s) = none := by
  have hne {d : Char} (hd : isPlain d = false) : (d = c) = False :=
    eq_false (Ne.symm (ne_of_isPlain hc hd))
  simp [shape?, firstSome, shapes, after?, hne (by decide : isPlain '(' = false),
    hne (by decide : isPlain '[' = false), hne (by decide : isPlain '\x7b' = false),
    hne (by decide : isPlain '>' = false)]

theorem isClassSuffix_eq_false {c : Char} (hc : isPlain c = true) (s : List Char) :
    isClassSuffix (c :: s) = false := by
  have hne : ':' ≠ c := Ne.symm (ne_of_isPlain hc (by decide))
  simp [isClassSuffix, after?, hne]

/-- A name ends where a shape, a class name or nothing follows. -/
theorem Name.node?_append (n : Name) {rest : List Char} {shape : Option (List Char)}
    (hrest : (match shape? (skipBlanks rest) with
      | some found => some (some found)
      | none => if isClassSuffix (skipBlanks rest) then some none else none) = some shape) :
    node? (n.text ++ rest) = some (n.text, shape) := by
  obtain ⟨c, s, hc, hs⟩ := n.exists_cons
  have hplain : ∀ d ∈ s, isPlain d = true := fun d hd =>
    n.isPlain_of_mem (hs ▸ List.mem_cons_of_mem c hd)
  have hopens : (c.isAlphanum || c = '_') = true := hc
  rw [hs, List.cons_append, node?, if_pos hopens, shortest?_append (b := shape)]
  · rfl
  · exact fun d hd => isNameChar_of_isPlain (hplain d hd)
  · intro d t ht
    have hd : isPlain d = true := hplain d (ht.subset (List.mem_cons_self ..))
    simp [skipBlanks_cons (isBlank_of_isPlain hd), shape?_eq_none hd, isClassSuffix_eq_false hd]
  · exact hrest

theorem node?_name (n : Name) : node? n.text = some (n.text, none) := by
  have hread : node? (n.text ++ []) = some (n.text, none) := n.node?_append rfl
  rwa [List.append_nil] at hread

theorem groupNodes_text (g : Group) :
    groupNodes g.text = g.names.map fun n => (n.text, none) := by
  rw [groupNodes, g.map_trim_splitOn, List.filterMap_map]
  have hread : node? ∘ Name.text = fun n => some (n.text, none) := funext node?_name
  rw [hread, List.filterMap_eq_map']

/-! ### Statements -/

namespace Chain

theorem isTight_links (g : Group) (links : List Link) : IsTight (g.text ++ linksText links) := by
  induction links generalizing g with
  | nil =>
    rw [linksText, List.flatMap_nil, List.append_nil]
    exact g.isTight
  | cons link rest ih =>
    rw [linksText_cons]
    exact g.isTight.append (ih link.target) link.arrow.text

theorem isTight (c : Chain) : IsTight c.text := isTight_links c.first c.links

theorem semicolon_not_mem (c : Chain) : ';' ∉ c.text := by
  have hgroup (g : Group) : ';' ∉ g.text := fun hmem =>
    (Group.mem_text hmem).elim (fun hplain => ne_of_isPlain hplain (by decide) rfl) (by decide)
  intro hmem
  rcases List.mem_append.1 hmem with hmem | hmem
  · exact hgroup _ hmem
  · obtain ⟨link, -, hmem⟩ := List.mem_flatMap.1 hmem
    rcases List.mem_append.1 hmem with harrow | htarget
    · exact link.arrow.semicolon_not_mem harrow
    · exact hgroup _ htarget

theorem exists_text_eq (c : Chain) :
    ∃ rest, c.text = c.first.first.text ++ rest ∧ ∀ d ∈ rest.head?, isBlank d = true := by
  obtain ⟨⟨n, others⟩, links, -⟩ := c
  have hlinks : ∀ d ∈ (linksText links).head?, isBlank d = true := by
    cases links with
    | nil => simp [linksText]
    | cons link rest =>
      rintro d ⟨⟩
      decide
  cases others with
  | nil => exact ⟨linksText links, by rw [text, Group.text_single], hlinks⟩
  | cons next more =>
    refine ⟨joiner ++ Group.text ⟨next, more⟩ ++ linksText links, ?_, ?_⟩
    · rw [text, Group.text_cons, List.append_assoc]
    · rintro d ⟨⟩
      decide

theorem firstWord_append (n : Name) {rest : List Char}
    (hrest : ∀ d ∈ rest.head?, isBlank d = true) : firstWord (n.text ++ rest) = n.text := by
  rw [firstWord, n.isTight.skipBlanks_append, takeWhile_append_eq]
  · exact fun d hd => by simp [n.isBlank_of_mem hd]
  · exact fun d hd => by simp [hrest d hd]

theorem firstWord_text (c : Chain) : firstWord c.text = c.first.first.text := by
  obtain ⟨rest, htext, hrest⟩ := c.exists_text_eq
  rw [htext, firstWord_append _ hrest]

theorem lowerString_id (n : Name) : lowerString n.id = .ofList (lower n.text) := by
  rw [lowerString, Name.id, String.toList_ofList]

theorem isSkipped_text (c : Chain) : isSkipped c.text = false := by
  have hcolon : dropEndWhile (· = ':') c.first.first.text = c.first.first.text := by
    rcases List.eq_nil_or_concat' c.first.first.text with hnil | ⟨before, d, hlast⟩
    · exact absurd hnil c.first.first.ne_nil
    · have hd : isPlain d = true := c.first.first.isPlain_of_mem (by simp [hlast])
      rw [hlast, dropEndWhile_concat (decide_eq_false (ne_of_isPlain hd (by decide)))]
  have hopening := c.opening
  rw [lowerString_id, List.mem_cons, not_or] at hopening
  rw [isSkipped, firstWord_text, hcolon]
  simpa using hopening.2

/-- The keyword of a subgraph is a name itself. -/
def subgraphName : Name := ⟨"subgraph".toList, by decide, by decide⟩

theorem firstWord_of_opensSubgraph {s : List Char} (h : opensSubgraph s = true) :
    firstWord s = subgraphName.text := by
  simp only [opensSubgraph, Option.isSome_iff_exists, Option.bind_eq_some_iff] at h
  obtain ⟨_, _, ⟨after, hafter, hblank⟩, -⟩ := h
  have hend : ∀ d ∈ after.head?, isBlank d = true := by
    rintro d hd
    obtain ⟨rest, rfl⟩ := List.head?_eq_some_iff.1 hd
    exact (Option.ite_none_right_eq_some.1 hblank).1
  rw [eq_append_of_after? hafter]
  exact firstWord_append subgraphName hend

theorem opensSubgraph_text (c : Chain) : opensSubgraph c.text = false := by
  by_contra hopens
  have hword : c.first.first.text = subgraphName.text := by
    rw [← firstWord_text, firstWord_of_opensSubgraph (by simpa using hopens)]
  refine c.opening ?_
  rw [Name.id, hword]
  decide

end Chain

theorem linkEdges_cons (g : Group) (link : Link) (rest : List Link) :
    linkEdges g (link :: rest) =
      (g.names ×ˢ link.target.names).map
          (fun (a, b) => ⟨a.id, b.id, link.arrow.shown.map .ofList⟩) ++
        linkEdges link.target rest := by
  rw [linkEdges, List.map_cons, List.zip_cons_cons, List.flatMap_cons]
  rfl

theorem chainMarks_links (g : Group) (links : List Link) :
    chainMarks (g.names.map Name.text)
        (links.map fun link => (link.arrow.shown, link.target.names.map Name.text)) =
      (linkEdges g links).map fun e => Mark.edge e.source e.target e.label := by
  induction links generalizing g with
  | nil => rfl
  | cons link rest ih =>
    rw [List.map_cons, chainMarks, ih, linkEdges_cons, List.map_append]
    congr 1
    simp only [SProd.sprod, List.product, List.flatMap_map, List.map_flatMap, List.map_map]
    rfl

theorem statementMarks_text (c : Chain) :
    statementMarks c.text = c.names.map (fun n => Mark.node n.id) ++
      c.edges.map fun e => Mark.edge e.source e.target e.label := by
  have hnodes (g : Group) : (groupNodes g.text).map (·.1) = g.names.map Name.text := by
    rw [groupNodes_text, List.map_map]
    rfl
  have hdeclared (g : Group) :
      (groupNodes g.text).flatMap (fun node => declaration node.1 (node.2.map shapeLabel)) =
        g.names.map fun n => Mark.node n.id := by
    rw [groupNodes_text, List.flatMap_map, List.map_eq_flatMap]
    rfl
  rw [statementMarks, c.opensSubgraph_text, c.isSkipped_text, Bool.or_false, if_neg (by decide),
    Chain.text, groups_links]
  simp only [List.map_map, Function.comp_def, hnodes]
  rw [chainMarks_links]
  congr 1
  simp only [List.flatMap_append, List.flatMap_map, List.flatMap_assoc, hdeclared, Chain.names,
    Chain.groups, List.flatMap_cons, List.map_append, List.map_flatMap]

end DocTrace.Diagram.Flowchart
