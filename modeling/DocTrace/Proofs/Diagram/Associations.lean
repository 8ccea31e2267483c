import DocTrace.Proofs.Diagram.ClassBodies

/-! Relations between two classes. A relation can be written from either end, with its arrow turned
round. Arrows with a head are read the same from both ends. The mark of a whole is not looked at,
and so the class that stands on the left counts as the whole. -/

namespace DocTrace

namespace Diagram

open Text

namespace Class

/-- What an arrow stands for. -/
inductive Tie where
  | inheritance
  | realization
  | composition
  | aggregation
  | association
  | dependency
deriving DecidableEq

namespace Tie

/-- The arrow with its mark on the left end, or on the right one. -/
def glyph : Tie → Bool → String
  | .inheritance, true => "<|--"
  | .inheritance, false => "--|>"
  | .realization, true => "<|.."
  | .realization, false => "..|>"
  | .composition, true => "*--"
  | .composition, false => "--*"
  | .aggregation, true => "o--"
  | .aggregation, false => "--o"
  | .association, true => "<--"
  | .association, false => "-->"
  | .dependency, true => "<.."
  | .dependency, false => "..>"

/-- Whether the mark is the head of an arrow. -/
def hasHead : Tie → Bool
  | .composition | .aggregation => false
  | _ => true

end Tie

/-- A relation between two classes that is written from the left one. -/
structure Association where
  left : List Char
  right : List Char
  tie : Tie
  onLeft : Bool
  label : Option (List Char) := none
  left_ne_nil : left ≠ []
  right_ne_nil : right ≠ []
  left_word : left.all isWord = true
  right_word : right.all isWord = true
  left_free : lowerString (.ofList left) ∉ "class" :: skippedWords
  right_free : lowerString (.ofList right) ∉ "class" :: skippedWords
  label_line : ∀ text ∈ label, text.all (!isLineBreak ·) = true

namespace Association

/-- The same relation, written from its other end. -/
def mirror (a : Association) : Association where
  left := a.right
  right := a.left
  tie := a.tie
  onLeft := !a.onLeft
  label := a.label
  left_ne_nil := a.right_ne_nil
  right_ne_nil := a.left_ne_nil
  left_word := a.right_word
  right_word := a.left_word
  left_free := a.right_free
  right_free := a.left_free
  label_line := a.label_line

/-- What stands behind the right class. -/
def ending (a : Association) : List Char := (a.label.map (" : ".toList ++ ·)).getD []

def text (a : Association) : List Char :=
  a.left ++ ' ' :: ((a.tie.glyph a.onLeft).toList ++ ' ' :: (a.right ++ a.ending))

/-- The label without the blanks around it. An empty one is none. -/
def shown (a : Association) : Option (List Char) := (a.label.map trim).filter (!·.isEmpty)

/-- Whether the arrow leads from the right class to the left one. -/
def leadsLeft (a : Association) : Bool := a.onLeft && a.tie.hasHead

def marks (a : Association) : List Mark :=
  if a.leadsLeft then connection a.right a.left a.shown else connection a.left a.right a.shown

def edge (a : Association) : Edge :=
  if a.leadsLeft then ⟨.ofList a.right, .ofList a.left, a.shown.map .ofList⟩
  else ⟨.ofList a.left, .ofList a.right, a.shown.map .ofList⟩

theorem edges_marks (a : Association) : a.marks.filterMap Mark.edge? = [a.edge] := by
  unfold marks edge
  split <;> rfl

/-! ### Written from both ends -/

theorem leadsLeft_mirror (a : Association) :
    a.mirror.leadsLeft = (!a.onLeft && a.tie.hasHead) := rfl

theorem marks_mirror {a : Association} (h : a.tie.hasHead = true ∨ a.left = a.right) :
    a.mirror.marks = a.marks := by
  rcases h with hhead | hsame
  · rw [marks, marks, leadsLeft_mirror, leadsLeft, hhead]
    cases a.onLeft <;> rfl
  · have hleft : a.mirror.left = a.left := hsame.symm
    have hright : a.mirror.right = a.left := rfl
    have hshown : a.mirror.shown = a.shown := rfl
    rw [marks, marks, hleft, hright, hshown, ← hsame, ite_self, ite_self]

theorem edge_mirror_iff (a : Association) :
    a.mirror.edge = a.edge ↔ a.tie.hasHead = true ∨ a.left = a.right := by
  constructor
  · intro h
    by_cases hhead : a.tie.hasHead = true
    · exact .inl hhead
    · rw [Bool.not_eq_true] at hhead
      have hleads : a.leadsLeft = false := by rw [leadsLeft, hhead, Bool.and_false]
      have hmirror : a.mirror.leadsLeft = false := by rw [leadsLeft_mirror, hhead, Bool.and_false]
      rw [edge, edge, hleads, hmirror] at h
      exact .inr (String.ofList_injective (congrArg Edge.source h).symm)
  · intro h
    have hedges := congrArg (·.filterMap Mark.edge?) (marks_mirror h)
    simp only [edges_marks] at hedges
    exact (List.cons.inj hedges).1

end Association

/-! ### Arrows are read -/

theorem glyph_mem_arrows (tie : Tie) (onLeft : Bool) :
    (tie.glyph onLeft, onLeft && tie.hasHead) ∈ arrows := by
  cases tie <;> cases onLeft <;> decide

theorem toList_arrows : (arrows.map fun arrow => (arrow.1.toList, arrow.2)) =
    [(['<', '|', '-', '-'], true), (['<', '|', '.', '.'], true), (['-', '-', '|', '>'], false),
      (['.', '.', '|', '>'], false), (['*', '-', '-'], false), (['-', '-', '*'], false),
      (['o', '-', '-'], false), (['-', '-', 'o'], false), (['<', '-', '-'], true),
      (['-', '-', '>'], false), (['<', '.', '.'], true), (['.', '.', '>'], false),
      (['-', '-'], false), (['.', '.'], false)] := by
  decide

/-- An arrow is read as a whole, for a blank continues none. -/
theorem arrowEnd?_arrow {arrow : String} {back : Bool}
    {found : List Char × Option (List Char)} {rest : List Char} (h : (arrow, back) ∈ arrows)
    (hfound : rightEnd? (' ' :: rest) = some found) :
    arrowEnd? (' ' :: (arrow.toList ++ ' ' :: rest)) = some (back, found) := by
  have hmem : (arrow.toList, back) ∈ arrows.map fun arrow => (arrow.1.toList, arrow.2) :=
    List.mem_map_of_mem (f := fun arrow : String × Bool => (arrow.1.toList, arrow.2)) h
  have hread (s : List Char) :
      arrowEnd? s = firstSome (fun start : List Char × Bool =>
        ((after? start.1 (dropMultiplicity (skipBlanks s))).bind rightEnd?).map fun found =>
          (start.2, found)) (arrows.map fun arrow => (arrow.1.toList, arrow.2)) := by
    rw [firstSome_map]
    rfl
  rw [hread]
  rw [toList_arrows] at hmem ⊢
  generalize arrow.toList = stroke at hmem ⊢
  simp only [List.mem_cons, Prod.mk.injEq, List.not_mem_nil, or_false] at hmem
  rcases hmem with ⟨rfl, rfl⟩ | ⟨rfl, rfl⟩ | ⟨rfl, rfl⟩ | ⟨rfl, rfl⟩ | ⟨rfl, rfl⟩ | ⟨rfl, rfl⟩ |
    ⟨rfl, rfl⟩ | ⟨rfl, rfl⟩ | ⟨rfl, rfl⟩ | ⟨rfl, rfl⟩ | ⟨rfl, rfl⟩ | ⟨rfl, rfl⟩ | ⟨rfl, rfl⟩ |
    ⟨rfl, rfl⟩ <;>
    simp [skipBlanks, isBlank, dropMultiplicity, firstSome, after?, hfound]

namespace Association

variable (a : Association)

theorem isWord_left : ∀ c ∈ a.left, isWord c = true := List.all_eq_true.1 a.left_word

theorem isWord_right : ∀ c ∈ a.right, isWord c = true := List.all_eq_true.1 a.right_word

theorem isTight_left : IsTight a.left :=
  isTight_name a.left_ne_nil fun c hc => isNameChar_of_isWord (a.isWord_left c hc)

theorem isTight_right : IsTight a.right :=
  isTight_name a.right_ne_nil fun c hc => isNameChar_of_isWord (a.isWord_right c hc)

/-- The line without the blanks at its end. -/
def line : List Char :=
  a.left ++ ' ' :: ((a.tie.glyph a.onLeft).toList ++
    ' ' :: (a.right ++ dropEndWhile isBlank a.ending))

theorem trim_text : trim a.text = a.line := by
  have htight := a.isTight_left.append a.isTight_right
    (' ' :: ((a.tie.glyph a.onLeft).toList ++ [' ']))
  have htrim := htight.trim_append a.ending
  simp only [List.append_assoc, List.cons_append, List.nil_append] at htrim
  exact htrim

theorem dropEndWhile_label (text : List Char) :
    dropEndWhile isBlank (" : ".toList ++ text) =
      " :".toList ++ dropEndWhile isBlank (' ' :: text) := by
  have hcut : " : ".toList ++ text = " :".toList ++ (' ' :: text) := rfl
  rw [hcut, dropEndWhile_append]
  split
  · next hnil => rw [hnil]; rfl
  · rfl

theorem label?_ending : label? (dropEndWhile isBlank a.ending) = some a.shown := by
  unfold ending shown
  cases a.label with
  | none => rfl
  | some text =>
    have htrim : trim (dropEndWhile isBlank (' ' :: text)) = trim text :=
      (trim_dropEndWhile _).trans rfl
    rw [Option.map_some, Option.getD_some, dropEndWhile_label]
    simp [label?, skipBlanks, isBlank, htrim]

theorem head?_ending : ∀ c ∈ (dropEndWhile isBlank a.ending).head?, isDashedWord c = false := by
  unfold ending
  cases a.label with
  | none => simp [dropEndWhile]
  | some text =>
    rw [Option.map_some, Option.getD_some, dropEndWhile_label]
    exact forall_head?_cons (by decide) _

theorem rightEnd?_right :
    rightEnd? (' ' :: (a.right ++ dropEndWhile isBlank a.ending)) = some (a.right, a.shown) := by
  have hskip : skipBlanks (' ' :: (a.right ++ dropEndWhile isBlank a.ending)) =
      a.right ++ dropEndWhile isBlank a.ending := a.isTight_right.skipBlanks_append _
  have hcount : dropMultiplicity (a.right ++ dropEndWhile isBlank a.ending) =
      a.right ++ dropEndWhile isBlank a.ending := by
    obtain ⟨c, rest, hright⟩ := List.exists_cons_of_ne_nil a.right_ne_nil
    have hquote : c ≠ '"' := by
      rintro rfl
      exact absurd (a.isWord_right '"' (hright ▸ List.mem_cons_self ..)) (by decide)
    rw [hright, List.cons_append, dropMultiplicity]
    simp [hquote]
  have hspan : span1? isDashedWord (a.right ++ dropEndWhile isBlank a.ending) =
      some (a.right, dropEndWhile isBlank a.ending) :=
    span1?_append a.right_ne_nil (fun c hc => by simp [isDashedWord, a.isWord_right c hc])
      a.head?_ending
  rw [rightEnd?, hskip, hcount, hspan]
  simp [a.label?_ending]

theorem relation?_line :
    (relation? a.line).map Statement.marks = some a.marks := by
  have hread : longest1? isDashedWord arrowEnd? a.line =
      some (a.left, a.onLeft && a.tie.hasHead, a.right, a.shown) :=
    longest1?_append a.left_ne_nil (fun c hc => by simp [isDashedWord, a.isWord_left c hc])
      (forall_head?_cons (by decide) _)
      (arrowEnd?_arrow (glyph_mem_arrows a.tie a.onLeft) a.rightEnd?_right)
  rw [relation?, hread, marks, leadsLeft]
  cases a.onLeft && a.tie.hasHead <;> rfl

/-! ### Nothing else is read in the line -/

theorem firstWord_line : firstWord a.line = a.left := by
  rw [firstWord, line, a.isTight_left.skipBlanks_append]
  exact takeWhile_append_eq (fun c hc => by simp [isBlank_of_isWord (a.isWord_left c hc)])
    (forall_head?_cons (by decide) _)

theorem isSkipped_line : isSkipped a.line = false := by
  have hbrace : a.line ≠ ['\x7d'] := by
    intro hline
    have hword := a.firstWord_line
    rw [hline] at hword
    exact absurd (a.isWord_left '\x7d' (hword ▸ by decide)) (by decide)
  have hfree : String.ofList (lower a.left) ∉ skippedWords := by
    have hfree := fun h => a.left_free (List.mem_cons_of_mem _ h)
    rwa [lowerString, String.toList_ofList] at hfree
  rw [isSkipped, a.firstWord_line, decide_eq_false hbrace, Bool.false_or]
  simpa using hfree

theorem class?_line : class? a.line = none := by
  by_contra hclass
  obtain ⟨found, hclass⟩ := Option.ne_none_iff_exists'.1 hclass
  rw [class?, Option.bind_eq_bind, Option.bind_eq_some_iff] at hclass
  obtain ⟨cut, hcut, -⟩ := hclass
  obtain ⟨rest, hrest, -⟩ := Option.bind_eq_some_iff.1 hcut
  obtain ⟨blanks, hblanks, hskip⟩ := Option.bind_eq_some_iff.1 hrest
  cases blanks with
  | nil => simp [skipBlanks1?] at hskip
  | cons c blanks =>
    have hc : isBlank c = true := by
      by_contra hc
      simp [skipBlanks1?, hc] at hskip
    have hword := a.firstWord_line
    rw [eq_append_of_after? hblanks] at hword
    have hfirst : firstWord ("class".toList ++ c :: blanks) = "class".toList := by
      have hskip : skipBlanks ("class".toList ++ c :: blanks) = "class".toList ++ c :: blanks :=
        skipBlanks_cons (by decide) _
      rw [firstWord, hskip]
      exact takeWhile_append_eq (List.all_eq_true.1 (by decide))
        (forall_head?_cons (by simp [hc]) _)
    refine a.left_free ?_
    rw [← hword, hfirst]
    decide

theorem step_text : step 0 (trim a.text) = (0, a.marks) := by
  rw [step, if_neg (by simp), trim_trim, a.trim_text, a.isSkipped_line, a.class?_line,
    a.relation?_line]
  rfl

theorem writtenLines_text : writtenLines a.text = [trim a.text] := by
  obtain ⟨c, rest, hleft⟩ := List.exists_cons_of_ne_nil a.left_ne_nil
  have hc := a.isWord_left c (hleft ▸ List.mem_cons_self ..)
  have hname {name : List Char} (h : ∀ c ∈ name, isWord c = true) :
      ∀ c ∈ name, isLineBreak c = false := fun c hc =>
    isLineBreak_eq_false (isBlank_of_isWord (h c hc))
  have hglyph : ∀ c ∈ (a.tie.glyph a.onLeft).toList, isLineBreak c = false := by
    apply forall_eq_false_of_all
    cases a.tie <;> cases a.onLeft <;> decide
  have hending : ∀ c ∈ a.ending, isLineBreak c = false := by
    have hline := a.label_line
    unfold ending
    cases hlabel : a.label with
    | none => simp
    | some text =>
      rw [Option.map_some, Option.getD_some]
      exact List.forall_mem_append.2 ⟨forall_eq_false_of_all (by decide),
        forall_eq_false_of_all (hline text hlabel)⟩
  refine writtenLines_line (by rw [text, hleft]; rfl) (isNameChar_of_isWord hc) ?_
  have hspace : isLineBreak ' ' = false := by decide
  exact List.forall_mem_append.2 ⟨hname a.isWord_left, List.forall_mem_cons.2 ⟨hspace,
    List.forall_mem_append.2 ⟨hglyph, List.forall_mem_cons.2 ⟨hspace,
      List.forall_mem_append.2 ⟨hname a.isWord_right, hending⟩⟩⟩⟩⟩

end Association

/-- The marks of a diagram with one more relation are those before it, its own, and those behind
it. -/
theorem marks_association {s word : List Char} (hword : keyword? s = some word)
    (hdash : word.head? ≠ some '-') (hdepth : depth (bodyLines s) = 0) (a : Association)
    {rest : List Char} (hrest : ∀ c ∈ rest.head?, c = '\n') :
    marks (s ++ '\n' :: (a.text ++ rest)) =
      marks s ++ (a.marks ++ marksFrom step 0 (writtenLines rest)) := by
  rw [marks_feed hword hdash, hdepth, writtenLines_append hrest, a.writtenLines_text,
    List.singleton_append, marksFrom, a.step_text]

end Class

end Diagram

open Diagram Class

/-- A class diagram with one more relation, behind some lines and before others. -/
def relating (before : String) (a : Association) (rest : String) : String :=
  before ++ "\n" ++ (.ofList a.text ++ rest)

/-- A relation has its edge in its place, from whichever end it is written. Both ends give the same
diagram exactly for an arrow with a head, or between a class and itself. -/
theorem analyze_mirror {before : String} {word : List Char}
    (hword : keyword? before.toList = some word)
    (hkind : .ofList word ∈ DiagramKind.classes.openers)
    (hdepth : depth (bodyLines before.toList) = 0) (a : Association) {rest : String}
    (hrest : ∀ c ∈ rest.toList.head?, c = '\n') :
    (∃ later,
        (analyze (relating before a rest)).edges = (analyze before).edges ++ a.edge :: later ∧
        (analyze (relating before a.mirror rest)).edges =
          (analyze before).edges ++ a.mirror.edge :: later) ∧
      (analyze (relating before a.mirror rest) = analyze (relating before a rest) ↔
        a.tie.hasHead = true ∨ a.left = a.right) := by
  have hdash := DiagramKind.head?_opener hkind
  have hwhole (a : Association) :
      (relating before a rest).toList = before.toList ++ '\n' :: (a.text ++ rest.toList) := by
    rw [relating, toList_append_feed, String.toList_append, String.toList_ofList]
  have hanalyze (a : Association) : analyze (relating before a rest) =
      DiagramKind.classes.analyze (relating before a rest) := by
    refine analyze_of_opener ?_ hkind
    rw [hwhole]
    exact keyword?_break hword hdash _
  have hmarks (a : Association) : marks (relating before a rest).toList =
      marks before.toList ++ (a.marks ++ marksFrom step 0 (writtenLines rest.toList)) := by
    rw [hwhole]
    exact marks_association hword hdash hdepth a hrest
  have hedges (a : Association) : (analyze (relating before a rest)).edges =
      (analyze before).edges ++
        a.edge :: (marksFrom step 0 (writtenLines rest.toList)).filterMap Mark.edge? := by
    rw [hanalyze, analyze_of_opener hword hkind]
    simp only [DiagramKind.analyze, DiagramKind.marks, Sketch.toAnalysis]
    rw [Sketch.edges_ofMarks, Sketch.edges_ofMarks, hmarks, List.filterMap_append,
      List.filterMap_append, a.edges_marks, List.singleton_append]
  refine ⟨⟨_, hedges a, hedges a.mirror⟩, fun hsame => ?_, fun hsame => ?_⟩
  · have hlists := congrArg Analysis.edges hsame
    rw [hedges, hedges] at hlists
    exact a.edge_mirror_iff.1 (List.cons.inj (List.append_cancel_left hlists)).1
  · rw [hanalyze, hanalyze, DiagramKind.analyze, DiagramKind.analyze, DiagramKind.marks, hmarks,
      hmarks, Association.marks_mirror hsame]

/-! An arrow with a head is read alike from both ends, and a composition is turned round. -/

def sampleRelation (tie : Tie) : Association where
  left := "A".toList
  right := "B".toList
  tie := tie
  onLeft := true
  label := some "owns ".toList
  left_ne_nil := by decide
  right_ne_nil := by decide
  left_word := by decide
  right_word := by decide
  left_free := by decide
  right_free := by decide
  label_line := by decide

theorem analyze_mirror_composition :
    (keyword? "classDiagram".toList = some "classDiagram".toList ∧
        "classDiagram" ∈ DiagramKind.classes.openers ∧
        depth (bodyLines "classDiagram".toList) = 0) ∧
      analyze "classDiagram\nB --|> A : owns \nclass C" =
        analyze "classDiagram\nA <|-- B : owns \nclass C" ∧
      analyze "classDiagram\nB --* A : owns \nclass C" ≠
        analyze "classDiagram\nA *-- B : owns \nclass C" := by
  have hword : keyword? "classDiagram".toList = some "classDiagram".toList := by decide +kernel
  have hkind : "classDiagram" ∈ DiagramKind.classes.openers := by decide
  have hdepth : depth (bodyLines "classDiagram".toList) = 0 := by decide +kernel
  have hrest : ∀ c ∈ "\nclass C".toList.head?, c = '\n' := fun _ hc => (Option.some.inj hc).symm
  refine ⟨⟨hword, hkind, hdepth⟩, ?_, fun hsame => ?_⟩
  · exact (analyze_mirror hword hkind hdepth (sampleRelation .inheritance) hrest).2.2 (.inl rfl)
  · have hboth := (analyze_mirror hword hkind hdepth (sampleRelation .composition) hrest).2.1 hsame
    exact absurd hboth (by decide)

end DocTrace
