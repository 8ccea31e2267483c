import DocTrace.Proofs.Diagram.ClassBodies
import Mathlib.Algebra.Ring.Int.Defs
import Mathlib.Data.List.Infix

/-! The inside of a block or of a class body. A reader passes over it and goes on behind it as if
nothing stood there, whatever the lines look like. Comments are removed before braces are counted,
so a brace in a comment neither opens nor closes a body. -/

namespace DocTrace

namespace Diagram

open Text

/-! ### Lines that a reader passes over -/

/-- Lines that say nothing to a reader and leave it in the state in which they find it. -/
structure PassesOver (step : σ → List Char → σ × List Mark) (state : σ)
    (lines : List (List Char)) : Prop where
  stateAfter_eq : stateAfter step state lines = state
  marksFrom_eq : marksFrom step state lines = []

section

variable {step : σ → List Char → σ × List Mark} {state : σ} {inner : List (List Char)}
  (h : PassesOver step state inner)

include h

theorem PassesOver.marksFrom_append (back : List (List Char)) :
    marksFrom step state (inner ++ back) = marksFrom step state back := by
  rw [Diagram.marksFrom_append, h.marksFrom_eq, h.stateAfter_eq, List.nil_append]

theorem PassesOver.filled (hstep : ReadsFilled step) :
    PassesOver step state (Diagram.filled inner) where
  stateAfter_eq := (hstep.stateAfter_filled state inner).trans h.stateAfter_eq
  marksFrom_eq := (hstep.marksFrom_filled state inner).trans h.marksFrom_eq

end

/-! ### What is written in some lines -/

theorem writtenLines_append_of_endsLine {s : List Char} (h : EndsLine s) (t : List Char) :
    writtenLines (s ++ t) = writtenLines s ++ writtenLines t := by
  obtain rfl | ⟨line, last, rfl⟩ := List.eq_nil_or_concat' s
  · rfl
  · obtain rfl : last = '\n' := h last (by simp)
    have hend : writtenLines (line ++ ['\n']) = writtenLines line :=
      (writtenLines_append_feed line []).trans (List.append_nil _)
    rw [hend, List.append_assoc, List.singleton_append, writtenLines_append_feed]

/-- Whole lines get lost with comments, and nothing else. -/
theorem writtenLines_sublist (s : List Char) : (writtenLines s).Sublist (filledLines s) := by
  obtain ⟨lines, last, hlines, hlast, rfl⟩ := Header.exists_lines s
  induction lines with
  | nil =>
    rw [List.flatten_nil, List.nil_append]
    cases hopens : opensComment last with
    | true =>
      rw [writtenLines_of_opensComment hlast hopens]
      exact List.nil_sublist _
    | false =>
      rw [writtenLines_of_not_opensComment hlast hopens]
  | cons line lines ih =>
    obtain ⟨⟨text, htext, rfl⟩, hmore⟩ := List.forall_mem_cons.1 hlines
    have hcut : ((text ++ ['\n']) :: lines).flatten ++ last =
        text ++ '\n' :: (lines.flatten ++ last) := by simp
    have hfirst : (writtenLines text).Sublist (filledLines text) := by
      cases hopens : opensComment text with
      | true =>
        rw [writtenLines_of_opensComment htext hopens]
        exact List.nil_sublist _
      | false =>
        rw [writtenLines_of_not_opensComment htext hopens]
    rw [hcut, writtenLines_append_feed, filledLines_append_break (by decide)]
    exact hfirst.append (ih hmore)

theorem exists_line_of_mem_filled {lines : List (List Char)} {line : List Char}
    (h : line ∈ filled lines) : ∃ raw ∈ lines, trim line = trim raw := by
  obtain ⟨raw, hraw, rfl⟩ := List.mem_map.1 (List.mem_filter.1 h).1
  exact ⟨raw, hraw, trim_dropEndWhile raw⟩

/-! ### Blocks of attributes -/

namespace EntityRelation

/-- Whether a block is open behind some lines. -/
def inBlock (lines : List (List Char)) : Bool := stateAfter step false lines

/-- The last line opens a block, at top level. -/
def EndsOpening (lines : List (List Char)) : Prop :=
  ∃ before opening, lines = before ++ [opening] ∧ inBlock before = false ∧
    (step false opening).1 = true

/-- Lines that do not begin with a closing brace. -/
structure IsInterior (s : List Char) : Prop where
  endsLine : EndsLine s
  open_lines : ∀ line ∈ lines s, (trim line).head? ≠ some '\x7d'

theorem EndsOpening.inBlock {lines : List (List Char)} (h : EndsOpening lines) :
    inBlock lines = true := by
  obtain ⟨before, opening, rfl, hbefore, hopening⟩ := h
  rw [EntityRelation.inBlock, stateAfter_append]
  rw [EntityRelation.inBlock] at hbefore
  rw [hbefore]
  exact hopening

theorem step_inBlock {line : List Char} (h : (trim line).head? ≠ some '\x7d') :
    step true line = (true, []) := by
  have hopen : ((trim line).head? != some '\x7d') = true := by simpa using h
  simp only [step, if_true, hopen]

theorem passesOver_block {inner : List (List Char)}
    (h : ∀ line ∈ inner, (trim line).head? ≠ some '\x7d') : PassesOver step true inner := by
  induction inner with
  | nil => exact ⟨rfl, rfl⟩
  | cons line inner ih =>
    obtain ⟨hline, hrest⟩ := List.forall_mem_cons.1 h
    have hstep := step_inBlock hline
    have hpasses := ih hrest
    refine ⟨?_, ?_⟩
    · rw [stateAfter_cons, hstep, hpasses.stateAfter_eq]
    · rw [marksFrom, hstep, hpasses.marksFrom_eq]
      rfl

theorem IsInterior.passesOver {s : List Char} (h : IsInterior s) :
    PassesOver step true (writtenLines s) := by
  apply passesOver_block
  intro line hline
  obtain ⟨raw, hraw, htrim⟩ := exists_line_of_mem_filled ((writtenLines_sublist s).subset hline)
  rw [htrim]
  exact h.open_lines raw hraw

section

variable {s word : List Char} (hkeyword : keyword? s = some word) (hdash : word.head? ≠ some '-')

include hkeyword hdash

/-- What is written behind a text is read inside of a block if the text leaves one open. -/
theorem marks_feed (t : List Char) :
    marks (s ++ '\n' :: t) =
      marks s ++ marksFrom step (inBlock (bodyLines s)) (writtenLines t) := by
  rw [marks_eq, readsFilled.marksFrom_feed hkeyword hdash, ← marks_eq, inBlock]

theorem marks_interior (hopening : EndsOpening (bodyLines s)) {interior : List Char}
    (h : IsInterior interior) (rest : List Char) :
    marks (s ++ '\n' :: (interior ++ rest)) =
      marks s ++ marksFrom step true (writtenLines rest) := by
  rw [marks_feed hkeyword hdash, hopening.inBlock, writtenLines_append_of_endsLine h.endsLine,
    h.passesOver.marksFrom_append]

end

end EntityRelation

/-! ### Class bodies -/

namespace Class

/-- The last line opens a body, at top level. -/
def EndsOpening (lines : List (List Char)) : Prop :=
  ∃ before opening, lines = before ++ [opening] ∧ depth before = 0 ∧ 0 < (step 0 opening).1

/-- Lines that close no more braces than they have opened, and in the end all of them. -/
structure Balanced (lines : List (List Char)) : Prop where
  nonneg : ∀ front, front <+: lines → 0 ≤ (front.map balance).sum
  sum_eq_zero : (lines.map balance).sum = 0

instance (lines : List (List Char)) : Decidable (Balanced lines) :=
  decidable_of_iff ((∀ front ∈ lines.inits, 0 ≤ (front.map balance).sum) ∧
      (lines.map balance).sum = 0)
    ⟨fun h => ⟨fun front hfront => h.1 front ((List.mem_inits ..).2 hfront), h.2⟩,
      fun h => ⟨fun front hfront => h.1 front ((List.mem_inits ..).1 hfront), h.2⟩⟩

/-- Lines whose braces are balanced, those in comments left aside. -/
structure IsInterior (s : List Char) : Prop where
  endsLine : EndsLine s
  balanced : Balanced (lines (dropComments s))

theorem EndsOpening.depth_pos {lines : List (List Char)} (h : EndsOpening lines) :
    0 < depth lines := by
  obtain ⟨before, opening, rfl, hbefore, hopening⟩ := h
  rw [depth_concat, hbefore]
  exact hopening

/-- Within a body the depth is what was open before and what the lines have opened since. -/
theorem passes_body {d : ℤ} (hd : 0 < d) {inner : List (List Char)}
    (h : ∀ front, front <+: inner → 0 ≤ (front.map balance).sum) :
    stateAfter step d inner = d + (inner.map balance).sum ∧ marksFrom step d inner = [] := by
  induction inner using List.reverseRecOn with
  | nil => exact ⟨(Int.add_zero d).symm, rfl⟩
  | append_singleton front line ih =>
    have hfront := h front (List.prefix_append front [line])
    obtain ⟨hstate, hmarks⟩ := ih fun part hpart => h part (hpart.trans (List.prefix_append ..))
    have hopen : d + (front.map balance).sum ≠ 0 := by omega
    have hstep := step_inBody hopen line
    constructor
    · rw [stateAfter_append, hstate, stateAfter_cons, hstep, List.map_append, List.sum_append]
      simp [stateAfter, Int.add_assoc]
    · rw [marksFrom_append, hmarks, hstate, marksFrom, hstep]
      rfl

theorem Balanced.passesOver {inner : List (List Char)} (h : Balanced inner) {d : ℤ} (hd : 0 < d) :
    PassesOver step d inner := by
  obtain ⟨hstate, hmarks⟩ := passes_body hd h.nonneg
  rw [h.sum_eq_zero, Int.add_zero] at hstate
  exact ⟨hstate, hmarks⟩

theorem IsInterior.passesOver {s : List Char} (h : IsInterior s) {d : ℤ} (hd : 0 < d) :
    PassesOver step d (writtenLines s) :=
  (h.balanced.passesOver hd).filled readsFilled

theorem marks_interior {s word : List Char} (hkeyword : keyword? s = some word)
    (hdash : word.head? ≠ some '-') (hopening : EndsOpening (bodyLines s)) {interior : List Char}
    (h : IsInterior interior) (rest : List Char) :
    marks (s ++ '\n' :: (interior ++ rest)) =
      marks s ++ marksFrom step (depth (bodyLines s)) (writtenLines rest) := by
  rw [marks_feed hkeyword hdash, writtenLines_append_of_endsLine h.endsLine,
    (h.passesOver hopening.depth_pos).marksFrom_append]

/-! ### Lines that open a body -/

section

variable {name : List Char} (hname : name ≠ []) (hword : ∀ c ∈ name, isDashedWord c = true)

include hname hword

/-- A class and an opening brace lead one body down. -/
theorem step_opening : (step 0 ("class ".toList ++ (name ++ " \x7b".toList))).1 = 1 := by
  obtain ⟨c, t, rfl⟩ := List.exists_cons_of_ne_nil hname
  have hhead : IsTight "class".toList :=
    isTight_of_forall (by decide) (forall_eq_false_of_all (by decide))
  have hbrace : IsTight ['\x7b'] := isTight_singleton (by decide)
  have htrim : trim ("class ".toList ++ (c :: t ++ " \x7b".toList)) =
      "class ".toList ++ (c :: t ++ " \x7b".toList) := by
    have htight := (hhead.append hbrace (' ' :: (c :: t ++ [' ']))).trim_eq
    simp only [List.append_assoc, List.cons_append, List.nil_append] at htight
    exact htight
  have hskipped : isSkipped ("class ".toList ++ (c :: t ++ " \x7b".toList)) = false := by
    have hfirst : firstWord ("class ".toList ++ (c :: t ++ " \x7b".toList)) = "class".toList := rfl
    have hne : "class ".toList ++ (c :: t ++ " \x7b".toList) ≠ ['\x7d'] := by simp
    rw [isSkipped, hfirst, decide_eq_false hne]
    decide
  have hafter : (after? "class".toList ("class ".toList ++ (c :: t ++ " \x7b".toList))).bind
      skipBlanks1? = some (c :: t ++ " \x7b".toList) := by
    have hc : isBlank c = false := by
      have hdashed := hword c (List.mem_cons_self ..)
      apply isBlank_of_isNameChar
      rw [isDashedWord] at hdashed
      rw [isNameChar, Bool.or_right_comm, hdashed, Bool.true_or]
    have hcut : after? "class".toList ("class ".toList ++ (c :: t ++ " \x7b".toList)) =
        some (' ' :: (c :: t ++ " \x7b".toList)) := after?_append "class".toList _
    rw [hcut, Option.bind_some, skipBlanks1?, if_pos (by decide), List.cons_append,
      skipBlanks_cons hc]
  have hid : span1? isDashedWord (c :: t ++ " \x7b".toList) = some (c :: t, " \x7b".toList) :=
    span1?_append hname hword (forall_head?_cons (by decide) _)
  have hbalance : balance ("class ".toList ++ (c :: t ++ " \x7b".toList)) = 1 := by
    have hopen : '\x7b' ∉ c :: t := fun hmem => absurd (hword _ hmem) (by decide)
    have hclose : '\x7d' ∉ c :: t := fun hmem => absurd (hword _ hmem) (by decide)
    have hfree {brace : Char} (h : brace ∉ c :: t) :
        ("class ".toList ++ (c :: t ++ " \x7b".toList)).count brace =
          "class ".toList.count brace + " \x7b".toList.count brace := by
      rw [List.count_append, List.count_append, List.count_eq_zero.2 h, Nat.zero_add]
    rw [balance, hfree hopen, hfree hclose]
    rfl
  rw [step, if_neg (by simp), htrim, hskipped, class?, hafter, Option.bind_some, hid]
  simp only [hbalance]
  rfl

end

end Class

end Diagram

open Diagram Text

/-- What stands inside of a block, or of a class body up to comments, does not show in the analysis,
whatever stands before and behind it. A class with an opening brace opens a body. -/
theorem analyze_interior :
    (∀ (front interior interior' rest : String) (word : List Char),
      keyword? front.toList = some word → .ofList word ∈ DiagramKind.er.openers →
      EntityRelation.EndsOpening (bodyLines front.toList) →
      EntityRelation.IsInterior interior.toList → EntityRelation.IsInterior interior'.toList →
      analyze (front ++ "\n" ++ (interior ++ rest)) =
        analyze (front ++ "\n" ++ (interior' ++ rest))) ∧
    (∀ (front interior interior' rest : String) (word : List Char),
      keyword? front.toList = some word → .ofList word ∈ DiagramKind.classes.openers →
      Class.EndsOpening (bodyLines front.toList) →
      Class.IsInterior interior.toList → Class.IsInterior interior'.toList →
      analyze (front ++ "\n" ++ (interior ++ rest)) =
        analyze (front ++ "\n" ++ (interior' ++ rest))) ∧
    ∀ name : List Char, name ≠ [] → (∀ c ∈ name, isDashedWord c = true) →
      (Class.step 0 ("class ".toList ++ (name ++ " \x7b".toList))).1 = 1 := by
  have htext (front interior rest : String) : (front ++ "\n" ++ (interior ++ rest)).toList =
      front.toList ++ '\n' :: (interior.toList ++ rest.toList) := by
    rw [toList_append_feed, String.toList_append]
  have hanalyze {front : String} {word : List Char} {kind : DiagramKind}
      (hword : keyword? front.toList = some word) (hkind : .ofList word ∈ kind.openers)
      (more : String) : analyze (front ++ "\n" ++ more) = kind.analyze (front ++ "\n" ++ more) := by
    have hnext : keyword? (front ++ "\n" ++ more).toList = some word := by
      rw [toList_append_feed]
      exact keyword?_break hword (DiagramKind.head?_opener hkind) _
    exact analyze_of_opener hnext hkind
  refine ⟨?_, ?_, fun name => Class.step_opening⟩
  · intro front interior interior' rest word hword hkind hopening hinner hinner'
    have hdash := DiagramKind.head?_opener hkind
    rw [hanalyze hword hkind, hanalyze hword hkind]
    simp only [DiagramKind.analyze, DiagramKind.marks, htext,
      EntityRelation.marks_interior hword hdash hopening hinner,
      EntityRelation.marks_interior hword hdash hopening hinner']
  · intro front interior interior' rest word hword hkind hopening hinner hinner'
    have hdash := DiagramKind.head?_opener hkind
    rw [hanalyze hword hkind, hanalyze hword hkind]
    simp only [DiagramKind.analyze, DiagramKind.marks, htext,
      Class.marks_interior hword hdash hopening hinner,
      Class.marks_interior hword hdash hopening hinner']

/-! Lines that look like relations, classes and comments. -/

theorem analyze_interior_sample :
    (keyword? "erDiagram\nA ||--o\x7b B : has\nA \x7b".toList = some "erDiagram".toList ∧
      EntityRelation.EndsOpening (bodyLines "erDiagram\nA ||--o\x7b B : has\nA \x7b".toList) ∧
      EntityRelation.IsInterior "  C ||--|| D : x\n%% \x7d\n E \x7b\x7d\n".toList ∧
      analyze ("erDiagram\nA ||--o\x7b B : has\nA \x7b" ++ "\n" ++
          ("  C ||--|| D : x\n%% \x7d\n E \x7b\x7d\n" ++ "\x7d\nB")) =
        analyze ("erDiagram\nA ||--o\x7b B : has\nA \x7b" ++ "\n" ++ ("" ++ "\x7d\nB"))) ∧
    (keyword? "classDiagram\nclass A \x7b".toList = some "classDiagram".toList ∧
      Class.EndsOpening (bodyLines "classDiagram\nclass A \x7b".toList) ∧
      Class.IsInterior "run() \x7b\n%% \x7d\nB --> C\n\x7d\n".toList ∧
      analyze ("classDiagram\nclass A \x7b" ++ "\n" ++
          ("run() \x7b\n%% \x7d\nB --> C\n\x7d\n" ++ "\x7d\nA --> D")) =
        analyze ("classDiagram\nclass A \x7b" ++ "\n" ++ ("" ++ "\x7d\nA --> D"))) ∧
    (Class.step 0 ("class ".toList ++ ("A-1".toList ++ " \x7b".toList))).1 = 1 := by
  have hentities : keyword? "erDiagram\nA ||--o\x7b B : has\nA \x7b".toList =
      some "erDiagram".toList := by decide +kernel
  have hblock : EntityRelation.EndsOpening
      (bodyLines "erDiagram\nA ||--o\x7b B : has\nA \x7b".toList) :=
    ⟨["A ||--o\x7b B : has".toList], "A \x7b".toList, by decide +kernel, by decide +kernel,
      by decide +kernel⟩
  have hlines : EntityRelation.IsInterior "  C ||--|| D : x\n%% \x7d\n E \x7b\x7d\n".toList :=
    ⟨by simp [EndsLine], by decide +kernel⟩
  have hclasses : keyword? "classDiagram\nclass A \x7b".toList = some "classDiagram".toList := by
    decide +kernel
  have hbody : Class.EndsOpening (bodyLines "classDiagram\nclass A \x7b".toList) :=
    ⟨[], "class A \x7b".toList, by decide +kernel, by decide +kernel, by decide +kernel⟩
  have hbraces : Class.IsInterior "run() \x7b\n%% \x7d\nB --> C\n\x7d\n".toList :=
    ⟨by simp [EndsLine], by decide +kernel⟩
  refine ⟨⟨hentities, hblock, hlines, ?_⟩, ⟨hclasses, hbody, hbraces, ?_⟩, ?_⟩
  · exact analyze_interior.1 _ _ _ _ _ hentities (by decide) hblock hlines
      ⟨by simp [EndsLine], by decide +kernel⟩
  · exact analyze_interior.2.1 _ _ _ _ _ hclasses (by decide) hbody hbraces
      ⟨by simp [EndsLine], by decide +kernel⟩
  · have hname : ∀ c ∈ "A-1".toList, isDashedWord c = true := List.all_eq_true.1 (by decide)
    exact analyze_interior.2.2 _ (by decide) hname

/-- A brace in a comment is not counted: one that looks balanced there lets the rest of the inside
be read. And a comment runs to the next line feed, over a carriage return and the closing brace of
a block. -/
theorem analyze_interior_comment :
    (Class.Balanced (lines "%% \x7b\n\x7d\nB --> C\n".toList) ∧ Class.Balanced (lines "".toList) ∧
      0 < (Class.step 0 "class A \x7b".toList).1 ∧
      analyze "classDiagram\nclass A \x7b\n%% \x7b\n\x7d\nB --> C\n\x7d" ≠
        analyze "classDiagram\nclass A \x7b\n\x7d") ∧
    (lines "erDiagram\nA \x7b\n%% x\r\x7d\nB ||--o\x7b C : l".toList =
        ["erDiagram", "A \x7b", "%% x", "\x7d", "B ||--o\x7b C : l"].map String.toList ∧
      lines "erDiagram\nA \x7b\nx\r\x7d\nB ||--o\x7b C : l".toList =
        ["erDiagram", "A \x7b", "x", "\x7d", "B ||--o\x7b C : l"].map String.toList ∧
      (EntityRelation.step false "A \x7b".toList).1 = true ∧
      analyze "erDiagram\nA \x7b\n%% x\r\x7d\nB ||--o\x7b C : l" ≠
        analyze "erDiagram\nA \x7b\nx\r\x7d\nB ||--o\x7b C : l") := by
  decide +kernel

end DocTrace
