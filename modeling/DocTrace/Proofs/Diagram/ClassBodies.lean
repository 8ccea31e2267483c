import DocTrace.Proofs.Diagram.LineReading
import DocTrace.Proofs.Diagram.Sketch

/-! Bodies of classes. Within a body only braces count, and nothing keeps the count from falling
below zero where a line closes more bodies than are open. From there on no line of closing braces
leads out of the body, and nothing more is read. -/

namespace DocTrace

namespace Diagram

open Text

namespace Class

/-- How many braces of class bodies are open behind some lines. -/
def depth (lines : List (List Char)) : ℤ := stateAfter step 0 lines

theorem balance_trim (line : List Char) : balance (trim line) = balance line := by
  rw [balance, balance, count_trim (by decide), count_trim (by decide)]

theorem step_inBody {depth : ℤ} (h : depth ≠ 0) (line : List Char) :
    step depth line = (depth + balance line, []) := by
  rw [step, if_pos h, balance_trim]

/-- Outside of a body the count begins at zero, or above. -/
theorem step_outside (line : List Char) : 0 ≤ (step 0 line).1 := by
  simp only [step, ne_eq, not_true_eq_false, if_false]
  split
  · exact Int.le_refl 0
  · split
    · exact Int.le_max_left _ _
    · exact Int.le_refl 0

/-- A line in a body that closes more braces than are open. -/
def Overcloses (depth : ℤ) (line : List Char) : Prop := 0 < depth ∧ depth + balance line < 0

theorem depth_concat (front : List (List Char)) (line : List Char) :
    depth (front ++ [line]) = (step (depth front) line).1 := by
  rw [depth, stateAfter_append]
  rfl

theorem depth_concat_neg_iff {front : List (List Char)} (h : 0 ≤ depth front) (line : List Char) :
    depth (front ++ [line]) < 0 ↔ Overcloses (depth front) line := by
  rw [depth_concat, Overcloses]
  by_cases hzero : depth front = 0
  · have hnext := step_outside line
    rw [hzero]
    omega
  · rw [step_inBody hzero]
    omega

/-- The count stays above zero as long as no line closes more than is open. -/
theorem depth_nonneg_iff (lines : List (List Char)) :
    (∀ front, front <+: lines → 0 ≤ depth front) ↔
      ∀ front line, front ++ [line] <+: lines → ¬Overcloses (depth front) line := by
  constructor
  · intro h front line hwithin hcloses
    have hfront := h front ((List.prefix_append front [line]).trans hwithin)
    exact absurd (h _ hwithin) (Int.not_le.2 ((depth_concat_neg_iff hfront line).2 hcloses))
  · intro h front hwithin
    induction front using List.reverseRecOn with
    | nil => exact Int.le_refl 0
    | append_singleton front line ih =>
      have hfront := ih ((List.prefix_append front [line]).trans hwithin)
      by_contra hneg
      exact h front line hwithin ((depth_concat_neg_iff hfront line).1 (Int.not_le.1 hneg))

/-! ### Closing braces -/

theorem step_closing {depth : ℤ} (h : depth ≠ 0) : step depth ['\x7d'] = (depth - 1, []) := by
  rw [step_inBody h]
  rfl

theorem step_closing_outside : step 0 ['\x7d'] = (0, []) := rfl

/-- As many closing braces as are open lead out of a body. -/
theorem stateAfter_closings (n : ℕ) :
    stateAfter step (n : ℤ) (List.replicate n ['\x7d']) = 0 := by
  induction n with
  | zero => rfl
  | succ n ih =>
    have hne : ((n + 1 : ℕ) : ℤ) ≠ 0 := by omega
    have hnext : ((n + 1 : ℕ) : ℤ) - 1 = n := by omega
    rw [List.replicate_succ, stateAfter_cons, step_closing hne, hnext, ih]

/-- Below zero they lead further down. -/
theorem stateAfter_closings_neg {depth : ℤ} (h : depth < 0) (n : ℕ) :
    stateAfter step depth (List.replicate n ['\x7d']) < 0 := by
  induction n generalizing depth with
  | zero => exact h
  | succ n ih =>
    rw [List.replicate_succ, stateAfter_cons, step_closing (Int.ne_of_lt h)]
    exact ih (by omega)

theorem marksFrom_closings (depth : ℤ) (n : ℕ) :
    marksFrom step depth (List.replicate n ['\x7d']) = [] := by
  induction n generalizing depth with
  | zero => rfl
  | succ n ih =>
    rw [List.replicate_succ, marksFrom, ih, List.append_nil]
    by_cases hdepth : depth = 0
    · rw [hdepth, step_closing_outside]
    · rw [step_closing hdepth]

/-! ### A class behind closing braces -/

section

variable {name : List Char} (hname : name ≠ []) (hword : ∀ c ∈ name, isWord c = true)

include hword

theorem isNameChar_word : ∀ c ∈ name, isNameChar c = true := fun c hc =>
  isNameChar_of_isWord (hword c hc)

include hname

theorem isTight_class : IsTight ("class ".toList ++ name) := by
  have hhead : IsTight "class".toList :=
    isTight_of_forall (by decide) (forall_eq_false_of_all (by decide))
  exact hhead.append (isTight_name hname (isNameChar_word hword)) [' ']

theorem class?_class : class? ("class ".toList ++ name) = some (.declare name none) := by
  have hafter : after? "class".toList ("class ".toList ++ name) = some (' ' :: name) :=
    after?_append "class".toList (' ' :: name)
  have hblanks : skipBlanks1? (' ' :: name) = some name := by
    obtain ⟨c, rest, rfl⟩ := List.exists_cons_of_ne_nil hname
    have hc := isBlank_of_isWord (hword c (List.mem_cons_self ..))
    simp only [skipBlanks1?, skipBlanks_cons hc]
    rfl
  have hid : span1? isDashedWord name = some (name, []) :=
    span1?_whole hname fun c hc => by rw [isDashedWord, hword c hc, Bool.true_or]
  rw [class?, hafter, Option.bind_some, hblanks, Option.bind_some, hid]
  rfl

theorem marks_class : (step 0 ("class ".toList ++ name)).2 = [.node (.ofList name)] := by
  have hskipped : isSkipped ("class ".toList ++ name) = false := by
    have hfirst : firstWord ("class ".toList ++ name) = "class".toList := rfl
    have hbrace : "class ".toList ++ name ≠ ['\x7d'] := by simp
    rw [isSkipped, hfirst, decide_eq_false hbrace]
    decide
  rw [step, if_neg (by simp), (isTight_class hname hword).trim_eq, hskipped,
    class?_class hname hword]
  rfl

end

/-- Lines of closing braces, and a class behind them. -/
def closedText (n : ℕ) (name : List Char) : List Char :=
  (List.replicate n ['\x7d', '\n']).flatten ++ ("class ".toList ++ name)

theorem writtenLines_closedText {name : List Char} (hname : name ≠ [])
    (hword : ∀ c ∈ name, isWord c = true) (n : ℕ) :
    writtenLines (closedText n name) =
      List.replicate n ['\x7d'] ++ ["class ".toList ++ name] := by
  induction n with
  | zero =>
    have hplain : ∀ c ∈ name, isLineBreak c = false := fun c hc =>
      isLineBreak_eq_false (isBlank_of_isWord (hword c hc))
    have hline := writtenLines_line (s := "class ".toList ++ name) rfl (by decide)
      (List.forall_mem_append.2 ⟨forall_eq_false_of_all (by decide), hplain⟩)
    rw [(isTight_class hname hword).trim_eq] at hline
    exact hline
  | succ n ih =>
    have hcut : closedText (n + 1) name = ['\x7d'] ++ '\n' :: closedText n name := by
      simp [closedText, List.replicate_succ]
    have hclosing : writtenLines ['\x7d'] = [['\x7d']] := by decide
    rw [hcut, writtenLines_append_feed, hclosing, ih, List.replicate_succ]
    rfl

section

variable {s word : List Char} (hkeyword : keyword? s = some word) (hdash : word.head? ≠ some '-')

include hkeyword hdash

/-- What is written behind a text is read in the depth in which the text leaves off. -/
theorem marks_feed (t : List Char) :
    marks (s ++ '\n' :: t) = marks s ++ marksFrom step (depth (bodyLines s)) (writtenLines t) := by
  rw [marks_eq, readsFilled.marksFrom_feed hkeyword hdash, ← marks_eq, depth]

theorem marks_closedText {name : List Char} (hname : name ≠ [])
    (hword : ∀ c ∈ name, isWord c = true) (n : ℕ) :
    marks (s ++ '\n' :: closedText n name) = marks s ++
      (step (stateAfter step (depth (bodyLines s)) (List.replicate n ['\x7d']))
        ("class ".toList ++ name)).2 := by
  rw [marks_feed hkeyword hdash, writtenLines_closedText hname hword, marksFrom_append,
    marksFrom_closings, List.nil_append, marksFrom]
  rw [marksFrom, List.append_nil]

end

end Class

/-- A text behind which every class is read, after as many closing braces as it takes. -/
def Continuable (content : String) : Prop :=
  ∃ n, ∀ name : List Char, name ≠ [] → (∀ c ∈ name, isWord c = true) →
    .ofList name ∈ (analyze (content ++ "\n" ++ .ofList (Class.closedText n name))).nodes

/-- Some name is not among given ones. -/
theorem exists_fresh (names : List String) :
    ∃ name : List Char, name ≠ [] ∧ (∀ c ∈ name, isWord c = true) ∧ .ofList name ∉ names := by
  let size := (names.map String.toList).flatten.length
  refine ⟨List.replicate (size + 1) 'a', by simp, fun c hc => ?_, fun hmem => ?_⟩
  · rw [List.eq_of_mem_replicate hc]
    decide
  · have hlist := List.mem_map_of_mem (f := String.toList) hmem
    have hle := (List.sublist_flatten_of_mem hlist).length_le
    rw [String.toList_ofList, List.length_replicate] at hle
    omega

section

variable {content : String} {word : List Char} (hword : keyword? content.toList = some word)
  (hkind : .ofList word ∈ DiagramKind.classes.openers)

include hword hkind

/-- Behind closing braces a class is read exactly outside of a body. -/
theorem mem_nodes_closedText {name : List Char} (hname : name ≠ [])
    (hchars : ∀ c ∈ name, isWord c = true) (n : ℕ) :
    .ofList name ∈ (analyze (content ++ "\n" ++ .ofList (Class.closedText n name))).nodes ↔
      .ofList name ∈ (analyze content).nodes ∨
        stateAfter Class.step (Class.depth (bodyLines content.toList))
          (List.replicate n ['\x7d']) = 0 := by
  have hdash := DiagramKind.head?_opener hkind
  have hwhole : (content ++ "\n" ++ .ofList (Class.closedText n name)).toList =
      content.toList ++ '\n' :: Class.closedText n name := by
    rw [toList_append_feed, String.toList_ofList]
  have hnext : keyword? (content ++ "\n" ++ .ofList (Class.closedText n name)).toList =
      some word := hwhole ▸ keyword?_break hword hdash _
  rw [analyze_of_opener hword hkind, analyze_of_opener hnext hkind]
  simp only [DiagramKind.analyze, DiagramKind.marks, Sketch.toAnalysis]
  rw [hwhole, Sketch.mem_nodes_ofMarks, Sketch.mem_nodes_ofMarks,
    Class.marks_closedText hword hdash hname hchars]
  generalize stateAfter Class.step _ _ = depth
  by_cases hdepth : depth = 0
  · rw [hdepth, Class.marks_class hname hchars]
    simp [Declares, hname]
  · rw [Class.step_inBody hdepth, List.append_nil, or_iff_left hdepth]

theorem continuable_iff :
    Continuable content ↔ 0 ≤ Class.depth (bodyLines content.toList) := by
  constructor
  · rintro ⟨n, hall⟩
    by_contra hneg
    obtain ⟨name, hname, hchars, hfresh⟩ := exists_fresh (analyze content).nodes
    have hmem := hall name hname hchars
    rw [mem_nodes_closedText hword hkind hname hchars, or_iff_right hfresh] at hmem
    have hstill := Class.stateAfter_closings_neg (Int.not_le.1 hneg) n
    omega
  · intro hdepth
    refine ⟨(Class.depth (bodyLines content.toList)).toNat, fun name hname hchars => ?_⟩
    have hclosed := Class.stateAfter_closings (Class.depth (bodyLines content.toList)).toNat
    rw [Int.toNat_of_nonneg hdepth] at hclosed
    exact (mem_nodes_closedText hword hkind hname hchars _).2 (.inr hclosed)

end

end Diagram

open Diagram Class

/-- A class diagram can be continued exactly if its count of open bodies does not end below zero.
The count never falls below zero exactly if no line in a body closes more braces than are open, and
so a text in which no line closes two or more can be continued. -/
theorem analyze_continuable {content : String} {word : List Char}
    (hword : keyword? content.toList = some word)
    (hkind : .ofList word ∈ DiagramKind.classes.openers) :
    (Continuable content ↔ 0 ≤ depth (bodyLines content.toList)) ∧
      ((∀ front, front <+: bodyLines content.toList → 0 ≤ depth front) ↔
        ∀ front line, front ++ [line] <+: bodyLines content.toList →
          ¬Overcloses (depth front) line) ∧
      ((∀ line ∈ bodyLines content.toList, -1 ≤ balance line) → Continuable content) := by
  refine ⟨continuable_iff hword hkind, depth_nonneg_iff _, fun hlines => ?_⟩
  refine (continuable_iff hword hkind).2 ((depth_nonneg_iff _).2 ?_ _ (List.prefix_refl _))
  rintro front line hwithin ⟨hopen, hcloses⟩
  have hline := hlines line (hwithin.subset (by simp))
  omega

/-! Two closing braces in one line leave the diagram for good. -/

theorem analyze_continuable_overclosed :
    (keyword? "classDiagram\nclass A \x7b\n\x7d\x7d".toList = some "classDiagram".toList ∧
        "classDiagram" ∈ DiagramKind.classes.openers) ∧
      ¬Continuable "classDiagram\nclass A \x7b\n\x7d\x7d" ∧
      Continuable "classDiagram\nclass A \x7b\n+run() \x7b\x7d" := by
  have hover : keyword? "classDiagram\nclass A \x7b\n\x7d\x7d".toList =
      some "classDiagram".toList := by decide +kernel
  have hopen : keyword? "classDiagram\nclass A \x7b\n+run() \x7b\x7d".toList =
      some "classDiagram".toList := by decide +kernel
  have hkind : "classDiagram" ∈ DiagramKind.classes.openers := by decide
  refine ⟨⟨hover, hkind⟩, fun hcontinuable => ?_, ?_⟩
  · have hdepth := (analyze_continuable hover hkind).1.1 hcontinuable
    exact absurd hdepth (by decide +kernel)
  · exact (analyze_continuable hopen hkind).2.2 (by decide +kernel)

end DocTrace
