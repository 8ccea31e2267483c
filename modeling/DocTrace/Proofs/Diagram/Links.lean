import DocTrace.Proofs.Diagram.Chain
import DocTrace.Proofs.Diagram.PlainText
import DocTrace.Proofs.Diagram.Sketch

/-! What is read out of a flowchart whose lines are chains: every name once, in the order in which
it is first seen, and an edge for each pair of names on the two sides of an arrow. -/

namespace DocTrace.Diagram

open Text

namespace Flowchart

/-! ### The first line -/

/-- A direction with the blanks before it. -/
structure Direction where
  gap : List Char
  ne_nil : gap ≠ []
  blank : gap.all isBlank = true
  name : String
  known : name ∈ directions

/-- A first line that says nothing but the direction. -/
structure Heading where
  keyword : String
  known : keyword ∈ DiagramKind.flowchart.openers
  direction : Option Direction := none
  semicolons : ℕ := 0

def Direction.text (d : Direction) : List Char := d.gap ++ d.name.toList

theorem Direction.isBlank_of_mem (d : Direction) : ∀ c ∈ d.gap, isBlank c = true :=
  List.all_eq_true.1 d.blank

namespace Heading

def ending (h : Heading) : List Char :=
  h.direction.elim [] Direction.text ++ List.replicate h.semicolons ';'

def text (h : Heading) : List Char := h.keyword.toList ++ h.ending

theorem isKeywordChar_of_mem (h : Heading) : ∀ c ∈ h.keyword.toList, isKeywordChar c = true := by
  have hall : ∀ keyword ∈ DiagramKind.flowchart.openers,
      keyword.toList.all isKeywordChar = true := by decide
  exact List.all_eq_true.1 (hall h.keyword h.known)

theorem keyword_ne_nil (h : Heading) : h.keyword.toList ≠ [] := by
  have hall : ∀ keyword ∈ DiagramKind.flowchart.openers, keyword.toList ≠ [] := by decide
  exact hall h.keyword h.known

theorem isBlank_of_mem (h : Heading) : ∀ c ∈ h.keyword.toList, isBlank c = false := fun c hc =>
  isBlank_of_isKeywordChar (h.isKeywordChar_of_mem c hc)

theorem head_ending (h : Heading) : ∀ c ∈ h.ending.head?, isBlank c = true ∨ c = ';' := by
  intro c hc
  cases hd : h.direction with
  | none =>
    simp only [ending, hd, Option.elim_none, List.nil_append] at hc
    exact .inr (List.eq_of_mem_replicate (List.mem_of_mem_head? hc))
  | some d =>
    simp only [ending, hd, Option.elim_some, Direction.text, List.append_assoc] at hc
    rw [List.head?_append_of_ne_nil _ d.ne_nil] at hc
    exact .inl (d.isBlank_of_mem c (List.mem_of_mem_head? hc))

theorem takeWhile_text (h : Heading) : h.text.takeWhile isKeywordChar = h.keyword.toList := by
  refine takeWhile_append_eq h.isKeywordChar_of_mem fun c hc => ?_
  rcases h.head_ending c hc with hblank | rfl
  · exact isKeywordChar_of_isBlank hblank
  · decide

theorem dropDirection_replicate {name : String} (hname : name ∈ directions) (n : ℕ) :
    dropDirection (name.toList ++ List.replicate n ';') = List.replicate n ';' := by
  simp only [directions, List.mem_cons, List.not_mem_nil, or_false] at hname
  cases n <;> rcases hname with rfl | rfl | rfl | rfl | rfl <;> rfl

theorem pieces_replicate (n : ℕ) :
    ((splitOn ';' (List.replicate n ';')).map trim).filter (!·.isEmpty) = [] := by
  induction n with
  | zero => rfl
  | succ n ih =>
    rw [List.replicate_succ, splitOn_eq, List.splitOn_cons_eq_if_modifyHead, if_pos (by decide),
      ← splitOn_eq, List.map_cons, List.filter_cons_of_neg (by decide), ih]

theorem isTight_semicolons {s : List Char} (hne : s ≠ []) (hs : ∀ c ∈ s, isBlank c = false)
    (n : ℕ) : IsTight (s ++ List.replicate n ';') := by
  refine isTight_of_forall (by simp [hne]) fun c hc => ?_
  rcases List.mem_append.1 hc with hc | hc
  · exact hs c hc
  · rw [List.eq_of_mem_replicate hc]
    decide

theorem isTight_direction (d : Direction) (n : ℕ) :
    IsTight (d.name.toList ++ List.replicate n ';') := by
  have hall : ∀ name ∈ directions,
      name.toList ≠ [] ∧ name.toList.all isKeywordChar = true := by decide
  obtain ⟨hne, hkeyword⟩ := hall d.name d.known
  exact isTight_semicolons hne
    (fun c hc => isBlank_of_isKeywordChar (List.all_eq_true.1 hkeyword c hc)) n

theorem isTight (h : Heading) : IsTight h.text := by
  rw [text, ending]
  cases h.direction with
  | none => exact isTight_semicolons h.keyword_ne_nil h.isBlank_of_mem h.semicolons
  | some d =>
    have hkeyword := isTight_of_forall h.keyword_ne_nil h.isBlank_of_mem
    rw [Option.elim_some, Direction.text, List.append_assoc]
    exact hkeyword.append (isTight_direction d h.semicolons) d.gap

theorem afterFirstWord_text (h : Heading) :
    afterFirstWord h.text =
      h.direction.elim [] fun d => d.name.toList ++ List.replicate h.semicolons ';' := by
  have hskip : skipBlanks h.text = h.text := by simpa using h.isTight.skipBlanks_append []
  have hword : ∀ c ∈ h.keyword.toList, (!isBlank c) = true := fun c hc => by
    simp [h.isBlank_of_mem c hc]
  rw [afterFirstWord, hskip, text, List.dropWhile_append_of_pos hword, ending]
  cases h.direction with
  | none =>
    have hend : (List.replicate h.semicolons ';').dropWhile (fun c => !isBlank c) = [] :=
      List.dropWhile_eq_nil_iff.2 fun c hc => by
        rw [List.eq_of_mem_replicate hc]
        decide
    simp only [Option.elim_none, List.nil_append, hend]
    rfl
  | some d =>
    obtain ⟨c, gap, hgap⟩ := List.exists_cons_of_ne_nil d.ne_nil
    have hc : isBlank c = true := d.isBlank_of_mem c (hgap ▸ List.mem_cons_self ..)
    have htight := (isTight_direction d h.semicolons).skipBlanks_append []
    rw [List.append_nil, skipBlanks] at htight
    simp only [Option.elim_some, Direction.text, List.append_assoc]
    rw [hgap, List.cons_append, List.dropWhile_cons_of_neg (by simp [hc]), ← List.cons_append,
      ← hgap, skipBlanks, List.dropWhile_append_of_pos d.isBlank_of_mem, htight]

/-- The first line holds no statement. -/
theorem statements_text (h : Heading) :
    ((splitOn ';' (dropDirection (trim (afterFirstWord h.text)))).map trim).filter (!·.isEmpty) =
      [] := by
  rw [afterFirstWord_text]
  cases h.direction with
  | none => rfl
  | some d =>
    rw [Option.elim_some, (isTight_direction d h.semicolons).trim_eq,
      dropDirection_replicate d.known, pieces_replicate]

end Heading

theorem Heading.exists_cons (h : Heading) :
    ∃ c s, h.text = c :: s ∧ isKeywordChar c = true ∧ c ≠ '-' := by
  have hall : ∀ keyword ∈ DiagramKind.flowchart.openers,
      keyword.toList.head? = some 'f' ∨ keyword.toList.head? = some 'g' := by decide
  obtain ⟨c, s, hs⟩ := List.exists_cons_of_ne_nil h.keyword_ne_nil
  refine ⟨c, s ++ h.ending, by rw [text, hs, List.cons_append], ?_⟩
  have hletter := hall h.keyword h.known
  rw [hs, List.head?_cons, Option.some.injEq, Option.some.injEq] at hletter
  rcases hletter with rfl | rfl <;> decide

/-- A line that cleaning leaves as it is. -/
structure IsClean (line : List Char) : Prop where
  isTight : IsTight line
  comment : opensComment line = false

/-- A line that is one statement and nothing else. -/
structure IsStatement (line : List Char) : Prop extends IsClean line where
  semicolon : ';' ∉ line

section

variable {s : List Char} {heading : Heading} {texts : List (List Char)}

theorem Heading.isPlain_of_lines (h : lines s = heading.text :: texts)
    (htexts : ∀ text ∈ texts, IsClean text) : IsPlain s where
  toIsUncommented := by
    obtain ⟨c, t, ht, hkeyword, hdash⟩ := heading.exists_cons
    exact .of_lines (ht ▸ h) hkeyword hdash fun text htext => (htexts text htext).comment
  ending := by
    have htight : ∀ line ∈ heading.text :: texts, IsTight line := by
      rw [List.forall_mem_cons]
      exact ⟨heading.isTight, fun text htext => (htexts text htext).isTight⟩
    rw [h]
    exact ⟨_, List.getLast?_eq_some_getLast (List.cons_ne_nil _ _),
      (htight _ (List.getLast_mem _)).last⟩

/-- The heading makes the text a flowchart. -/
theorem Heading.analyze_eq {content : String} (h : lines content.toList = heading.text :: texts)
    (htexts : ∀ text ∈ texts, IsClean text) :
    analyze content = DiagramKind.flowchart.analyze content := by
  have hplain := isPlain_of_lines h htexts
  have hword : keyword? content.toList = some heading.keyword.toList := by
    rw [keyword?_eq_some_iff, hplain.takeWhile_clean, h, List.headD_cons, heading.takeWhile_text]
    exact ⟨heading.keyword_ne_nil, rfl⟩
  refine analyze_of_opener hword ?_
  rw [String.ofList_toList]
  exact heading.known

theorem Heading.statements_of_lines (h : lines s = heading.text :: texts)
    (htexts : ∀ text ∈ texts, IsStatement text) : statements s = texts := by
  have hplain := isPlain_of_lines h fun text htext => (htexts text htext).toIsClean
  have hread : ∀ text ∈ texts,
      ((splitOn ';' text).map trim).filter (!·.isEmpty) = [text] := by
    intro text htext
    have hstatement := htexts text htext
    obtain ⟨c, hc, -⟩ := hstatement.isTight.first
    obtain ⟨t, rfl⟩ := List.head?_eq_some_iff.1 hc
    rw [splitOn_eq, List.splitOn_eq_singleton hstatement.semicolon, List.map_singleton,
      hstatement.isTight.trim_eq]
    rfl
  simp only [statements, hplain.cleanLines_eq, h]
  rw [List.flatMap_cons, List.map_append, List.filter_append, heading.statements_text,
    List.nil_append, List.map_flatMap, List.filter_flatMap, List.flatMap_congr hread,
    List.flatMap_singleton']

end

theorem Chain.isStatement (c : Chain) : IsStatement c.text where
  isTight := c.isTight
  comment := by
    obtain ⟨rest, htext, -⟩ := c.exists_text_eq
    obtain ⟨d, s, hd, hs⟩ := c.first.first.exists_cons
    rw [htext, hs, List.cons_append]
    exact opensComment_eq_false (isBlank_of_isPlain hd) (ne_of_isPlain hd (by decide)) _
  semicolon := c.semicolon_not_mem

theorem forall_isStatement (chains : List Chain) :
    ∀ text ∈ chains.map Chain.text, IsStatement text :=
  List.forall_mem_map.2 fun c _ => c.isStatement

theorem marks_of_lines {s : List Char} {heading : Heading} {chains : List Chain}
    (h : lines s = heading.text :: chains.map Chain.text) :
    marks s = chains.flatMap fun c => c.names.map (fun n => Mark.node n.id) ++
      c.edges.map fun e => Mark.edge e.source e.target e.label := by
  rw [marks, Heading.statements_of_lines h (forall_isStatement chains), List.flatMap_map]
  simp only [statementMarks_text]

/-- Flowcharts of chains are read exactly. -/
theorem analyze_chains (heading : Heading) (chains : List Chain) {content : String}
    (h : lines content.toList = heading.text :: chains.map Chain.text) :
    analyze content =
      { diagramType := "flowchart"
        nodes := ((chains.flatMap Chain.names).map Name.id).eraseDups
        edges := chains.flatMap Chain.edges } := by
  have hkind : analyze content = DiagramKind.flowchart.analyze content :=
    Heading.analyze_eq h fun text htext => (forall_isStatement chains text htext).toIsClean
  have hid (n : Name) : n.id ≠ "" := by simp [Name.id, n.ne_nil]
  have hnodes : (marks content.toList).filterMap Mark.node? =
      (chains.flatMap Chain.names).map Name.id := by
    rw [marks_of_lines h, List.filterMap_flatMap, List.map_flatMap]
    simp only [List.filterMap_append, List.filterMap_map, Function.comp_def, Mark.node?,
      List.filterMap_none, List.append_nil, List.filterMap_eq_map']
  have hedges : (marks content.toList).filterMap Mark.edge? = chains.flatMap Chain.edges := by
    have hnode : Mark.edge? ∘ (fun n : Name => Mark.node n.id) = fun _ => none := rfl
    have hedge : Mark.edge? ∘ (fun e : Edge => Mark.edge e.source e.target e.label) = some := rfl
    rw [marks_of_lines h, List.filterMap_flatMap]
    simp only [List.filterMap_append, List.filterMap_map, hnode, hedge, List.filterMap_none,
      List.filterMap_some, List.nil_append]
  have hnamed : Mark.node "" ∉ marks content.toList := by
    rw [marks_of_lines h]
    simp [hid]
  have hlabels : ∀ id text, Mark.label id text ∉ marks content.toList := by
    rw [marks_of_lines h]
    simp
  rw [hkind, DiagramKind.analyze, DiagramKind.marks, Sketch.toAnalysis,
    Sketch.nodes_ofMarks, nodeNames_of_named hnamed, Sketch.edges_ofMarks,
    Sketch.labels_ofMarks hlabels, hnodes, hedges]
  rfl

/-! A label between bars may hold an arrow, and a name may be seen on both sides of one. -/

def sampleHeading : Heading where
  keyword := "graph"
  known := by decide
  direction := some ⟨[' '], by decide, by decide, "TD", by decide⟩

def sampleName (c : Char) (h : isPlain c = true) : Name :=
  ⟨[c], List.cons_ne_nil c [], by simpa using h⟩

def sampleChains : List Chain :=
  let a := sampleName 'A' (by decide)
  let b := sampleName 'B' (by decide)
  let c := sampleName 'C' (by decide)
  let arrow : Arrow := ⟨.dottedArrow, some ⟨false, "\"x --> y\"".toList, true, by decide, by decide⟩⟩
  let line : Arrow := ⟨.line, some ⟨true, [], true, by decide, by decide⟩⟩
  [⟨⟨b, [a]⟩, [⟨arrow, ⟨c, []⟩⟩, ⟨line, ⟨b, []⟩⟩], by decide⟩, ⟨⟨c, []⟩, [], by decide⟩]

def sampleText : String := "graph TD\nB & A -.->|\"x --> y\"| C --- || B\nC\n"

theorem analyze_chains_sample :
    lines sampleText.toList = sampleHeading.text :: sampleChains.map Chain.text ∧
      analyze sampleText =
        { diagramType := "flowchart"
          nodes := ["B", "A", "C"]
          edges :=
            [⟨"B", "C", some "x --> y"⟩, ⟨"A", "C", some "x --> y"⟩, ⟨"C", "B", none⟩] } := by
  have hlines : lines sampleText.toList = sampleHeading.text :: sampleChains.map Chain.text := by
    decide
  exact ⟨hlines, (analyze_chains sampleHeading sampleChains hlines).trans (by decide)⟩

end Flowchart

end DocTrace.Diagram
