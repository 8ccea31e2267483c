import DocTrace.Proofs.Diagram.Arrow
import DocTrace.Proofs.Diagram.Links

/-! Labels in double quotes. A flowchart is cut at semicolons, arrows and ampersands before its
shapes are read, and quotes do not keep a text from being cut: what is read as a label holds none of
these, and a label is kept in its quotes if and only if it holds none of them. -/

namespace DocTrace.Diagram.Flowchart

open Text

/-- The texts that are not cut on the way to the nodes. -/
structure IsUncut (s : List Char) : Prop where
  semicolon : ';' ∉ s
  ampersand : '&' ∉ s
  arrow : ¬HoldsArrow s

theorem IsUncut.mono {s t : List Char} (h : IsUncut t) (hs : s <:+: t) : IsUncut s where
  semicolon hmem := h.semicolon (hs.subset hmem)
  ampersand hmem := h.ampersand (hs.subset hmem)
  arrow hholds := h.arrow (hholds.mono hs)

/-! ### What is read lies in one piece of the text -/

theorem infix_dropEndWhile (p : Char → Bool) (s : List Char) : dropEndWhile p s <:+: s :=
  (List.rdropWhile_prefix p s).isInfix

theorem infix_stripChars (p : Char → Bool) (s : List Char) : stripChars p s <:+: s :=
  (infix_dropEndWhile p _).trans (List.dropWhile_suffix p).isInfix

theorem infix_unquote (s : List Char) : unquote s <:+: s := by
  refine List.IsInfix.trans ?_ (infix_stripChars isBlank s)
  rw [unquote, trim]
  cases stripChars isBlank s with
  | nil => exact List.infix_rfl
  | cons c t =>
    dsimp only
    split
    · exact (List.dropLast_prefix t).isInfix.trans (List.suffix_cons c t).isInfix
    · exact List.infix_rfl

theorem infix_shapeLabel (shape : List Char) : shapeLabel shape <:+: shape :=
  (infix_unquote _).trans
    ((infix_dropEndWhile _ _).trans (List.dropWhile_suffix isShapeOpening).isInfix)

theorem infix_of_mem_splitFrom {sep : Char} {begun s piece : List Char}
    (h : piece ∈ splitFrom sep begun s) : piece <:+: begun.reverse ++ s := by
  induction s generalizing begun with
  | nil =>
    rw [List.mem_singleton.1 h, List.append_nil]
  | cons c s ih =>
    rw [splitFrom] at h
    split at h
    · rcases List.mem_cons.1 h with rfl | h
      · exact (List.prefix_append _ _).isInfix
      · exact (ih h).trans ((List.suffix_cons c s).trans (List.suffix_append _ _)).isInfix
    · have hrest := ih h
      rwa [List.reverse_cons, List.append_assoc] at hrest

theorem infix_of_mem_splitOn {sep : Char} {s piece : List Char} (h : piece ∈ splitOn sep s) :
    piece <:+: s :=
  infix_of_mem_splitFrom h

theorem prefix_of_shape? {s shape : List Char} (h : shape? s = some shape) : shape <+: s := by
  obtain ⟨⟨opening, closing⟩, -, h⟩ := exists_of_firstSome h
  simp only [Option.bind_eq_bind, Option.bind_eq_some_iff, Option.pure_def, Option.some.injEq] at h
  obtain ⟨rest, hopening, inner, hinner, rfl⟩ := h
  obtain ⟨t, rfl, -, hclosing⟩ := exists_of_shortest? hinner
  rw [eq_append_of_after? hopening, eq_append_of_after? (Option.filter_eq_some_iff.1 hclosing).1,
    ← List.append_assoc, ← List.append_assoc]
  exact List.prefix_append _ _

theorem infix_of_node? {s id shape : List Char} (h : node? s = some (id, some shape)) :
    shape <:+: s := by
  cases s with
  | nil => simp [node?] at h
  | cons c s =>
    obtain ⟨-, h⟩ := Option.ite_none_right_eq_some.1 h
    obtain ⟨⟨name, found⟩, hread, heq⟩ := Option.map_eq_some_iff.1 h
    obtain rfl := (Prod.mk.inj heq).2
    obtain ⟨t, rfl, -, hshape⟩ := exists_of_shortest? hread
    dsimp only at hshape
    have hfound : shape? (skipBlanks t) = some shape := by
      split at hshape
      · next found hfound =>
        obtain rfl := Option.some.inj (Option.some.inj hshape)
        exact hfound
      · split at hshape <;> simp at hshape
    exact (prefix_of_shape? hfound).isInfix.trans
      ((List.dropWhile_suffix _).trans ((List.suffix_append _ _).trans
        (List.suffix_cons _ _))).isInfix

/-- What is read of the groups lies in the text, behind what was read before. -/
theorem mem_of_mem_groupsFrom (skip : ℕ) (begun s : List Char) (c : Char) :
    (c ∈ (groupsFrom skip begun s).1 → c ∈ begun ∨ c ∈ s) ∧
      ∀ link ∈ (groupsFrom skip begun s).2, c ∈ link.2 → c ∈ s := by
  induction s generalizing skip begun with
  | nil => simp [groupsFrom_nil]
  | cons d s ih =>
    rw [groupsFrom_cons]
    split
    · next skip =>
      obtain ⟨hfirst, hlinks⟩ := ih skip begun
      exact ⟨fun hc => (hfirst hc).imp_right (List.mem_cons_of_mem d),
        fun link hlink hc => List.mem_cons_of_mem d (hlinks link hlink hc)⟩
    · split
      · next label rest _ =>
        obtain ⟨hfirst, hlinks⟩ := ih (s.length - rest.length) []
        refine ⟨fun hc => .inl (List.mem_reverse.1 hc), fun link hlink hc => ?_⟩
        rcases List.mem_cons.1 hlink with rfl | hlink
        · exact List.mem_cons_of_mem d ((hfirst hc).resolve_left List.not_mem_nil)
        · exact List.mem_cons_of_mem d (hlinks link hlink hc)
      · obtain ⟨hfirst, hlinks⟩ := ih 0 (d :: begun)
        refine ⟨fun hc => ?_, fun link hlink hc => List.mem_cons_of_mem d (hlinks link hlink hc)⟩
        have := hfirst hc
        simp_all [or_assoc, or_left_comm]

/-! ### Labels are uncut -/

theorem isUncut_of_mem_groupNodes {s id shape : List Char} (h : (id, some shape) ∈ groupNodes s)
    (hsemicolon : ';' ∉ s) (harrow : ¬HoldsArrow s) : IsUncut (shapeLabel shape) := by
  obtain ⟨piece, hpiece, hnode⟩ := List.mem_filterMap.1 h
  obtain ⟨chunk, hchunk, rfl⟩ := List.mem_map.1 hpiece
  have hpart : chunk <:+: s := infix_of_mem_splitOn hchunk
  have huncut : IsUncut chunk :=
    ⟨fun hmem => hsemicolon (hpart.subset hmem), not_mem_of_mem_splitOn (splitOn_eq '&' s ▸ hchunk),
      fun hholds => harrow (hholds.mono hpart)⟩
  exact huncut.mono ((infix_shapeLabel shape).trans
    ((infix_of_node? hnode).trans (infix_stripChars isBlank chunk)))

theorem label_not_mem_chainMarks {sources : List (List Char)}
    {links : List (Option (List Char) × List (List Char))} {id text : String} :
    .label id text ∉ chainMarks sources links := by
  induction links generalizing sources with
  | nil => exact List.not_mem_nil
  | cons link rest ih =>
    intro h
    rcases List.mem_append.1 h with h | h
    · obtain ⟨source, -, h⟩ := List.mem_flatMap.1 h
      obtain ⟨target, -, hedge⟩ := List.mem_map.1 h
      cases hedge
    · exact ih h

theorem isUncut_of_label_mem_statementMarks {s : List Char} {id text : String}
    (hsemicolon : ';' ∉ s) (h : .label id text ∈ statementMarks s) : IsUncut text.toList := by
  unfold statementMarks at h
  split at h
  · exact absurd h List.not_mem_nil
  · extract_lets chain first others nodes at h
    obtain ⟨harrow, harrows⟩ := not_holdsArrow_groups s
    have hpieces := mem_of_mem_groupsFrom 0 [] s ';'
    have hnode : ∀ node ∈ nodes, ∀ shape, node.2 = some shape → IsUncut (shapeLabel shape) := by
      rintro ⟨name, _⟩ hmem shape rfl
      rcases List.mem_append.1 hmem with hmem | hmem
      · refine isUncut_of_mem_groupNodes hmem (fun hc => ?_) harrow
        exact hsemicolon ((hpieces.1 hc).resolve_left List.not_mem_nil)
      · obtain ⟨link, hlink, hmem⟩ := List.mem_flatMap.1 hmem
        obtain ⟨group, hgroup, rfl⟩ := List.mem_map.1 hlink
        exact isUncut_of_mem_groupNodes hmem (fun hc => hsemicolon (hpieces.2 group hgroup hc))
          (harrows group hgroup)
    rcases List.mem_append.1 h with h | h
    · obtain ⟨⟨name, shape⟩, hmem, hlabel⟩ := List.mem_flatMap.1 h
      cases shape with
      | none => simp [declaration] at hlabel
      | some shape =>
        have htext : text = .ofList (shapeLabel shape) := by
          simp [declaration] at hlabel
          exact hlabel.2
        rw [htext, String.toList_ofList]
        exact hnode _ hmem shape rfl
    · exact absurd h label_not_mem_chainMarks

/-- Every label that is read in a flowchart is uncut. -/
theorem isUncut_of_label_mem_marks {s : List Char} {id text : String}
    (h : .label id text ∈ marks s) : IsUncut text.toList := by
  obtain ⟨statement, hstatement, h⟩ := List.mem_flatMap.1 h
  refine isUncut_of_label_mem_statementMarks ?_ h
  unfold statements at hstatement
  split at hstatement
  · exact absurd hstatement List.not_mem_nil
  · obtain ⟨piece, hpiece, rfl⟩ := List.mem_map.1 (List.mem_filter.1 hstatement).1
    obtain ⟨line, -, hpiece⟩ := List.mem_flatMap.1 hpiece
    rw [splitOn_eq] at hpiece
    exact fun hmem => not_mem_of_mem_splitOn hpiece ((infix_stripChars isBlank piece).subset hmem)

theorem isUncut_of_find?_labels {content : String} {id text : String}
    (h : (DiagramKind.flowchart.analyze content).labels.find? id = some text) :
    IsUncut text.toList := by
  rw [DiagramKind.analyze, Sketch.toAnalysis, Sketch.find?_labels_ofMarks] at h
  obtain ⟨m, hm, hlabel⟩ := List.exists_of_findSome?_eq_some h
  cases m with
  | node other => cases hlabel
  | edge source target other => cases hlabel
  | label other shown =>
    obtain ⟨-, hshown⟩ := Option.ite_none_right_eq_some.1 hlabel
    obtain rfl := Option.some.inj hshown
    exact isUncut_of_label_mem_marks hm

/-! ### A quoted label on a line of its own -/

theorem mem_dropEndWhile {p : Char → Bool} {c : Char} {s : List Char} (hc : c ∈ s)
    (hp : p c = false) : c ∈ dropEndWhile p s := by
  have hcut : dropEndWhile p s ++ s.rtakeWhile p = s := List.rdropWhile_append_rtakeWhile
  rw [← hcut] at hc
  refine (List.mem_append.1 hc).resolve_right fun hend => ?_
  rw [List.mem_rtakeWhile_imp hend] at hp
  contradiction

/-- A label in double quotes between brackets. -/
def quotedShape (label : List Char) : List Char := '[' :: '"' :: (label ++ ['"', ']'])

/-- A node with such a label. -/
def quotedNode (id : Name) (label : List Char) : List Char := id.text ++ quotedShape label

section

variable (id : Name) (label : List Char)

theorem isClean_quotedNode : IsClean (quotedNode id label) where
  isTight := by
    have hend : IsTight ([']'] : List Char) := isTight_singleton (by decide)
    have htight := id.isTight.append hend ('[' :: '"' :: (label ++ ['"']))
    simpa [quotedNode, quotedShape] using htight
  comment := by
    obtain ⟨c, s, hc, hs⟩ := id.exists_cons
    rw [quotedNode, hs, List.cons_append]
    exact opensComment_eq_false (isBlank_of_isPlain hc) (ne_of_isPlain hc (by decide)) _

/-- The bracket belongs to the first word, so that this is no keyword. -/
theorem bracket_mem_firstWord : '[' ∈ firstWord (quotedNode id label) := by
  have hid : ∀ c ∈ id.text, (!isBlank c) = true := fun c hc => by simp [id.isBlank_of_mem hc]
  rw [firstWord, quotedNode, id.isTight.skipBlanks_append, List.takeWhile_append_of_pos hid]
  simp [quotedShape, isBlank]

theorem isSkipped_quotedNode : isSkipped (quotedNode id label) = false := by
  have hmem := mem_lower (by decide) (by decide) (by decide)
    (mem_dropEndWhile (p := (· = ':')) (bracket_mem_firstWord id label) (by decide))
  have hnone : ∀ word ∈ skippedWords, '[' ∉ word.toList := by decide
  rw [isSkipped]
  by_contra hskipped
  rw [Bool.not_eq_false, List.contains_iff_mem] at hskipped
  exact hnone _ hskipped (by rwa [String.toList_ofList])

theorem opensSubgraph_quotedNode : opensSubgraph (quotedNode id label) = false := by
  by_contra hopens
  have hmem := bracket_mem_firstWord id label
  rw [Chain.firstWord_of_opensSubgraph (by simpa using hopens)] at hmem
  exact absurd hmem (by decide)

end

theorem isClassSuffix_of_bracket {s : List Char} (h : ']' ∈ s) : isClassSuffix s = false := by
  have hne : s ≠ [] := List.ne_nil_of_mem h
  rw [isClassSuffix, List.isEmpty_eq_false_iff.2 hne, Bool.false_or]
  cases hname : after? ":::".toList s with
  | none => rfl
  | some name =>
    rw [eq_append_of_after? hname, List.mem_append] at h
    have hbracket : name.all isDashedWord = false :=
      List.all_eq_false.2 ⟨']', h.resolve_left (by decide), by decide⟩
    rw [Option.map_some, hbracket, Bool.and_false]
    rfl

theorem shape?_quotedShape {label : List Char} (h : '\n' ∉ label) :
    shape? (quotedShape label) = some (quotedShape label) := by
  let rest? (t : List Char) := (after? [']'] t).filter isClassSuffix
  -- A bracket in the label does not close the shape, for the last one still follows it.
  have hcut : shortest? (· ≠ '\n') rest? ('"' :: label ++ ['"'] ++ [']']) =
      some ('"' :: label ++ ['"'], []) := by
    refine shortest?_append ?_ ?_ rfl
    · intro c hc
      refine decide_eq_true fun hbreak => ?_
      subst hbreak
      simp [h] at hc
    · intro c u _
      by_cases hc : ']' = c
      · subst hc
        have hbracket : isClassSuffix (u ++ [']']) = false := isClassSuffix_of_bracket (by simp)
        simp [rest?, after?, hbracket]
      · simp [rest?, after?, hc]
  have hshape : shape? (quotedShape label) =
      (shortest? (· ≠ '\n') rest? ('"' :: label ++ ['"'] ++ [']'])).bind fun inner =>
        some (['['] ++ inner.1 ++ [']']) := by
    simp [shape?, quotedShape, shapes, firstSome, after?, rest?]
  rw [hshape, hcut, Option.bind_some]
  simp [quotedShape]

theorem shapeLabel_quotedShape (label : List Char) : shapeLabel (quotedShape label) = label := by
  have hopening :
      (quotedShape label).dropWhile isShapeOpening = '"' :: label ++ ['"'] ++ [']'] := by
    simp [quotedShape, isShapeOpening]
  have hclosing : dropEndWhile isShapeClosing ('"' :: label ++ ['"'] ++ [']']) =
      '"' :: label ++ ['"'] := by
    rw [dropEndWhile, List.reverse_append, List.reverse_singleton, List.singleton_append,
      List.dropWhile_cons_of_pos (by decide), ← dropEndWhile, dropEndWhile_concat (by decide)]
  rw [shapeLabel, hopening, hclosing, unquote_quoted (by decide)]

section

variable {id : Name} {label : List Char}

theorem not_holdsArrow_quotedNode (h : ¬HoldsArrow label) : ¬HoldsArrow (quotedNode id label) := by
  intro hnode
  have hid : ∀ c ∈ id.text, c ∉ arrowStarts := fun c hc hstart =>
    ne_of_isPlain (id.isPlain_of_mem hc) (not_plain_of_mem_arrowStarts hstart).1 rfl
  have hshape := holdsArrow_of_append hnode hid
  have hquoted : HoldsArrow (label ++ ['"'] ++ [']']) := by
    simpa using (hshape.of_cons (by decide)).of_cons (by decide)
  exact h ((hquoted.of_concat (by decide)).of_concat (by decide))

theorem groupNodes_quotedNode (hbreak : '\n' ∉ label) (h : '&' ∉ label) :
    groupNodes (quotedNode id label) = [(id.text, some (quotedShape label))] := by
  have hampersand : '&' ∉ quotedNode id label := by
    have hid : '&' ∉ id.text := fun hmem => ne_of_isPlain (id.isPlain_of_mem hmem) (by decide) rfl
    simp [quotedNode, quotedShape, hid, h]
  have hskip : skipBlanks (quotedShape label) = quotedShape label := skipBlanks_cons (by decide) _
  have hnode : node? (quotedNode id label) = some (id.text, some (quotedShape label)) := by
    refine id.node?_append ?_
    rw [hskip, shape?_quotedShape hbreak]
  rw [groupNodes, splitOn_eq, List.splitOn_eq_singleton hampersand, List.map_singleton,
    (isClean_quotedNode id label).isTight.trim_eq, List.filterMap_cons_some hnode]
  rfl

/-- An uncut label is read as it stands. -/
theorem statementMarks_quotedNode (hbreak : '\n' ∉ label) (h : IsUncut label) :
    statementMarks (quotedNode id label) = declaration id.text (some label) := by
  rw [statementMarks, opensSubgraph_quotedNode, isSkipped_quotedNode, Bool.or_false,
    if_neg (by decide), groups_of_not_holdsArrow (not_holdsArrow_quotedNode h.arrow)]
  simp [groupNodes_quotedNode hbreak h.ampersand, shapeLabel_quotedShape, chainMarks]

theorem isStatement_quotedNode (h : ';' ∉ label) : IsStatement (quotedNode id label) where
  toIsClean := isClean_quotedNode id label
  semicolon := by
    have hid : ';' ∉ id.text := fun hmem => ne_of_isPlain (id.isPlain_of_mem hmem) (by decide) rfl
    simp [quotedNode, quotedShape, hid, h]

end

/-- A node with a quoted label on the only line of a flowchart is read as such if and only if the
label holds no semicolon, no ampersand and no arrow. -/
theorem analyze_quotedNode_iff (heading : Heading) (id : Name) {label : List Char}
    {content : String} (h : lines content.toList = [heading.text, quotedNode id label]) :
    analyze content =
        { diagramType := "flowchart"
          nodes := [id.id]
          labels := Table.ofList [(id.id, .ofList label)] } ↔
      IsUncut label := by
  have hkind : analyze content = DiagramKind.flowchart.analyze content :=
    heading.analyze_eq h (by simpa using isClean_quotedNode id label)
  have hid : id.id ≠ "" := by simp [Name.id, id.ne_nil]
  rw [hkind]
  constructor
  · intro hread
    have hlabel : (DiagramKind.flowchart.analyze content).labels.find? id.id =
        some (.ofList label) := by
      rw [hread]
      simp [Table.ofList, Table.find?_put]
    have huncut := isUncut_of_find?_labels hlabel
    rwa [String.toList_ofList] at huncut
  · intro huncut
    have hbreak : '\n' ∉ label := fun hmem => by
      have hline : quotedNode id label ∈ lines content.toList := by simp [h]
      have hfree := isLineBreak_of_mem_linesFrom (List.forall_mem_nil _) hline
        (c := '\n') (by simp [quotedNode, quotedShape, hmem])
      exact absurd hfree (by decide)
    have hmarks : marks content.toList = [.node id.id, .label id.id (.ofList label)] := by
      have hstatement : IsStatement (quotedNode id label) := isStatement_quotedNode huncut.semicolon
      rw [marks, Heading.statements_of_lines h (by simpa using hstatement), List.flatMap_singleton,
        statementMarks_quotedNode hbreak huncut]
      rfl
    have hsketch : Sketch.ofMarks [.node id.id, .label id.id (.ofList label)] =
        { nodes := [id.id], labels := Table.ofList [(id.id, .ofList label)] } := by
      simp [Sketch.ofMarks, Sketch.draw, hid, Table.ofList, Table.putNew, Table.contains]
    rw [DiagramKind.analyze, DiagramKind.marks, hmarks, hsketch]
    rfl

/-! Brackets are kept, but a semicolon cuts the label off. -/

theorem analyze_quotedNode_iff_sample :
    let a := sampleName 'A' (by decide)
    (lines "graph TD\nA[\"x] (y)\"]\n".toList =
        [sampleHeading.text, quotedNode a "x] (y)".toList] ∧ IsUncut "x] (y)".toList) ∧
      lines "graph TD\nA[\"x; y\"]\n".toList =
        [sampleHeading.text, quotedNode a "x; y".toList] ∧
      analyze "graph TD\nA[\"x; y\"]\n" ≠
        { diagramType := "flowchart", nodes := ["A"], labels := Table.ofList [("A", "x; y")] } := by
  intro a
  have hbracket : lines "graph TD\nA[\"x] (y)\"]\n".toList =
      [sampleHeading.text, quotedNode a "x] (y)".toList] := by decide
  have hsemicolon : lines "graph TD\nA[\"x; y\"]\n".toList =
      [sampleHeading.text, quotedNode a "x; y".toList] := by decide
  refine ⟨⟨hbracket, ?_⟩, hsemicolon, fun hread => ?_⟩
  · exact (analyze_quotedNode_iff sampleHeading a hbracket).1 (by decide +kernel)
  · have huncut := (analyze_quotedNode_iff sampleHeading a hsemicolon).1 hread
    exact huncut.semicolon (by decide)

end DocTrace.Diagram.Flowchart
