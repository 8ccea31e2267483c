import DocTrace.Proofs.Diagram.Deliveries

/-! Transitions of a state diagram. The source is the longest name before an arrow, so a name may
hold the hyphens of the arrow itself. The start and end mark stands in transitions alone, and from
there it reaches neither the nodes nor the edges. -/

namespace DocTrace.Diagram

open Text

/-- A mark that does not speak of an identifier. -/
def Mark.LeavesOut (id : String) : Mark → Prop
  | .node other => other ≠ id
  | .label other _ => other ≠ id
  | .edge source target _ => source ≠ id ∧ target ≠ id

theorem leavesOut_declaration {id : List Char} {out : String} (h : .ofList id ≠ out)
    (label : Option (List Char)) : ∀ m ∈ declaration id label, m.LeavesOut out := by
  have hnode : (Mark.node (.ofList id)).LeavesOut out := h
  cases label with
  | none => exact List.forall_mem_singleton.2 hnode
  | some text => exact List.forall_mem_cons.2 ⟨hnode, List.forall_mem_singleton.2 h⟩

theorem leavesOut_connection {source target : List Char} {out : String}
    (hsource : .ofList source ≠ out) (htarget : .ofList target ≠ out)
    (label : Option (List Char)) : ∀ m ∈ connection source target label, m.LeavesOut out := by
  refine List.forall_mem_cons.2 ⟨hsource, List.forall_mem_cons.2 ⟨htarget, ?_⟩⟩
  exact List.forall_mem_singleton.2 ⟨hsource, htarget⟩

/-- What no mark speaks of is neither a node nor an end of an edge. -/
theorem Sketch.not_mem_of_leavesOut {marks : List Mark} {out : String}
    (h : ∀ m ∈ marks, m.LeavesOut out) :
    out ∉ (ofMarks marks).nodes ∧
      ∀ e ∈ (ofMarks marks).edges, e.source ≠ out ∧ e.target ≠ out := by
  constructor
  · intro hnode
    have hmark := (mem_nodes_ofMarks.1 hnode).2
    exact h _ hmark rfl
  · intro e he
    rw [edges_ofMarks, List.mem_filterMap] at he
    obtain ⟨m, hm, hedge⟩ := he
    have hout := h m hm
    cases m with
    | node id => contradiction
    | label id text => contradiction
    | edge source target text =>
      obtain rfl := Option.some.inj hedge
      exact hout

namespace State

open Sequence (shownLabel)

/-! ### Written transitions -/

/-- What a transition leads from or to: the start and end mark, or a name. -/
def IsEnd (s : List Char) : Prop := s = startEnd ∨ s ≠ [] ∧ s.all isNameChar = true

instance (s : List Char) : Decidable (IsEnd s) := inferInstanceAs (Decidable (_ ∨ _))

/-- A transition with a label. What it leads from is no word that opens a line of another kind. -/
structure Transition where
  source : List Char
  target : List Char
  label : List Char := []
  source_end : IsEnd source
  target_end : IsEnd target
  opening : lowerString (.ofList source) ∉ "state" :: skippedWords

namespace Transition

/-- What stands behind the source, with any text after the colon. -/
def tail (t : Transition) (rest : List Char) : List Char :=
  ' ' :: ("-->".toList ++ ' ' :: (t.target ++ ' ' :: ':' :: rest))

/-- The transition with any text after its colon. -/
def line (t : Transition) (rest : List Char) : List Char := t.source ++ t.tail rest

def text (t : Transition) : List Char := t.line (' ' :: t.label)

/-- The states at the ends. The start and end mark is none. -/
def states (t : Transition) : List String :=
  ([t.source, t.target].filter (· ≠ startEnd)).map .ofList

/-- The edge between two states. -/
def edge? (t : Transition) : Option Edge :=
  if t.source = startEnd ∨ t.target = startEnd then none
  else some ⟨.ofList t.source, .ofList t.target, (shownLabel t.label).map .ofList⟩

end Transition

/-! ### Ends are read -/

section

variable {s : List Char} (h : IsEnd s)

include h

theorem IsEnd.ne_nil : s ≠ [] := by
  rcases h with rfl | ⟨hne, -⟩
  · decide
  · exact hne

theorem IsEnd.not_isBlank : ∀ c ∈ s, isBlank c = false := by
  rcases h with rfl | ⟨-, hname⟩
  · exact forall_eq_false_of_all (by decide)
  · intro c hc
    exact isBlank_of_isNameChar (List.all_eq_true.1 hname c hc)

theorem IsEnd.isTight : IsTight s := isTight_of_forall h.ne_nil h.not_isBlank

theorem IsEnd.opensComment_append (rest : List Char) : opensComment (s ++ rest) = false := by
  have hplain := h.not_isBlank
  rcases h with rfl | ⟨hne, hname⟩
  · exact opensComment_eq_false (by decide) (by decide) _
  · obtain ⟨c, t, rfl⟩ := List.exists_cons_of_ne_nil hne
    exact opensComment_name (List.all_eq_true.1 hname c (List.mem_cons_self ..)) _

end

/-- No name begins as the mark does. -/
theorem after?_startEnd_name {s : List Char} (hne : s ≠ []) (hs : ∀ c ∈ s, isNameChar c = true)
    (rest : List Char) : after? startEnd (s ++ rest) = none := by
  obtain ⟨c, t, rfl⟩ := List.exists_cons_of_ne_nil hne
  have hc : '[' ≠ c := by
    rintro rfl
    exact absurd (hs '[' (List.mem_cons_self ..)) (by decide)
  exact if_neg hc

namespace Transition

variable (t : Transition)

theorem target?_tail (rest : List Char) :
    target? (t.tail rest) = some (t.target, shownLabel rest) := by
  have harrow : IsTight "-->".toList :=
    isTight_of_forall (by decide) (forall_eq_false_of_all (by decide))
  have hfound : (after? "-->".toList (skipBlanks (t.tail rest))).map skipBlanks =
      some (t.target ++ ' ' :: ':' :: rest) :=
    harrow.after?_mark t.target_end.isTight _
  have hlabel : label? (' ' :: ':' :: rest) = some (shownLabel rest) := rfl
  simp only [target?, hfound, Option.bind_eq_bind, Option.bind_some]
  rcases t.target_end with hmark | ⟨hne, hname⟩
  · simp only [hmark, after?_append, Option.bind_some, hlabel, Option.pure_def]
  · have hname := List.all_eq_true.1 hname
    have hcut : span1? isNameChar (t.target ++ ' ' :: ':' :: rest) =
        some (t.target, ' ' :: ':' :: rest) :=
      span1?_append hne hname (forall_head?_cons (by decide) _)
    simp only [after?_startEnd_name hne hname, hcut, Option.bind_some, hlabel, Option.pure_def]

/-- The source is taken as a whole, whatever in it an arrow begins with. -/
theorem transition?_line (rest : List Char) :
    transition? (t.line rest) = some (.transition t.source t.target (shownLabel rest)) := by
  rcases t.source_end with hmark | ⟨hne, hname⟩
  · simp only [transition?, line, hmark, after?_append, t.target?_tail, Option.map_some]
  · have hname := List.all_eq_true.1 hname
    have hread : longest1? isNameChar target? (t.line rest) =
        some (t.source, t.target, shownLabel rest) :=
      longest1?_append hne hname (forall_head?_cons (by decide) _) (t.target?_tail rest)
    have hmark : after? startEnd (t.line rest) = none := after?_startEnd_name hne hname _
    simp only [transition?, hmark, hread, Option.map_some]

/-! ### Nothing else is read in the line -/

theorem takeWhile_line (rest : List Char) :
    ((t.line rest).takeWhile fun c => !isBlank c) = t.source :=
  takeWhile_append_eq (fun c hc => by simp [t.source_end.not_isBlank c hc])
    (forall_head?_cons (by decide) _)

theorem firstWord_line (rest : List Char) : firstWord (t.line rest) = t.source := by
  have hstart : skipBlanks (t.line rest) = t.line rest :=
    t.source_end.isTight.skipBlanks_append _
  rw [firstWord, hstart, t.takeWhile_line]

/-- No state is declared: that would take its keyword for the first word. -/
theorem after?_state_line (rest : List Char) :
    (after? "state".toList (t.line rest)).bind skipBlanks1? = none := by
  rw [Option.eq_none_iff_forall_ne_some]
  intro found h
  obtain ⟨u, hu, hskip⟩ := Option.bind_eq_some_iff.1 h
  have hcut := eq_append_of_after? hu
  cases u with
  | nil => contradiction
  | cons c u =>
    obtain ⟨hc, -⟩ := Option.ite_none_right_eq_some.1 hskip
    have hword : t.source = "state".toList := by
      rw [← t.takeWhile_line rest, hcut]
      exact takeWhile_append_eq (List.all_eq_true.1 (by decide))
        (forall_head?_cons (by simp [hc]) u)
    have hopening := t.opening
    rw [hword] at hopening
    exact hopening (by decide)

theorem alias?_line (rest : List Char) : alias? (t.line rest) = none := by
  simp only [alias?, t.after?_state_line, Option.bind_none, Option.bind_eq_bind]

theorem state?_line (rest : List Char) : state? (t.line rest) = none := by
  simp only [state?, t.after?_state_line, Option.bind_none, Option.bind_eq_bind]

theorem statement?_line (rest : List Char) :
    statement? (t.line rest) = some (.transition t.source t.target (shownLabel rest)) := by
  have hempty : (t.line rest).isEmpty = false := by simp [line, tail]
  have hbrace : t.line rest ≠ ['\x7d'] := by
    intro hline
    have hlength := congrArg List.length hline
    simp only [line, tail, List.length_append, List.length_cons, List.length_nil] at hlength
    omega
  have hskipped : skippedWords.contains (.ofList (lower (firstWord (t.line rest)))) = false := by
    have hopening := t.opening
    rw [lowerString, String.toList_ofList, List.mem_cons, not_or] at hopening
    rw [t.firstWord_line]
    simpa using hopening.2
  rw [statement?, hempty, decide_eq_false hbrace, hskipped]
  simp only [firstSome, t.alias?_line, t.state?_line, t.transition?_line]
  rfl

/-! ### Lines of a diagram -/

theorem trim_text : trim t.text = t.line (dropEndWhile isBlank (' ' :: t.label)) := by
  have hcolon : IsTight [':'] := isTight_singleton (by decide)
  have htight := t.source_end.isTight.append hcolon
    (' ' :: ("-->".toList ++ ' ' :: (t.target ++ [' '])))
  have htrim := htight.trim_append (' ' :: t.label)
  simp only [List.append_assoc, List.cons_append, List.nil_append] at htrim
  exact htrim

theorem statement?_trim_text :
    statement? (trim t.text) = some (.transition t.source t.target (shownLabel t.label)) := by
  have hlabel : trim (dropEndWhile isBlank (' ' :: t.label)) = trim t.label :=
    (trim_dropEndWhile _).trans rfl
  rw [t.trim_text, t.statement?_line, shownLabel, hlabel, shownLabel]

theorem nodeNames_marks (label : Option (List Char)) :
    nodeNames (Statement.transition t.source t.target label).marks = t.states := by
  have hsource := t.source_end.ne_nil
  have htarget := t.target_end.ne_nil
  by_cases hs : t.source = startEnd <;> by_cases ht : t.target = startEnd
  · simp [Statement.marks, states, hs, ht, nodeNames]
  · simp [Statement.marks, states, hs, ht, nodeNames_declaration htarget]
  · simp [Statement.marks, states, hs, ht, nodeNames_declaration hsource]
  · simp [Statement.marks, states, hs, ht, nodeNames_connection hsource htarget]

theorem edges_marks : (Statement.transition t.source t.target (shownLabel t.label)).marks.filterMap
    Mark.edge? = t.edge?.toList := by
  by_cases hs : t.source = startEnd <;> by_cases ht : t.target = startEnd
  · simp [Statement.marks, edge?, hs, ht]
  · simp [Statement.marks, edge?, hs, ht, edges_declaration]
  · simp [Statement.marks, edge?, hs, ht, edges_declaration]
  · simp only [Statement.marks, edge?, hs, ht, or_self, if_false]
    rfl

theorem not_label_mem_marks (label : Option (List Char)) (id text : String) :
    .label id text ∉ (Statement.transition t.source t.target label).marks := by
  simp only [Statement.marks]
  split_ifs <;> simp [declaration, connection]

end Transition

section

variable {s first : List Char} {c : Char} {transitions : List Transition}
  (h : lines s = (c :: first) :: transitions.map Transition.text) (hc : isKeywordChar c = true)
  (hdash : c ≠ '-')

include h hc hdash

theorem isUncommented_of_transitions : IsUncommented s :=
  .of_lines h hc hdash (List.forall_mem_map.2 fun t _ => t.source_end.opensComment_append _)

theorem marks_of_transitions :
    marks s = transitions.flatMap fun t =>
      (Statement.transition t.source t.target (shownLabel t.label)).marks := by
  have hread : statement? ∘ trim ∘ Transition.text =
      fun t => some (.transition t.source t.target (shownLabel t.label)) :=
    funext Transition.statement?_trim_text
  rw [marks_eq, tail_filledLines_clean_of_lines h (isUncommented_of_transitions h hc hdash) hc,
    filterMap_filled rfl, List.map_map, List.filterMap_map, hread, List.filterMap_eq_map',
    List.flatMap_map]

theorem ofMarks_transitions :
    Sketch.ofMarks (marks s) =
      { nodes := (transitions.flatMap Transition.states).eraseDups
        edges := transitions.filterMap Transition.edge? } := by
  have hmarks := marks_of_transitions h hc hdash
  have hnodes : nodeNames (marks s) = transitions.flatMap Transition.states := by
    rw [hmarks, nodeNames_flatMap]
    exact List.flatMap_congr fun t _ => t.nodeNames_marks _
  have hedges : (marks s).filterMap Mark.edge? = transitions.filterMap Transition.edge? := by
    rw [hmarks, List.filterMap_flatMap, List.filterMap_eq_flatMap_toList]
    exact List.flatMap_congr fun t _ => t.edges_marks
  have hlabels : ∀ id text, Mark.label id text ∉ marks s := by
    intro id text hmem
    rw [hmarks, List.mem_flatMap] at hmem
    obtain ⟨t, -, hmem⟩ := hmem
    exact t.not_label_mem_marks _ id text hmem
  have hext (sketch : Sketch) : sketch = ⟨sketch.nodes, sketch.edges, sketch.labels⟩ := rfl
  rw [hext (.ofMarks _), Sketch.nodes_ofMarks, Sketch.edges_ofMarks, Sketch.labels_ofMarks hlabels,
    hnodes, hedges]

end

/-! ### The start and end mark -/

theorem ofList_ne_startEnd {s : List Char} (h : s ≠ startEnd) : String.ofList s ≠ "[*]" := by
  intro heq
  have hlist := congrArg String.toList heq
  rw [String.toList_ofList] at hlist
  exact h hlist

theorem ofList_ne_startEnd_of_span1? {s : List Char} {cut : List Char × List Char}
    (h : span1? isNameChar s = some cut) : String.ofList cut.1 ≠ "[*]" := by
  have hname := forall_of_span1? h
  apply ofList_ne_startEnd
  intro hmark
  rw [hmark] at hname
  exact absurd (hname '[' (List.mem_cons_self ..)) (by decide)

theorem leavesOut_of_alias? {s : List Char} {found : Statement} (h : alias? s = some found) :
    ∀ m ∈ found.marks, m.LeavesOut "[*]" := by
  simp only [alias?, Option.bind_eq_bind, Option.bind_eq_some_iff, Option.pure_def,
    Option.some.injEq] at h
  obtain ⟨_, -, _, -, cut, ⟨_, -, hcut⟩, rfl⟩ := h
  exact leavesOut_declaration (ofList_ne_startEnd_of_span1? hcut) _

theorem leavesOut_of_state? {s : List Char} {found : Statement} (h : state? s = some found) :
    ∀ m ∈ found.marks, m.LeavesOut "[*]" := by
  simp only [state?, Option.bind_eq_bind, Option.bind_eq_some_iff, Option.pure_def,
    Option.some.injEq] at h
  obtain ⟨cut, ⟨_, -, hcut⟩, rfl⟩ := h
  exact leavesOut_declaration (ofList_ne_startEnd_of_span1? hcut) _

theorem leavesOut_of_description? {s : List Char} {found : Statement}
    (h : description? s = some found) : ∀ m ∈ found.marks, m.LeavesOut "[*]" := by
  simp only [description?, Option.bind_eq_bind, Option.bind_eq_some_iff, Option.pure_def] at h
  obtain ⟨cut, hcut, text, -, h⟩ := h
  obtain ⟨-, h⟩ := Option.ite_none_left_eq_some.1 h
  obtain rfl := Option.some.inj h
  exact leavesOut_declaration (ofList_ne_startEnd_of_span1? hcut) _

/-- Only a transition reads the mark, and its marks leave it out. -/
theorem leavesOut_transition (source target : List Char) (label : Option (List Char)) :
    ∀ m ∈ (Statement.transition source target label).marks, m.LeavesOut "[*]" := by
  simp only [Statement.marks]
  split_ifs with hs ht ht
  · exact List.forall_mem_nil _
  · exact leavesOut_declaration (ofList_ne_startEnd ht) _
  · exact leavesOut_declaration (ofList_ne_startEnd hs) _
  · exact leavesOut_connection (ofList_ne_startEnd hs) (ofList_ne_startEnd ht) _

theorem leavesOut_of_statement? {s : List Char} {found : Statement}
    (h : statement? s = some found) : ∀ m ∈ found.marks, m.LeavesOut "[*]" := by
  obtain ⟨-, h⟩ := Option.ite_none_left_eq_some.1 h
  obtain ⟨read, hread, h⟩ := exists_of_firstSome h
  simp only [List.mem_cons, List.not_mem_nil, or_false] at hread
  rcases hread with rfl | rfl | rfl | rfl
  · exact leavesOut_of_alias? h
  · exact leavesOut_of_state? h
  · obtain ⟨_, -, rfl⟩ := Option.map_eq_some_iff.1 h
    exact leavesOut_transition _ _ _
  · exact leavesOut_of_description? h

theorem leavesOut_marks (s : List Char) : ∀ m ∈ marks s, m.LeavesOut "[*]" := by
  intro m hm
  obtain ⟨found, hfound, hm⟩ := List.mem_flatMap.1 hm
  obtain ⟨line, -, hline⟩ := List.mem_filterMap.1 hfound
  exact leavesOut_of_statement? hline m hm

/-! ### State diagrams -/

/-- Transitions between states are read exactly, with the states at their ends in first-seen order,
and whatever a diagram says, the start and end mark is neither a state nor an end of an edge. -/
theorem analyze_transitions :
    (∀ (transitions : List Transition) (content keyword : String),
      keyword ∈ DiagramKind.state.keywords →
      lines content.toList = keyword.toList :: transitions.map Transition.text →
      analyze content =
        { diagramType := "state"
          nodes := (transitions.flatMap Transition.states).eraseDups
          edges := transitions.filterMap Transition.edge? }) ∧
    ∀ content : String,
      "[*]" ∉ (DiagramKind.state.analyze content).nodes ∧
        ∀ e ∈ (DiagramKind.state.analyze content).edges, e.source ≠ "[*]" ∧ e.target ≠ "[*]" := by
  constructor
  · intro transitions content keyword hkeyword h
    have hopener : ∀ word ∈ DiagramKind.state.keywords, ∃ c first, word.toList = c :: first ∧
        isKeywordChar c = true ∧ c ≠ '-' ∧ word.toList.takeWhile isKeywordChar = word.toList ∧
          word ∈ DiagramKind.state.openers := by
      intro word hword
      simp only [DiagramKind.keywords, List.mem_cons, List.not_mem_nil, or_false] at hword
      rcases hword with rfl | rfl
      · exact ⟨'s', _, rfl, by decide⟩
      · exact ⟨'s', _, rfl, by decide⟩
    obtain ⟨c, first, hcons, hc, hdash, hwhole, hkind⟩ := hopener keyword hkeyword
    have hlines := h
    rw [hcons] at hlines
    have hword : keyword? content.toList = some keyword.toList := by
      rw [keyword?_eq_some_iff, (isUncommented_of_transitions hlines hc hdash).takeWhile_clean, h,
        List.headD_cons, hwhole]
      exact ⟨hcons ▸ List.cons_ne_nil c first, rfl⟩
    have hanalyze : analyze content = DiagramKind.state.analyze content :=
      analyze_of_opener hword (by rwa [String.ofList_toList])
    rw [hanalyze, DiagramKind.analyze, DiagramKind.marks, ofMarks_transitions hlines hc hdash]
    rfl
  · intro content
    simp only [DiagramKind.analyze, DiagramKind.marks, Sketch.toAnalysis]
    exact Sketch.not_mem_of_leavesOut (leavesOut_marks content.toList)

/-! A name may hold the hyphens of an arrow, and a label what looks like a transition. -/

def sampleTransitions : List Transition :=
  [ { source := startEnd, target := "A--".toList
      source_end := by decide, target_end := by decide, opening := by decide },
    { source := "A--".toList, target := "-b.1".toList, label := "x --> [*] : y ".toList
      source_end := by decide, target_end := by decide, opening := by decide },
    { source := "-b.1".toList, target := startEnd, label := "done".toList
      source_end := by decide, target_end := by decide, opening := by decide } ]

def sampleText : String :=
  "stateDiagram-v2\n[*] --> A-- : \nA-- --> -b.1 : x --> [*] : y \n-b.1 --> [*] : done"

theorem analyze_transitions_hyphens :
    ("stateDiagram-v2" ∈ DiagramKind.state.keywords ∧
      lines sampleText.toList =
        "stateDiagram-v2".toList :: sampleTransitions.map Transition.text) ∧
    analyze sampleText =
      { diagramType := "state"
        nodes := ["A--", "-b.1"]
        edges := [⟨"A--", "-b.1", some "x --> [*] : y"⟩] } ∧
    "[*]" ∉ (DiagramKind.state.analyze sampleText).nodes := by
  have hkeyword : "stateDiagram-v2" ∈ DiagramKind.state.keywords := by decide
  have hlines : lines sampleText.toList =
      "stateDiagram-v2".toList :: sampleTransitions.map Transition.text := by
    decide
  have hread := analyze_transitions.1 sampleTransitions sampleText _ hkeyword hlines
  exact ⟨⟨hkeyword, hlines⟩, hread.trans (by decide), (analyze_transitions.2 sampleText).1⟩

end State

end DocTrace.Diagram
