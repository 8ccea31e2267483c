import DocTrace.Diagram.Kind
import DocTrace.Proofs.Diagram.Cleaning
import DocTrace.Proofs.Diagram.Marks

/-! Seven of the eight notations give well formed analyses of every text, since no identifier they
read is empty. A call of a C4 diagram may leave an argument empty, and then a label or a relation
speaks of an identifier that is no node. -/

namespace DocTrace

namespace Diagram

open Text

theorem grounded_getD {found : Option α} {f : α → List Mark}
    (h : ∀ a, found = some a → Grounded [] (f a)) : Grounded [] ((found.map f).getD []) := by
  cases found with
  | none => exact grounded_nil _
  | some a => exact h a rfl

/-! ### Flowcharts -/

namespace Flowchart

theorem ne_nil_of_node? {s : List Char} {found : List Char × Option (List Char)}
    (h : node? s = some found) : found.1 ≠ [] := by
  cases s with
  | nil => simp [node?] at h
  | cons c s =>
    simp only [node?, Option.ite_none_right_eq_some, Option.map_eq_some_iff] at h
    obtain ⟨-, r, -, rfl⟩ := h
    simp

theorem ne_nil_of_mem_groupNodes {s : List Char} {found : List Char × Option (List Char)}
    (h : found ∈ groupNodes s) : found.1 ≠ [] := by
  obtain ⟨piece, -, hpiece⟩ := List.mem_filterMap.1 h
  exact ne_nil_of_node? hpiece

theorem mem_of_mentions_chainMarks {sources : List (List Char)}
    {links : List (Option (List Char) × List (List Char))} {m : Mark} {id : String}
    (hm : m ∈ chainMarks sources links) (hid : id ∈ m.mentions) :
    ∃ name ∈ sources ++ links.flatMap (·.2), id = .ofList name := by
  induction links generalizing sources with
  | nil => exact absurd hm List.not_mem_nil
  | cons link rest ih =>
    rw [List.flatMap_cons]
    rcases List.mem_append.1 hm with hm | hm
    · obtain ⟨source, hsource, hm⟩ := List.mem_flatMap.1 hm
      obtain ⟨target, htarget, rfl⟩ := List.mem_map.1 hm
      rcases List.mem_pair.1 hid with rfl | rfl
      · exact ⟨source, by simp [hsource], rfl⟩
      · exact ⟨target, by simp [htarget], rfl⟩
    · obtain ⟨name, hname, rfl⟩ := ih hm
      exact ⟨name, List.mem_append_right _ hname, rfl⟩

theorem grounded_statementMarks (s : List Char) : Grounded [] (statementMarks s) := by
  unfold statementMarks
  split
  · exact grounded_nil _
  · extract_lets chain first others nodes
    have hnamed : ∀ node ∈ nodes, node.1 ≠ [] := by
      intro node hnode
      rcases List.mem_append.1 hnode with hnode | hnode
      · exact ne_nil_of_mem_groupNodes hnode
      · obtain ⟨link, hlink, hnode⟩ := List.mem_flatMap.1 hnode
        obtain ⟨group, -, rfl⟩ := List.mem_map.1 hlink
        exact ne_nil_of_mem_groupNodes hnode
    intro m hm id hid
    rcases List.mem_append.1 hm with hm | hm
    · have hground := grounded_flatMap (fun node hnode =>
        grounded_declaration (hnamed node hnode) (node.2.map shapeLabel)) m hm id hid
      exact hground.imp_right fun hdeclares => hdeclares.mono (List.subset_append_left ..)
    · obtain ⟨name, hname, rfl⟩ := mem_of_mentions_chainMarks hm hid
      have hnode : name ∈ nodes.map (·.1) := by
        simpa [nodes, List.flatMap_map, List.map_flatMap, others] using hname
      obtain ⟨node, hmem, rfl⟩ := List.mem_map.1 hnode
      refine .inr ⟨by simpa using hnamed node hmem, List.mem_append_left _ ?_⟩
      exact List.mem_flatMap.2 ⟨node, hmem, List.mem_cons_self ..⟩

theorem grounded_marks (s : List Char) : Grounded [] (marks s) :=
  grounded_flatMap fun statement _ => grounded_statementMarks statement

end Flowchart

/-! ### Sequence diagrams -/

namespace Sequence

theorem grounded_of_participant? {s : List Char} {found : Statement}
    (h : participant? s = some found) : Grounded [] found.marks := by
  simp only [participant?, Option.bind_eq_bind, Option.bind_eq_some_iff, Option.pure_def,
    Option.some.injEq] at h
  obtain ⟨rest, -, cut, hcut, name, -, rfl⟩ := h
  exact grounded_declaration (ne_nil_of_span1? hcut) _

theorem ne_nil_of_receiver? {s : List Char} {found : List Char × Option (List Char)}
    (h : receiver? s = some found) : found.1 ≠ [] := by
  simp only [receiver?, Option.bind_eq_bind, Option.bind_eq_some_iff, Option.pure_def,
    Option.some.injEq] at h
  obtain ⟨cut, hcut, label, -, rfl⟩ := h
  exact ne_nil_of_span1? hcut

theorem ne_nil_of_delivery? {s : List Char} {found : List Char × Option (List Char)}
    (h : delivery? s = some found) : found.1 ≠ [] := by
  unfold delivery? at h
  split at h
  · split at h
    · rcases eq_some_of_orElse h with h | h
      · exact ne_nil_of_receiver? h
      · exact ne_nil_of_receiver? h
    · exact ne_nil_of_receiver? h
  · simp at h

theorem grounded_of_message? {s : List Char} {found : Statement} (h : message? s = some found) :
    Grounded [] found.marks := by
  obtain ⟨⟨source, target, label⟩, hread, rfl⟩ := Option.map_eq_some_iff.1 h
  obtain ⟨hsource, t, -, -, ht⟩ := exists_of_shortest1? hread
  obtain ⟨arrow, -, harrow⟩ := exists_of_firstSome ht
  obtain ⟨rest, -, hdelivery⟩ := Option.bind_eq_some_iff.1 harrow
  exact grounded_connection hsource (ne_nil_of_delivery? hdelivery) label

theorem grounded_of_statement? {s : List Char} {found : Statement}
    (h : statement? s = some found) : Grounded [] found.marks := by
  rcases eq_some_of_orElse h with h | h
  · exact grounded_of_participant? h
  · exact grounded_of_message? (Option.ite_none_left_eq_some.1 h).2

theorem grounded_marks (s : List Char) : Grounded [] (marks s) := by
  refine grounded_flatMap fun found hfound => ?_
  obtain ⟨line, -, hline⟩ := List.mem_filterMap.1 hfound
  exact grounded_of_statement? hline

end Sequence

/-! ### State diagrams -/

namespace State

theorem startEnd_ne_nil : startEnd ≠ [] := by decide

theorem grounded_of_alias? {s : List Char} {found : Statement} (h : alias? s = some found) :
    Grounded [] found.marks := by
  simp only [alias?, Option.bind_eq_bind, Option.bind_eq_some_iff, Option.pure_def,
    Option.some.injEq] at h
  obtain ⟨_, -, _, -, cut, ⟨_, -, hcut⟩, rfl⟩ := h
  exact grounded_declaration (ne_nil_of_span1? hcut) _

theorem grounded_of_state? {s : List Char} {found : Statement} (h : state? s = some found) :
    Grounded [] found.marks := by
  simp only [state?, Option.bind_eq_bind, Option.bind_eq_some_iff, Option.pure_def,
    Option.some.injEq] at h
  obtain ⟨cut, ⟨_, -, hcut⟩, rfl⟩ := h
  exact grounded_declaration (ne_nil_of_span1? hcut) _

theorem ne_nil_of_target? {s : List Char} {found : List Char × Option (List Char)}
    (h : target? s = some found) : found.1 ≠ [] := by
  simp only [target?, Option.bind_eq_bind, Option.bind_eq_some_iff, Option.pure_def] at h
  obtain ⟨rest, -, h⟩ := h
  split at h
  · simp only [Option.bind_some, Option.bind_eq_some_iff, Option.some.injEq] at h
    obtain ⟨label, -, rfl⟩ := h
    exact startEnd_ne_nil
  · simp only [Option.bind_eq_some_iff, Option.some.injEq] at h
    obtain ⟨cut, hcut, label, -, rfl⟩ := h
    exact ne_nil_of_span1? hcut

theorem grounded_transition {source target : List Char} (hs : source ≠ []) (ht : target ≠ [])
    (label : Option (List Char)) :
    Grounded [] (Statement.transition source target label).marks := by
  simp only [Statement.marks]
  split_ifs
  · exact grounded_nil _
  · exact grounded_declaration ht _
  · exact grounded_declaration hs _
  · exact grounded_connection hs ht _

theorem grounded_of_transition? {s : List Char} {found : Statement}
    (h : transition? s = some found) : Grounded [] found.marks := by
  obtain ⟨⟨source, target, label⟩, hread, rfl⟩ := Option.map_eq_some_iff.1 h
  split at hread
  · obtain ⟨ends, hends, heq⟩ := Option.map_eq_some_iff.1 hread
    obtain ⟨rfl, rfl⟩ := Prod.mk.inj heq
    exact grounded_transition startEnd_ne_nil (ne_nil_of_target? hends) _
  · obtain ⟨hsource, t, -, -, ht⟩ := exists_of_longest1? hread
    exact grounded_transition hsource (ne_nil_of_target? ht) _

theorem grounded_of_description? {s : List Char} {found : Statement}
    (h : description? s = some found) : Grounded [] found.marks := by
  simp only [description?, Option.bind_eq_bind, Option.bind_eq_some_iff, Option.pure_def] at h
  obtain ⟨cut, hcut, text, -, h⟩ := h
  obtain ⟨-, h⟩ := Option.ite_none_left_eq_some.1 h
  obtain rfl := Option.some.inj h
  exact grounded_declaration (ne_nil_of_span1? hcut) _

theorem grounded_of_statement? {s : List Char} {found : Statement}
    (h : statement? s = some found) : Grounded [] found.marks := by
  obtain ⟨-, h⟩ := Option.ite_none_left_eq_some.1 h
  obtain ⟨read, hread, h⟩ := exists_of_firstSome h
  simp only [List.mem_cons, List.not_mem_nil, or_false] at hread
  rcases hread with rfl | rfl | rfl | rfl
  · exact grounded_of_alias? h
  · exact grounded_of_state? h
  · exact grounded_of_transition? h
  · exact grounded_of_description? h

theorem grounded_marks (s : List Char) : Grounded [] (marks s) := by
  refine grounded_flatMap fun found hfound => ?_
  obtain ⟨line, -, hline⟩ := List.mem_filterMap.1 hfound
  exact grounded_of_statement? hline

end State

/-! ### Entity-relationship diagrams -/

namespace EntityRelation

theorem grounded_of_block? {s : List Char} {found : Statement} (h : block? s = some found) :
    Grounded [] found.marks := by
  simp only [block?, Option.bind_eq_bind, Option.bind_eq_some_iff, Option.pure_def] at h
  obtain ⟨cut, hcut, h⟩ := h
  split at h
  · simp only [Option.bind_eq_some_iff, Option.some.injEq] at h
    obtain ⟨_, -, _, -, rfl⟩ := h
    exact grounded_declaration (ne_nil_of_span1? hcut) _
  · simp only [Option.bind_eq_some_iff, Option.some.injEq] at h
    obtain ⟨_, -, rfl⟩ := h
    exact grounded_declaration (ne_nil_of_span1? hcut) _

theorem grounded_of_relation? {s : List Char} {found : Statement} (h : relation? s = some found) :
    Grounded [] found.marks := by
  simp only [relation?, Option.bind_eq_bind, Option.bind_eq_some_iff, Option.pure_def] at h
  obtain ⟨left, hleft, _, -, right, hright, h⟩ := h
  have hends (label : Option (List Char)) :
      Grounded [] (Statement.relation left.1 right.1 label).marks :=
    grounded_connection (ne_nil_of_span1? hleft) (ne_nil_of_span1? hright) label
  split at h
  · obtain rfl := Option.some.inj h
    exact hends none
  · obtain ⟨-, h⟩ := Option.ite_none_left_eq_some.1 h
    obtain rfl := Option.some.inj h
    exact hends _
  · simp at h

theorem grounded_of_entity? {s : List Char} {found : Statement} (h : entity? s = some found) :
    Grounded [] found.marks := by
  obtain ⟨hname, h⟩ := Option.ite_none_right_eq_some.1 h
  obtain rfl := Option.some.inj h
  refine grounded_declaration ?_ none
  rintro rfl
  simp at hname

theorem grounded_of_statement? {s : List Char} {found : Statement}
    (h : statement? s = some found) : Grounded [] found.marks := by
  obtain ⟨read, hread, h⟩ := exists_of_firstSome h
  simp only [List.mem_cons, List.not_mem_nil, or_false] at hread
  rcases hread with rfl | rfl | rfl
  · exact grounded_of_block? h
  · exact grounded_of_relation? h
  · exact grounded_of_entity? h

theorem grounded_marks (s : List Char) : Grounded [] (marks s) := by
  refine grounded_marksFrom (fun _ => []) (fun inBlock line => ⟨?_, by simp⟩) false _
  unfold step
  extract_lets line found
  split
  · exact grounded_nil _
  · exact grounded_getD fun statement h => grounded_of_statement? h

end EntityRelation

/-! ### Class diagrams -/

namespace Class

theorem grounded_of_class? {s : List Char} {found : Statement} (h : class? s = some found) :
    Grounded [] found.marks := by
  simp only [class?, Option.bind_eq_bind, Option.bind_eq_some_iff, Option.pure_def,
    Option.some.injEq] at h
  obtain ⟨cut, ⟨_, -, hcut⟩, rfl⟩ := h
  exact grounded_declaration (ne_nil_of_span1? hcut) _

theorem ne_nil_of_rightEnd? {s : List Char} {found : List Char × Option (List Char)}
    (h : rightEnd? s = some found) : found.1 ≠ [] := by
  simp only [rightEnd?, Option.bind_eq_bind, Option.bind_eq_some_iff, Option.pure_def,
    Option.some.injEq] at h
  obtain ⟨cut, hcut, label, -, rfl⟩ := h
  exact ne_nil_of_span1? hcut

theorem ne_nil_of_arrowEnd? {s : List Char} {found : Bool × List Char × Option (List Char)}
    (h : arrowEnd? s = some found) : found.2.1 ≠ [] := by
  obtain ⟨arrow, -, h⟩ := exists_of_firstSome h
  obtain ⟨ends, hends, rfl⟩ := Option.map_eq_some_iff.1 h
  obtain ⟨rest, -, hright⟩ := Option.bind_eq_some_iff.1 hends
  exact ne_nil_of_rightEnd? hright

theorem grounded_of_relation? {s : List Char} {found : Statement} (h : relation? s = some found) :
    Grounded [] found.marks := by
  obtain ⟨⟨left, back, right, label⟩, hread, rfl⟩ := Option.map_eq_some_iff.1 h
  obtain ⟨hleft, t, -, -, ht⟩ := exists_of_longest1? hread
  have hright : right ≠ [] := ne_nil_of_arrowEnd? ht
  cases back with
  | true => exact grounded_connection hright hleft label
  | false => exact grounded_connection hleft hright label

theorem grounded_marks (s : List Char) : Grounded [] (marks s) := by
  refine grounded_marksFrom (fun _ => []) (fun depth line => ⟨?_, by simp⟩) 0 _
  unfold step
  extract_lets line
  split_ifs
  · exact grounded_nil _
  · exact grounded_nil _
  · split
    · next found h => exact grounded_of_class? h
    · exact grounded_getD fun statement h => grounded_of_relation? h

end Class

/-! ### Mindmaps -/

namespace Mindmap

theorem ne_nil_of_shapeText {text id : List Char} (h : shapeText text = some id) : id ≠ [] := by
  obtain ⟨heq, hname⟩ := Option.filter_eq_some_iff.1 h
  obtain rfl := Option.some.inj heq
  rintro hnil
  simp [hnil] at hname

theorem ne_nil_of_node? {text : List Char} {n : Node} (htext : text ≠ [])
    (h : node? text = some n) : n.id ≠ [] := by
  simp only [node?] at h
  split_ifs at h with hshape
  · obtain rfl := Option.some.inj h
    intro hnil
    exact absurd (Bool.and_eq_true_iff.1 hshape).1 (by simpa using hnil)
  · obtain ⟨id, hid, rfl⟩ := Option.map_eq_some_iff.1 h
    exact ne_nil_of_shapeText hid
  · obtain rfl := Option.some.inj h
    exact htext

theorem ne_nil_of_lineNode? {line : List Char} {found : ℕ × Node}
    (h : lineNode? line = some found) : found.2.id ≠ [] := by
  obtain ⟨htext, h⟩ := Option.ite_none_left_eq_some.1 h
  obtain ⟨n, hn, rfl⟩ := Option.map_eq_some_iff.1 h
  refine ne_nil_of_node? ?_ hn
  intro hnil
  simp [hnil] at htext

/-- The identifiers of the open branches. -/
def branchIds (branches : Branches) : List String :=
  branches.filterMap fun branch => branch.2.map .ofList

theorem branchIds_dropWhile_subset (p : ℕ × Option (List Char) → Bool) (branches : Branches) :
    branchIds (branches.dropWhile p) ⊆ branchIds branches :=
  ((List.dropWhile_sublist p).filterMap _).subset

theorem grounded_step (branches : Branches) (line : List Char) :
    Grounded (branchIds branches) (step branches line).2 ∧
      ∀ id ∈ branchIds (step branches line).1,
        id ∈ branchIds branches ∨ Declares (step branches line).2 id := by
  unfold step
  split
  · exact ⟨grounded_nil _, fun id hid => .inl hid⟩
  · next indent n hread =>
    have hname : n.id ≠ [] := ne_nil_of_lineNode? hread
    extract_lets above edge
    have habove : branchIds above ⊆ branchIds branches := branchIds_dropWhile_subset _ _
    clear_value above
    split_ifs
    · exact ⟨grounded_nil _, fun id hid => .inl (habove hid)⟩
    · have hself : Declares (declaration n.id n.label ++ edge) (.ofList n.id) :=
        declares_cons_node hname _
      refine ⟨fun m hm id hid => ?_, fun id hid => ?_⟩
      · rcases List.mem_append.1 hm with hm | hm
        · refine (grounded_declaration hname n.label m hm id hid).imp (by simp) fun h => ?_
          exact h.mono (List.subset_append_left ..)
        -- The parent of an edge is the innermost branch that is still open.
        · have hends : id ∈ branchIds above ∨ id = .ofList n.id := by
            simp only [edge] at hm
            split at hm
            · next parent rest =>
              obtain rfl := List.mem_singleton.1 hm
              refine (List.mem_pair.1 hid).imp_left fun h => ?_
              simp [branchIds, h]
            · exact absurd hm List.not_mem_nil
          rcases hends with hknown | rfl
          · exact .inl (habove hknown)
          · exact .inr hself
      · rcases List.mem_cons.1 hid with rfl | hid
        · exact .inr hself
        · exact .inl (habove hid)

theorem grounded_marks (s : List Char) : Grounded [] (marks s) :=
  grounded_marksFrom branchIds grounded_step [] _

end Mindmap

/-! ### Requirement diagrams -/

namespace Requirement

theorem unquote_ne_nil_of_blockName? {s : List Char} {cut : List Char × List Char}
    (h : blockName? s = some cut) : unquote cut.1 ≠ [] := by
  unfold blockName? at h
  split at h
  · split at h
    · obtain rfl := Option.some.inj h
      rw [unquote_quoted rfl]
      simp
    · simp at h
  · obtain ⟨c, rest, hcut⟩ := List.exists_cons_of_ne_nil (ne_nil_of_span1? h)
    have hname : isNameChar c = true := forall_of_span1? h c (by simp [hcut])
    rw [hcut]
    exact unquote_cons_ne_nil (isBlank_of_isNameChar hname) (isQuote_of_isNameChar hname) rest

theorem ne_nil_of_block? {s name : List Char} (h : block? s = some name) : name ≠ [] := by
  simp only [block?] at h
  split at h
  · simp at h
  · simp only [Option.bind_eq_bind, Option.bind_eq_some_iff, Option.pure_def,
      Option.some.injEq] at h
    obtain ⟨cut, ⟨rest, -, hcut⟩, _, -, rfl⟩ := h
    exact unquote_ne_nil_of_blockName? hcut

theorem ne_nil_of_bare? {s value : List Char} (h : bare? s = some value) : value ≠ [] := by
  simp only [bare?, Option.bind_eq_bind, Option.bind_eq_some_iff, Option.pure_def] at h
  obtain ⟨cut, hcut, h⟩ := h
  obtain ⟨-, h⟩ := Option.ite_none_right_eq_some.1 h
  obtain rfl := Option.some.inj h
  exact ne_nil_of_span1? hcut

theorem grounded_idMarks (name value : List Char) : Grounded [] (idMarks name value) := by
  unfold idMarks
  split_ifs with h
  · exact grounded_nil _
  · refine grounded_declaration ?_ _
    rintro rfl
    simp at h

theorem ne_nil_of_forwardRest? {s : List Char} {found : List Char × List Char}
    (h : forwardRest? s = some found) : found.2 ≠ [] := by
  simp only [forwardRest?, Option.bind_eq_bind, Option.bind_eq_some_iff, Option.pure_def,
    Option.some.injEq] at h
  obtain ⟨_, -, _, -, _, -, target, htarget, rfl⟩ := h
  exact ne_nil_of_bare? htarget

theorem ne_nil_of_relation? {s : List Char} {r : Relation} (h : relation? s = some r) :
    r.source ≠ [] ∧ r.target ≠ [] := by
  rcases eq_some_of_orElse h with h | h
  · obtain ⟨⟨source, verb, target⟩, hread, rfl⟩ := Option.map_eq_some_iff.1 h
    obtain ⟨hsource, t, -, -, ht⟩ := exists_of_longest1? hread
    exact ⟨hsource, ne_nil_of_forwardRest? ht⟩
  · simp only [backward?, Option.bind_eq_bind, Option.bind_eq_some_iff, Option.pure_def,
      Option.some.injEq] at h
    obtain ⟨cut, hcut, _, -, _, -, _, -, source, hsource, rfl⟩ := h
    exact ⟨ne_nil_of_bare? hsource, ne_nil_of_span1? hcut⟩

theorem grounded_marks (s : List Char) : Grounded [] (marks s) := by
  refine grounded_marksFrom (fun _ => []) (fun current line => ⟨?_, by simp⟩) none _
  unfold step
  extract_lets line
  split
  · next name h => exact grounded_declaration (ne_nil_of_block? h) _
  · split_ifs
    · exact grounded_nil _
    · split
      · next name => exact grounded_getD fun value _ => grounded_idMarks name value
      · refine grounded_getD fun r h => ?_
        exact grounded_connection (ne_nil_of_relation? h).1 (ne_nil_of_relation? h).2 _

end Requirement

/-! ### C4 diagrams -/

namespace C4

/-- The identifiers that a call labels or relates, without the quotes around them. -/
def Call.subjects (c : Call) : List (List Char) :=
  if isElement c.word || isBoundary c.word then
    match c.arguments with
    | first :: label :: _ => if label.head? = some '$' then [] else [unquote first]
    | _ => []
  else if relationWords.contains c.word then
    match c.arguments with
    | first :: second :: _ => [unquote first, unquote second]
    | _ => []
  else []

/-- The calls of a diagram, in the order of its lines. -/
def calls (s : List Char) : List Call := ((bodyLines s).map trim).filterMap call?

theorem mem_mentions_declaration {id : List Char} {label : Option (List Char)} {other : String} :
    (∃ m ∈ declaration id label, other ∈ m.mentions) ↔ label.isSome ∧ other = .ofList id := by
  cases label <;> simp [declaration, Mark.mentions]

theorem mem_mentions_connection {source target : List Char} {label : Option (List Char)}
    {other : String} :
    (∃ m ∈ connection source target label, other ∈ m.mentions) ↔
      other = .ofList source ∨ other = .ofList target := by
  simp [connection, Mark.mentions]

theorem mem_subjects_iff (c : Call) (id : String) :
    (∃ m ∈ c.marks, id ∈ m.mentions) ↔ ∃ name ∈ c.subjects, id = .ofList name := by
  obtain ⟨word, _ | ⟨first, _ | ⟨second, more⟩⟩⟩ := c
  · simp [Call.marks, Call.subjects]
  · simp only [Call.marks, Call.subjects]
    split
    · simp [mem_mentions_declaration]
    · simp
  · simp only [Call.marks, Call.subjects]
    split
    · rw [mem_mentions_declaration]
      by_cases hextra : second.head? = some '$' <;> simp [hextra]
    · split
      · split <;> simp [mem_mentions_connection, or_comm]
      · simp

theorem declares_of_mem_subjects {c : Call} {name : List Char} (h : name ∈ c.subjects)
    (hname : name ≠ []) : Declares c.marks (.ofList name) := by
  refine ⟨by simpa using hname, ?_⟩
  obtain ⟨word, _ | ⟨first, _ | ⟨second, more⟩⟩⟩ := c
  · simp [Call.subjects] at h
  · simp [Call.subjects] at h
  · simp only [Call.subjects] at h
    simp only [Call.marks]
    split at h
    · next hword =>
      obtain rfl : name = unquote first := by
        split at h
        · simp at h
        · exact List.mem_singleton.1 h
      simp [hword, declaration]
    · next hword =>
      split at h
      · next hrelation =>
        rw [if_neg hword, if_pos hrelation]
        rcases List.mem_pair.1 h with rfl | rfl
        · split <;> simp [connection]
        · split <;> simp [connection]
      · simp at h

theorem grounded_marks_iff (s : List Char) :
    Grounded [] (marks s) ↔ ∀ c ∈ calls s, ∀ name ∈ c.subjects, name ≠ [] := by
  constructor
  · intro h c hc name hname
    obtain ⟨m, hm, hid⟩ := (mem_subjects_iff c (.ofList name)).2 ⟨name, hname, rfl⟩
    rcases h m (List.mem_flatMap.2 ⟨c, hc, hm⟩) _ hid with hnone | hdeclares
    · exact absurd hnone List.not_mem_nil
    · simpa using hdeclares.1
  · intro h
    refine grounded_flatMap fun c hc m hm id hid => ?_
    obtain ⟨name, hname, rfl⟩ := (mem_subjects_iff c id).1 ⟨m, hm, hid⟩
    exact .inr (declares_of_mem_subjects hname (h c hc name hname))

end C4

end Diagram

open Diagram

theorem DiagramKind.grounded_marks {kind : DiagramKind} (h : kind ≠ .c4) (s : List Char) :
    Grounded [] (kind.marks s) := by
  cases kind with
  | flowchart => exact Flowchart.grounded_marks s
  | sequence => exact Sequence.grounded_marks s
  | state => exact State.grounded_marks s
  | er => exact EntityRelation.grounded_marks s
  | mindmap => exact Mindmap.grounded_marks s
  | requirement => exact Requirement.grounded_marks s
  | classes => exact Class.grounded_marks s
  | c4 => exact absurd rfl h

theorem DiagramKind.isWellFormed_analyze (kind : DiagramKind) (content : String) :
    (kind.analyze content).IsWellFormed ↔
      (kind = .c4 → ∀ c ∈ C4.calls content.toList, ∀ name ∈ c.subjects, name ≠ []) := by
  rw [DiagramKind.analyze, Sketch.isWellFormed_ofMarks]
  by_cases h : kind = .c4
  · subst h
    rw [← C4.grounded_marks_iff]
    exact ⟨fun hground _ => hground, fun hground => hground rfl⟩
  · exact iff_of_true (DiagramKind.grounded_marks h _) fun heq => absurd heq h

/-- Whatever the text and the notation, stated or detected, the nodes of an analysis are named and
without repeats. All of it is well formed if and only if no call of a C4 diagram labels or relates
an empty identifier. -/
theorem isWellFormed_analyzeAs_iff (diagramType : Option String) (content : String) :
    (analyzeAs (diagramType.getD (detectType content)) content).nodes.Nodup ∧
      "" ∉ (analyzeAs (diagramType.getD (detectType content)) content).nodes ∧
      ((analyzeAs (diagramType.getD (detectType content)) content).IsWellFormed ↔
        (DiagramKind.find? (diagramType.getD (detectType content)) = some .c4 →
          ∀ c ∈ C4.calls content.toList, ∀ name ∈ c.subjects, name ≠ [])) := by
  generalize diagramType.getD (detectType content) = word
  unfold analyzeAs
  cases hkind : DiagramKind.find? word with
  | none =>
    refine ⟨List.nodup_nil, List.not_mem_nil, iff_of_true ?_ (by simp)⟩
    exact ⟨List.nodup_nil, List.not_mem_nil, by simp, by simp [Table.keys]⟩
  | some kind =>
    refine ⟨Sketch.nodup_ofMarks _, fun hmem => (Sketch.mem_nodes_ofMarks.1 hmem).1 rfl, ?_⟩
    rw [Option.some.injEq]
    exact kind.isWellFormed_analyze content

-- The one node of this diagram is `b`.
example : (analyze "C4Context\nRel(, b)\n").endpoints = ["", "b"] := by decide +kernel

end DocTrace
