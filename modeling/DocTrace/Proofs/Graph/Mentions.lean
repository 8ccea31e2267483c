import DocTrace.Proofs.Graph.Stages

/-! The identifiers that have a node in the graph of a project, and those that something
refers to. Both sets only grow, by what each step names. -/

namespace DocTrace

theorem Table.mem_keys_putNew [DecidableEq κ] {t : Table κ α} {key other : κ} {value : α} :
    other ∈ (t.putNew key value).keys ↔ other ∈ t.keys ∨ other = key := by
  rw [Table.keys_putNew]
  split
  · next h => exact ⟨.inl, fun ho => ho.elim id fun hkey => hkey ▸ h⟩
  · simp

theorem Table.mem_keys_update [DecidableEq κ] {t : Table κ α} {key other : κ} {default : α}
    {f : α → α} : other ∈ (t.update key default f).keys ↔ other ∈ t.keys ∨ other = key := by
  rw [Table.keys_update]
  split
  · next h => exact ⟨.inl, fun ho => ho.elim id fun hkey => hkey ▸ h⟩
  · simp

namespace Graph

def nodeIds (g : Graph) : Set String := {id | id ∈ g.nodes.keys}

def referred (g : Graph) : Set String := {id | id ∈ g.referencedIds}

/-- A set that every step enlarges is in the end enlarged by what all steps add. -/
theorem foldl_union {view : Graph → Set β} {step : Graph → α → Graph} {P : Graph → Prop}
    {add : α → Set β} {items : List α} (hkeep : ∀ g a, P g → P (step g a))
    (hstep : ∀ g, ∀ a ∈ items, P g → view (step g a) = view g ∪ add a) {g : Graph} (hg : P g) :
    view (items.foldl step g) = view g ∪ {x | ∃ a ∈ items, x ∈ add a} := by
  induction items generalizing g with
  | nil => simp
  | cons a rest ih =>
    have hfirst := hstep g a (List.mem_cons_self ..) hg
    have hrest := ih (fun g b hb => hstep g b (List.mem_cons_of_mem _ hb)) (hkeep g a hg)
    have hparts : {x | ∃ b ∈ a :: rest, x ∈ add b} = add a ∪ {x | ∃ b ∈ rest, x ∈ add b} := by
      ext x
      simp
    rw [List.foldl_cons, hrest, hfirst, hparts, Set.union_assoc]

theorem foldl_union_all {view : Graph → Set β} {step : Graph → α → Graph} {add : α → Set β}
    (hstep : ∀ g a, view (step g a) = view g ∪ add a) (g : Graph) (items : List α) :
    view (items.foldl step g) = view g ∪ {x | ∃ a ∈ items, x ∈ add a} :=
  foldl_union (P := fun _ => True) (fun _ _ _ => trivial) (fun g a _ _ => hstep g a) trivial

/-! ### Nodes -/

section Nodes

variable (g : Graph)

theorem nodeIds_of_update (nodes : Table String Node) (id : String) (f : Node → Node) :
    {other | other ∈ (nodes.update id {} f).keys} = {other | other ∈ nodes.keys} ∪ {id} := by
  ext other
  exact Table.mem_keys_update

theorem nodeIds_ensure (id : String) : (g.ensure id).nodeIds = g.nodeIds ∪ {id} := by
  ext other
  exact Table.mem_keys_putNew

theorem nodeIds_describe (id key : String) (value : Value) :
    (g.describe id key value).nodeIds = g.nodeIds ∪ {id} := nodeIds_of_update ..

def endsOf (edges : Set (String × String)) : Set String := {x | ∃ e ∈ edges, x = e.1 ∨ x = e.2}

theorem endsOf_union (first second : Set (String × String)) :
    endsOf (first ∪ second) = endsOf first ∪ endsOf second := by
  ext x
  simp only [endsOf, Set.mem_union, Set.mem_ofPred_eq, or_and_right, exists_or]

@[simp] theorem endsOf_empty : endsOf ∅ = ∅ := by
  ext x
  simp [endsOf]

theorem endsOf_singleton (parent child : String) : endsOf {(parent, child)} = {parent, child} := by
  ext x
  simp [endsOf]

theorem nodeIds_connect (parent child : String) :
    (g.connect parent child).nodeIds = g.nodeIds ∪ endsOf {(parent, child)} := by
  have hparent : (g.connect parent child).nodeIds = (g.addUplink child parent).nodeIds ∪ {parent} :=
    nodeIds_of_update ..
  have hchild : (g.addUplink child parent).nodeIds = g.nodeIds ∪ {child} := nodeIds_of_update ..
  rw [hparent, hchild, endsOf_singleton, Set.union_assoc]
  congr 1
  exact Set.union_comm ..

theorem nodeIds_drawLink (l : Link) :
    (g.drawLink l).nodeIds = g.nodeIds ∪ {l.source, l.target} := by
  have hensured (h : Graph) (hsource : h.nodeIds = g.nodeIds ∪ {l.source}) :
      (({ h with declaredLinks := h.declaredLinks ++ [l] }.refer l.target).ensure
        l.target).nodeIds = g.nodeIds ∪ {l.source, l.target} := by
    rw [nodeIds_ensure]
    change h.nodeIds ∪ {l.target} = _
    rw [hsource, Set.union_assoc]
    rfl
  unfold drawLink
  split
  · exact hensured _ (nodeIds_of_update ..)
  · exact hensured _ (nodeIds_of_update ..)

def Declaration.named (d : Declaration) : Set String :=
  {d.source} ∪ {x | ∃ l ∈ d.links, x ∈ ({l.source, l.target} : Set String)}

theorem nodeIds_declare (d : Declaration) : (g.declare d).nodeIds = g.nodeIds ∪ d.named := by
  rw [declare, foldl_union_all nodeIds_drawLink, nodeIds_ensure, Set.union_assoc]
  rfl

theorem nodeIds_classify {id : String} (hid : id ∈ g.nodeIds) (declared : Option String) :
    (g.classify id declared).nodeIds = g.nodeIds := by
  have hsame (value : Value) : (g.describe id classificationKey value).nodeIds = g.nodeIds := by
    rw [nodeIds_describe, Set.union_eq_self_of_subset_right (Set.singleton_subset_iff.2 hid)]
  unfold classify
  split
  · exact hsame _
  · split
    · exact hsame _
    · rfl

def IsClassified (e : Entity) : Prop := e.classification.filter (· ≠ "") ≠ none

theorem nodeIds_describeEntity (e : Entity) :
    (g.describeEntity e).nodeIds = g.nodeIds ∪ {x | IsClassified e ∧ x = e.id} := by
  unfold describeEntity IsClassified
  cases e.classification.filter (· ≠ "") with
  | none => simp
  | some text => simpa using nodeIds_describe ..

def described (a : Asset) : Set String :=
  {x | a.id? = some x} ∪ {x | ∃ e ∈ a.header.entities, IsClassified e ∧ x = e.id}

theorem nodeIds_describeAsset (a : Asset) :
    (g.describeAsset a).nodeIds = g.nodeIds ∪ described a := by
  unfold describeAsset
  rw [foldl_union_all nodeIds_describeEntity, described, ← Set.union_assoc]
  congr 1
  cases hid : a.id? with
  | none => simp
  | some id =>
    have hroot : id ∈ (g.describe id fileRootKey (.bool true)).nodeIds := by
      rw [nodeIds_describe]
      exact .inr rfl
    dsimp only
    rw [nodeIds_classify _ hroot, nodeIds_describe]
    ext x
    simp [eq_comm]

end Nodes

/-! ### What a document implies -/

/-- The identifiers that a document refers to besides its links, and itself if it is in the
folder of a hub. -/
def Sources.mentionedBy (s : Sources) (a : Asset) : Set String :=
  {x | x ∈ s.endpointsIn a} ∪ {x | a.id? = some x ∧ s.hubEdgesOf a ≠ ∅} ∪
    {x | ∃ file, a.id? = some file ∧ x ∈ s.nodesIn a ∧ x ≠ file ∧ IsSemantic x}

section Implied

variable {s : Sources} {g : Graph}

theorem nodeIds_own (hg : Holds s s.links g) (file found : String) :
    (g.own file found).nodeIds = g.nodeIds ∪ endsOf (s.ownedEdges file found) := by
  rcases own_cases hg file found with
    ⟨-, hnone, hsame⟩ | ⟨-, ⟨hnone, hrefer⟩ | ⟨e, hedge, hconnect⟩⟩
  · rw [hsame, hnone, endsOf_empty, Set.union_empty]
  · rw [hrefer, hnone, endsOf_empty, Set.union_empty]
    rfl
  · rw [hconnect, hedge, nodeIds_connect]
    rfl

theorem nodeIds_joinHub (hg : Holds s s.links g) {a : Asset} (ha : s.IsDocument a) {id : String}
    (hid : a.id? = some id) :
    (g.joinHub a.path id).nodeIds = g.nodeIds ∪ endsOf (s.hubEdgesOf a) := by
  rcases joinHub_cases hg ha hid with ⟨hnone, hsame⟩ | ⟨hub, hedge, hconnect⟩
  · rw [hsame, hnone, endsOf_empty, Set.union_empty]
  · rw [hconnect, hedge]
    exact nodeIds_connect g hub id

theorem endsOf_exists {items : List α} (edges : α → Set (String × String)) :
    endsOf {e | ∃ a ∈ items, e ∈ edges a} = {x | ∃ a ∈ items, x ∈ endsOf (edges a)} := by
  ext x
  constructor
  · rintro ⟨e, ⟨a, ha, he⟩, hx⟩
    exact ⟨a, ha, e, he, hx⟩
  · rintro ⟨a, ha, e, he, hx⟩
    exact ⟨e, ⟨a, ha, he⟩, hx⟩

theorem nodeIds_imply (hg : Holds s s.links g) {a : Asset} (ha : s.IsDocument a) :
    (g.imply a).nodeIds = g.nodeIds ∪ endsOf (s.hubEdgesOf a ∪ s.ownershipEdgesOf a) := by
  have hkeep (g : Graph) (id : String) : (g.refer id).nodeIds = g.nodeIds := rfl
  have hrefer : ((s.endpointsIn a).foldl refer g).nodeIds = g.nodeIds := foldl_same hkeep g _
  have hdeclared := Holds.foldl (fun _ id hg => hg.refer id) hg (s.endpointsIn a)
  rw [imply_eq hg]
  cases hid : a.id? with
  | none =>
    have hnone : s.hubEdgesOf a ∪ s.ownershipEdgesOf a = ∅ := by
      ext e
      simp [Sources.hubEdgesOf, Sources.ownershipEdgesOf, hid]
    rw [hnone, endsOf_empty, Set.union_empty]
    exact hrefer
  | some file =>
    have hjoined := nodeIds_joinHub hdeclared ha hid
    have hstep (g : Graph) (found : String) (_ : found ∈ s.nodesIn a) (hg : Holds s s.links g) :
        (g.own file found).nodeIds = g.nodeIds ∪ endsOf (s.ownedEdges file found) :=
      nodeIds_own hg file found
    have howned := foldl_union (fun g found hg => Holds.own hg file found) hstep
      (hdeclared.joinHub a.path file)
    rw [howned, hjoined, hrefer, endsOf_union, ownershipEdgesOf_eq hid, endsOf_exists,
      Set.union_assoc]

/-! ### References -/

theorem referred_refer (g : Graph) (id : String) : (g.refer id).referred = g.referred ∪ {id} := by
  ext other
  exact mem_addNew

theorem referred_drawLink (g : Graph) (l : Link) :
    (g.drawLink l).referred = g.referred ∪ {l.target} := by
  unfold drawLink
  cases l.kind <;> exact referred_refer ..

def Declaration.targets (d : Declaration) : Set String := {x | ∃ l ∈ d.links, x = l.target}

theorem referred_declare (g : Graph) (d : Declaration) :
    (g.declare d).referred = g.referred ∪ d.targets :=
  foldl_union_all referred_drawLink (g.ensure d.source) d.links

/-- An identifier in the diagram of a file, if it can be owned by the file or own it. -/
def ownable (file found : String) : Set String :=
  {x | (found ≠ file ∧ IsSemantic found) ∧ x = found}

theorem referred_own (hg : Holds s s.links g) (file found : String) :
    (g.own file found).referred = g.referred ∪ ownable file found := by
  rcases own_cases hg file found with ⟨hskip, -, hsame⟩ | ⟨htake, ⟨-, hrefer⟩ | ⟨e, -, hconnect⟩⟩
  · simp only [ownable, hsame, hskip, false_and]
    exact (Set.union_empty _).symm
  · rw [hrefer, referred_refer]
    simp [ownable, htake]
  · have hrefer : ((g.refer found).connect e.1 e.2).referred = (g.refer found).referred := rfl
    rw [hconnect, hrefer, referred_refer]
    simp [ownable, htake]

theorem referred_joinHub (hg : Holds s s.links g) {a : Asset} (ha : s.IsDocument a) {id : String}
    (hid : a.id? = some id) :
    (g.joinHub a.path id).referred = g.referred ∪ {x | a.id? = some x ∧ s.hubEdgesOf a ≠ ∅} := by
  rcases joinHub_cases hg ha hid with ⟨hnone, hsame⟩ | ⟨hub, hedge, hconnect⟩
  · rw [hsame]
    simp [hnone]
  · have hconnected : (g.connect hub id).referred = g.referred := rfl
    rw [hconnect, referred_refer, hconnected, hid, hedge]
    ext x
    simp [eq_comm]

theorem referred_imply (hg : Holds s s.links g) {a : Asset} (ha : s.IsDocument a) :
    (g.imply a).referred = g.referred ∪ s.mentionedBy a := by
  have hrefer : ((s.endpointsIn a).foldl refer g).referred =
      g.referred ∪ {x | x ∈ s.endpointsIn a} := by
    rw [foldl_union_all referred_refer]
    congr 1
    ext x
    simp
  have hdeclared := Holds.foldl (fun _ id hg => hg.refer id) hg (s.endpointsIn a)
  rw [imply_eq hg]
  cases hid : a.id? with
  | none =>
    rw [Sources.mentionedBy, hid]
    simpa using hrefer
  | some file =>
    have hjoined := referred_joinHub hdeclared ha hid
    have hstep (g : Graph) (found : String) (_ : found ∈ s.nodesIn a) (hg : Holds s s.links g) :
        (g.own file found).referred = g.referred ∪ ownable file found :=
      referred_own hg file found
    have howned := foldl_union (fun g found hg => Holds.own hg file found) hstep
      (hdeclared.joinHub a.path file)
    have hfound : {x | ∃ found ∈ s.nodesIn a, x ∈ ownable file found} =
        {x | ∃ file, a.id? = some file ∧ x ∈ s.nodesIn a ∧ x ≠ file ∧ IsSemantic x} := by
      ext x
      simp only [ownable, hid, Set.mem_ofPred_eq, Option.some.injEq, exists_eq_left']
      constructor
      · rintro ⟨found, hfound, htake, rfl⟩
        exact ⟨hfound, htake⟩
      · rintro ⟨hfound, htake⟩
        exact ⟨x, hfound, htake, rfl⟩
    rw [howned, hjoined, hrefer, hfound, Sources.mentionedBy, Set.union_assoc, Set.union_assoc,
      Set.union_assoc]

end Implied

/-! ### The assembled graph -/

variable (s : Sources)

/-- The nodes of a project: what is declared, what is linked to, and the ends of implied edges. -/
theorem nodeIds_build :
    (build s).1.nodeIds =
      {x | ∃ d ∈ s.documents.flatMap declarationsOf, x ∈ d.named} ∪
        {x | ∃ a ∈ s.documents, x ∈ endsOf (s.hubEdgesOf a ∪ s.ownershipEdgesOf a)} ∪
        {x | ∃ a ∈ s.documents, x ∈ described a} := by
  have hregistered : s.registered.nodeIds = ∅ := by
    have hkept : s.registered.nodeIds = (start s).nodeIds := registered_same (fun _ _ _ => rfl) s
    rw [hkept]
    exact Set.eq_empty_of_forall_notMem fun _ => List.not_mem_nil
  have hdrawn := foldl_union_all nodeIds_declare s.registered (s.documents.flatMap declarationsOf)
  have haddressed : s.addressed.nodeIds = s.drawn.nodeIds := addressed_same (fun _ _ _ => rfl) s
  have hstep (g : Graph) (a : Asset) (ha : a ∈ s.documents) (hg : Holds s s.links g) :
      (g.imply a).nodeIds = g.nodeIds ∪ endsOf (s.hubEdgesOf a ∪ s.ownershipEdgesOf a) :=
    nodeIds_imply hg (Sources.mem_documents.1 ha)
  have himplied := foldl_union (fun _ a hg => Holds.imply hg a) hstep (holds_addressed s)
  rw [build_eq_stages, foldl_union_all nodeIds_describeAsset, Sources.implied, himplied,
    haddressed, Sources.drawn, hdrawn, hregistered, Set.empty_union]

/-- The references of a project: hubs, targets of links, and what diagrams and folders imply. -/
theorem referred_build :
    (build s).1.referred =
      {x | x = rootId ∨ x ∈ s.hubs.map (·.id)} ∪ {x | ∃ l ∈ s.links, x = l.target} ∪
        {x | ∃ a ∈ s.documents, x ∈ s.mentionedBy a} := by
  have hregistered : s.registered.referred = {x | x = rootId ∨ x ∈ s.hubs.map (·.id)} := by
    have hkept : s.registered.referred = (start s).referred := registered_same (fun _ _ _ => rfl) s
    rw [hkept]
    ext x
    exact mem_foldl_addNew.trans (or_congr_left List.mem_singleton)
  have hdrawn := foldl_union_all referred_declare s.registered (s.documents.flatMap declarationsOf)
  have hlinks : {x | ∃ d ∈ s.documents.flatMap declarationsOf, x ∈ d.targets} =
      {x | ∃ l ∈ s.links, x = l.target} := by
    ext x
    constructor
    · rintro ⟨d, hd, l, hl, hx⟩
      exact ⟨l, List.mem_flatMap.2 ⟨d, hd, hl⟩, hx⟩
    · rintro ⟨l, hl, hx⟩
      obtain ⟨d, hd, hl⟩ := List.mem_flatMap.1 hl
      exact ⟨d, hd, l, hl, hx⟩
  have haddressed : s.addressed.referred = s.drawn.referred :=
    addressed_same (fun _ _ _ => rfl) s
  have hbuilt : (build s).1.referred = s.implied.referred := build_same (fun _ _ _ _ => rfl) s
  have hstep (g : Graph) (a : Asset) (ha : a ∈ s.documents) (hg : Holds s s.links g) :
      (g.imply a).referred = g.referred ∪ s.mentionedBy a :=
    referred_imply hg (Sources.mem_documents.1 ha)
  have himplied := foldl_union (fun _ a hg => Holds.imply hg a) hstep (holds_addressed s)
  rw [hbuilt, Sources.implied, himplied, haddressed, Sources.drawn, hdrawn, hlinks, hregistered]

end Graph

end DocTrace
