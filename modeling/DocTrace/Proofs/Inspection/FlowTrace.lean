import DocTrace.Inspection.Traceability
import DocTrace.Proofs.Graph.Linked
import DocTrace.Proofs.Graph.Registry
import Mathlib.Data.List.Count
import Mathlib.Data.List.Nodup
import Mathlib.Data.List.Perm.Subperm
import Mathlib.Logic.Function.Iterate
import Mathlib.Logic.Relation

/-! The search for a functional requirement above a flow is exact in every graph, with cycles or
without: its queue runs empty, and it finds a requirement if and only if one can be reached. So
the flows that are reported are those above which no functional requirement stands. -/

namespace DocTrace.Inspection

open DocTrace.Graph Relation

/-- One identifier is linked above another one. -/
def Above (g : Graph) (child parent : String) : Prop := parent ∈ g.linkedUplinks child

/-! ### Rounds of the search -/

/-- The parents of an identifier that have not been seen. -/
def unseenParents (g : Graph) (seen : List String) (id : String) : List String :=
  (g.linkedUplinks id).filter fun p => !seen.contains p

theorem mem_unseenParents {g : Graph} {seen : List String} {id p : String} :
    p ∈ unseenParents g seen id ↔ Above g id p ∧ p ∉ seen := by
  simp [unseenParents, Above]

/-- One round of the search: an identifier leaves the queue, and its unseen parents join it. -/
def searchRound (g : Graph) : List String × List String → List String × List String
  | (seen, []) => (seen, [])
  | (seen, id :: rest) => (seen ++ unseenParents g seen id, rest ++ unseenParents g seen id)

theorem searchUp_cons (g : Graph) (fuel : ℕ) (seen : List String) (id : String)
    (rest : List String) :
    searchUp g (fuel + 1) seen (id :: rest) =
      ((unseenParents g seen id).any (isTraceGoal g) ||
        searchUp g fuel (seen ++ unseenParents g seen id) (rest ++ unseenParents g seen id)) := rfl

/-! ### The space of a search -/

/-- Whatever can be queued. There are as many as the fuel of the search. -/
def searchSpace (g : Graph) (start : String) : List String :=
  start :: g.nodes.keys ++ g.nodes.entries.flatMap fun e => e.2.uplinks

theorem length_searchSpace (g : Graph) (start : String) :
    (searchSpace g start).length = searchFuel g := by
  have hfold (entries : List (String × Node)) (fuel : ℕ) :
      entries.foldl (fun fuel e => fuel + e.2.uplinks.length) fuel =
        fuel + (entries.flatMap fun e => e.2.uplinks).length := by
    induction entries generalizing fuel with
    | nil => rfl
    | cons e rest ih =>
      rw [List.foldl_cons, ih, List.flatMap_cons, List.length_append, Nat.add_assoc]
  rw [searchFuel, hfold, searchSpace, List.length_append, List.length_cons, Table.keys,
    List.length_map, Table.size]

theorem count_uplinks_le (g : Graph) (id p : String) :
    (g.uplinks id).count p ≤ (g.nodes.entries.flatMap fun e => e.2.uplinks).count p := by
  rw [uplinks]
  cases hn : g.nodes.find? id with
  | none => simp
  | some n =>
    have hmem : n.uplinks ∈ g.nodes.entries.map fun e => e.2.uplinks :=
      List.mem_map.2 ⟨_, Table.find?_eq_some_iff.1 hn, rfl⟩
    exact (List.sublist_flatten_of_mem hmem).count_le p

/-- A parent that is queued several times stands in the space as often, as it is listed as often
by one end of the edge. -/
theorem count_linkedUplinks_le (g : Graph) (start id p : String) :
    (g.linkedUplinks id).count p ≤ (searchSpace g start).count p := by
  have hups := count_uplinks_le g id p
  rw [linkedUplinks, count_foldl_addNew, searchSpace, List.count_append]
  split
  · next hmem =>
    obtain ⟨n, hn, -⟩ := mem_nodesWith.1 hmem
    have hkey : p ∈ g.nodes.keys := Table.find?_isSome_iff.1 (by rw [hn]; rfl)
    have hlisted : 1 ≤ (start :: g.nodes.keys).count p :=
      List.one_le_count_iff.2 (List.mem_cons_of_mem _ hkey)
    omega
  · omega

/-- The state of a search: what is queued has been seen, all parents of what has left the queue
have been seen, and the fuel is enough for what can still be queued. -/
structure Searching (g : Graph) (start : String) (fuel : ℕ) (seen queue : List String) : Prop where
  queued : queue ⊆ seen
  closed : ∀ a ∈ seen, a ∉ queue → ∀ p, Above g a p → p ∈ seen
  space : seen.Subperm (searchSpace g start)
  fuel : (searchSpace g start).length + queue.length ≤ fuel + seen.length

theorem searching_start (g : Graph) (start : String) {fuel : ℕ} (hfuel : searchFuel g ≤ fuel) :
    Searching g start fuel [start] [start] where
  queued := fun _ h => h
  closed := fun _ h hnot => absurd h hnot
  space := List.singleton_subperm_iff.2 (by simp [searchSpace])
  fuel := by
    rw [length_searchSpace]
    omega

namespace Searching

variable {g : Graph} {start : String} {fuel : ℕ} {seen queue : List String}

theorem queue_eq_nil (h : Searching g start 0 seen queue) : queue = [] := by
  have hlength : seen.length ≤ (searchSpace g start).length := h.space.length_le
  have hfuel := h.fuel
  exact List.length_eq_zero_iff.1 (by omega)

theorem step {id : String} {rest : List String}
    (h : Searching g start (fuel + 1) seen (id :: rest)) :
    Searching g start fuel (seen ++ unseenParents g seen id)
      (rest ++ unseenParents g seen id) := by
  constructor
  · intro p hp
    rcases List.mem_append.1 hp with hp | hp
    · exact List.mem_append_left _ (h.queued (List.mem_cons_of_mem _ hp))
    · exact List.mem_append_right _ hp
  · intro a ha hleft p hp
    have hrest : a ∉ rest := fun hmem => hleft (List.mem_append_left _ hmem)
    have hseen : a ∈ seen := by
      refine (List.mem_append.1 ha).resolve_right fun hmem => ?_
      exact hleft (List.mem_append_right _ hmem)
    -- All parents of what leaves the queue now are new or have been seen before.
    by_cases hsame : a = id
    · subst hsame
      by_cases hold : p ∈ seen
      · exact List.mem_append_left _ hold
      · exact List.mem_append_right _ (mem_unseenParents.2 ⟨hp, hold⟩)
    · have hqueue : a ∉ id :: rest := by simp [hsame, hrest]
      exact List.mem_append_left _ (h.closed a hseen hqueue p hp)
  -- What is queued now has not been seen, so its copies in the space are still free.
  · refine List.subperm_ext_iff.2 fun p _ => ?_
    rw [List.count_append]
    by_cases hold : p ∈ seen
    · have hnone : (unseenParents g seen id).count p = 0 :=
        List.count_eq_zero.2 fun hmem => (mem_unseenParents.1 hmem).2 hold
      rw [hnone]
      exact h.space.count_le p
    · have hcount : (unseenParents g seen id).count p ≤ (g.linkedUplinks id).count p :=
        List.filter_sublist.count_le p
      rw [List.count_eq_zero.2 hold, Nat.zero_add]
      exact hcount.trans (count_linkedUplinks_le g start id p)
  · have hfuel := h.fuel
    simp only [List.length_append, List.length_cons] at hfuel ⊢
    omega

theorem mem_of_reach (h : Searching g start fuel seen []) {a p : String} (ha : a ∈ seen)
    (hreach : ReflTransGen (Above g) a p) : p ∈ seen := by
  induction hreach with
  | refl => exact ha
  | tail _ hstep ih => exact h.closed _ ih List.not_mem_nil _ hstep

/-- The search tells whether a goal that has not been seen can be reached. -/
theorem searchUp_iff (h : Searching g start fuel seen queue) :
    searchUp g fuel seen queue = true ↔
      ∃ a ∈ seen, ∃ p ∉ seen, isTraceGoal g p = true ∧ ReflTransGen (Above g) a p := by
  induction fuel generalizing seen queue with
  | zero =>
    obtain rfl := h.queue_eq_nil
    refine iff_of_false (by simp [searchUp]) ?_
    rintro ⟨a, ha, p, hp, -, hreach⟩
    exact hp (h.mem_of_reach ha hreach)
  | succ fuel ih =>
    cases queue with
    | nil =>
      refine iff_of_false (by simp [searchUp]) ?_
      rintro ⟨a, ha, p, hp, -, hreach⟩
      exact hp (h.mem_of_reach ha hreach)
    | cons id rest =>
      rw [searchUp_cons, Bool.or_eq_true, List.any_eq_true, ih h.step]
      constructor
      · rintro (⟨p, hp, hgoal⟩ | ⟨a, ha, p, hp, hgoal, hreach⟩)
        · obtain ⟨habove, hnew⟩ := mem_unseenParents.1 hp
          exact ⟨id, h.queued (List.mem_cons_self ..), p, hnew, hgoal, .single habove⟩
        · have hnew : p ∉ seen := fun hmem => hp (List.mem_append_left _ hmem)
          rcases List.mem_append.1 ha with ha | ha
          · exact ⟨a, ha, p, hnew, hgoal, hreach⟩
          · have habove := (mem_unseenParents.1 ha).1
            exact ⟨id, h.queued (List.mem_cons_self ..), p, hnew, hgoal, hreach.head habove⟩
      · rintro ⟨a, ha, p, hp, hgoal, hreach⟩
        by_cases hparent : Above g id p
        · exact .inl ⟨p, mem_unseenParents.2 ⟨hparent, hp⟩, hgoal⟩
        · refine .inr ⟨a, List.mem_append_left _ ha, p, fun hmem => ?_, hgoal, hreach⟩
          rcases List.mem_append.1 hmem with hmem | hmem
          · exact hp hmem
          · exact hparent (mem_unseenParents.1 hmem).1

/-- With fuel for a search, as many rounds empty the queue. -/
theorem queue_iterate (h : Searching g start fuel seen queue) :
    ((searchRound g)^[fuel] (seen, queue)).2 = [] := by
  induction fuel generalizing seen queue with
  | zero => exact h.queue_eq_nil
  | succ fuel ih =>
    cases queue with
    | nil =>
      have hfixed : searchRound g (seen, []) = (seen, []) := rfl
      rw [Function.iterate_fixed hfixed]
    | cons id rest => exact ih h.step

end Searching

/-- A flow traces to a requirement if and only if a functional one can be reached above it. -/
theorem tracesToRequirement_iff (g : Graph) (id : String) :
    tracesToRequirement g id = true ↔
      ∃ p, p ≠ id ∧ isTraceGoal g p = true ∧ ReflTransGen (Above g) id p := by
  rw [tracesToRequirement, (searching_start g id le_rfl).searchUp_iff]
  simp

/-- More fuel than there is for a search does not change what it finds. -/
theorem searchUp_of_le {g : Graph} {fuel : ℕ} (hfuel : searchFuel g ≤ fuel) (id : String) :
    searchUp g fuel [id] [id] = tracesToRequirement g id := by
  rw [Bool.eq_iff_iff, (searching_start g id hfuel).searchUp_iff, tracesToRequirement,
    (searching_start g id le_rfl).searchUp_iff]

/-! ### Reported flows -/

/-- The classification of an identifier says in some letter case that it is functional, or it has
no classification and stands for a file. -/
def IsFunctional (g : Graph) (id : String) : Prop :=
  (∃ v, g.metadata? id classificationKey = some v ∧ v.truthy = true ∧
    Text.lowerString v.toText = "functional") ∨
  ((∀ v, g.metadata? id classificationKey = some v → v.truthy = false) ∧
    ∃ v, g.metadata? id fileRootKey = some v ∧ v.truthy = true)

theorem isFunctional_iff {g : Graph} {id : String} :
    isFunctional g id = true ↔ IsFunctional g id := by
  unfold isFunctional IsFunctional
  have hroot : ((g.metadata? id fileRootKey).map Value.truthy).getD false = true ↔
      ∃ v, g.metadata? id fileRootKey = some v ∧ v.truthy = true := by
    cases g.metadata? id fileRootKey <;> simp
  cases hv : g.metadata? id classificationKey with
  | none => simpa using hroot
  | some v =>
    cases htruthy : v.truthy with
    | false => simpa [Option.filter, htruthy] using hroot
    | true => simp [Option.filter, htruthy]

/-- A functional requirement stands above an identifier, one or more links away. -/
def IsTraced (g : Graph) (id : String) : Prop :=
  ∃ p, isRequirement p = true ∧ IsFunctional g p ∧ TransGen (Above g) id p

theorem head?_of_beginsWith {start id : String} {c : Char} (hc : start.toList.head? = some c)
    (h : Text.beginsWith start id = true) : id.toList.head? = some c := by
  obtain ⟨rest, hrest⟩ := List.isPrefixOf_iff_prefix.1 h
  rw [← hrest, List.head?_append_of_ne_nil _ (fun hnil => by simp [hnil] at hc), hc]

theorem not_isRequirement_of_flow {id : String} (h : Text.beginsWith "FLOW_" id = true) :
    isRequirement id = false := by
  by_contra hreq
  have hflow : id.toList.head? = some 'F' := head?_of_beginsWith rfl h
  have hother : id.toList.head? = some 'R' := head?_of_beginsWith rfl (Bool.of_not_eq_false hreq)
  simp [hflow] at hother

theorem tracesToRequirement_flow {g : Graph} {id : String}
    (h : Text.beginsWith "FLOW_" id = true) :
    tracesToRequirement g id = true ↔ IsTraced g id := by
  rw [tracesToRequirement_iff]
  simp only [isTraceGoal, Bool.and_eq_true, isFunctional_iff, IsTraced]
  constructor
  · rintro ⟨p, hne, ⟨hreq, hfunctional⟩, hreach⟩
    rcases reflTransGen_iff_eq_or_transGen.1 hreach with heq | htrans
    · exact absurd heq hne
    · exact ⟨p, hreq, hfunctional, htrans⟩
  · rintro ⟨p, hreq, hfunctional, htrans⟩
    refine ⟨p, ?_, ⟨hreq, hfunctional⟩, htrans.to_reflTransGen⟩
    -- A flow is no requirement, so the way up to one is never the empty one.
    rintro rfl
    simp [not_isRequirement_of_flow h] at hreq

/-- The finding about a flow without a functional requirement above it. -/
def untracedFlow (g : Graph) (id : String) : Finding :=
  about g id ("Flow " ++ Finding.quoted id ++ " does not trace to any functional requirement")

open Classical in
/-- In every graph, the search above an identifier empties its queue within its fuel, and the
declared flows that no functional requirement stands above are reported, each of them once and in
the order of their declarations. -/
theorem flowRequirementTrace_eq (g : Graph) :
    (∀ id, ((searchRound g)^[searchFuel g] ([id], [id])).2 = [] ∧
      ∀ fuel ≥ searchFuel g, searchUp g fuel [id] [id] = tracesToRequirement g id) ∧
    g.declaredIds.Nodup ∧
    flowRequirementTrace g =
      (g.declaredIds.filter fun id => Text.beginsWith "FLOW_" id ∧ ¬IsTraced g id).map
        (untracedFlow g) := by
  refine ⟨fun id => ⟨(searching_start g id le_rfl).queue_iterate,
    fun fuel hfuel => searchUp_of_le hfuel id⟩, nodup_declaredIds g, ?_⟩
  rw [flowRequirementTrace, declaredWith, List.filter_filter]
  congr 1
  refine List.filter_congr fun id _ => ?_
  rw [Bool.eq_iff_iff, Bool.and_eq_true, Bool.not_eq_true', decide_eq_true_eq, and_comm]
  refine and_congr_right fun hflow => ?_
  rw [← tracesToRequirement_flow hflow, Bool.not_eq_true]

end DocTrace.Inspection
