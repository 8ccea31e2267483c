import DocTrace.Graph.Session
import DocTrace.Proofs.Graph.Edges

/-! The linked neighbours of an identifier are those at the other end of an edge, whichever of
both ends knows of it. The inverse of a graph holds for each identifier the nodes that list it, in
the order of the nodes; looking an identifier up there gives what going through all nodes gives. -/

namespace DocTrace.Graph

theorem mem_nodesWith {g : Graph} {p : Node → Bool} {id : String} :
    id ∈ g.nodesWith p ↔ ∃ n, g.nodes.find? id = some n ∧ p n = true := by
  simp only [nodesWith, List.mem_map, List.mem_filter, Table.find?_eq_some_iff]
  constructor
  · rintro ⟨⟨key, n⟩, ⟨hmem, hp⟩, rfl⟩
    exact ⟨n, hmem, hp⟩
  · rintro ⟨n, hmem, hp⟩
    exact ⟨(id, n), ⟨hmem, hp⟩, rfl⟩

theorem mem_downlinks {g : Graph} {p c : String} :
    c ∈ g.downlinks p ↔ ∃ n, g.nodes.find? p = some n ∧ c ∈ n.downlinks := by
  rw [downlinks]
  cases g.nodes.find? p <;> simp

theorem mem_uplinks {g : Graph} {p c : String} :
    p ∈ g.uplinks c ↔ ∃ n, g.nodes.find? c = some n ∧ p ∈ n.uplinks := by
  rw [uplinks]
  cases g.nodes.find? c <;> simp

theorem mem_linkedUplinks {g : Graph} {p c : String} :
    p ∈ g.linkedUplinks c ↔ (p, c) ∈ g.upEdges ∪ g.downEdges := by
  rw [linkedUplinks, mem_foldl_addNew, mem_nodesWith]
  simp only [List.contains_eq_mem, decide_eq_true_eq]
  exact or_congr_right mem_downlinks.symm

theorem mem_linkedDownlinks {g : Graph} {p c : String} :
    c ∈ g.linkedDownlinks p ↔ (p, c) ∈ g.upEdges ∪ g.downEdges := by
  rw [linkedDownlinks, mem_foldl_addNew, mem_nodesWith]
  simp only [List.contains_eq_mem, decide_eq_true_eq]
  rw [← mem_uplinks]
  exact or_comm

theorem DistinctEdges.nodup_linkedUplinks {g : Graph} (hg : g.DistinctEdges) (id : String) :
    (g.linkedUplinks id).Nodup := nodup_foldl_addNew (hg id).1 _

theorem DistinctEdges.nodup_linkedDownlinks {g : Graph} (hg : g.DistinctEdges) (id : String) :
    (g.linkedDownlinks id).Nodup := nodup_foldl_addNew (hg id).2 _

/-! ### The inverse of a graph -/

namespace Inverse

theorem find?_note (owner : String) (t : Table String (List String)) (listed : List String)
    (id : String) :
    ((note owner t listed).find? id).getD [] =
      (t.find? id).getD [] ++ List.replicate (listed.count id) owner := by
  induction listed generalizing t with
  | nil => simp [note]
  | cons other rest ih =>
    have hrest := ih (t.update other [] (· ++ [owner]))
    rw [note, List.foldl_cons]
    rw [note] at hrest
    rw [hrest, Table.find?_update]
    by_cases hid : id = other
    · subst hid
      rw [if_pos rfl, List.count_cons_self, Option.getD_some, List.append_assoc,
        List.replicate_succ]
      rfl
    · rw [if_neg hid, List.count_cons_of_ne (Ne.symm hid)]

theorem find?_foldl_note (links : Node → List String) (entries : List (String × Node))
    (t : Table String (List String)) (id : String) :
    ((entries.foldl (fun t e => note e.1 t (links e.2)) t).find? id).getD [] =
      (t.find? id).getD [] ++
        entries.flatMap fun e => List.replicate ((links e.2).count id) e.1 := by
  induction entries generalizing t with
  | nil => simp
  | cons e rest ih => rw [List.foldl_cons, ih, find?_note, List.flatMap_cons, List.append_assoc]

variable (g : Graph)

theorem parents_ofGraph :
    (ofGraph g).parents =
      g.nodes.entries.foldl (fun t e => note e.1 t e.2.downlinks) {} :=
  (List.foldl_hom Inverse.parents fun _ _ => rfl).symm

theorem children_ofGraph :
    (ofGraph g).children =
      g.nodes.entries.foldl (fun t e => note e.1 t e.2.uplinks) {} :=
  (List.foldl_hom Inverse.children fun _ _ => rfl).symm

theorem foldl_parentsOf (id : String) :
    ((ofGraph g).parentsOf id).foldl addNew (g.uplinks id) = g.linkedUplinks id := by
  have hparents := find?_foldl_note Node.downlinks g.nodes.entries {} id
  rw [← parents_ofGraph, Table.find?_empty, Option.getD_none, List.nil_append] at hparents
  rw [parentsOf, hparents, foldl_addNew_listing]
  rfl

theorem foldl_childrenOf (id : String) :
    ((ofGraph g).childrenOf id).foldl addNew (g.downlinks id) = g.linkedDownlinks id := by
  have hchildren := find?_foldl_note Node.uplinks g.nodes.entries {} id
  rw [← children_ofGraph, Table.find?_empty, Option.getD_none, List.nil_append] at hchildren
  rw [childrenOf, hchildren, foldl_addNew_listing]
  rfl

end Inverse

end DocTrace.Graph
