import DocTrace.Proofs.Rule.Recording
import Mathlib.Data.List.Flatten
import Mathlib.Data.List.Perm.Subperm

/-! Rules do not interfere. Provided that only rules of the project read the types of personas,
and that the rules with a persona gate stay, other rules may come, go or change places without
an effect on what a rule reports. -/

namespace DocTrace.Rule

open DocTrace.Graph Inspection

theorem filter_of_other {r q : Rule} (hne : q.id ≠ r.id) {violations : List Violation}
    (hown : ∀ v ∈ violations, v.ruleId = q.id) :
    violations.filter (·.ruleId = r.id) = [] := by
  refine List.filter_eq_nil_iff.2 fun v hv => ?_
  rw [hown v hv]
  simpa using hne

/-- Of what all rules contribute, the violations with a rule's identifier are its own. -/
theorem filter_flatMap_own {rules : List Rule} (hids : (rules.map Rule.id).Nodup) {r : Rule}
    (hr : r ∈ rules) {f : Rule → List Violation} (hown : ∀ q, ∀ v ∈ f q, v.ruleId = q.id) :
    (rules.flatMap f).filter (·.ruleId = r.id) = f r := by
  induction rules with
  | nil => contradiction
  | cons q rest ih =>
    obtain ⟨hfresh, hrest⟩ := List.nodup_cons.1 hids
    rw [List.flatMap_cons, List.filter_append]
    rcases List.mem_cons.1 hr with rfl | hr
    · have hfirst : (f r).filter (·.ruleId = r.id) = f r :=
        List.filter_eq_self.2 fun v hv => by simpa using hown r v hv
      have hothers : (rest.flatMap f).filter (·.ruleId = r.id) = [] := by
        refine List.filter_eq_nil_iff.2 fun v hv hsame => ?_
        obtain ⟨q, hq, hv⟩ := List.mem_flatMap.1 hv
        have hid : q.id = r.id := (hown q v hv).symm.trans (by simpa using hsame)
        exact hfresh (hid ▸ List.mem_map_of_mem hq)
      rw [hfirst, hothers, List.append_nil]
    · have hne : q.id ≠ r.id := fun hid => hfresh (hid ▸ List.mem_map_of_mem hr)
      rw [filter_of_other hne (hown q), List.nil_append, ih hrest hr]

theorem flatMap_filter (rules : List Rule) (p : Rule → Bool) (f : Rule → List Violation) :
    (rules.filter p).flatMap f = rules.flatMap fun r => if p r then f r else [] := by
  induction rules with
  | nil => rfl
  | cons r rest ih =>
    rw [List.filter_cons, List.flatMap_cons, ← ih]
    split <;> rfl

/-- What a rule contributes to an evaluation that starts with one graph and comes to the rules
of the project with another one. -/
def contribution (r : Rule) (assets : List Asset) (first last : Graph) : List Violation :=
  (assets.flatMap fun a => if r.appliesTo a then r.reported (some a) first else []) ++
    if r.isProject then r.reported none last else []

theorem filter_evaluate {rules : List Rule} (hids : (rules.map Rule.id).Nodup) {r : Rule}
    (hr : r ∈ rules) (assets : List Asset) (first last : Graph) :
    ((scheduledFor rules assets).flatMap (fun e => e.1.reported (some e.2) first) ++
        (rules.filter isProject).flatMap (·.reported none last)).filter (·.ruleId = r.id) =
      r.contribution assets first last := by
  have hown (p : Rule → Bool) (a : Option Asset) (g : Graph) (q : Rule) :
      ∀ v ∈ (if p q then q.reported a g else []), v.ruleId = q.id := by
    intro v hv
    split at hv
    · exact ruleId_of_mem_reported hv
    · contradiction
  rw [List.filter_append, contribution]
  congr 1
  · rw [scheduledFor, List.flatMap_assoc, List.filter_flatMap]
    congr 1
    funext a
    rw [List.flatMap_map, flatMap_filter]
    exact filter_flatMap_own hids hr (hown (·.appliesTo a) (some a) first)
  · rw [flatMap_filter]
    exact filter_flatMap_own hids hr (hown isProject none last)

/-- The rules that do not come to a persona gate may be left out. -/
theorem offerFrom_of_subset {rules kept : List Rule} (hkept : ∀ r ∈ kept, r ∈ rules)
    (hgates : ∀ r ∈ rules, .named .personaGate ∈ r.checks → r ∈ kept) (g : Graph) (a : Asset) :
    offerFrom kept g a = offerFrom rules g a := by
  have hsame : kept.any (fun r => r.appliesTo a && (offerOf g a r.checks).isSome) =
      rules.any fun r => r.appliesTo a && (offerOf g a r.checks).isSome := by
    rw [Bool.eq_iff_iff, List.any_eq_true, List.any_eq_true]
    constructor
    · rintro ⟨r, hr, hoffers⟩
      exact ⟨r, hkept r hr, hoffers⟩
    · rintro ⟨r, hr, hoffers⟩
      refine ⟨r, hgates r hr ?_, hoffers⟩
      rcases offerOf_eq g a r.checks with hnone | ⟨hgate, -⟩
      · simp [hnone] at hoffers
      · exact hgate
  rw [offerFrom, offerFrom, hsame]

theorem contribution_congr {first g h : Graph} (hfacts : g.untyped = h.untyped)
    (htypes : g.personaType? = h.personaType?) (r : Rule) (assets : List Asset) :
    r.contribution assets first g = r.contribution assets first h := by
  rw [contribution, contribution, reported, reported, reportAll_congr hfacts htypes]

/-- A rule that is kept reports the same violations in the same order, whichever other rules
are evaluated with it. -/
theorem filter_evaluate_of_subperm {rules kept : List Rule} (hids : (rules.map Rule.id).Nodup)
    (hreads : ∀ r ∈ rules, r.readsTypes → r.isProject) (hkept : kept.Subperm rules)
    (hgates : ∀ r ∈ rules, .named .personaGate ∈ r.checks → r ∈ kept)
    (assets : List Asset) (g : Graph) {r : Rule} (hr : r ∈ kept) :
    (evaluate kept assets g).1.filter (·.ruleId = r.id) =
      (evaluate rules assets g).1.filter (·.ruleId = r.id) := by
  have hsubset : ∀ q ∈ kept, q ∈ rules := fun q hq => hkept.subset hq
  have hkeptIds : (kept.map Rule.id).Nodup := by
    obtain ⟨same, hperm, hsub⟩ := hkept
    exact ((hperm.map Rule.id).nodup_iff).1 (hids.sublist (hsub.map Rule.id))
  obtain ⟨last, hfacts, htypes, hfound⟩ :=
    evaluate_eq (fun q hq => hreads q (hsubset q hq)) assets g
  obtain ⟨last', hfacts', htypes', hfound'⟩ := evaluate_eq hreads assets g
  have hsame : last.personaType? = last'.personaType? := by
    rw [htypes, htypes', typesAfter_scheduledFor, typesAfter_scheduledFor]
    simp only [offerFrom_of_subset hsubset hgates]
  rw [hfound, hfound', filter_evaluate hkeptIds hr, filter_evaluate hids (hsubset r hr)]
  exact contribution_congr (hfacts.trans hfacts'.symm) hsame r assets

/-- Placement is left out, and the diversity of personas is put before their gate. -/
theorem filter_evaluate_of_subperm_two :
    let gate : Rule :=
      { id := "gate", name := "Gate", target := { idPrefix := some "PER_" },
        checks := [.named .personaGate] }
    let placement : Rule :=
      { id := "placement", name := "Placement", level := .project,
        checks := [.named .documentPlacement] }
    let diversity : Rule :=
      { id := "diversity", name := "Diversity", level := .project,
        checks := [.named .personaDiversity] }
    let ann : Asset :=
      { path := "PER_ANN.mmd", header := { id := some "PER_ANN" }, body := "mindmap" }
    let mindmap : Analysis := { diagramType := "mindmap", nodes := ["Type: Actor"] }
    let g := (build { assets := [ann], analyses := .ofList [(ann.path, mindmap)] }).1
    [diversity, gate].Subperm [gate, placement, diversity] ∧
      ∀ r ∈ [diversity, gate],
        (evaluate [diversity, gate] [ann] g).1.filter (·.ruleId = r.id) =
          (evaluate [gate, placement, diversity] [ann] g).1.filter (·.ruleId = r.id) := by
  intro gate placement diversity ann mindmap g
  have hkept : [diversity, gate].Subperm [gate, placement, diversity] :=
    ⟨[gate, diversity], List.Perm.swap ..,
      ((List.Sublist.refl [diversity]).cons placement).cons_cons gate⟩
  refine ⟨hkept, fun r hr => ?_⟩
  exact filter_evaluate_of_subperm (by decide) (by decide) hkept (by decide) [ann] g hr

end DocTrace.Rule
