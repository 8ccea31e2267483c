import DocTrace.Proofs.Graph.DocumentOrder
import DocTrace.Proofs.Rule.Recording
import Mathlib.Data.List.Flatten

/-! With distinct identifiers the order of documents does not matter to an evaluation: it comes
to the same violations, each as often. -/

namespace DocTrace

open Inspection

namespace Graph

theorem nodeIds_untyped (g : Graph) : g.untyped.nodeIds = g.nodeIds := by
  rw [nodeIds, keys_untyped, nodeIds]

theorem distinctEdges_untyped (g : Graph) : g.untyped.DistinctEdges ↔ g.DistinctEdges := by
  simp [DistinctEdges]

/-- Graphs are alike exactly if they are so without their persona types, and these are equal. -/
theorem alike_iff_untyped {g h : Graph} :
    Alike g h ↔ Alike g.untyped h.untyped ∧ g.personaType? = h.personaType? := by
  constructor
  · intro halike
    obtain ⟨hmetadata, htypes⟩ := metadata?_eq_iff.1 halike.metadata
    refine ⟨{ halike with
      nodes := ?_, uplinks := ?_, downlinks := ?_, metadata := hmetadata, distinct := ?_ }, htypes⟩
    · rw [nodeIds_untyped, nodeIds_untyped, halike.nodes]
    · simpa using halike.uplinks
    · simpa using halike.downlinks
    · exact (distinctEdges_untyped g).2 halike.distinct
  · rintro ⟨halike, htypes⟩
    have hmetadata := metadata?_eq_iff.2 ⟨halike.metadata, htypes⟩
    refine { halike with
      nodes := ?_, uplinks := ?_, downlinks := ?_, metadata := hmetadata, distinct := ?_ }
    · rw [← nodeIds_untyped, halike.nodes, nodeIds_untyped]
    · simpa using halike.uplinks
    · simpa using halike.downlinks
    · exact (distinctEdges_untyped g).1 halike.distinct

theorem Alike.freeze {g h : Graph} (halike : Alike g h) : Alike g.freeze h.freeze := by
  cases halike
  constructor <;> assumption

end Graph

namespace Rule

open DocTrace.Graph

section Alike

variable {g h : Graph} (halike : Alike g h)

include halike

theorem offeredType?_alike : offeredType? g = offeredType? h := by
  funext a
  simp only [offeredType?, personaGate, halike.analyses]

theorem offerOf_alike (a : Asset) (checks : List Check) :
    offerOf g a checks = offerOf h a checks := by
  induction checks with
  | nil => rfl
  | cons check rest ih =>
    have hreport := report_alike halike (some a) check
    rw [offerOf, offerOf, ih, offeredType?_alike halike]
    generalize check.report g (some a) = first at hreport
    generalize check.report h (some a) = second at hreport
    cases hreport <;> rfl

theorem offerFrom_alike (rules : List Rule) : offerFrom rules g = offerFrom rules h := by
  funext a
  simp only [offerFrom, offerOf_alike halike, offeredType?_alike halike]

theorem reportAll_alike (a : Option Asset) (checks : List Check) :
    SameUpToOrder (reportAll g a checks) (reportAll h a checks) := by
  induction checks with
  | nil => exact .refl _
  | cons check rest ih =>
    have hreport := report_alike halike a check
    rw [reportAll, reportAll]
    generalize check.report g a = first at hreport
    generalize check.report h a = second at hreport
    cases hreport with
    | error crash => exact .error crash
    | ok hfound => exact ih.map fun _ _ hmore => hfound.append hmore

theorem reported_alike (r : Rule) (a : Option Asset) :
    (r.reported a g).Perm (r.reported a h) := by
  have hreport := reportAll_alike halike a r.checks
  rw [reported, reported]
  generalize reportAll g a r.checks = first at hreport
  generalize reportAll h a r.checks = second at hreport
  cases hreport with
  | error crash => exact .refl _
  | ok hfound => exact hfound.map _

end Alike

/-! ### Persona types -/

theorem mem_allIds_of_offerFrom {rules : List Rule} {g : Graph} {a : Asset}
    {offer : String × String} (hoffer : offerFrom rules g a = some offer) :
    offer.1 ∈ a.header.allIds := by
  have hoffered : offeredType? g a = some offer := by
    rw [offerFrom] at hoffer
    split at hoffer
    · exact hoffer
    · contradiction
  obtain ⟨id, hid, hgate⟩ := Option.bind_eq_some_iff.1 hoffered
  obtain ⟨personaType, -, rfl⟩ := Option.map_eq_some_iff.1 hgate
  exact List.mem_append_left _ (Option.mem_toList.2 hid)

theorem local_withOffer (hasNode : String → Bool) {ids : List String}
    {offer : Option (String × String)} (hids : ∀ o ∈ offer, o.1 ∈ ids) :
    LocalAt ids (withOffer hasNode · offer) := by
  cases offer with
  | none => exact .id
  | some o =>
    have hmem : o.1 ∈ ids := hids o rfl
    constructor
    · intro types other hother
      have hne : other ≠ o.1 := fun h => hother (h ▸ hmem)
      simp [withOffer, hne]
    · intro types types' other _ h
      by_cases hid : other = o.1
      · subst hid
        simp [withOffer, h]
      · simp [withOffer, hid, h]

/-- Every document offers a type for its own identifier only, so the order does not matter. -/
theorem typesAfter_perm {g h : Graph} (halike : Alike g h) {assets others : List Asset}
    (hperm : assets.Perm others) (hdistinct : (assets.flatMap (·.header.allIds)).Nodup)
    (rules : List Rule) :
    typesAfter g g.personaType? (scheduledFor rules assets) =
      typesAfter h h.personaType? (scheduledFor rules others) := by
  have hnodes : g.nodes.contains = h.nodes.contains := funext halike.contains
  have htypes : g.personaType? = h.personaType? := by
    funext id
    rw [personaType?, personaType?, halike.metadata]
  rw [typesAfter_scheduledFor, typesAfter_scheduledFor, hnodes, htypes, offerFrom_alike halike]
  exact foldl_perm_of_local
    (fun a => local_withOffer h.nodes.contains fun _ => mem_allIds_of_offerFrom) hdistinct hperm _

/-! ### Evaluations -/

theorem scheduledFor_perm (rules : List Rule) {assets others : List Asset}
    (hperm : assets.Perm others) :
    (scheduledFor rules assets).Perm (scheduledFor rules others) := hperm.flatMap_right _

theorem evaluate_alike {g h : Graph} (halike : Alike g h) {assets others : List Asset}
    (hperm : assets.Perm others) (hdistinct : (assets.flatMap (·.header.allIds)).Nodup)
    {rules : List Rule} (hreads : ∀ r ∈ rules, r.readsTypes → r.isProject) :
    (evaluate rules assets g).1.Perm (evaluate rules others h).1 := by
  obtain ⟨last, hfacts, htypes, hfound⟩ := evaluate_eq hreads assets g
  obtain ⟨last', hfacts', htypes', hfound'⟩ := evaluate_eq hreads others h
  have hlast : Alike last last' := by
    refine alike_iff_untyped.2 ⟨?_, ?_⟩
    · rw [hfacts, hfacts']
      exact (alike_iff_untyped.1 halike.freeze).1
    · rw [htypes, htypes']
      exact typesAfter_perm halike.freeze hperm hdistinct rules
  rw [hfound, hfound']
  have hdocuments := (scheduledFor_perm rules hperm).flatMap fun e _ =>
    reported_alike halike.freeze e.1 (some e.2)
  have hproject := List.Perm.flatMap_left (rules.filter isProject) fun r _ =>
    reported_alike hlast r none
  exact hdocuments.append hproject

/-- With distinct identifiers the documents of a project can come in any order: their graphs are
alike, and an evaluation finds the same violations. -/
theorem evaluate_build_perm {s : Sources} {assets : List Asset} (hperm : s.assets.Perm assets)
    (hdistinct : (s.assets.flatMap (·.header.allIds)).Nodup) :
    s.canClassify = ({ s with assets } : Sources).canClassify ∧
      Alike (build s).1 (build { s with assets }).1 ∧
      ∀ rules : List Rule, (∀ r ∈ rules, r.readsTypes → r.isProject) →
        (evaluate rules s.assets (build s).1).1.Perm
          (evaluate rules assets (build { s with assets }).1).1 := by
  have hdocuments : (s.documents.flatMap (·.header.allIds)).Nodup :=
    hdistinct.sublist (List.filter_sublist.flatMap _)
  have halike := alike_build hperm hdocuments
  refine ⟨?_, halike, fun rules hreads => evaluate_alike halike hperm hdistinct hreads⟩
  exact (documents_perm hperm).all_eq

/-- A persona and the requirement that she drives, in both orders. -/
theorem evaluate_build_perm_two :
    let ann : Asset :=
      { path := "PER_ANN.mmd", header := { kind := .persona, id := some "PER_ANN" },
        body := "mindmap" }
    let login : Asset :=
      { path := "REQ_LOGIN.mmd", header := { kind := .requirement, id := some "REQ_LOGIN" },
        body := "graph TD" }
    let s : Sources := { assets := [ann, login] }
    let gate : Rule :=
      { id := "gate", name := "Gate", target := { idPrefix := some "PER_" },
        checks := [.named .personaGate] }
    let diversity : Rule :=
      { id := "diversity", name := "Diversity", level := .project,
        checks := [.named .personaDiversity] }
    (s.assets.flatMap (·.header.allIds)).Nodup ∧ s.assets.Perm [login, ann] ∧
      Alike (build s).1 (build { s with assets := [login, ann] }).1 ∧
      (evaluate [gate, diversity] s.assets (build s).1).1.Perm
        (evaluate [gate, diversity] [login, ann] (build { s with assets := [login, ann] }).1).1 := by
  intro ann login s gate diversity
  have hdistinct : (s.assets.flatMap (·.header.allIds)).Nodup := by decide
  have hperm : s.assets.Perm [login, ann] := .swap ..
  obtain ⟨-, halike, hevaluate⟩ := evaluate_build_perm hperm hdistinct
  exact ⟨hdistinct, hperm, halike, hevaluate [gate, diversity] (by decide)⟩

end Rule

end DocTrace
