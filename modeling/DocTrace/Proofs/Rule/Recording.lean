import DocTrace.Proofs.Graph.Changes
import DocTrace.Proofs.Rule.PersonaTypes

/-! What a run of checks leaves in the graph. The persona gate offers a type for the
identifier of its document, and the first type that is offered for an identifier stays. So
the types after all documents do not depend on how often or in which order the gates of one
document run, and a violation does not depend on the checks before it. -/

namespace DocTrace

namespace Inspection

/-- The identifier and the persona type that a document's mindmap offers for it. -/
def offeredType? (g : Graph) (a : Asset) : Option (String × String) :=
  a.id?.bind fun id => (personaGate g a).personaType.map (id, ·)

/-- A type unless there is one already. -/
def keptType (old : Option Value) (personaType : String) : Value :=
  match old with
  | none => .str personaType
  | some .null => .str personaType
  | some v => v

/-- The types of personas after one more is offered, where only some identifiers have a node. -/
def withOffer (hasNode : String → Bool) (types : String → Option Value) :
    Option (String × String) → String → Option Value
  | none => types
  | some (id, personaType) => fun other =>
    if other = id ∧ hasNode id = true then some (keptType (types id) personaType)
    else types other

theorem keptType_self (old : Option Value) (personaType : String) :
    keptType (some (keptType old personaType)) personaType = keptType old personaType := by
  rcases old with _ | v
  · rfl
  · cases v <;> rfl

theorem withOffer_self (hasNode : String → Bool) (types : String → Option Value)
    (offer : Option (String × String)) :
    withOffer hasNode (withOffer hasNode types offer) offer = withOffer hasNode types offer := by
  cases offer with
  | none => rfl
  | some offer =>
    funext other
    simp only [withOffer]
    split
    · next h => rw [if_pos ⟨trivial, h.2⟩, keptType_self]
    · rfl

end Inspection

open Inspection

theorem Value.eq_str_of_eqValue {v : Value} {s : String} (h : v.eqValue (.str s) = true) :
    v = .str s := by
  cases v <;> simp_all [Value.eqValue, Value.eqScalar, Value.number?]

namespace Graph

theorem untyped_annotate (g : Graph) (id : String) (value : Value) (writer : String) :
    (g.annotate id personaTypeKey value writer).2.1.untyped = g.untyped := by
  rcases annotate_cases g id personaTypeKey value writer with
    ⟨-, hsame, -⟩ | ⟨-, n, hn, hwritten, -⟩
  · rw [hsame]
  · have hmetadata : (n.metadata.put personaTypeKey value).filter
        (fun key _ => key ≠ personaTypeKey) =
        n.metadata.filter fun key _ => key ≠ personaTypeKey :=
      Table.filter_put _ _ fun _ => by simp
    have hnode : Node.untyped { n with metadata := n.metadata.put personaTypeKey value } =
        n.untyped := congrArg (Node.mk n.uplinks n.downlinks) hmetadata
    have hfound : (g.nodes.mapValues Node.untyped).find? id = some n.untyped := by
      rw [Table.find?_mapValues, hn]
      rfl
    rw [hwritten]
    simp only [untyped, Table.mapValues_put]
    rw [hnode, Table.put_of_find? hfound]

theorem personaType?_annotate (g : Graph) (id personaType writer : String) :
    (g.annotate id personaTypeKey (.str personaType) writer).2.1.personaType? =
      withOffer g.nodes.contains g.personaType? (some (id, personaType)) := by
  have hold {n : Node} (hn : g.nodes.find? id = some n) :
      g.personaType? id = n.metadata.find? personaTypeKey := by
    rw [personaType?, metadata?, hn]
    rfl
  funext other
  simp only [withOffer, Table.contains_eq_isSome]
  rcases annotate_cases g id personaTypeKey (.str personaType) writer with
    ⟨-, hsame, hother⟩ | ⟨-, n, hn, hwritten, hequal⟩
  · rw [hsame]
    split
    · next h =>
      obtain ⟨n, hn⟩ := Option.isSome_iff_exists.1 h.2
      obtain ⟨v, hv, hnull, -⟩ := hother n hn
      rw [h.1, hold hn, hv]
      cases v <;> first | rfl | contradiction
    · rfl
  · rw [hwritten, hold hn, hn]
    simp only [personaType?, metadata?, Table.find?_put, Option.isSome_some, and_true]
    split
    · show (n.metadata.put personaTypeKey (.str personaType)).find? personaTypeKey = _
      rw [Table.find?_put, if_pos rfl]
      congr 1
      cases hv : n.metadata.find? personaTypeKey with
      | none => rfl
      | some v =>
        by_cases hnull : v.isNull = true
        · cases v <;> first | rfl | contradiction
        · have heq := Value.eq_str_of_eqValue (hequal v hv (by simpa using hnull))
          rw [heq]
          rfl
    · rfl

end Graph

namespace Rule

open DocTrace.Graph

theorem record_gate (g : Graph) (a : Asset) (writer : String) :
    (Check.record g (some a) writer (.named .personaGate)).1.untyped = g.untyped ∧
      (Check.record g (some a) writer (.named .personaGate)).1.personaType? =
        withOffer g.nodes.contains g.personaType? (offeredType? g a) := by
  have hoffer : (a.id?.bind fun id => (personaGate g a).personaType.map (id, ·)) =
      offeredType? g a := rfl
  simp only [Check.record, Option.bind_some, hoffer]
  cases offeredType? g a with
  | none => exact ⟨rfl, rfl⟩
  | some o => exact ⟨untyped_annotate g o.1 _ writer, personaType?_annotate g o.1 o.2 writer⟩

theorem record_other (g : Graph) (a : Option Asset) (writer : String) {check : Check}
    (hgate : check ≠ .named .personaGate) : (check.record g a writer).1 = g := by
  unfold Check.record
  split
  · contradiction
  · rfl

theorem record_project (g : Graph) (writer : String) (check : Check) :
    (check.record g none writer).1 = g := by
  unfold Check.record
  split <;> rfl

/-- What some checks of a document offer for the persona types: they do if the persona gate is
among them, before any check that breaks off. -/
def offerOf (g : Graph) (a : Asset) : List Check → Option (String × String)
  | [] => none
  | check :: rest =>
    match check.report g (some a) with
    | .error _ => none
    | .ok _ => if check = .named .personaGate then offeredType? g a else offerOf g a rest

theorem offerOf_eq (g : Graph) (a : Asset) (checks : List Check) :
    offerOf g a checks = none ∨
      .named .personaGate ∈ checks ∧ offerOf g a checks = offeredType? g a := by
  induction checks with
  | nil => exact .inl rfl
  | cons check rest ih =>
    cases hreport : check.report g (some a) with
    | error crash => exact .inl (by rw [offerOf, hreport])
    | ok findings =>
      rw [offerOf, hreport]
      dsimp only
      split
      · next hgate => exact .inr ⟨hgate ▸ List.mem_cons_self .., rfl⟩
      · rcases ih with hnone | ⟨hmem, hoffer⟩
        · exact .inl hnone
        · exact .inr ⟨List.mem_cons_of_mem _ hmem, hoffer⟩

theorem withOffer_offerOf (g : Graph) (a : Asset) (types : String → Option Value)
    (checks : List Check) :
    withOffer g.nodes.contains (withOffer g.nodes.contains types (offeredType? g a))
        (offerOf g a checks) =
      withOffer g.nodes.contains types (offeredType? g a) := by
  rcases offerOf_eq g a checks with hnone | ⟨-, hoffer⟩
  · rw [hnone]
    rfl
  · rw [hoffer, withOffer_self]

theorem offeredType?_congr {g h : Graph} (hfacts : h.untyped = g.untyped) (a : Asset) :
    offeredType? h a = offeredType? g a := by
  have hanalyses : h.untyped.analyses = g.untyped.analyses := by rw [hfacts]
  change h.analyses = g.analyses at hanalyses
  simp only [offeredType?, personaGate, hanalyses]

/-- What some checks find on one graph, unless one of them breaks off. -/
def reportAll (g : Graph) (a : Option Asset) : List Check → Except Finding.Crash (List Finding)
  | [] => .ok []
  | check :: rest =>
    match check.report g a with
    | .error crash => .error crash
    | .ok findings => (reportAll g a rest).map (findings ++ ·)

/-- What the checks of a document find, and what they leave, as told by any graph with the
same facts. -/
theorem runChecks_document {g h : Graph} (hfacts : h.untyped = g.untyped) (a : Asset)
    (writer : String) {checks : List Check} (hreads : ∀ c ∈ checks, c.readsTypes = false) :
    (runChecks writer (some a) h checks).1 = reportAll g (some a) checks ∧
      (runChecks writer (some a) h checks).2.1.untyped = g.untyped ∧
      (runChecks writer (some a) h checks).2.1.personaType? =
        withOffer g.nodes.contains h.personaType? (offerOf g a checks) := by
  -- The graph changes with every gate, but its facts stay those of `g`, and so do the reports.
  induction checks generalizing h with
  | nil => exact ⟨rfl, hfacts, rfl⟩
  | cons check rest ih =>
    have hcheck := hreads check (List.mem_cons_self ..)
    have hothers : ∀ c ∈ rest, c.readsTypes = false :=
      fun c hc => hreads c (List.mem_cons_of_mem _ hc)
    have hreport : check.report h (some a) = check.report g (some a) := by
      rw [← report_untyped h _ hcheck, hfacts, report_untyped g _ hcheck]
    cases hfound : check.report g (some a) with
    | error crash =>
      simp only [runChecks, reportAll, offerOf, hreport, hfound]
      exact ⟨trivial, hfacts, rfl⟩
    | ok findings =>
      simp only [runChecks, reportAll, offerOf, hreport, hfound]
      by_cases hgate : check = .named .personaGate
      · subst hgate
        obtain ⟨hrecorded, hoffered⟩ := record_gate h a writer
        rw [contains_congr hfacts, offeredType?_congr hfacts] at hoffered
        obtain ⟨hmore, hleft, htypes⟩ := ih (hrecorded.trans hfacts) hothers
        rw [hoffered, withOffer_offerOf] at htypes
        exact ⟨by rw [hmore], hleft, by rw [htypes, if_pos rfl]⟩
      · rw [record_other h _ _ hgate, if_neg hgate]
        obtain ⟨hmore, hleft, htypes⟩ := ih hfacts hothers
        exact ⟨by rw [hmore], hleft, htypes⟩

theorem runChecks_project (g : Graph) (writer : String) (checks : List Check) :
    (runChecks writer none g checks).1 = reportAll g none checks ∧
      (runChecks writer none g checks).2.1 = g := by
  induction checks with
  | nil => exact ⟨rfl, rfl⟩
  | cons check rest ih =>
    obtain ⟨hmore, hleft⟩ := ih
    cases hreport : check.report g none with
    | error crash =>
      simp only [runChecks, reportAll, hreport]
      exact ⟨trivial, trivial⟩
    | ok findings =>
      simp only [runChecks, reportAll, hreport, record_project, hmore]
      exact ⟨trivial, hleft⟩

theorem reportAll_congr {g h : Graph} (hfacts : g.untyped = h.untyped)
    (htypes : g.personaType? = h.personaType?) (a : Option Asset) (checks : List Check) :
    reportAll g a checks = reportAll h a checks := by
  induction checks with
  | nil => rfl
  | cons check rest ih => rw [reportAll, reportAll, report_congr hfacts htypes, ih]

/-! ### Runs of rules -/

def violations (r : Rule) (a : Option Asset) :
    Except Finding.Crash (List Finding) → List Violation
  | .ok findings => findings.map (r.violationOf a)
  | .error crash => [r.crashOf a crash]

def reported (r : Rule) (a : Option Asset) (g : Graph) : List Violation :=
  r.violations a (reportAll g a r.checks)

theorem violations_run (r : Rule) (a : Option Asset) (g : Graph) :
    (r.run a g).1 = r.violations a (runChecks r.id a g r.checks).1 := by
  unfold run findings violations
  rcases runChecks r.id a g r.checks with ⟨found | found, left, notices⟩ <;> rfl

theorem graph_run (g : Graph) (r : Rule) (a : Option Asset) :
    (r.run a g).2.1 = (runChecks r.id a g r.checks).2.1 := by
  unfold run findings
  rcases runChecks r.id a g r.checks with ⟨found | found, left, notices⟩ <;> rfl

theorem ruleId_of_mem_reported {g : Graph} {r : Rule} {a : Option Asset} {v : Violation}
    (hv : v ∈ r.reported a g) : v.ruleId = r.id := by
  unfold reported violations at hv
  split at hv
  · obtain ⟨f, -, rfl⟩ := List.mem_map.1 hv
    rfl
  · rw [List.mem_singleton.1 hv]
    rfl

theorem runAll_cons (g : Graph) (r : Rule) (a : Option Asset) (rest : List (Rule × Option Asset)) :
    (runAll g ((r, a) :: rest)).1 = (r.run a g).1 ++ (runAll (r.run a g).2.1 rest).1 ∧
      (runAll g ((r, a) :: rest)).2.1 = (runAll (r.run a g).2.1 rest).2.1 := ⟨rfl, rfl⟩

theorem runAll_append (g : Graph) (first second : List (Rule × Option Asset)) :
    (runAll g (first ++ second)).1 =
      (runAll g first).1 ++ (runAll (runAll g first).2.1 second).1 := by
  induction first generalizing g with
  | nil => rfl
  | cons item rest ih =>
    obtain ⟨r, a⟩ := item
    rw [List.cons_append, (runAll_cons ..).1, ih, (runAll_cons ..).1, (runAll_cons ..).2,
      List.append_assoc]

/-- The types of personas after some rules have run, each for its document. -/
def typesAfter (g : Graph) (types : String → Option Value) (items : List (Rule × Asset)) :
    String → Option Value :=
  items.foldl (fun types e => withOffer g.nodes.contains types (offerOf g e.2 e.1.checks)) types

/-- Rules that run for documents find the same as if each ran alone on the first graph. -/
theorem runAll_documents {g : Graph} {items : List (Rule × Asset)}
    (hreads : ∀ e ∈ items, e.1.readsTypes = false) {h : Graph} (hfacts : h.untyped = g.untyped) :
    (runAll h (items.map fun e => (e.1, some e.2))).1 =
        items.flatMap (fun e => e.1.reported (some e.2) g) ∧
      (runAll h (items.map fun e => (e.1, some e.2))).2.1.untyped = g.untyped ∧
      (runAll h (items.map fun e => (e.1, some e.2))).2.1.personaType? =
        typesAfter g h.personaType? items := by
  induction items generalizing h with
  | nil => exact ⟨rfl, hfacts, rfl⟩
  | cons item rest ih =>
    obtain ⟨r, a⟩ := item
    have hr : ∀ c ∈ r.checks, c.readsTypes = false := by
      simpa [readsTypes] using hreads (r, a) (List.mem_cons_self ..)
    obtain ⟨hfound, hleft, htypes⟩ := runChecks_document hfacts a r.id hr
    rw [← graph_run] at hleft htypes
    obtain ⟨hmore, hend, hafter⟩ := ih (fun e he => hreads e (List.mem_cons_of_mem _ he)) hleft
    rw [List.map_cons, (runAll_cons ..).1, (runAll_cons ..).2, List.flatMap_cons]
    refine ⟨by rw [violations_run, hfound, hmore, reported], hend, ?_⟩
    rw [hafter, htypes]
    rfl

/-- Rules of the project leave the graph as it is, so each finds what it finds alone. -/
theorem runAll_project (h : Graph) (rules : List Rule) :
    (runAll h (rules.map (·, none))).1 = rules.flatMap (·.reported none h) := by
  induction rules with
  | nil => rfl
  | cons r rest ih =>
    obtain ⟨hfound, hleft⟩ := runChecks_project h r.id r.checks
    rw [List.map_cons, (runAll_cons ..).1, graph_run, hleft, ih, violations_run, hfound,
      List.flatMap_cons, reported]

/-! ### Whole evaluations -/

/-- The rules that run for documents, each with its document, in their order. -/
def scheduledFor (rules : List Rule) (assets : List Asset) : List (Rule × Asset) :=
  assets.flatMap fun a => (rules.filter (·.appliesTo a)).map (·, a)

/-- What a document offers for the persona types: it does if one of the rules that apply to it
comes to its persona gate. -/
def offerFrom (rules : List Rule) (g : Graph) (a : Asset) : Option (String × String) :=
  if rules.any (fun r => r.appliesTo a && (offerOf g a r.checks).isSome) then offeredType? g a
  else none

theorem offerFrom_cons (r : Rule) (rest : List Rule) (g : Graph) (a : Asset) :
    offerFrom (r :: rest) g a =
      if r.appliesTo a && (offerOf g a r.checks).isSome then offeredType? g a
      else offerFrom rest g a := by
  by_cases hfirst : (r.appliesTo a && (offerOf g a r.checks).isSome) = true <;>
    simp [offerFrom, hfirst]

theorem withOffer_offerFrom (rules : List Rule) (g : Graph) (a : Asset)
    (types : String → Option Value) :
    withOffer g.nodes.contains (withOffer g.nodes.contains types (offeredType? g a))
        (offerFrom rules g a) =
      withOffer g.nodes.contains types (offeredType? g a) := by
  rw [offerFrom]
  split
  · exact withOffer_self ..
  · rfl

/-- The gate runs once or more often; only that it runs counts. -/
theorem typesAfter_document (rules : List Rule) (g : Graph) (types : String → Option Value)
    (a : Asset) :
    typesAfter g types ((rules.filter (·.appliesTo a)).map (·, a)) =
      withOffer g.nodes.contains types (offerFrom rules g a) := by
  induction rules generalizing types with
  | nil => rfl
  | cons r rest ih =>
    rw [List.filter_cons, offerFrom_cons]
    by_cases happlies : r.appliesTo a = true
    · have hstep : typesAfter g types (((r :: rest.filter (·.appliesTo a))).map (·, a)) =
          typesAfter g (withOffer g.nodes.contains types (offerOf g a r.checks))
            ((rest.filter (·.appliesTo a)).map (·, a)) := rfl
      rw [if_pos happlies, hstep, ih, happlies, Bool.true_and]
      cases hoffer : offerOf g a r.checks with
      | none => rfl
      | some offer =>
        -- All gates of a document offer the same type, so the later ones add nothing.
        have hgate : some offer = offeredType? g a := by
          rcases offerOf_eq g a r.checks with hnone | ⟨-, hsame⟩
          · rw [hoffer] at hnone
            contradiction
          · rw [← hoffer, hsame]
        rw [hgate, withOffer_offerFrom, ← hgate]
        rfl
    · rw [if_neg happlies, ih]
      simp [happlies]

theorem typesAfter_scheduledFor (rules : List Rule) (assets : List Asset) (g : Graph)
    (types : String → Option Value) :
    typesAfter g types (scheduledFor rules assets) =
      assets.foldl (fun types a => withOffer g.nodes.contains types (offerFrom rules g a))
        types := by
  rw [typesAfter, scheduledFor, List.foldl_flatMap]
  congr 1
  funext types a
  exact typesAfter_document rules g types a

/-- All violations, each as its rule finds it alone: rules of documents on the graph as it is,
and rules of the project on one graph with the persona types that the documents offer. -/
theorem evaluate_eq {rules : List Rule} (hreads : ∀ r ∈ rules, r.readsTypes → r.isProject)
    (assets : List Asset) (g : Graph) :
    ∃ last : Graph, last.untyped = g.freeze.untyped ∧
      last.personaType? = typesAfter g.freeze g.personaType? (scheduledFor rules assets) ∧
      (evaluate rules assets g).1 =
        (scheduledFor rules assets).flatMap (fun e => e.1.reported (some e.2) g.freeze) ++
          (rules.filter isProject).flatMap (·.reported none last) := by
  have hdocuments : ∀ e ∈ scheduledFor rules assets, e.1.readsTypes = false := by
    intro e he
    obtain ⟨a, -, hr⟩ := List.mem_flatMap.1 he
    obtain ⟨r, hrule, rfl⟩ := List.mem_map.1 hr
    obtain ⟨hmem, happlies⟩ := List.mem_filter.1 hrule
    have hproject : r.isProject = false := by
      simp only [appliesTo, Bool.and_eq_true, Bool.not_eq_true'] at happlies
      exact happlies.1
    by_contra hread
    have := hreads r hmem (by simpa using hread)
    simp [hproject] at this
  have hschedule : schedule rules assets =
      (scheduledFor rules assets).map (fun e => (e.1, some e.2)) ++
        (rules.filter isProject).map (·, none) := by
    simp [schedule, scheduledFor, List.map_flatMap, Function.comp_def]
  obtain ⟨hfound, hleft, htypes⟩ :=
    runAll_documents (g := g.freeze) (h := g.freeze) hdocuments rfl
  refine ⟨_, hleft, htypes, ?_⟩
  rw [evaluate, hschedule, runAll_append, hfound, runAll_project]

end Rule

end DocTrace
