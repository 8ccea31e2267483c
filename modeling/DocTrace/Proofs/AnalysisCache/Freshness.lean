import DocTrace.Proofs.AnalysisCache.Run

/-! What a cache gives out is what a new analysis would say. All entries of all instances
on a path, and of every document that they write, are the analyses of their own contents,
as long as nothing else is stored; loading, pruning and clearing keep it that way. -/

namespace DocTrace.AnalysisCache

/-- The document at a path is absent or was written by a cache of fresh entries. -/
def HasFreshDocument (contents : Set String) (path : Option Path) (disk : Disk) : Prop :=
  ∀ p, path = some p → ∀ document, documentAt disk p = some document →
    IsFreshDocument contents document

variable {contents : Set String} {path : Option Path} {disk : Disk} {s t : State} {i j : Instance}
  {r : Request}

theorem HasFreshDocument.load {c : AnalysisCache} (h : HasFreshDocument contents c.path disk) :
    Fresh contents (c.load disk).cache :=
  fresh_load fun document ⟨p, hp, _, _, hfile⟩ => h p hp document (documentAt_of_file? hfile)

/-! ### Runs -/

/-- The contents whose analyses a request may store. -/
def Request.subjects : Request → Set String
  | .put _ content _ _ | .analyze _ content _ => {content}
  | _ => ∅

/-- What is put is the new analysis of its content. -/
def Request.IsOwn : Request → Prop
  | .put _ content a _ => a = DocTrace.analyze content
  | _ => True

def Operation.subjects : Operation → Set String
  | .start => ∅
  | .ask _ request => request.subjects

def Operation.IsOwn : Operation → Prop
  | .start => True
  | .ask _ request => request.IsOwn

theorem Request.isFresh_stored (hown : r.IsOwn) (hsub : r.subjects ⊆ contents) :
    ∀ e ∈ r.stored, IsFresh contents e := by
  cases r with
  | put now content a filePath =>
    obtain rfl : a = DocTrace.analyze content := hown
    rintro _ rfl
    exact isFresh_stamped (hsub rfl) now filePath
  | analyze now content filePath =>
    rintro _ rfl
    exact isFresh_stamped (hsub rfl) now filePath
  | get | contains | prune | clear | load | save => simp [Request.stored]

/-- All instances have fresh entries, and so has the document. -/
structure State.Fresh (contents : Set String) (path : Option Path) (s : State) : Prop where
  instances : ∀ i ∈ s.instances, AnalysisCache.Fresh contents i.cache
  document : HasFreshDocument contents path s.disk

theorem Effect.fresh (h : Effect s i r (t, j)) (hi : i.Valid path s)
    (hfresh : Fresh contents i.cache) (hdocument : HasFreshDocument contents path s.disk)
    (hstored : ∀ e ∈ r.stored, IsFresh contents e) :
    Fresh contents j.cache ∧ HasFreshDocument contents path t.disk := by
  have hloaded : Fresh contents (i.cache.load s.disk).cache :=
    HasFreshDocument.load (hi.path_eq.symm ▸ hdocument)
  cases h with
  | edited hedit => exact ⟨hedit.fresh hfresh hstored, hdocument⟩
  -- A load that breaks off has taken over some of the entries, and these are fresh too.
  | loaded | brokeOff => exact ⟨hloaded, hdocument⟩
  | kept _ hkept =>
    refine ⟨hfresh, fun p hp document hat => hdocument p hp document ?_⟩
    rwa [hkept.document p (hi.path_eq.trans hp)] at hat
  | @wrote saved now place hwrote =>
    obtain rfl : path = some place := hi.path_eq.symm.trans hwrote.path_eq
    refine ⟨hwrote.cache ▸ hfresh, fun p hp document hat => ?_⟩
    obtain rfl := Option.some.inj hp
    obtain rfl := Option.some.inj (hwrote.documentAt_eq.symm.trans hat)
    exact ⟨i.cache, now, hfresh, hi.writable, now.2, rfl⟩

theorem fresh_perform (hvalid : s.Valid path) (hs : s.Fresh contents path) {operation : Operation}
    (hown : operation.IsOwn) (hsub : operation.subjects ⊆ contents) :
    (s.perform path operation).Fresh contents path := by
  cases operation with
  | start =>
    simp only [State.perform]
    split
    · refine ⟨fun i hi => ?_, hs.document⟩
      rcases List.mem_append.1 hi with hold | hnew
      · exact hs.instances i hold
      · obtain rfl := List.mem_singleton.1 hnew
        exact HasFreshDocument.load (c := { path }) hs.document
    · exact hs
  | ask index r =>
    cases hi : s.instances[index]? with
    | none => exact (perform_ask_none hi path r).symm ▸ hs
    | some i =>
      have hmem := List.mem_of_getElem? hi
      have heffect := effect_serve s i r
      rw [perform_ask hi path r]
      generalize s.serve i r = served at heffect
      obtain ⟨t, j⟩ := served
      obtain ⟨hj, hdocument⟩ := heffect.fresh (hvalid i hmem) (hs.instances i hmem) hs.document
        (Request.isFresh_stored hown hsub)
      refine ⟨fun other hother => ?_, hdocument⟩
      rcases List.mem_or_eq_of_mem_set hother with hold | rfl
      · exact hs.instances other hold
      · exact hj

theorem fresh_run (hvalid : s.Valid path) (hs : s.Fresh contents path)
    {operations : List Operation} (hown : ∀ o ∈ operations, o.IsOwn)
    (hsub : ∀ o ∈ operations, o.subjects ⊆ contents) :
    (s.run path operations).Fresh contents path := by
  induction operations generalizing s with
  | nil => exact hs
  | cons operation rest ih =>
    have hfirst := List.mem_cons_self (a := operation) (l := rest)
    exact ih (valid_perform hvalid operation)
      (fresh_perform hvalid hs (hown _ hfirst) (hsub _ hfirst))
      (fun o ho => hown o (List.mem_cons_of_mem _ ho))
      fun o ho => hsub o (List.mem_cons_of_mem _ ho)

/-- In every run on a path without a document, the entry under the digest of a content holds the
analysis of that content, and what a cache gives out for the content is that analysis, but for the
mark that it comes from a cache. Instances that are opened or loaded later read what others have
saved. -/
theorem analyses_eq (disk : Disk) (path : Option Path)
    (habsent : ∀ p, path = some p → documentAt disk p = none) {operations : List Operation}
    (hown : ∀ o ∈ operations, o.IsOwn) {content : String}
    (hdigests : Set.InjOn contentHash (insert content (⋃ o ∈ operations, o.subjects)))
    {i : Instance} (hi : i ∈ (State.run path { disk } operations).instances) :
    (∀ e, i.cache.entries.find? (contentHash content) = some e →
      e.Holds (DocTrace.analyze content)) ∧
    (∀ a, (i.cache.get content).1 = some a →
      a = { DocTrace.analyze content with fromCache := true }) ∧
    ∀ now filePath, (i.cache.analyze now content filePath).1.unmarked =
      DocTrace.analyze content := by
  have hinitial : State.Fresh (⋃ o ∈ operations, o.subjects) path { disk } := by
    refine ⟨by simp, fun p hp document hat => ?_⟩
    rw [habsent p hp] at hat
    simp at hat
  have hfresh := (fresh_run (valid_initial disk) hinitial hown
    fun o ho => Set.subset_biUnion_of_mem ho).instances i hi
  refine ⟨fun e he => hfresh.holds hdigests he, fun a ha => ?_, fun now filePath => ?_⟩
  · obtain ⟨e, he, rfl⟩ := exists_of_get ha
    exact (hfresh.holds hdigests he).toAnalysis_eq
  · unfold analyze
    split
    · next a c hget =>
      have hfound : (i.cache.get content).1 = some a := by rw [hget]
      obtain ⟨e, he, rfl⟩ := exists_of_get hfound
      exact (hfresh.holds hdigests he).unmarked_toAnalysis.trans (unmarked_analyze content)
    · dsimp only
      exact unmarked_analyze content

/-- Two contents are analyzed with a save between them; the first one is then given out right. -/
theorem analyses_eq_two :
    let now : ClockTime := ⟨9, by decide +kernel⟩
    let operations : List Operation := [.start, .ask 0 (.analyze now "graph TD\nA --> B\n" none),
      .ask 0 (.save now), .ask 0 (.analyze now "graph TD\nA --> C\n" none)]
    ∃ i ∈ (State.run (some ⟨"", ["cache.json"]⟩) { disk := {} } operations).instances,
      (i.cache.get "graph TD\nA --> B\n").1 =
        some { DocTrace.analyze "graph TD\nA --> B\n" with fromCache := true } := by
  intro now operations
  let path : Path := ⟨"", ["cache.json"]⟩
  let s := State.run (some path) { disk := {} } operations
  have hfound : (s.instances[0]?.map fun i =>
      (i.cache.get "graph TD\nA --> B\n").1.isSome) = some true := by decide +kernel
  have hdigests : contentHash "graph TD\nA --> B\n" ≠ contentHash "graph TD\nA --> C\n" := by
    decide +kernel
  have habsent : documentAt {} path = none := by decide +kernel
  have hsubjects : insert "graph TD\nA --> B\n" (⋃ o ∈ operations, o.subjects) =
      {"graph TD\nA --> B\n", "graph TD\nA --> C\n"} := by
    ext content
    simp [operations, Operation.subjects, Request.subjects, or_comm]
  cases hi : s.instances[0]? with
  | none => simp [hi] at hfound
  | some i =>
    simp only [hi, Option.map_some, Option.some.injEq] at hfound
    obtain ⟨a, ha⟩ := Option.isSome_iff_exists.1 hfound
    have hmem : i ∈ s.instances := List.mem_of_getElem? hi
    refine ⟨i, hmem, ?_⟩
    have hinj : Set.InjOn contentHash (insert "graph TD\nA --> B\n"
        (⋃ o ∈ operations, o.subjects)) := by
      rw [hsubjects, Set.injOn_pair]
      exact fun h => absurd h hdigests
    have hget := (analyses_eq {} (some path) (fun p hp => Option.some.inj hp ▸ habsent)
      (by simp [operations, Operation.IsOwn, Request.IsOwn]) hinj hmem).2.1 a ha
    rw [ha, hget]

end DocTrace.AnalysisCache
