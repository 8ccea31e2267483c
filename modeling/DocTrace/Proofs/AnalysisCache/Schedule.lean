import DocTrace.Proofs.AnalysisCache.Edit

/-! Analyses side by side. Whatever the order of their steps, calls that share a cache of
fresh entries leave it fresh, every call comes to its end, and what it gives is what a new
analysis of its content says. -/

namespace DocTrace.AnalysisCache

/-- The entries that may be stored while some contents are analyzed. -/
def Acceptable (contents : Set String) : Set (String × Entry) :=
  {e | IsFresh contents e ∧ e.2.Writable}

theorem acceptable_stamped {contents : Set String} {content : String} (h : content ∈ contents)
    {now : ℤ} (hnow : IsClockTime now) (filePath : Option String) :
    stamped now content (DocTrace.analyze content) filePath ∈ Acceptable contents :=
  ⟨isFresh_stamped h now filePath, writable_stamped hnow content _ filePath⟩

variable {contents : Set String} {c d : AnalysisCache} {call next : Call} {now : ℤ} {p : Pool}
  {turn : Turn}

/-- A call that is done gives what its content says, and there is an entry for it. -/
def Call.IsRight (call : Call) (c : AnalysisCache) : Prop :=
  ∀ a, call.progress = .done a → a.unmarked = DocTrace.analyze call.content ∧
    contentHash call.content ∈ c.entries.keys

/-- A call that has its analysis. -/
def Call.IsDone (call : Call) : Prop := ∃ a, call.progress = .done a

/-! ### Steps of a call -/

/-- What a step of a call does to the cache and to the call. -/
inductive Call.Stepped (now : ℤ) (c : AnalysisCache) (call : Call) :
    AnalysisCache × Call → Prop where
  | found {e : Entry} (before : call.progress = .waiting)
      (hit : c.entries.find? (contentHash call.content) = some e) :
    Stepped now c call
      ({ c with hits := c.hits + 1, used := addNew c.used (contentHash call.content) },
        { call with progress := .done e.toAnalysis })
  | missed (before : call.progress = .waiting)
      (miss : c.entries.find? (contentHash call.content) = none) :
    Stepped now c call ({ c with misses := c.misses + 1 }, { call with progress := .missed })
  | stored (before : call.progress = .missed) :
    Stepped now c call ((c.put now call.content (DocTrace.analyze call.content) call.filePath).2,
      { call with progress := .done (DocTrace.analyze call.content) })
  | idle (before : call.IsDone) : Stepped now c call (c, call)

theorem stepped (now : ℤ) (c : AnalysisCache) (call : Call) :
    call.Stepped now c ((call.step now c).1, (call.step now c).2.1) := by
  cases hprogress : call.progress with
  | waiting =>
    cases hfind : c.entries.find? (contentHash call.content) with
    | some e => simpa [Call.step, hprogress, get, hfind] using .found hprogress hfind
    | none => simpa [Call.step, hprogress, get, hfind] using .missed hprogress hfind
  | missed => simpa [Call.step, hprogress] using .stored hprogress
  | done a => simpa [Call.step, hprogress] using .idle ⟨a, hprogress⟩

theorem mem_keys_put (c : AnalysisCache) (now : ℤ) (content : String) (a : Analysis)
    (filePath : Option String) (key : String) :
    key ∈ (c.put now content a filePath).2.entries.keys ↔
      key ∈ c.entries.keys ∨ key = contentHash content := by
  unfold put
  dsimp only
  split
  · next e he =>
    have hmem : contentHash content ∈ c.entries.keys := by
      simp [← Table.find?_isSome_iff, he]
    exact ⟨.inl, fun h => h.elim id fun h => h ▸ hmem⟩
  · next hnone =>
    have hmem := Table.find?_eq_none_iff.1 hnone
    rw [Table.keys_put, if_neg hmem, List.mem_append, List.mem_singleton]

namespace Call.Stepped

variable (h : call.Stepped now c (d, next))

include h

theorem content_eq : next.content = call.content := by
  cases h <;> rfl

theorem keys_subset : c.entries.keys ⊆ d.entries.keys := by
  cases h with
  | stored => exact fun key hkey => (mem_keys_put ..).2 (.inl hkey)
  | found | missed | idle => exact fun _ hkey => hkey

theorem edit (hcall : call.content ∈ contents) (hnow : IsClockTime now) :
    Edit (Acceptable contents) c d := by
  cases h with
  | found | missed => exact ⟨rfl, fun hclean => ⟨hclean, rfl⟩, fun _ he => .inl he⟩
  | stored =>
    refine (edit_put ..).mono ?_
    rintro _ rfl
    exact acceptable_stamped hcall hnow call.filePath
  | idle => exact .refl _ c

theorem isRight (hholds : ∀ e, c.entries.find? (contentHash call.content) = some e →
    e.Holds (DocTrace.analyze call.content)) (hright : call.IsRight c) : next.IsRight d := by
  cases h with
  | @found e _ hit =>
    have hsame := (hholds e hit).unmarked_toAnalysis.trans (unmarked_analyze _)
    have hkey : contentHash call.content ∈ c.entries.keys := by
      rw [← Table.find?_isSome_iff, hit]
      rfl
    simpa [IsRight] using ⟨hsame, hkey⟩
  -- A call that found nothing has still to store its analysis, so nothing is claimed of it yet.
  | missed => simp [IsRight]
  | stored =>
    have hkey := (mem_keys_put c now call.content (DocTrace.analyze call.content) call.filePath
      (contentHash call.content)).2 (.inr rfl)
    simpa [IsRight] using ⟨unmarked_analyze call.content, hkey⟩
  | idle => exact hright

/-- No step leaves a call waiting. -/
theorem not_waiting : next.progress ≠ .waiting := by
  cases h with
  | found | missed | stored => simp
  | idle before =>
    obtain ⟨a, ha⟩ := before
    simp [ha]

/-- A call that does not wait any more is done after its next step. -/
theorem isDone (hbegun : call.progress ≠ .waiting) : next.IsDone := by
  cases h with
  | found before | missed before => exact absurd before hbegun
  | stored => exact ⟨_, rfl⟩
  | idle before => exact before

end Call.Stepped

/-! ### Turns -/

theorem advance_eq (turn : Turn) {call : Call} (h : p.calls[turn.call]? = some call) :
    p.advance turn =
      { cache := (call.step turn.now p.cache).1
        calls := p.calls.set turn.call (call.step turn.now p.cache).2.1
        notices := p.notices ++ (call.step turn.now p.cache).2.2 } := by
  simp only [Pool.advance, h]

theorem advance_void (turn : Turn) (h : p.calls[turn.call]? = none) : p.advance turn = p := by
  simp only [Pool.advance, h]

theorem contents_advance (p : Pool) (turn : Turn) :
    (p.advance turn).calls.map (·.content) = p.calls.map (·.content) := by
  cases hcall : p.calls[turn.call]? with
  | none => rw [advance_void turn hcall]
  | some call =>
    obtain ⟨hlength, rfl⟩ := List.getElem?_eq_some_iff.1 hcall
    have hbound : turn.call < (p.calls.map (·.content)).length := by simpa using hlength
    have hsame : p.calls[turn.call].content = (p.calls.map (·.content))[turn.call] := by
      rw [List.getElem_map]
    rw [advance_eq turn hcall, List.map_set, (stepped ..).content_eq, hsame,
      List.set_getElem_self]

theorem contents_run (p : Pool) (turns : List Turn) :
    (p.run turns).calls.map (·.content) = p.calls.map (·.content) := by
  induction turns generalizing p with
  | nil => rfl
  | cons turn rest ih => exact (ih (p.advance turn)).trans (contents_advance p turn)

/-- Calls on some contents that have done everything right so far. -/
structure Pool.Sound (contents : Set String) (first : AnalysisCache) (bodies : List String)
    (p : Pool) : Prop where
  edit : Edit (Acceptable contents) first p.cache
  calls : p.calls.map (·.content) = bodies
  right : ∀ call ∈ p.calls, call.IsRight p.cache

variable {first : AnalysisCache} {bodies : List String}

theorem Pool.Sound.fresh (h : p.Sound contents first bodies) (hfirst : first.Fresh contents) :
    p.cache.Fresh contents := h.edit.fresh hfirst fun _ he => he.1

theorem sound_advance (h : p.Sound contents first bodies) (hfirst : first.Fresh contents)
    (hbodies : ∀ content ∈ bodies, content ∈ contents)
    (hdigests : Set.InjOn contentHash contents) (hnow : IsClockTime turn.now) :
    (p.advance turn).Sound contents first bodies := by
  cases hcall : p.calls[turn.call]? with
  | none => exact (advance_void turn hcall).symm ▸ h
  | some call =>
    have hmem := List.mem_of_getElem? hcall
    have hcontent : call.content ∈ contents :=
      hbodies _ (h.calls ▸ List.mem_map_of_mem (f := (·.content)) hmem)
    have hcalls := (contents_advance p turn).trans h.calls
    rw [advance_eq turn hcall] at hcalls ⊢
    refine ⟨h.edit.trans ((stepped ..).edit hcontent hnow), hcalls, fun other hother => ?_⟩
    rcases List.mem_or_eq_of_mem_set hother with hold | rfl
    -- Keys are never taken away, so what another call stored is still there.
    · intro a ha
      obtain ⟨hsame, hkey⟩ := h.right other hold a ha
      exact ⟨hsame, (stepped ..).keys_subset hkey⟩
    · have hinsert : Set.InjOn contentHash (insert call.content contents) := by
        rwa [Set.insert_eq_of_mem hcontent]
      exact (stepped ..).isRight (fun e he => (h.fresh hfirst).holds hinsert he) (h.right call hmem)

theorem sound_run (h : p.Sound contents first bodies) (hfirst : first.Fresh contents)
    (hbodies : ∀ content ∈ bodies, content ∈ contents)
    (hdigests : Set.InjOn contentHash contents) {turns : List Turn}
    (hnow : ∀ turn ∈ turns, IsClockTime turn.now) : (p.run turns).Sound contents first bodies := by
  induction turns generalizing p with
  | nil => exact h
  | cons turn rest ih =>
    exact ih (sound_advance h hfirst hbodies hdigests (hnow turn (List.mem_cons_self ..)))
      fun t ht => hnow t (List.mem_cons_of_mem _ ht)

/-! ### Calls come to their end -/

/-- The call with a number is done, if there is one. -/
def Pool.IsDoneAt (p : Pool) (i : ℕ) : Prop := ∀ call, p.calls[i]? = some call → call.IsDone

theorem length_advance (p : Pool) (turn : Turn) :
    (p.advance turn).calls.length = p.calls.length := by
  cases hcall : p.calls[turn.call]? with
  | none => rw [advance_void turn hcall]
  | some call => rw [advance_eq turn hcall, List.length_set]

theorem length_run (p : Pool) (turns : List Turn) :
    (p.run turns).calls.length = p.calls.length := by
  induction turns generalizing p with
  | nil => rfl
  | cons turn rest ih => exact (ih (p.advance turn)).trans (length_advance p turn)

theorem isDoneAt_advance {i : ℕ} (h : p.IsDoneAt i) (turn : Turn) :
    (p.advance turn).IsDoneAt i := by
  cases hcall : p.calls[turn.call]? with
  | none => exact (advance_void turn hcall).symm ▸ h
  | some call =>
    rw [advance_eq turn hcall]
    intro other hother
    by_cases hi : turn.call = i
    · obtain ⟨a, ha⟩ := h call (hi ▸ hcall)
      have hlength : i < p.calls.length := hi ▸ (List.getElem?_eq_some_iff.1 hcall).1
      have hsame : other = call := by simpa [Call.step, ha, hi, hlength] using hother.symm
      exact ⟨a, hsame ▸ ha⟩
    · exact h other (by simpa [List.getElem?_set_ne hi] using hother)

theorem isDoneAt_run {i : ℕ} (h : p.IsDoneAt i) (turns : List Turn) : (p.run turns).IsDoneAt i := by
  induction turns generalizing p with
  | nil => exact h
  | cons turn rest ih => exact ih (isDoneAt_advance h turn)

theorem isDoneAt_two_turns (p : Pool) (i : ℕ) (now later : ℤ) :
    ((p.advance ⟨i, now⟩).advance ⟨i, later⟩).IsDoneAt i := by
  cases hcall : p.calls[i]? with
  | none =>
    rw [advance_void ⟨i, now⟩ hcall, advance_void ⟨i, later⟩ hcall]
    exact fun call h => by simp [hcall] at h
  | some call =>
    have hlength := (List.getElem?_eq_some_iff.1 hcall).1
    rw [advance_eq ⟨i, now⟩ hcall, advance_eq ⟨i, later⟩
      (List.getElem?_set_self hlength)]
    intro other hother
    have hsame := (List.getElem?_set_self (by simpa using hlength)).symm.trans hother
    exact Option.some.inj hsame ▸ (stepped ..).isDone (stepped ..).not_waiting

theorem isDoneAt_inOrder (p : Pool) (now : ℤ) {indices : List ℕ} {i : ℕ} (hi : i ∈ indices) :
    (p.run (indices.flatMap fun i => [⟨i, now⟩, ⟨i, now⟩])).IsDoneAt i := by
  induction indices generalizing p with
  | nil => simp at hi
  | cons j rest ih =>
    have hfirst := isDoneAt_two_turns p j now now
    change Pool.IsDoneAt (Pool.run ((p.advance ⟨j, now⟩).advance ⟨j, now⟩) _) i
    rcases List.mem_cons.1 hi with rfl | hrest
    · exact isDoneAt_run hfirst _
    · exact ih _ hrest

/-- Along any turns, all calls are done in the end. -/
theorem isDone_complete (p : Pool) (turns : List Turn) (now : ℤ) :
    ∀ call ∈ (p.complete turns now).calls, call.IsDone := by
  intro call hcall
  obtain ⟨i, hlength, hi⟩ := List.mem_iff_getElem.1 hcall
  have hcount : (p.complete turns now).calls.length = p.calls.length := length_run ..
  have hrun : p.complete turns now = (p.run turns).run (Pool.inOrder now p.calls.length) :=
    List.foldl_append
  have hdone := isDoneAt_inOrder (p.run turns) now (List.mem_range.2 (hcount ▸ hlength))
  rw [Pool.inOrder] at hrun
  rw [← hrun] at hdone
  exact hdone call (by rw [List.getElem?_eq_getElem hlength, hi])

end DocTrace.AnalysisCache
