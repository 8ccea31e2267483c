import DocTrace.Proofs.AnalysisCache.Saving

/-! Runs on the instances of a cache that share a path. Any instance may be asked for
anything in any order, and new ones may be opened at any time. An instance is up to date
while no other one has tried to write since it read or wrote the document itself.
An instance that is up to date and has nothing to write agrees with the document. -/

namespace DocTrace.AnalysisCache

/-- A time in milliseconds that a clock can show. -/
abbrev ClockTime := {now : ℤ // IsClockTime now}

inductive Request where
  | get (content : String)
  | contains (content : String)
  | put (now : ClockTime) (content : String) (a : Analysis) (filePath : Option String)
  | analyze (now : ClockTime) (content : String) (filePath : Option String)
  | prune (now : ClockTime) (limit : AgeLimit)
  | clear
  | load
  | save (now : ClockTime)

/-- The entries that a request may store. -/
def Request.stored : Request → Set (String × Entry)
  | .put now content a filePath => {stamped now content a filePath}
  | .analyze now content filePath => {stamped now content (DocTrace.analyze content) filePath}
  | _ => ∅

/-- The cache after a request that leaves the disk alone. Pruning that breaks off does nothing. -/
def Request.edit (c : AnalysisCache) : Request → AnalysisCache
  | .get content => (c.get content).2
  | .put now content a filePath => (c.put now content a filePath).2
  | .analyze now content filePath => (c.analyze now content filePath).2.1
  | .prune now limit =>
    match c.prune now limit with
    | .ok (_, pruned, _) => pruned
    | .error _ => c
  | .clear => c.clear
  | .contains _ | .load | .save _ => c

structure Instance where
  cache : AnalysisCache
  /-- The version of the document that this instance read or wrote. -/
  seen : ℕ

structure State where
  disk : Disk
  instances : List Instance := []
  /-- How often writing the document was tried. -/
  version : ℕ := 0

/-- The state and the instance after a request. -/
def State.serve (s : State) (i : Instance) : Request → State × Instance
  | .load =>
    let loaded := i.cache.load s.disk
    (s, { cache := loaded.cache, seen := if loaded.fault = none then s.version else i.seen })
  | .save now =>
    let saved := i.cache.save s.disk now
    let version := if i.cache.dirty then s.version + 1 else s.version
    let seen := match saved.result with
      | .ok true => version
      | _ => i.seen
    ({ s with disk := saved.disk, version }, { cache := saved.cache, seen })
  | request => (s, { i with cache := request.edit i.cache })

inductive Operation where
  /-- Opens another instance. -/
  | start
  | ask (index : ℕ) (request : Request)

def Operation.stored : Operation → Set (String × Entry)
  | .start => ∅
  | .ask _ request => request.stored

/-- One operation. Opening that breaks off gives no instance. -/
def State.perform (path : Option Path) (s : State) : Operation → State
  | .start =>
    let loaded := openAt s.disk path
    if loaded.fault = none then
      { s with instances := s.instances ++ [⟨loaded.cache, s.version⟩] }
    else s
  | .ask index request =>
    match s.instances[index]? with
    | none => s
    | some i =>
      let (left, j) := s.serve i request
      { left with instances := s.instances.set index j }

def State.run (path : Option Path) (s : State) (operations : List Operation) : State :=
  operations.foldl (State.perform path) s

theorem perform_ask {s : State} {index : ℕ} {i : Instance} (h : s.instances[index]? = some i)
    (path : Option Path) (r : Request) :
    s.perform path (.ask index r) =
      { (s.serve i r).1 with instances := s.instances.set index (s.serve i r).2 } := by
  simp only [State.perform, h]

theorem perform_ask_none {s : State} {index : ℕ} (h : s.instances[index]? = none)
    (path : Option Path) (r : Request) : s.perform path (.ask index r) = s := by
  simp only [State.perform, h]

theorem edit_request (c : AnalysisCache) (r : Request) : Edit r.stored c (r.edit c) := by
  cases r with
  | get content => exact edit_get c content
  | put now content a filePath => exact edit_put c now content a filePath
  | analyze now content filePath => exact edit_analyze c now content filePath
  | prune now limit =>
    simp only [Request.edit]
    split
    · next hprune => exact edit_prune hprune
    · exact .refl ∅ c
  | clear => exact edit_clear c
  | contains | load | save => exact .refl ∅ c

/-! ### Steps -/

/-- What a request does to the state and the instance. -/
inductive Effect (s : State) (i : Instance) (r : Request) : State × Instance → Prop where
  | edited {c : AnalysisCache} (h : Edit r.stored i.cache c) :
    Effect s i r (s, { i with cache := c })
  | loaded (h : (i.cache.load s.disk).fault = none) :
    Effect s i r (s, ⟨(i.cache.load s.disk).cache, s.version⟩)
  | brokeOff (hload : r = .load) (h : (i.cache.load s.disk).fault ≠ none) :
    Effect s i r (s, ⟨(i.cache.load s.disk).cache, i.seen⟩)
  | kept {saved : Saved} (hdirty : i.cache.dirty = true) (h : saved.Kept i.cache s.disk) :
    Effect s i r ({ s with disk := saved.disk, version := s.version + 1 }, i)
  | wrote {saved : Saved} {now : ClockTime} {path : Path}
    (h : saved.Wrote i.cache s.disk now path) :
    Effect s i r ({ s with disk := saved.disk, version := s.version + 1 },
      ⟨saved.cache, s.version + 1⟩)

theorem effect_serve (s : State) (i : Instance) (r : Request) : Effect s i r (s.serve i r) := by
  have hedit := edit_request i.cache r
  cases r with
  | load =>
    unfold State.serve
    dsimp only
    split
    · next hfault => exact .loaded hfault
    · next hfault => exact .brokeOff rfl hfault
  | save now =>
    unfold State.serve
    rcases save_cases i.cache s.disk now with hkept | ⟨path, hwrote⟩
    · have hseen (version : ℕ) : (match (i.cache.save s.disk now).result with
          | .ok true => version
          | _ => i.seen) = i.seen := by
        split
        · next htrue => exact absurd htrue hkept.result
        · rfl
      simp only [hseen, hkept.cache]
      cases hdirty : i.cache.dirty with
      | false =>
        rw [(hkept.clean hdirty).1]
        exact .edited (.refl _ i.cache)
      | true => exact .kept hdirty hkept
    · simp only [hwrote.result, hwrote.dirty, if_true]
      exact .wrote hwrote
  | get | contains | put | analyze | prune | clear => exact .edited hedit

/-- An instance never claims a newer document than there is, and where it is up to date and has
nothing to write, a new instance would hold the same entries. -/
structure Instance.Valid (path : Option Path) (s : State) (i : Instance) : Prop where
  path_eq : i.cache.path = path
  writable : i.cache.Writable
  seen : i.seen ≤ s.version
  opens : i.seen = s.version → (openAt s.disk path).fault = none
  agrees : i.seen = s.version → i.cache.dirty = false →
    (openAt s.disk path).cache.entries = i.cache.entries

variable {path : Option Path} {s t : State} {i j : Instance} {r : Request}

theorem Request.writable_stored : ∀ e ∈ r.stored, e.2.Writable := by
  cases r with
  | put now content a filePath =>
    rintro _ rfl
    exact writable_stamped now.2 content a filePath
  | analyze now content filePath =>
    rintro _ rfl
    exact writable_stamped now.2 content _ filePath
  | get | contains | prune | clear | load | save => simp [Request.stored]

theorem valid_opened (h : (openAt s.disk path).fault = none) :
    Instance.Valid path s ⟨(openAt s.disk path).cache, s.version⟩ where
  path_eq := openAt_path s.disk path
  writable := writable_load { path } s.disk
  seen := le_rfl
  opens _ := h
  agrees _ _ := rfl

theorem Effect.valid (h : Effect s i r (t, j)) (hi : i.Valid path s) : j.Valid path t := by
  obtain ⟨hload, hpath⟩ := sameAs_openAt i.cache s.disk
  rw [hi.path_eq] at hload hpath
  cases h with
  | edited hedit =>
    refine ⟨hedit.path.trans hi.path_eq, hedit.writable hi.writable r.writable_stored, hi.seen,
      hi.opens, fun hseen hclean => ?_⟩
    obtain ⟨hclean, hsame⟩ := hedit.marked hclean
    exact (hi.agrees hseen hclean).trans hsame.symm
  | loaded hfault =>
    exact ⟨hpath, writable_load i.cache s.disk, le_rfl, fun _ => hload.fault ▸ hfault,
      fun _ _ => hload.entries.symm⟩
  | brokeOff _ hfault =>
    -- An instance that is up to date would load the document, so this one is behind.
    have hold (hseen : i.seen = s.version) : False :=
      hfault (hload.fault.trans (hi.opens hseen))
    exact ⟨hpath, writable_load i.cache s.disk, hi.seen, fun hseen => (hold hseen).elim,
      fun hseen => (hold hseen).elim⟩
  | kept =>
    have hold : i.seen ≠ s.version + 1 := (Nat.lt_succ_of_le hi.seen).ne
    exact ⟨hi.path_eq, hi.writable, Nat.le_succ_of_le hi.seen, fun hseen => absurd hseen hold,
      fun hseen => absurd hseen hold⟩
  | @wrote saved now place hwrote =>
    have hopen := hwrote.openAt_eq hi.writable now.2
    obtain rfl : path = some place := hi.path_eq.symm.trans hwrote.path_eq
    rw [hwrote.cache]
    exact ⟨hi.path_eq, hi.writable, le_rfl, fun _ => by rw [hopen], fun _ _ => by rw [hopen]⟩

/-- The other instances stay valid, and are behind once a save was tried. -/
theorem Effect.valid_other (h : Effect s i r (t, j)) {other : Instance} (hi : other.Valid path s) :
    other.Valid path t := by
  have hbehind (disk : Disk) :
      other.Valid path { s with disk := disk, version := s.version + 1 } := by
    have hold : other.seen ≠ s.version + 1 := (Nat.lt_succ_of_le hi.seen).ne
    exact ⟨hi.path_eq, hi.writable, Nat.le_succ_of_le hi.seen, fun hseen => absurd hseen hold,
      fun hseen => absurd hseen hold⟩
  cases h with
  | edited | loaded | brokeOff => exact hi
  -- Also a save that fails counts: it may have made directories on the way to the document.
  | kept | wrote => exact hbehind _

theorem Instance.Valid.congr {instances : List Instance} (h : i.Valid path s) :
    i.Valid path { s with instances } := ⟨h.path_eq, h.writable, h.seen, h.opens, h.agrees⟩

/-! ### Runs -/

def State.Valid (path : Option Path) (s : State) : Prop := ∀ i ∈ s.instances, i.Valid path s

theorem valid_perform (hs : s.Valid path) (operation : Operation) :
    (s.perform path operation).Valid path := by
  cases operation with
  | start =>
    simp only [State.perform]
    split
    · next hfault =>
      intro i hi
      rcases List.mem_append.1 hi with hold | hnew
      · exact (hs i hold).congr
      · obtain rfl := List.mem_singleton.1 hnew
        exact (valid_opened hfault).congr
    · exact hs
  | ask index r =>
    cases hi : s.instances[index]? with
    | none => exact (perform_ask_none hi path r).symm ▸ hs
    | some i =>
      have heffect := effect_serve s i r
      rw [perform_ask hi path r]
      generalize s.serve i r = served at heffect
      obtain ⟨t, j⟩ := served
      intro other hother
      rcases List.mem_or_eq_of_mem_set hother with hold | rfl
      · exact (heffect.valid_other (hs other hold)).congr
      · exact (heffect.valid (hs i (List.mem_of_getElem? hi))).congr

/-- The instance that was opened last is up to date unless it has something to write. -/
def State.IsCurrent (s : State) : Prop :=
  ∀ index i, index + 1 = s.instances.length → s.instances[index]? = some i →
    i.cache.dirty = true ∨ i.seen = s.version

theorem valid_initial (disk : Disk) : State.Valid path { disk } := by simp [State.Valid]

end DocTrace.AnalysisCache
