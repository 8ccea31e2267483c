import DocTrace.Proofs.AnalysisCache.Saving
import DocTrace.Proofs.AnalysisCache.Schedule

/-! What a cache counts and what it keeps. A call asks the cache once, when it begins, so the
hits and misses together are the calls that have begun. A call that is done has marked the
digest of its content as used, and pruning takes no entry away that was used. So what a cache
writes after that has an entry for every content that it was asked for. -/

namespace DocTrace.AnalysisCache

variable {c d : AnalysisCache} {call : Call} {now : ℤ} {p : Pool}

/-- How often the cache was asked for an analysis. -/
def asked (c : AnalysisCache) : ℕ := c.hits + c.misses

/-! ### Steps of a call -/

/-- Whether a call has asked the cache. -/
def Call.hasBegun (call : Call) : Bool :=
  match call.progress with
  | .waiting => false
  | .missed | .done _ => true

theorem Call.IsDone.hasBegun (h : call.IsDone) : call.hasBegun = true := by
  obtain ⟨a, ha⟩ := h
  simp [Call.hasBegun, ha]

theorem counts_put (c : AnalysisCache) (now : ℤ) (content : String) (a : Analysis)
    (filePath : Option String) :
    (c.put now content a filePath).2.hits = c.hits ∧
      (c.put now content a filePath).2.misses = c.misses := by
  unfold put
  dsimp only
  split <;> exact ⟨rfl, rfl⟩

theorem used_put (c : AnalysisCache) (now : ℤ) (content : String) (a : Analysis)
    (filePath : Option String) :
    (c.put now content a filePath).2.used = addNew c.used (contentHash content) := by
  unfold put
  dsimp only
  split <;> rfl

/-- A call that is done has used its entry. -/
def Call.HasUsed (call : Call) (c : AnalysisCache) : Prop :=
  call.IsDone → contentHash call.content ∈ c.used

namespace Call.Stepped

variable {next : Call} (h : call.Stepped now c (d, next))

include h

/-- The cache is asked by the first step of a call, and by no other. -/
theorem asked_eq : d.asked + call.hasBegun.toNat = c.asked + next.hasBegun.toNat := by
  cases h with
  | found before | missed before =>
    simp only [asked, hasBegun, before, Bool.toNat_false, Bool.toNat_true]
    omega
  | stored before =>
    obtain ⟨hhits, hmisses⟩ :=
      counts_put c now call.content (DocTrace.analyze call.content) call.filePath
    simp [asked, hasBegun, before, hhits, hmisses]
  | idle => rfl

/-- A call whose analysis is stored counts no miss. -/
theorem misses_eq (hkey : contentHash call.content ∈ c.entries.keys) : d.misses = c.misses := by
  cases h with
  | missed _ miss => exact absurd hkey (Table.find?_eq_none_iff.1 miss)
  | stored => exact (counts_put ..).2
  | found | idle => rfl

/-- No step takes anything off the list of what was used. -/
theorem used_subset : c.used ⊆ d.used := by
  have hnew : c.used ⊆ addNew c.used (contentHash call.content) :=
    fun _ hkey => mem_addNew.2 (.inl hkey)
  cases h with
  | found => exact hnew
  | stored => exact (used_put c now call.content _ call.filePath).symm ▸ hnew
  | missed | idle => exact List.Subset.refl _

theorem hasUsed (hcall : call.HasUsed c) : next.HasUsed d := by
  have hnew : contentHash call.content ∈ addNew c.used (contentHash call.content) :=
    mem_addNew.2 (.inr rfl)
  cases h with
  | found => exact fun _ => hnew
  | missed => exact fun ⟨a, ha⟩ => by simp at ha
  | stored => exact fun _ => (used_put c now call.content _ call.filePath).symm ▸ hnew
  | idle => exact hcall

end Call.Stepped

/-! ### Turns -/

/-- The calls of a pool that began since a cache, and what those that are done have used. -/
structure Pool.Tallied (first : AnalysisCache) (p : Pool) : Prop where
  asked : p.cache.asked = first.asked + p.calls.countP (·.hasBegun)
  used : ∀ call ∈ p.calls, call.HasUsed p.cache

/-- The analyses of all calls of a pool are stored. -/
def Pool.IsWarm (p : Pool) : Prop :=
  ∀ content ∈ p.calls.map (·.content), contentHash content ∈ p.cache.entries.keys

variable {first : AnalysisCache} {turn : Turn} {turns : List Turn}

theorem tallied_advance (h : p.Tallied first) (turn : Turn) : (p.advance turn).Tallied first := by
  cases hcall : p.calls[turn.call]? with
  | none => exact (advance_void turn hcall).symm ▸ h
  | some call =>
    have hmem := List.mem_of_getElem? hcall
    obtain ⟨hlength, hat⟩ := List.getElem?_eq_some_iff.1 hcall
    rw [advance_eq turn hcall]
    refine ⟨?_, fun other hother => ?_⟩
    -- Both sides grow by one where the call begins, and else by nothing.
    · have hstep := (stepped turn.now p.cache call).asked_eq
      have hold := h.asked
      have hcounted := List.boole_getElem_le_countP (p := (·.hasBegun)) hlength
      rw [List.countP_set hlength, hat]
      rw [hat] at hcounted
      cases hbefore : call.hasBegun <;>
        cases hafter : (call.step turn.now p.cache).2.1.hasBegun <;>
        simp only [hbefore, hafter, Bool.toNat_false, Bool.toNat_true, if_true,
          Bool.false_eq_true, if_false] at hstep hcounted ⊢ <;>
        omega
    · rcases List.mem_or_eq_of_mem_set hother with hold | rfl
      · exact fun hdone => (stepped ..).used_subset (h.used other hold hdone)
      · exact (stepped ..).hasUsed (h.used call hmem)

theorem tallied_run (h : p.Tallied first) (turns : List Turn) : (p.run turns).Tallied first := by
  induction turns generalizing p with
  | nil => exact h
  | cons turn rest ih => exact ih (tallied_advance h turn)

theorem warm_advance (h : p.IsWarm) (turn : Turn) :
    (p.advance turn).IsWarm ∧ (p.advance turn).cache.misses = p.cache.misses := by
  cases hcall : p.calls[turn.call]? with
  | none => exact (advance_void turn hcall).symm ▸ ⟨h, rfl⟩
  | some call =>
    have hmem := List.mem_map_of_mem (f := (·.content)) (List.mem_of_getElem? hcall)
    have hcontents := contents_advance p turn
    rw [advance_eq turn hcall] at hcontents ⊢
    refine ⟨fun content hcontent => ?_, (stepped turn.now p.cache call).misses_eq (h _ hmem)⟩
    exact (stepped ..).keys_subset (h content (hcontents ▸ hcontent))

theorem misses_run (h : p.IsWarm) (turns : List Turn) :
    (p.run turns).cache.misses = p.cache.misses := by
  induction turns generalizing p with
  | nil => rfl
  | cons turn rest ih =>
    obtain ⟨hwarm, hsame⟩ := warm_advance h turn
    exact (ih hwarm).trans hsame

/-- When all calls are done, each has been counted once and has used its entry. -/
theorem Pool.Tallied.of_done (h : p.Tallied first) (hdone : ∀ call ∈ p.calls, call.IsDone) :
    p.cache.asked = first.asked + p.calls.length ∧
      ∀ call ∈ p.calls, contentHash call.content ∈ p.cache.used := by
  refine ⟨?_, fun call hcall => h.used call hcall (hdone call hcall)⟩
  have hall : p.calls.countP (·.hasBegun) = p.calls.length :=
    List.countP_eq_length.2 fun call hcall => (hdone call hcall).hasBegun
  rw [h.asked, hall]

theorem tallied_complete (h : p.Tallied first) (turns : List Turn) (now : ℤ) :
    (p.complete turns now).cache.asked = first.asked + p.calls.length ∧
      ∀ call ∈ (p.complete turns now).calls,
        contentHash call.content ∈ (p.complete turns now).cache.used := by
  have hend : (p.complete turns now).Tallied first := tallied_run h _
  have hlength : (p.complete turns now).calls.length = p.calls.length := length_run p _
  rw [← hlength]
  exact hend.of_done (isDone_complete p turns now)

/-! ### Pruning and loading -/

/-- Pruning keeps every entry that was used, whatever its age. -/
theorem mem_keys_prune {limit : AgeLimit} {count : ℕ} {notices : List Notice}
    (h : c.prune now limit = .ok (count, d, notices)) {key : String}
    (hkey : key ∈ c.entries.keys) (hused : key ∈ c.used) : key ∈ d.entries.keys := by
  obtain ⟨age, -, hpruned⟩ := pruned_of_prune h
  obtain ⟨e, he, rfl⟩ := List.mem_map.1 hkey
  have hkept : e ∈ d.entries.entries := by
    rw [hpruned.entries]
    exact List.mem_filter.2 ⟨he, by simp [isStale, hused]⟩
  exact List.mem_map_of_mem (f := (·.1)) hkept

/-- Reading touches the entries and the mark of a cache, and nothing else of it. -/
theorem readEntries_eq (c : AnalysisCache) (members : List (String × Json)) :
    ∃ entries dirty, (readEntries c members).cache = { c with entries, dirty } := by
  induction members generalizing c with
  | nil => exact ⟨c.entries, c.dirty, rfl⟩
  | cons m rest ih =>
    obtain ⟨key, j⟩ := m
    unfold readEntries
    split
    · split
      · split
        · exact ih { c with entries := _ }
        · exact ih { c with dirty := true }
      · exact ih { c with dirty := true }
      · exact ⟨c.entries, c.dirty, rfl⟩
      · exact ⟨c.entries, c.dirty, rfl⟩
    · exact ih { c with dirty := true }

theorem load_eq (c : AnalysisCache) (disk : Disk) :
    ∃ entries dirty, (c.load disk).cache = { c with entries, dirty } := by
  unfold load
  dsimp only
  split
  · exact ⟨_, _, rfl⟩
  · split
    · exact ⟨_, _, rfl⟩
    · split
      · exact ⟨_, _, rfl⟩
      · split
        · exact ⟨_, _, rfl⟩
        · unfold readBytes
          dsimp only
          split
          · exact ⟨_, _, rfl⟩
          · split
            · unfold readDocument
              split
              · exact ⟨_, _, rfl⟩
              · split
                · exact readEntries_eq { c with entries := {}, dirty := false } _
                · exact ⟨_, _, rfl⟩
            all_goals exact ⟨_, _, rfl⟩

/-- Reading a document counts nothing. -/
theorem asked_load (c : AnalysisCache) (disk : Disk) : (c.load disk).cache.asked = c.asked := by
  obtain ⟨entries, dirty, h⟩ := load_eq c disk
  rw [h]
  rfl

/-! ### Documents -/

/-- A document that a cache has written which has an entry for a content. -/
def Stores (document : List UInt8) (content : String) : Prop :=
  ∃ (c : AnalysisCache) (now : ℤ), c.Writable ∧ IsClockTime now ∧
    contentHash content ∈ c.entries.keys ∧ document = c.written now

variable {disk : Disk} {path : Path} {content : String} {document : List UInt8}

theorem Stores.openAt (h : Stores document content) (hname : isFilePath path = true)
    (hlong : disk.isTooLong path = false) (hfile : disk.file? path = some document) :
    contentHash content ∈ (openAt disk (some path)).cache.entries.keys := by
  obtain ⟨writer, time, hwritable, htime, hkey, rfl⟩ := h
  rwa [AnalysisCache.openAt, load_written hwritable htime rfl hname hlong hfile]

/-- An entry of a cache that is opened comes from the document that is there. -/
theorem exists_stores_of_openAt {contents : Set String}
    (hread : ∀ document ∈ documentsRead (some path) disk, IsFreshDocument contents document)
    (hkey : contentHash content ∈ (openAt disk (some path)).cache.entries.keys) :
    ∃ document, disk.file? path = some document ∧ Stores document content := by
  rcases entries_load { path := some path } disk with
    hempty | ⟨p, document, hp, hname, hlong, hfile⟩
  · rw [openAt, hempty] at hkey
    simp [Table.keys] at hkey
  · obtain rfl := Option.some.inj hp
    obtain ⟨writer, time, -, hwritable, htime, rfl⟩ :=
      hread document ⟨path, rfl, hname, hlong, hfile⟩
    rw [openAt, load_written hwritable htime rfl hname hlong hfile] at hkey
    exact ⟨_, hfile, writer, time, hwritable, htime, hkey, rfl⟩

end DocTrace.AnalysisCache
