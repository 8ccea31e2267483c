import DocTrace.Proofs.AnalysisCache.Edit

/-! Loading and saving. What is loaded depends on the path of a cache only. A save
either leaves the cache and the document as they were, or a new cache on the path
holds the same entries afterwards. -/

namespace DocTrace.AnalysisCache

variable {c d : AnalysisCache} {disk : Disk}

/-! ### Loading -/

/-- Both readings gave the same entries and broke off in the same way, or not at all. -/
structure Loaded.SameAs (l m : Loaded) : Prop where
  entries : l.cache.entries = m.cache.entries
  fault : l.fault = m.fault

theorem sameAs_readEntries (hentries : c.entries = d.entries) (members : List (String × Json)) :
    (readEntries c members).SameAs (readEntries d members) ∧
      (readEntries c members).cache.path = c.path := by
  induction members generalizing c d with
  | nil => exact ⟨⟨hentries, rfl⟩, rfl⟩
  | cons m rest ih =>
    obtain ⟨key, j⟩ := m
    unfold readEntries
    split
    · split
      · next e _ =>
        split
        · exact ih (congrArg (·.put key e) hentries)
        · exact ih hentries
      · obtain ⟨⟨hsame, hfault⟩, hpath⟩ :=
          @ih { c with dirty := true } { d with dirty := true } hentries
        exact ⟨⟨hsame, hfault⟩, hpath⟩
      · exact ⟨⟨hentries, rfl⟩, rfl⟩
      · exact ⟨⟨hentries, rfl⟩, rfl⟩
    · exact ih hentries

theorem sameAs_readBytes (hentries : c.entries = d.entries) (path : Path) (content : List UInt8) :
    (readBytes c path content).SameAs (readBytes d path content) ∧
      (readBytes c path content).cache.path = c.path := by
  have hplain {l m : Loaded} (hl : l.cache.entries = c.entries) (hm : m.cache.entries = d.entries)
      (hfault : l.fault = m.fault) (hpath : l.cache.path = c.path) :
      l.SameAs m ∧ l.cache.path = c.path := ⟨⟨by rw [hl, hm, hentries], hfault⟩, hpath⟩
  unfold readBytes
  dsimp only
  split
  · exact hplain rfl rfl rfl rfl
  · split
    · unfold readDocument
      split
      · exact hplain rfl rfl rfl rfl
      · split
        · exact sameAs_readEntries hentries _
        · exact hplain rfl rfl rfl rfl
    all_goals exact hplain rfl rfl rfl rfl

/-- A load gives what a new cache on the path is opened with. -/
theorem sameAs_openAt (c : AnalysisCache) (disk : Disk) :
    (c.load disk).SameAs (openAt disk c.path) ∧ (c.load disk).cache.path = c.path := by
  obtain ⟨path, entries, dirty, used, hits, misses⟩ := c
  unfold openAt load
  cases path with
  | none => exact ⟨⟨rfl, rfl⟩, rfl⟩
  | some path =>
    dsimp only
    split
    · exact ⟨⟨rfl, rfl⟩, rfl⟩
    · split
      · exact ⟨⟨rfl, rfl⟩, rfl⟩
      · split
        · exact ⟨⟨rfl, rfl⟩, rfl⟩
        · refine sameAs_readBytes ?_ path _
          rfl

theorem openAt_path (disk : Disk) (path : Option Path) : (openAt disk path).cache.path = path :=
  (sameAs_openAt { path } disk).2

theorem entries_load (c : AnalysisCache) (disk : Disk) :
    (c.load disk).cache.entries = {} ∨
      ∃ path content, c.path = some path ∧ isFilePath path = true ∧ disk.isTooLong path = false ∧
        disk.file? path = some content := by
  unfold load
  dsimp only
  cases hpath : c.path with
  | none => exact .inl rfl
  | some path =>
    dsimp only
    split
    · exact .inl rfl
    · next hname =>
      split
      · exact .inl rfl
      · next hlong =>
        cases hfile : disk.file? path with
        | none => exact .inl rfl
        | some content =>
          exact .inr ⟨path, content, rfl, by simpa using hname, by simpa using hlong, hfile⟩

/-- The document that a cache on a path reads, if there is one. -/
def documentsRead (path : Option Path) (disk : Disk) : Set (List UInt8) :=
  {document | ∃ p, path = some p ∧ isFilePath p = true ∧ disk.isTooLong p = false ∧
    disk.file? p = some document}

/-- A document that a cache of fresh entries has written. -/
def IsFreshDocument (contents : Set String) (document : List UInt8) : Prop :=
  ∃ (c : AnalysisCache) (now : ℤ), c.Fresh contents ∧ c.Writable ∧ IsClockTime now ∧
    document = c.written now

theorem fresh_load {contents : Set String}
    (h : ∀ document ∈ documentsRead c.path disk, IsFreshDocument contents document) :
    Fresh contents (c.load disk).cache := by
  rcases entries_load c disk with hempty | ⟨p, document, hpath, hname, hlong, hfile⟩
  · simp [Fresh, hempty]
  · obtain ⟨writer, now, hfresh, hwritable, hnow, rfl⟩ := h document ⟨p, hpath, hname, hlong, hfile⟩
    rw [load_written hwritable hnow hpath hname hlong hfile]
    exact hfresh

theorem openAt_of_not_isFilePath {path : Path} (h : isFilePath path = false) (disk : Disk) :
    openAt disk (some path) = { cache := { path := some path } } := by
  simp [openAt, load, h]

/-- Reading a fresh document never breaks off; only its path can be too long to be asked for. -/
theorem fault_openAt {contents : Set String} {path : Path} (hname : isFilePath path = true)
    (h : ∀ document ∈ documentsRead (some path) disk, IsFreshDocument contents document) :
    (openAt disk (some path)).fault =
      if disk.isTooLong path then some .pathTooLong else none := by
  cases hlong : disk.isTooLong path with
  | true => simp [openAt, load, hname, hlong]
  | false =>
    cases hfile : disk.file? path with
    | none => simp [openAt, load, hname, hlong, hfile]
    | some document =>
      obtain ⟨writer, now, -, hwritable, hnow, rfl⟩ := h document ⟨path, rfl, hname, hlong, hfile⟩
      rw [openAt, load_written hwritable hnow rfl hname hlong hfile]
      rfl

/-! ### Saving -/

theorem isFilePath_name {path : Path} (h : isFilePath path = true) : path.name ≠ "" := by
  simp only [isFilePath, Bool.and_eq_true, decide_eq_true_eq] at h
  exact h.1

theorem save_clean (hdirty : c.dirty = false) (disk : Disk) (now : ℤ) :
    c.save disk now = ⟨c, disk, .ok false, []⟩ := by
  unfold save
  split
  · rfl
  · simp [hdirty]

theorem save_invalid {path : Path} (hpath : c.path = some path) (hname : isFilePath path = false)
    (hdirty : c.dirty = true) (disk : Disk) (now : ℤ) :
    c.save disk now = ⟨c, disk, .error .invalidPath, []⟩ := by
  simp [save, hpath, hname, hdirty]

theorem save_replaced {path : Path} {now : ℤ} {left : Disk} (hpath : c.path = some path)
    (hname : isFilePath path = true) (hdirty : c.dirty = true)
    (hreplace : replaceFile disk path (c.written now) = (left, true)) :
    c.save disk now = ⟨{ c with dirty := false }, left, .ok true, []⟩ := by
  simp [save, hpath, hname, hdirty, hreplace]

theorem exists_save {path : Path} (hpath : c.path = some path) (hname : isFilePath path = true)
    (disk : Disk) (now : ℤ) : ∃ written, (c.save disk now).result = .ok written := by
  simp only [save, hpath, hname, Bool.not_true, Bool.false_eq_true, if_false]
  split
  · exact ⟨_, rfl⟩
  · split <;> exact ⟨_, rfl⟩

/-- What a save that does not write leaves behind. -/
structure Saved.Kept (saved : Saved) (c : AnalysisCache) (disk : Disk) : Prop where
  cache : saved.cache = c
  result : saved.result ≠ .ok true
  document : ∀ path, c.path = some path → documentAt saved.disk path = documentAt disk path
  clean : c.dirty = false → saved.disk = disk ∧ saved.result = .ok false

/-- What a save that writes leaves behind. -/
structure Saved.Wrote (saved : Saved) (c : AnalysisCache) (disk : Disk) (now : ℤ) (path : Path) :
    Prop where
  path_eq : c.path = some path
  dirty : c.dirty = true
  isFilePath : isFilePath path = true
  cache : saved.cache = { c with dirty := false }
  result : saved.result = .ok true
  replaced : replaceFile disk path (c.written now) = (saved.disk, true)

theorem save_cases (c : AnalysisCache) (disk : Disk) (now : ℤ) :
    (c.save disk now).Kept c disk ∨ ∃ path, (c.save disk now).Wrote c disk now path := by
  unfold save
  cases hpath : c.path with
  | none => exact .inl ⟨rfl, by simp, fun _ h => by simp [hpath] at h, fun _ => ⟨rfl, rfl⟩⟩
  | some path =>
    dsimp only
    split
    · exact .inl ⟨rfl, by simp, fun _ _ => rfl, fun _ => ⟨rfl, rfl⟩⟩
    · next hdirty =>
      have hdirty : c.dirty = true := by simpa using hdirty
      have hmarked : ¬c.dirty = false := by simp [hdirty]
      split
      · exact .inl ⟨rfl, by simp, fun _ _ => rfl, fun h => absurd h hmarked⟩
      · next hname =>
        have hname : isFilePath path = true := by simpa using hname
        split
        · next left hreplace =>
          exact .inr ⟨path, hpath, hdirty, hname, by rw [hpath], rfl, hreplace⟩
        -- The write failed, perhaps halfway.
        · next left hreplace =>
          refine .inl ⟨rfl, by simp, fun other hother => ?_, fun h => absurd h hmarked⟩
          obtain rfl := Option.some.inj (hpath.symm.trans hother)
          exact documentAt_replaceFile (isFilePath_name hname) hreplace

variable {saved : Saved} {now : ℤ} {path : Path}

theorem Saved.Wrote.documentAt_eq (h : saved.Wrote c disk now path) :
    documentAt saved.disk path = some (c.written now) :=
  documentAt_of_file? (file?_replaceFile (isFilePath_name h.isFilePath) h.replaced)

/-- A cache that is opened after a save that wrote holds what was saved. -/
theorem Saved.Wrote.openAt_eq (h : saved.Wrote c disk now path) (hc : c.Writable)
    (hnow : IsClockTime now) :
    openAt saved.disk (some path) = { cache := { path := some path, entries := c.entries } } :=
  have hname := isFilePath_name h.isFilePath
  load_written hc hnow rfl h.isFilePath (isTooLong_replaceFile hname h.replaced)
    (file?_replaceFile hname h.replaced)

end DocTrace.AnalysisCache
