import DocTrace.Proofs.AnalysisCache.Decoding
import DocTrace.Proofs.AnalysisCache.Run

/-! Damaged documents. A cache that is opened holds the well-formed entries of the present version
and is marked for writing where anything else was in the document, unless the reading breaks off:
the reader of JSON gives up on long integers and on deep nesting, and some members are fatal. -/

namespace DocTrace.AnalysisCache

open Entry (IsEntry IsFatal IsCurrent)

/-! ### Members -/

/-- The entry that a member of the document gives. -/
def entryOf? (m : String × Json) : Option (String × Entry) :=
  match Entry.ofJson m.1 m.2 with
  | .ok e => if e.version = formatVersion then some (m.1, e) else none
  | .error _ => none

theorem entryOf?_eq_some_iff {m : String × Json} {key : String} {e : Entry} :
    entryOf? m = some (key, e) ↔ m.1 = key ∧ Entry.ofJson m.1 m.2 = .ok e ∧ IsCurrent m.2 := by
  unfold entryOf?
  cases hread : Entry.ofJson m.1 m.2 with
  | error fault => simp
  | ok other =>
    have hversion := Entry.version_of_ofJson hread
    by_cases hcurrent : IsCurrent m.2
    · simp [hversion.2 hcurrent, hcurrent]
    · simp [mt hversion.1 hcurrent, hcurrent]

theorem sublist_entryOf? (members : List (String × Json)) :
    ((members.filterMap entryOf?).map (·.1)).Sublist (members.map (·.1)) := by
  induction members with
  | nil => exact .slnil
  | cons m rest ih =>
    rw [List.map_cons]
    cases hm : entryOf? m with
    | none =>
      rw [List.filterMap_cons_none hm]
      exact ih.cons m.1
    | some found =>
      obtain ⟨hkey, -⟩ := entryOf?_eq_some_iff.1 hm
      rw [List.filterMap_cons_some hm, List.map_cons, hkey]
      exact ih.cons_cons found.1

theorem entryOf?_isSome_iff {m : String × Json} :
    (entryOf? m).isSome ↔ IsEntry m.2 ∧ IsCurrent m.2 := by
  rw [← Entry.exists_ofJson_iff m.1]
  unfold entryOf?
  cases hread : Entry.ofJson m.1 m.2 with
  | error fault => simp
  | ok e =>
    have hversion := Entry.version_of_ofJson hread
    by_cases hcurrent : IsCurrent m.2 <;> simp [hversion, hcurrent]

theorem not_isFatal_of_not_isObject {j : Json} (h : ¬Entry.IsObject j) : ¬IsFatal j := by
  intro hfatal
  obtain ⟨items, hitems⟩ := hfatal.nodes
  exact h (Entry.isObject_of_member (by rw [Entry.HasMember, hitems]; rfl))

theorem readEntries_of_not_isObject {m : String × Json} (h : ¬Entry.IsObject m.2)
    (c : AnalysisCache) (rest : List (String × Json)) :
    readEntries c (m :: rest) = readEntries { c with dirty := true } rest := by
  obtain ⟨key, j⟩ := m
  cases j with
  | object members => exact absurd ⟨members, rfl⟩ h
  | null | bool | int | float | str | array => rfl

/-- What a member does to the reading of it and of all after it. -/
inductive ReadsMember (c : AnalysisCache) (m : String × Json) (rest : List (String × Json)) :
    Loaded → Prop where
  | kept {loaded : Loaded} {e : Entry} (hentry : entryOf? m = some (m.1, e))
    (hgood : ¬IsFatal m.2)
    (hsame : loaded = readEntries { c with entries := c.entries.put m.1 e } rest) :
    ReadsMember c m rest loaded
  | skipped {loaded : Loaded} (hentry : entryOf? m = none) (hgood : ¬IsFatal m.2)
    (hcache : loaded.cache = (readEntries { c with dirty := true } rest).cache)
    (hfault : loaded.fault = (readEntries { c with dirty := true } rest).fault) :
    ReadsMember c m rest loaded
  | brokeOff {loaded : Loaded} (hfatal : IsFatal m.2) (hfault : loaded.fault ≠ none) :
    ReadsMember c m rest loaded

theorem readsMember_readEntries (c : AnalysisCache) (m : String × Json)
    (rest : List (String × Json)) : ReadsMember c m rest (readEntries c (m :: rest)) := by
  by_cases hobject : Entry.IsObject m.2
  · obtain ⟨key, j⟩ := m
    obtain ⟨members, rfl⟩ := hobject
    have hreads := Entry.reads_ofJson key (.object members)
    cases hread : Entry.ofJson key (.object members) with
    | ok e =>
      rw [hread] at hreads
      have hgood : ¬IsFatal (.object members) := by
        cases hreads with
        | read _ hgood => exact hgood
      by_cases hversion : e.version = formatVersion
      · have hentry : entryOf? (key, .object members) = some (key, e) := by
          simp [entryOf?, hread, hversion]
        simp only [readEntries, hread, if_pos hversion]
        exact .kept hentry hgood rfl
      · have hentry : entryOf? (key, .object members) = none := by
          simp [entryOf?, hread, hversion]
        simp only [readEntries, hread, if_neg hversion]
        exact .skipped hentry hgood rfl rfl
    | error fault =>
      rw [hread] at hreads
      have hentry : entryOf? (key, .object members) = none := by simp [entryOf?, hread]
      cases hreads with
      | skipped _ hgood =>
        simp only [readEntries, hread]
        exact .skipped hentry hgood rfl rfl
      | brokeOff _ hfatal hfault =>
        refine .brokeOff hfatal ?_
        cases fault with
        | malformed => exact absurd rfl hfault
        | relationshipNotMapping | infiniteTimestamp => simp [readEntries, hread]
  · have hentry : entryOf? m = none := by
      rw [← Option.not_isSome_iff_eq_none, entryOf?_isSome_iff]
      rintro ⟨hentry, -⟩
      exact hobject (Entry.isObject_of_member hentry.diagramType)
    rw [readEntries_of_not_isObject hobject]
    exact .skipped hentry (not_isFatal_of_not_isObject hobject) rfl rfl

/-- Members that are not fatal are read to the end. -/
structure ReadsAll (c : AnalysisCache) (members : List (String × Json)) (loaded : Loaded) :
    Prop where
  fault : loaded.fault = none
  entries : loaded.cache.entries =
    (members.filterMap entryOf?).foldl (fun t e => t.put e.1 e.2) c.entries
  dirty : loaded.cache.dirty = true ↔
    c.dirty = true ∨ ∃ m ∈ members, ¬(IsEntry m.2 ∧ IsCurrent m.2)

theorem readsAll_readEntries (c : AnalysisCache) {members : List (String × Json)}
    (h : ∀ m ∈ members, ¬IsFatal m.2) : ReadsAll c members (readEntries c members) := by
  induction members generalizing c with
  | nil => exact ⟨rfl, rfl, by simp [readEntries]⟩
  | cons m rest ih =>
    obtain ⟨hm, hrest⟩ := List.forall_mem_cons.1 h
    have hstep := readsMember_readEntries c m rest
    cases hstep with
    | @kept e hentry _ hsame =>
      rw [hsame]
      obtain ⟨hfault, hentries, hdirty⟩ := ih { c with entries := c.entries.put m.1 e } hrest
      have hmember : IsEntry m.2 ∧ IsCurrent m.2 := entryOf?_isSome_iff.1 (by simp [hentry])
      refine ⟨hfault, ?_, ?_⟩
      · rw [hentries, List.filterMap_cons_some hentry, List.foldl_cons]
      · simp [hdirty, hmember]
    | skipped hentry _ hcache hsame =>
      obtain ⟨hfault, hentries, hdirty⟩ := ih { c with dirty := true } hrest
      have hmember : ¬(IsEntry m.2 ∧ IsCurrent m.2) := by simp [← entryOf?_isSome_iff, hentry]
      refine ⟨hsame.trans hfault, ?_, ?_⟩
      · rw [hcache, hentries, List.filterMap_cons_none hentry]
      · rw [hcache]
        exact iff_of_true (hdirty.2 (.inl rfl)) (.inr ⟨m, List.mem_cons_self .., hmember⟩)
    | brokeOff hfatal => exact absurd hfatal hm

/-- The first fatal member ends the reading. -/
theorem fault_readEntries_of_fatal (c : AnalysisCache) {members : List (String × Json)}
    (h : ∃ m ∈ members, IsFatal m.2) : (readEntries c members).fault ≠ none := by
  induction members generalizing c with
  | nil => simp at h
  | cons m rest ih =>
    have hstep := readsMember_readEntries c m rest
    have hlater (hgood : ¬IsFatal m.2) : ∃ m ∈ rest, IsFatal m.2 := by simpa [hgood] using h
    cases hstep with
    | kept _ hgood hsame =>
      rw [hsame]
      exact ih _ (hlater hgood)
    | skipped _ hgood _ hfault =>
      rw [hfault]
      exact ih _ (hlater hgood)
    | brokeOff _ hfault => exact hfault

/-- A number in place of a relationship takes the good entry after it along. -/
example :
    let member (relationship : Json) : Json :=
      .object [("nodes", .array []), ("relationships", .array [relationship]),
        ("timestamp", .int 1), ("diagramType", .str "flowchart")]
    let good : Json := .object [("from", .str "A"), ("to", .str "B")]
    let read := readEntries {} [("bad", member (.int 5)), ("good", member good)]
    read.fault = some .relationshipNotMapping ∧ read.cache.entries.keys = [] := ⟨rfl, rfl⟩

/-! ### Documents -/

/-- The members of a document that can be used as a whole. -/
def membersIn? (j : Json) : Option (List (String × Json)) :=
  match hasVersion j, j.member? "entries" with
  | true, some (.object members) => some members
  | _, _ => none

def membersOf? (content : List UInt8) : Option (List (String × Json)) :=
  match Disk.textOf content with
  | .error _ => none
  | .ok text =>
    match Json.read text with
    | .error _ => none
    | .ok j => membersIn? j

/-- A document that cannot be read to its end. -/
inductive BreaksOff (content : List UInt8) : Prop where
  | reader {text : String} (htext : Disk.textOf content = .ok text)
    (hread : Json.read text = .error .integerTooLong ∨ Json.read text = .error .tooDeep)
  | member {members : List (String × Json)} (hmembers : membersOf? content = some members)
    {m : String × Json} (hm : m ∈ members) (hfatal : IsFatal m.2)

/-- The document as a whole or one of its members does not become a part of the cache. -/
def Discards (content : List UInt8) : Prop :=
  ∀ members, membersOf? content = some members → ∃ m ∈ members, ¬(IsEntry m.2 ∧ IsCurrent m.2)

/-- A document is read to its end, and its good members are what is left of it. -/
structure Recovers (content : List UInt8) (loaded : Loaded) : Prop where
  fault : loaded.fault = none
  entries : loaded.cache.entries.entries = ((membersOf? content).getD []).filterMap entryOf?
  dirty : loaded.cache.dirty = true ↔ Discards content

variable {c : AnalysisCache} {path : Path} {content : List UInt8}

theorem member_of_membersIn? {j : Json} {members : List (String × Json)}
    (h : membersIn? j = some members) :
    hasVersion j = true ∧ j.member? "entries" = some (.object members) := by
  unfold membersIn? at h
  split at h
  · next hversion hentries => exact ⟨hversion, Option.some.inj h ▸ hentries⟩
  · exact nomatch h

theorem nodup_membersOf? {members : List (String × Json)} (h : membersOf? content = some members) :
    (members.map (·.1)).Nodup := by
  unfold membersOf? at h
  split at h
  · exact nomatch h
  · split at h
    · exact nomatch h
    · next j hread =>
      have hreadable : Json.Readable (Json.maxDepth - 1 + 1) j := Json.readable_of_read hread
      cases readable_of_member? hreadable (member_of_membersIn? h).2 with
      | object hdistinct _ => exact hdistinct

theorem readDocument_of_some {j : Json} {members : List (String × Json)}
    (h : membersIn? j = some members) (c : AnalysisCache) (path : Path) :
    readDocument c path j = readEntries c members := by
  obtain ⟨hversion, hentries⟩ := member_of_membersIn? h
  simp [readDocument, hversion, hentries]

theorem readDocument_of_none {j : Json} (h : membersIn? j = none) (c : AnalysisCache)
    (path : Path) :
    (readDocument c path j).fault = none ∧
      (readDocument c path j).cache = { c with dirty := true } := by
  unfold readDocument
  split
  · exact ⟨rfl, rfl⟩
  · next hversion =>
    split
    · next members hentries =>
      have hversion : hasVersion j = true := by simpa using hversion
      simp [membersIn?, hversion, hentries] at h
    · exact ⟨rfl, rfl⟩

/-- A document that is of no use is discarded as a whole. -/
theorem recovers_of_none (h : membersOf? content = none) (hempty : c.entries = {})
    {loaded : Loaded} (hfault : loaded.fault = none)
    (hcache : loaded.cache = { c with dirty := true }) : Recovers content loaded where
  fault := hfault
  entries := by simp [hcache, hempty, h]
  dirty := by simp [hcache, Discards, h]

theorem recovers_of_readsAll {members : List (String × Json)}
    (hmembers : membersOf? content = some members) (hempty : c.entries = {})
    (hclean : c.dirty = false) {loaded : Loaded} (h : ReadsAll c members loaded) :
    Recovers content loaded where
  fault := h.fault
  entries := by
    have hdistinct := (nodup_membersOf? hmembers).sublist (sublist_entryOf? members)
    rw [h.entries, hempty, hmembers, Option.getD_some]
    simpa using Table.entries_foldl_put {} (members.filterMap entryOf?) (by simpa using hdistinct)
  dirty := by simp [h.dirty, hclean, Discards, hmembers]

/-- What becomes of the bytes of a document. -/
def Outcome (content : List UInt8) (loaded : Loaded) : Prop :=
  (BreaksOff content ∧ loaded.fault ≠ none) ∨ (¬BreaksOff content ∧ Recovers content loaded)

theorem outcome_of_none
    (hreader : ∀ text, Disk.textOf content = .ok text →
      ¬(Json.read text = .error .integerTooLong ∨ Json.read text = .error .tooDeep))
    (h : membersOf? content = none) (hempty : c.entries = {}) {loaded : Loaded}
    (hfault : loaded.fault = none) (hcache : loaded.cache = { c with dirty := true }) :
    Outcome content loaded := by
  refine .inr ⟨?_, recovers_of_none h hempty hfault hcache⟩
  rintro (⟨htext, hread⟩ | ⟨hmembers, -, -⟩)
  · exact hreader _ htext hread
  · exact nomatch h.symm.trans hmembers

theorem outcome_of_some {text : String} (htext : Disk.textOf content = .ok text) {j : Json}
    (hread : Json.read text = .ok j) {members : List (String × Json)}
    (hmembers : membersOf? content = some members) (hempty : c.entries = {})
    (hclean : c.dirty = false) : Outcome content (readEntries c members) := by
  by_cases hfatal : ∃ m ∈ members, IsFatal m.2
  · have hfault := fault_readEntries_of_fatal c hfatal
    obtain ⟨m, hm, hfatal⟩ := hfatal
    exact .inl ⟨.member hmembers hm hfatal, hfault⟩
  · have hnot : ∀ m ∈ members, ¬IsFatal m.2 := fun m hm h => hfatal ⟨m, hm, h⟩
    refine .inr ⟨?_, recovers_of_readsAll hmembers hempty hclean (readsAll_readEntries c hnot)⟩
    rintro (⟨htext', hbroke⟩ | ⟨hmembers', hm, hbad⟩)
    · obtain rfl := Except.ok.inj (htext.symm.trans htext')
      simp [hread] at hbroke
    · obtain rfl := Option.some.inj (hmembers.symm.trans hmembers')
      exact hnot _ hm hbad

theorem outcome_readBytes (hempty : c.entries = {}) (hclean : c.dirty = false) (path : Path)
    (content : List UInt8) : Outcome content (readBytes c path content) := by
  unfold readBytes
  cases htext : Disk.textOf content with
  | error fault =>
    have hmembers : membersOf? content = none := by simp [membersOf?, htext]
    exact outcome_of_none (by simp [htext]) hmembers hempty rfl rfl
  | ok text =>
    cases hread : Json.read text with
    | error fault =>
      have hmembers : membersOf? content = none := by simp [membersOf?, htext, hread]
      simp only [hread]
      cases fault with
      | integerTooLong => exact .inl ⟨.reader htext (.inl hread), by simp⟩
      | tooDeep => exact .inl ⟨.reader htext (.inr hread), by simp⟩
      | malformed => exact outcome_of_none (by simp [htext, hread]) hmembers hempty rfl rfl
    | ok j =>
      have hmembers : membersOf? content = membersIn? j := by simp [membersOf?, htext, hread]
      simp only [hread]
      cases hfound : membersIn? j with
      | none =>
        obtain ⟨hfault, hcache⟩ := readDocument_of_none hfound c path
        exact outcome_of_none (by simp [htext, hread]) (hmembers.trans hfound) hempty hfault hcache
      | some members =>
        rw [readDocument_of_some hfound]
        exact outcome_of_some htext hread (hmembers.trans hfound) hempty hclean

/-! ### Opening -/

variable {disk : Disk}

theorem openAt_absent (hlong : isFilePath path = true → disk.isTooLong path = false)
    (hnone : documentsRead (some path) disk = ∅) :
    openAt disk (some path) = { cache := { path := some path } } := by
  cases hname : isFilePath path with
  | false => exact openAt_of_not_isFilePath hname disk
  | true =>
    cases hfile : disk.file? path with
    | none => simp [openAt, load, hname, hlong hname, hfile]
    | some content =>
      have hread : content ∈ documentsRead (some path) disk :=
        ⟨path, rfl, hname, hlong hname, hfile⟩
      rw [hnone] at hread
      exact hread.elim

theorem openAt_of_mem (h : content ∈ documentsRead (some path) disk) :
    openAt disk (some path) = readBytes { path := some path } path content ∧
      documentsRead (some path) disk = {content} := by
  obtain ⟨p, hpath, hname, hlong, hfile⟩ := h
  obtain rfl := Option.some.inj hpath
  refine ⟨by simp [openAt, load, hname, hlong, hfile], ?_⟩
  ext other
  constructor
  · rintro ⟨q, hq, -, -, hother⟩
    obtain rfl := Option.some.inj hq
    exact Option.some.inj (hother.symm.trans hfile)
  · rintro rfl
    exact ⟨path, rfl, hname, hlong, hfile⟩

theorem openAt_tooLong (hname : isFilePath path = true) (hlong : disk.isTooLong path = true) :
    (openAt disk (some path)).fault ≠ none := by
  simp [openAt, load, hname, hlong]

/-- A cache that is opened breaks off, is empty because there is no document, or has what is left
of the document. -/
theorem openAt_cases (disk : Disk) (path : Path) :
    (openAt disk (some path)).fault ≠ none ∧
        (isFilePath path = true ∧ disk.isTooLong path = true ∨
          ∃ content ∈ documentsRead (some path) disk, BreaksOff content) ∨
      (isFilePath path = true → disk.isTooLong path = false) ∧
        (documentsRead (some path) disk = ∅ ∧
            openAt disk (some path) = { cache := { path := some path } } ∨
          ∃ content, documentsRead (some path) disk = {content} ∧ ¬BreaksOff content ∧
            Recovers content (openAt disk (some path))) := by
  by_cases hlong : isFilePath path = true ∧ disk.isTooLong path = true
  · exact .inl ⟨openAt_tooLong hlong.1 hlong.2, .inl hlong⟩
  · have hshort : isFilePath path = true → disk.isTooLong path = false := by
      simpa using hlong
    rcases Set.eq_empty_or_nonempty (documentsRead (some path) disk) with hnone | ⟨content, hread⟩
    · exact .inr ⟨hshort, .inl ⟨hnone, openAt_absent hshort hnone⟩⟩
    · obtain ⟨hopen, hsingle⟩ := openAt_of_mem hread
      rcases @outcome_readBytes { path := some path } rfl rfl path content with
        ⟨hbreaks, hfault⟩ | ⟨hends, hrecovers⟩
      · exact .inl ⟨hopen ▸ hfault, .inr ⟨content, hread, hbreaks⟩⟩
      · exact .inr ⟨hshort, .inr ⟨content, hsingle, hends, hopen ▸ hrecovers⟩⟩

/-! ### The next save -/

theorem Request.edit_foldl (c : AnalysisCache) (requests : List Request) :
    (requests.foldl Request.edit c).path = c.path ∧
      (c.dirty = true → (requests.foldl Request.edit c).dirty = true) := by
  induction requests generalizing c with
  | nil => exact ⟨rfl, id⟩
  | cons r rest ih =>
    have hedit := edit_request c r
    obtain ⟨hpath, hmarked⟩ := ih (r.edit c)
    refine ⟨hpath.trans hedit.path, fun hdirty => hmarked ?_⟩
    by_contra hclean
    have hbefore := (hedit.marked (by simpa using hclean)).1
    exact absurd hdirty (by simp [hbefore])

/-- A save of a marked cache tries to replace the document. -/
theorem save_marked {d : AnalysisCache} (hpath : d.path = some path) (hname : isFilePath path = true)
    (hdirty : d.dirty = true) (later : Disk) (now : ℤ) :
    (d.save later now).disk = (replaceFile later path (d.written now)).1 ∧
      (d.save later now).result = .ok (replaceFile later path (d.written now)).2 := by
  simp only [save, hpath, hname, hdirty, Bool.not_true, Bool.false_eq_true, if_false]
  split
  · next left hreplaced => simp [hreplaced]
  · next left hreplaced => simp [hreplaced]

theorem Recovers.find?_iff {loaded : Loaded} (h : Recovers content loaded) {key : String}
    {e : Entry} :
    loaded.cache.entries.find? key = some e ↔
      ∃ members, membersOf? content = some members ∧
        ∃ j, (key, j) ∈ members ∧ IsCurrent j ∧ Entry.ofJson key j = .ok e := by
  rw [Table.find?_eq_some_iff, h.entries, List.mem_filterMap]
  constructor
  · rintro ⟨⟨other, j⟩, hm, hentry⟩
    obtain ⟨rfl, hread, hcurrent⟩ := entryOf?_eq_some_iff.1 hentry
    cases hmembers : membersOf? content with
    | none => simp [hmembers] at hm
    | some members => exact ⟨members, rfl, j, by simpa [hmembers] using hm, hcurrent, hread⟩
  · rintro ⟨members, hmembers, j, hm, hcurrent, hread⟩
    exact ⟨(key, j), by simpa [hmembers] using hm, entryOf?_eq_some_iff.2 ⟨rfl, hread, hcurrent⟩⟩

theorem fault_openAt_eq_none_iff (disk : Disk) (path : Path) :
    (openAt disk (some path)).fault = none ↔
      (isFilePath path = true → disk.isTooLong path = false) ∧
        ∀ content ∈ documentsRead (some path) disk, ¬BreaksOff content := by
  rcases openAt_cases disk path with ⟨hfault, hcause⟩ | ⟨hshort, ⟨hnone, hopen⟩ | ⟨content, hread⟩⟩
  · refine iff_of_false hfault ?_
    rintro ⟨hshort, hends⟩
    rcases hcause with ⟨hname, hlong⟩ | ⟨content, hread, hbreaks⟩
    · simp [hshort hname] at hlong
    · exact hends content hread hbreaks
  · exact iff_of_true (by rw [hopen]) ⟨hshort, by simp [hnone]⟩
  · obtain ⟨hread, hends, hrecovers⟩ := hread
    exact iff_of_true hrecovers.fault ⟨hshort, by simpa [hread] using hends⟩

theorem find?_openAt_iff (hfault : (openAt disk (some path)).fault = none) (key : String)
    (e : Entry) :
    (openAt disk (some path)).cache.entries.find? key = some e ↔
      ∃ content ∈ documentsRead (some path) disk, ∃ members, membersOf? content = some members ∧
        ∃ j, (key, j) ∈ members ∧ IsCurrent j ∧ Entry.ofJson key j = .ok e := by
  rcases openAt_cases disk path with ⟨hbroke, -⟩ | ⟨-, ⟨hnone, hopen⟩ | ⟨content, hread, -, hrecovers⟩⟩
  · exact absurd hfault hbroke
  · simp [hnone, hopen]
  · simp [hread, hrecovers.find?_iff]

theorem dirty_openAt_iff (hfault : (openAt disk (some path)).fault = none) :
    (openAt disk (some path)).cache.dirty = true ↔
      ∃ content ∈ documentsRead (some path) disk, Discards content := by
  rcases openAt_cases disk path with ⟨hbroke, -⟩ | ⟨-, ⟨hnone, hopen⟩ | ⟨content, hread, -, hrecovers⟩⟩
  · exact absurd hfault hbroke
  · simp [hnone, hopen]
  · simp [hread, hrecovers.dirty]

theorem save_after_damage (hfault : (openAt disk (some path)).fault = none)
    (hdirty : (openAt disk (some path)).cache.dirty = true) (requests : List Request)
    (later : Disk) (now : ℤ) :
    let d := requests.foldl Request.edit (openAt disk (some path)).cache
    (d.save later now).result = .ok (replaceFile later path (d.written now)).2 ∧
      ((d.save later now).result = .ok true →
        documentAt (d.save later now).disk path = some (d.written now)) := by
  intro d
  obtain ⟨content, ⟨p, hpath, hname, -⟩, -⟩ := (dirty_openAt_iff hfault).1 hdirty
  obtain rfl := Option.some.inj hpath
  obtain ⟨hsame, hmarked⟩ := Request.edit_foldl (openAt disk (some path)).cache requests
  have hd : d.path = some path := hsame.trans (openAt_path disk (some path))
  obtain ⟨hdisk, hresult⟩ := save_marked hd hname (hmarked hdirty) later now
  refine ⟨hresult, fun hwrote => ?_⟩
  have hreplaced : replaceFile later path (d.written now) = ((d.save later now).disk, true) :=
    Prod.ext hdisk.symm (Except.ok.inj (hresult.symm.trans hwrote))
  exact documentAt_of_file? (file?_replaceFile (isFilePath_name hname) hreplaced)

/-- Opening a cache breaks off only where its path cannot be asked for, and with a document that
the reader gives up on or that has a fatal member. Any other document leaves exactly its
well-formed entries of the present version. If it had anything else, the next save, whatever is
done in memory before it, replaces the document unless the disk does not let it. -/
theorem openAt_recovers_iff (disk : Disk) (path : Path) :
    let opened := openAt disk (some path)
    (opened.fault = none ↔
      (isFilePath path = true → disk.isTooLong path = false) ∧
        ∀ content ∈ documentsRead (some path) disk, ¬BreaksOff content) ∧
    (∀ key j, (∃ e, Entry.ofJson key j = .ok e) ↔ IsEntry j) ∧
    (opened.fault = none →
      (∀ key e, opened.cache.entries.find? key = some e ↔
        ∃ content ∈ documentsRead (some path) disk, ∃ members, membersOf? content = some members ∧
          ∃ j, (key, j) ∈ members ∧ IsCurrent j ∧ Entry.ofJson key j = .ok e) ∧
      (opened.cache.dirty = true ↔
        ∃ content ∈ documentsRead (some path) disk, Discards content) ∧
      (opened.cache.dirty = true → ∀ (requests : List Request) (later : Disk) (now : ℤ),
        let d := requests.foldl Request.edit opened.cache
        (d.save later now).result = .ok (replaceFile later path (d.written now)).2 ∧
          ((d.save later now).result = .ok true →
            documentAt (d.save later now).disk path = some (d.written now)))) := by
  intro opened
  refine ⟨fault_openAt_eq_none_iff disk path, Entry.exists_ofJson_iff, fun hfault => ⟨?_, ?_, ?_⟩⟩
  · exact find?_openAt_iff hfault
  · exact dirty_openAt_iff hfault
  · exact save_after_damage hfault

end DocTrace.AnalysisCache
