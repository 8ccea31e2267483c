import DocTrace.Proofs.AnalysisCache.Replacement
import DocTrace.Proofs.Json.Content

/-! The document of a cache and the entries that are read out of it. An entry is read
back from what is written for it. Entries that come from any document can be written
again: the reader bounds their integers and their depth. So a written document gives
exactly the entries that it was written for. -/

namespace DocTrace.AnalysisCache

open Json

/-! ### Entries -/

@[simp] theorem textOf_str (s : String) : Entry.textOf (.str s) = s := rfl

theorem edgeOf_edgeToJson (e : Edge) : Entry.edgeOf (Entry.edgeToJson e) = .ok e := by
  obtain ⟨source, target, label⟩ := e
  cases label <;> rfl

theorem mapM_edgeOf (edges : List Edge) :
    (edges.map Entry.edgeToJson).mapM Entry.edgeOf = .ok edges := by
  induction edges with
  | nil => rfl
  | cons e rest ih =>
    rw [List.map_cons, List.mapM_cons, edgeOf_edgeToJson, ih]
    rfl

theorem labelsOf_object {j : Json} {labels : Table String String}
    (h : j.member? "labels" = some (.object (labels.entries.map fun (k, v) => (k, .str v)))) :
    Entry.labelsOf j = .ok labels := by
  unfold Entry.labelsOf
  rw [h]
  rcases hentries : labels.entries with _ | ⟨⟨k, v⟩, rest⟩
  · have hempty : labels = {} := Table.ext_entries hentries
    rw [hempty]
    rfl
  · have htexts : (labels.entries.map fun e : String × String => (e.1, Json.str e.2)).map
        (fun e => (e.1, Entry.textOf e.2)) = labels.entries := by
      simp [Function.comp_def]
    have htable := Table.ofList_entries labels
    rw [← htexts, hentries] at htable
    exact congrArg Except.ok htable

theorem ofJson_toJson (key : String) (e : Entry) : Entry.ofJson key e.toJson = .ok e := by
  have hlabels : Entry.labelsOf e.toJson = .ok e.labels := labelsOf_object rfl
  have hedges := mapM_edgeOf e.edges
  have hnodes : (e.nodes.map Json.str).map Entry.textOf = e.nodes := by
    simp [Function.comp_def]
  have harray (name : String) (items : List Json)
      (h : e.toJson.member? name = some (.array items)) :
      Entry.requiredArray e.toJson name = .ok items := by
    rw [Entry.requiredArray, h]
  have htext (name text : String) (h : e.toJson.member? name = some (.str text)) :
      Entry.requiredText e.toJson name = .ok text := by
    rw [Entry.requiredText, h]
    rfl
  have htimestamp : Entry.requiredTimestamp e.toJson = .ok e.timestamp := rfl
  have hhash : e.toJson.member? "contentHash" = some (.str e.contentHash) := rfl
  have hfile : e.toJson.member? "filePath" = some e.filePath := rfl
  have hversion : e.toJson.member? "version" = some (.str e.version) := rfl
  unfold Entry.ofJson
  rw [harray "nodes" _ rfl, harray "relationships" _ rfl, hlabels, htimestamp,
    htext "diagramType" _ rfl, hhash, hfile, hversion]
  simp only [bind, Except.bind, hedges, hnodes]
  rfl

/-! ### Entries that can be written -/

/-- The greatest depth of a value inside of an entry: the document, the entries and the entry
itself are around it. -/
def innerDepth : ℕ := maxDepth - 3

/-- Entries of the present version whose written form is read back. -/
structure Entry.Writable (e : Entry) : Prop where
  version : e.version = formatVersion
  timestamp : e.timestamp.natAbs < 10 ^ Number.maxDigits
  filePath : Readable innerDepth e.filePath

/-- All entries can be written. -/
def Writable (c : AnalysisCache) : Prop := ∀ e ∈ c.entries.entries, e.2.Writable

/-- A time that a clock shows in milliseconds: the integer part of a finite number. -/
def IsClockTime (now : ℤ) : Prop := now.natAbs < 2 ^ 1024

instance (now : ℤ) : Decidable (IsClockTime now) := inferInstanceAs (Decidable (_ < _))

theorem IsClockTime.digits {now : ℤ} (h : IsClockTime now) :
    now.natAbs < 10 ^ Number.maxDigits := by
  have hpow : 2 ^ 1024 ≤ 10 ^ Number.maxDigits := by decide +kernel
  exact Nat.lt_of_lt_of_le h hpow

theorem readable_str_items (room : ℕ) (texts : List String) :
    Readable (room + 1) (.array (texts.map .str)) := by
  refine .array fun j hj => ?_
  obtain ⟨s, -, rfl⟩ := List.mem_map.1 hj
  exact .str s

theorem readable_ofOption (room : ℕ) (text : Option String) :
    Readable room (Json.ofOption text) := by
  cases text with
  | none => exact .null
  | some s => exact .str s

theorem readable_edgeToJson (room : ℕ) (e : Edge) : Readable (room + 1) (Entry.edgeToJson e) := by
  refine .object (by simp) fun m hm => ?_
  simp only [List.mem_cons, List.not_mem_nil, or_false] at hm
  rcases hm with rfl | rfl | rfl
  · exact .str _
  · exact .str _
  · exact readable_ofOption room e.label

theorem readable_toJson {e : Entry} (h : e.Writable) : Readable (innerDepth + 1) e.toJson := by
  refine .object (by simp) fun m hm => ?_
  simp only [List.mem_cons, List.not_mem_nil, or_false] at hm
  rcases hm with rfl | rfl | rfl | rfl | rfl | rfl | rfl | rfl
  · exact .str _
  · exact .int h.timestamp
  · exact .str _
  · exact readable_str_items (innerDepth - 1) e.nodes
  · refine @Readable.array (innerDepth - 1) _ fun j hj => ?_
    obtain ⟨edge, -, rfl⟩ := List.mem_map.1 hj
    exact readable_edgeToJson (innerDepth - 2) edge
  · exact h.filePath
  · refine @Readable.object (innerDepth - 1) _ ?_ fun m hm => ?_
    · simpa [Function.comp_def] using e.labels.distinct
    · obtain ⟨label, -, rfl⟩ := List.mem_map.1 hm
      exact .str _
  · exact .str _

theorem readable_document {c : AnalysisCache} (h : c.Writable) {now : ℤ}
    (hnow : IsClockTime now) : Readable maxDepth (c.document now) := by
  refine @Readable.object (innerDepth + 2) _ (by simp) fun m hm => ?_
  simp only [List.mem_cons, List.not_mem_nil, or_false] at hm
  rcases hm with rfl | rfl | rfl
  · exact .str _
  · exact .int hnow.digits
  · refine .object ?_ fun m hm => ?_
    · simpa [Function.comp_def] using c.entries.distinct
    · obtain ⟨e, he, rfl⟩ := List.mem_map.1 hm
      exact readable_toJson (h e he)

/-! ### Reading what was written -/

theorem readEntries_cons {key : String} {members : List (String × Json)} {e : Entry}
    (hread : Entry.ofJson key (.object members) = .ok e) (hversion : e.version = formatVersion)
    (c : AnalysisCache) (rest : List (String × Json)) :
    readEntries c ((key, .object members) :: rest) =
      readEntries { c with entries := c.entries.put key e } rest := by
  simp only [readEntries, hread, hversion, if_true]

theorem readEntries_written (c : AnalysisCache) (entries : List (String × Entry))
    (h : ∀ e ∈ entries, e.2.version = formatVersion) :
    readEntries c (entries.map fun (key, e) => (key, e.toJson)) =
      { cache := { c with entries := entries.foldl (fun t e => t.put e.1 e.2) c.entries } } := by
  induction entries generalizing c with
  | nil => rfl
  | cons e rest ih =>
    have hrest := ih { c with entries := c.entries.put e.1 e.2 }
      fun f hf => h f (List.mem_cons_of_mem e hf)
    have hversion := h e (List.mem_cons_self ..)
    exact (readEntries_cons (ofJson_toJson e.1 e.2) hversion c _).trans hrest

/-- The document that a cache writes is read as the entries of that cache, and there is nothing
left to write. -/
theorem load_written {c reader : AnalysisCache} {disk : Disk} {path : Path} {now : ℤ}
    (h : c.Writable) (hnow : IsClockTime now)
    (hpath : reader.path = some path) (hname : isFilePath path = true)
    (hlong : disk.isTooLong path = false) (hfile : disk.file? path = some (c.written now)) :
    reader.load disk = { cache := { reader with entries := c.entries, dirty := false } } := by
  have hreadable := readable_document h hnow
  -- The entries are put one after the other into an empty table, which gives the table again.
  have htable : c.entries.entries.foldl (fun t e => t.put e.1 e.2) {} = c.entries :=
    Table.ofList_entries c.entries
  have hentries := readEntries_written { reader with entries := {}, dirty := false }
    c.entries.entries fun e he => (h e he).version
  simp only [htable, hpath] at hentries
  have hmember : (c.document now).member? "entries" =
      some (.object (c.entries.entries.map fun (key, e) => (key, e.toJson))) := rfl
  have hversion : hasVersion (c.document now) = true := by
    simp [hasVersion, document, Json.member?]
  simp only [load, hpath, hname, hlong, hfile, readBytes, written, textOf_compact hreadable,
    read_compact hreadable, readDocument, hversion, hmember, Bool.not_true, Bool.false_eq_true,
    if_false, hentries]

/-! ### Entries of any document -/

theorem readable_of_member? {room : ℕ} {j v : Json} {key : String} (h : Readable (room + 1) j)
    (hv : j.member? key = some v) : Readable room v := by
  cases h with
  | object _ hmembers =>
    obtain ⟨m, hm, rfl⟩ := Option.map_eq_some_iff.1 hv
    exact hmembers m (List.mem_of_find?_eq_some hm)
  | null | bool | int | float | str | array => simp [Json.member?] at hv

theorem natAbs_lt_of_truncate? {x : Binary64} (hx : x.IsCanonical) {i : ℤ}
    (h : x.truncate? = some i) : i.natAbs < 2 ^ 1024 := by
  cases x with
  | nan => simp [Binary64.truncate?, Binary64.ratio?] at h
  | infinite => simp [Binary64.truncate?, Binary64.ratio?] at h
  | finite negative significand exponent =>
    simp only [Binary64.truncate?, Binary64.ratio?, Option.map_some, Option.some.injEq] at h
    subst h
    rw [Int.natAbs_tdiv]
    refine Nat.lt_of_le_of_lt (Nat.div_le_self ..) ?_
    have hsign : (if negative then -((Binary64.ratio significand exponent).1 : ℤ)
        else (Binary64.ratio significand exponent).1).natAbs =
          (Binary64.ratio significand exponent).1 := by
      split <;> simp
    rw [hsign]
    -- At most 2^971 is multiplied with a significand below 2^53; a division only makes it smaller.
    rcases le_or_gt 0 exponent with hexp | hexp
    · have hexponent : exponent.toNat ≤ 971 := by
        have := hx.high
        simp only [Binary64.maxExponent] at this
        omega
      have hratio : Binary64.ratio significand exponent = (significand * 2 ^ exponent.toNat, 1) :=
        if_pos hexp
      calc (Binary64.ratio significand exponent).1
          = significand * 2 ^ exponent.toNat := by rw [hratio]
        _ < 2 ^ 53 * 2 ^ exponent.toNat := Nat.mul_lt_mul_of_pos_right hx.small (by positivity)
        _ = 2 ^ (53 + exponent.toNat) := (pow_add ..).symm
        _ ≤ 2 ^ 1024 := pow_le_pow_right₀ (by decide) (by omega)
    · have hratio : (Binary64.ratio significand exponent).1 = significand := by
        rw [Binary64.ratio, if_neg (not_le.2 hexp)]
      calc (Binary64.ratio significand exponent).1 = significand := hratio
        _ < 2 ^ 53 := hx.small
        _ < 2 ^ 1024 := pow_lt_pow_right₀ (by decide) (by decide)

theorem natAbs_lt_of_timestampOf {room : ℕ} {j : Json} (hj : Readable room j) {i : ℤ}
    (h : Entry.timestampOf j = .ok i) : i.natAbs < 10 ^ Number.maxDigits := by
  cases hj with
  | null | array | object => simp [Entry.timestampOf] at h
  | bool b =>
    obtain rfl := Except.ok.inj h
    have hone : 1 < 10 ^ Number.maxDigits := Nat.one_lt_pow (by decide) (by decide)
    cases b
    · exact Nat.lt_trans Nat.zero_lt_one hone
    · exact hone
  | int hi => exact Except.ok.inj h ▸ hi
  | str s =>
    simp only [Entry.timestampOf] at h
    cases hread : Number.readInt 10 s.toList with
    | error e => simp [hread, Except.mapError] at h
    | ok v =>
      rw [hread] at h
      exact Except.ok.inj h ▸ Number.natAbs_lt_of_readInt hread
  | @float _ x hx =>
    simp only [Entry.timestampOf] at h
    split at h
    · simp at h
    · cases htruncate : x.truncate? with
      | none => simp [htruncate] at h
      | some v =>
        simp only [htruncate, Option.map_some, Option.getD_some, Except.ok.injEq] at h
        have hclock : IsClockTime v := natAbs_lt_of_truncate? hx htruncate
        exact h ▸ hclock.digits

theorem writable_of_ofJson {key : String} {j : Json} {e : Entry}
    (hj : Readable (innerDepth + 1) j) (h : Entry.ofJson key j = .ok e)
    (hversion : e.version = formatVersion) : e.Writable := by
  unfold Entry.ofJson at h
  obtain ⟨nodes, -, h⟩ := exists_of_bind_ok h
  obtain ⟨relationships, -, h⟩ := exists_of_bind_ok h
  obtain ⟨labels, -, h⟩ := exists_of_bind_ok h
  obtain ⟨timestamp, htimestamp, h⟩ := exists_of_bind_ok h
  obtain ⟨diagramType, -, h⟩ := exists_of_bind_ok h
  obtain ⟨edges, -, h⟩ := exists_of_bind_ok h
  obtain rfl := Except.ok.inj h
  refine ⟨hversion, ?_, ?_⟩
  · unfold Entry.requiredTimestamp at htimestamp
    split at htimestamp
    · next v hv => exact natAbs_lt_of_timestampOf (readable_of_member? hj hv) htimestamp
    · simp at htimestamp
  · cases hfile : j.member? "filePath" with
    | none => exact .null
    | some v => exact readable_of_member? hj hfile

theorem writable_readEntries {c : AnalysisCache} (hc : c.Writable)
    {members : List (String × Json)} (h : ∀ m ∈ members, Readable (innerDepth + 1) m.2) :
    (readEntries c members).cache.Writable := by
  induction members generalizing c with
  | nil => exact hc
  | cons m rest ih =>
    obtain ⟨key, j⟩ := m
    have hrest := fun n hn => h n (List.mem_cons_of_mem _ hn)
    unfold readEntries
    split
    · split
      · next e hread =>
        split
        · next hversion =>
          have he := writable_of_ofJson (h _ (List.mem_cons_self ..)) hread hversion
          exact ih (Table.forall_entries_put (P := fun _ (e : Entry) => e.Writable) hc he) hrest
        · exact ih hc hrest
      · exact ih hc hrest
      · exact hc
      · exact hc
    · exact ih hc hrest

theorem writable_readDocument {c : AnalysisCache} (hc : c.Writable) (path : Path) {j : Json}
    (hj : Readable maxDepth j) : (readDocument c path j).cache.Writable := by
  unfold readDocument
  split
  · exact hc
  · split
    · next members hmembers =>
      refine writable_readEntries hc fun m hm => ?_
      -- The members lie two levels below the document, so each has the depth of an entry.
      cases readable_of_member? hj hmembers with
      | object _ hvalues => exact hvalues m hm
    · exact hc

theorem writable_readBytes {c : AnalysisCache} (hc : c.Writable) (path : Path)
    (content : List UInt8) : (readBytes c path content).cache.Writable := by
  unfold readBytes
  dsimp only
  split
  · exact hc
  · split
    · next j hread => exact writable_readDocument hc path (readable_of_read hread)
    all_goals exact hc

/-- Whatever a document holds, the entries that are read out of it can be written. -/
theorem writable_load (c : AnalysisCache) (disk : Disk) : (c.load disk).cache.Writable := by
  have hempty : Writable { c with entries := {}, dirty := false } := by simp [Writable]
  unfold load
  dsimp only
  split
  · exact hempty
  · split
    · exact hempty
    · split
      · exact hempty
      · split
        · exact hempty
        · exact writable_readBytes hempty _ _

end DocTrace.AnalysisCache
