import DocTrace.Proofs.Rule.Overrides

/-! The merge of rule mappings where lists hold the places of mappings and others may hold the same
places. Every mapping that a merge gives stands in a new place, and no old place gets another
one. -/

namespace DocTrace.Rule

/-- The mappings made so far, each in its place, and the places of the merged ones. -/
structure Objects where
  made : List Mapping
  places : Table String ℕ := {}

namespace Objects

def enter (o : Objects) (id : String) (m : Mapping) : Objects :=
  ⟨o.made ++ [m], o.places.put id o.made.length⟩

def find? (o : Objects) (id : String) : Option Mapping := (o.places.find? id).bind (o.made[·]?)

/-- Enters a copy of the mapping in a place. -/
def copy? (o : Objects) (place : ℕ) : Option Objects := do
  let m ← o.made[place]?
  let id ← mergeKey? m
  return o.enter id m

/-- Enters the mapping in a place, written over the one that is there. -/
def override? (o : Objects) (place : ℕ) : Option Objects := do
  let m ← o.made[place]?
  let id ← mergeKey? m
  return o.enter id (match o.find? id with
    | some first => first.merge m
    | none => m)

/-- The places of the merged mappings without the disabled ones. -/
def kept (o : Objects) : List ℕ :=
  (o.places.entries.map (·.2)).filter fun place => o.made[place]?.any isEnabled

/-- All mappings after a merge, and the places of those that are its result. -/
def merge? (made : List Mapping) (base overrides : List ℕ) :
    Option (List Mapping × List ℕ) := do
  let o ← base.foldlM copy? { made }
  let o ← overrides.foldlM override? o
  return (o.made, o.kept)

/-- The old mappings are in their places, and the places of the merged ones are new and hold what
the table says. -/
structure Holds (made : List Mapping) (o : Objects) (t : Table String Mapping) : Prop where
  old : made <+: o.made
  new : ∀ e ∈ o.places.entries, made.length ≤ e.2
  values : o.places.mapValues (o.made[·]?) = t.mapValues some

variable {made : List Mapping} {o : Objects} {t : Table String Mapping} {id : String} {m : Mapping}
  {place : ℕ}

theorem Holds.find? (h : Holds made o t) (id : String) : o.find? id = t.find? id := by
  have hvalues := congrArg (·.find? id) h.values
  simp only [Table.find?_mapValues] at hvalues
  rw [Objects.find?]
  cases hplace : o.places.find? id <;> cases hvalue : t.find? id <;>
    simp_all

theorem Holds.lt_length (h : Holds made o t) {e : String × ℕ} (he : e ∈ o.places.entries) :
    e.2 < o.made.length := by
  have hmem : (e.1, o.made[e.2]?) ∈ (t.mapValues some).entries := by
    rw [← h.values]
    exact List.mem_map.2 ⟨e, he, rfl⟩
  obtain ⟨f, -, hf⟩ := List.mem_map.1 hmem
  have hvalue : some f.2 = o.made[e.2]? := congrArg Prod.snd hf
  exact (List.getElem?_eq_some_iff.1 hvalue.symm).1

theorem Holds.enter (h : Holds made o t) (id : String) (m : Mapping) :
    Holds made (o.enter id m) (t.put id m) where
  old := h.old.trans (List.prefix_append ..)
  new := Table.forall_entries_put (P := fun _ place => made.length ≤ place) h.new
    h.old.length_le
  values := by
    have hkept : o.places.mapValues ((o.made ++ [m])[·]?) = o.places.mapValues (o.made[·]?) := by
      refine Table.ext_entries (List.map_congr_left fun e he => ?_)
      dsimp only
      rw [List.getElem?_append_left (h.lt_length he)]
    rw [Objects.enter, Table.mapValues_put, hkept, h.values, List.getElem?_concat_length,
      Table.mapValues_put]

theorem Holds.getElem? (h : Holds made o t) (hm : made[place]? = some m) :
    o.made[place]? = some m := by
  obtain ⟨more, hmore⟩ := h.old
  rw [← hmore, List.getElem?_append_left (List.getElem?_eq_some_iff.1 hm).1, hm]

theorem Holds.copy? (h : Holds made o t) (hplace : made[place]? = some m)
    (hid : m.find? "id" = some (.str id)) :
    ∃ o', o.copy? place = some o' ∧ Holds made o' (t.put (keyOf m) m) := by
  refine ⟨_, ?_, h.enter (keyOf m) m⟩
  simp [Objects.copy?, h.getElem? hplace, mergeKey?_of_find? hid, keyOf_of_find? hid]

theorem Holds.override? (h : Holds made o t) (hplace : made[place]? = some m)
    (hid : m.find? "id" = some (.str id)) :
    ∃ o', o.override? place = some o' ∧ Holds made o' (addOverride t (keyOf m) m) := by
  refine ⟨_, ?_, h.enter (keyOf m) _⟩
  cases hfind : t.find? id <;>
    simp [Objects.override?, h.getElem? hplace, mergeKey?_of_find? hid,
      keyOf_of_find? hid, h.find?, hfind]

/-- What a step does for one place, a fold does for a list of them. -/
theorem Holds.foldlM {step : Objects → ℕ → Option Objects}
    {put : Table String Mapping → Mapping → Table String Mapping}
    (hstep : ∀ {o t place m id}, Holds made o t → made[place]? = some m →
      m.find? "id" = some (.str id) → ∃ o', step o place = some o' ∧ Holds made o' (put t m))
    (h : Holds made o t) {places : List ℕ} {ms : List Mapping}
    (hplaces : places.map (made[·]?) = ms.map some)
    (hnamed : ∀ m ∈ ms, ∃ id, m.find? "id" = some (.str id)) :
    ∃ o', places.foldlM step o = some o' ∧ Holds made o' (ms.foldl put t) := by
  induction ms generalizing places o t with
  | nil =>
    obtain rfl : places = [] := by simpa using hplaces
    exact ⟨o, rfl, h⟩
  | cons m ms ih =>
    obtain ⟨place, places, rfl, hplace, hothers⟩ := List.map_eq_cons_iff.1 hplaces
    obtain ⟨⟨id, hid⟩, hrest⟩ := List.forall_mem_cons.1 hnamed
    obtain ⟨next, hnext, hholds⟩ := hstep h hplace hid
    obtain ⟨last, hlast, hend⟩ := ih hholds hothers hrest
    refine ⟨last, ?_, hend⟩
    rw [List.foldlM_cons, hnext, Option.bind_eq_bind, Option.bind_some, hlast]

theorem Holds.kept (h : Holds made o t) :
    o.kept.map (o.made[·]?) = ((t.entries.map (·.2)).filter isEnabled).map some := by
  have hvalues : (o.places.entries.map (·.2)).map (o.made[·]?) =
      (t.entries.map (·.2)).map some := by
    have hentries :=
      congrArg (fun u : Table String (Option Mapping) => u.entries.map (·.2)) h.values
    simpa [Table.mapValues, Function.comp_def] using hentries
  calc _ = ((o.places.entries.map (·.2)).map (o.made[·]?)).filter (·.any isEnabled) :=
        List.filter_map.symm
    _ = ((t.entries.map (·.2)).filter isEnabled).map some := by
        rw [hvalues, List.filter_map]
        rfl

/-- A merge of mappings in places leaves them as they are, and its result stands in new places. -/
theorem merge?_eq {base overrides : List Mapping} {baseAt overridesAt : List ℕ}
    (hbaseAt : baseAt.map (made[·]?) = base.map some)
    (hoverridesAt : overridesAt.map (made[·]?) = overrides.map some)
    (hbase : ∀ m ∈ base, ∃ id, m.find? "id" = some (.str id))
    (hoverrides : AreOverrides overrides) :
    ∃ more kept, Objects.merge? made baseAt overridesAt = some (made ++ more, kept) ∧
      (∀ place ∈ kept, made.length ≤ place) ∧
      (Rule.merge? base overrides).map (·.map some) = some (kept.map ((made ++ more)[·]?)) := by
  have hstart : Holds made { made } {} := ⟨List.prefix_rfl, by simp, rfl⟩
  obtain ⟨copied, hcopied, hcopies⟩ := hstart.foldlM Holds.copy? hbaseAt hbase
  obtain ⟨last, hlast, hholds⟩ := hcopies.foldlM Holds.override? hoverridesAt
    hoverrides.named
  obtain ⟨more, hmore⟩ := hholds.old
  refine ⟨more, last.kept, ?_, ?_, ?_⟩
  · rw [hmore, Objects.merge?, hcopied, Option.bind_eq_bind, Option.bind_some, hlast]
    rfl
  · intro place hplace
    obtain ⟨e, he, rfl⟩ := List.mem_map.1 (List.mem_filter.1 hplace).1
    exact hholds.new e he
  · have hmerged : merged base overrides =
        overrides.foldl (fun t m => addOverride t (keyOf m) m)
          (base.foldl (fun t m => t.put (keyOf m) m) {}) := by
      rw [merged, Table.ofList, List.foldl_map]
    rw [hmore, hholds.kept, Rule.merge?_eq hbase hoverrides, hmerged]
    rfl

end Objects

end DocTrace.Rule
