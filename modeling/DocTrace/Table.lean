/-!
Tables keep one value for each key, in the order in which the keys came first.
Writing a key again changes its value and not its place.
-/

namespace DocTrace

structure Table (κ α : Type) where
  entries : List (κ × α)
  /-- Every key stands once. -/
  distinct : (entries.map (·.1)).Nodup
deriving DecidableEq

namespace Table

instance : EmptyCollection (Table κ α) := ⟨⟨[], List.nodup_nil⟩⟩

instance : Inhabited (Table κ α) := ⟨{}⟩

@[simp] theorem entries_empty : ({} : Table κ α).entries = [] := rfl

def keys (t : Table κ α) : List κ := t.entries.map (·.1)

def filter (t : Table κ α) (p : κ → α → Bool) : Table κ α :=
  ⟨t.entries.filter fun e => p e.1 e.2, t.distinct.sublist (List.filter_sublist.map _)⟩

def mapValues (t : Table κ α) (f : α → β) : Table κ β :=
  ⟨t.entries.map fun e => (e.1, f e.2), by simpa [Function.comp_def] using t.distinct⟩

def size (t : Table κ α) : Nat := t.entries.length

theorem ext_entries {t u : Table κ α} (h : t.entries = u.entries) : t = u := by
  cases t
  cases u
  cases h
  rfl

variable [DecidableEq κ]

def find? (t : Table κ α) (key : κ) : Option α :=
  (t.entries.find? fun e => e.1 = key).map (·.2)

def contains (t : Table κ α) (key : κ) : Bool := t.entries.any fun e => e.1 = key

theorem contains_iff {t : Table κ α} {key : κ} : t.contains key = true ↔ key ∈ t.keys := by
  simp [contains, keys]

/-- The entries with another value for a key. -/
def replaced (t : Table κ α) (key : κ) (value : α) : List (κ × α) :=
  t.entries.map fun e => if e.1 = key then (e.1, value) else e

theorem map_fst_replaced (t : Table κ α) (key : κ) (value : α) :
    (t.replaced key value).map (·.1) = t.keys := by
  simp only [replaced, keys, List.map_map]
  refine List.map_congr_left fun e _ => ?_
  by_cases he : e.1 = key <;> simp [he]

theorem nodup_added {t : Table κ α} {key : κ} (h : ¬t.contains key = true) (value : α) :
    ((t.entries ++ [(key, value)]).map (·.1)).Nodup := by
  have hkey : key ∉ t.entries.map (·.1) := fun hk => h (contains_iff.2 hk)
  simp only [List.map_append, List.map_cons, List.map_nil]
  exact List.nodup_append.2 ⟨t.distinct, by simp, by grind⟩

def put (t : Table κ α) (key : κ) (value : α) : Table κ α :=
  if h : t.contains key then ⟨t.replaced key value, map_fst_replaced t key value ▸ t.distinct⟩
  else ⟨t.entries ++ [(key, value)], nodup_added h value⟩

/-- Writes the value only where the key is new. -/
def putNew (t : Table κ α) (key : κ) (value : α) : Table κ α :=
  if t.contains key then t else t.put key value

/-- Changes the value of a key, which is `default` where the key is new. -/
def update (t : Table κ α) (key : κ) (default : α) (f : α → α) : Table κ α :=
  t.put key (f ((t.find? key).getD default))

def ofList (entries : List (κ × α)) : Table κ α :=
  entries.foldl (fun t e => t.put e.1 e.2) {}

/-! ### Keys -/

theorem keys_put (t : Table κ α) (key : κ) (value : α) :
    (t.put key value).keys = if key ∈ t.keys then t.keys else t.keys ++ [key] := by
  unfold put
  by_cases h : t.contains key
  · rw [dif_pos h, if_pos (contains_iff.1 h)]
    exact map_fst_replaced t key value
  · rw [dif_neg h, if_neg (fun hk => h (contains_iff.2 hk))]
    simp [keys]

theorem keys_putNew (t : Table κ α) (key : κ) (value : α) :
    (t.putNew key value).keys = if key ∈ t.keys then t.keys else t.keys ++ [key] := by
  unfold putNew
  by_cases h : t.contains key
  · rw [if_pos h, if_pos (contains_iff.1 h)]
  · rw [if_neg h, keys_put]

theorem keys_update (t : Table κ α) (key : κ) (default : α) (f : α → α) :
    (t.update key default f).keys = if key ∈ t.keys then t.keys else t.keys ++ [key] :=
  keys_put ..

/-! ### Values -/

@[simp] theorem find?_empty (key : κ) : ({} : Table κ α).find? key = none := rfl

theorem find?_eq_some_iff {t : Table κ α} {key : κ} {value : α} :
    t.find? key = some value ↔ (key, value) ∈ t.entries := by
  have hdistinct := t.distinct
  rw [find?]
  generalize t.entries = entries at hdistinct
  induction entries with
  | nil => simp
  | cons e rest ih =>
    obtain ⟨hhead, htail⟩ := List.nodup_cons.1 hdistinct
    by_cases he : e.1 = key
    · subst he
      have hfresh (v : α) : (e.1, v) ∉ rest := fun hv =>
        hhead (List.mem_map.2 ⟨_, hv, rfl⟩)
      simp only [List.find?_cons, decide_true, Option.map_some, Option.some.injEq, List.mem_cons,
        hfresh value, or_false]
      exact ⟨fun h => by rw [← h], fun h => by rw [← h]⟩
    · have hne : (key, value) ≠ e := fun h => he (by rw [← h])
      simpa [List.find?_cons, he, hne] using ih htail

theorem find?_isSome_iff {t : Table κ α} {key : κ} : (t.find? key).isSome ↔ key ∈ t.keys := by
  simp [find?, keys]

theorem find?_eq_none_iff {t : Table κ α} {key : κ} : t.find? key = none ↔ key ∉ t.keys := by
  rw [← find?_isSome_iff]
  simp

theorem find?_put (t : Table κ α) (key : κ) (value : α) (other : κ) :
    (t.put key value).find? other = if other = key then some value else t.find? other := by
  unfold put
  split
  · next h =>
    by_cases ho : other = key
    · subst ho
      rw [if_pos rfl]
      obtain ⟨v, hv⟩ := List.mem_map.1 (contains_iff.1 h)
      refine find?_eq_some_iff.2 (List.mem_map.2 ⟨v, hv.1, ?_⟩)
      simp [hv.2]
    · rw [if_neg ho]
      simp only [find?, replaced, List.find?_map, Option.map_map]
      have hkeys : ((fun e : κ × α => decide (e.1 = other)) ∘
          fun e => if e.1 = key then (e.1, value) else e) = fun e => decide (e.1 = other) := by
        funext e
        by_cases he : e.1 = key <;> simp [he]
      rw [hkeys]
      cases hfound : t.entries.find? fun e => decide (e.1 = other) with
      | none => rfl
      | some e =>
        have he : e.1 = other := by simpa using List.find?_some hfound
        have hne : e.1 ≠ key := fun h => ho (he.symm.trans h)
        simp [hne]
  · next h =>
    have hnew : t.find? key = none := find?_eq_none_iff.2 fun hk => h (contains_iff.2 hk)
    by_cases ho : other = key
    · subst ho
      simp only [find?, Option.map_eq_none_iff] at hnew
      simp [find?, List.find?_append, hnew]
    · simp [find?, List.find?_append, ho, Ne.symm ho]

theorem find?_putNew (t : Table κ α) (key : κ) (value : α) (other : κ) :
    (t.putNew key value).find? other =
      if other = key then some ((t.find? key).getD value) else t.find? other := by
  unfold putNew
  split
  · next h =>
    obtain ⟨v, hv⟩ := Option.isSome_iff_exists.1 (find?_isSome_iff.2 (contains_iff.1 h))
    by_cases ho : other = key
    · subst ho
      simp [hv]
    · simp [ho]
  · next h =>
    have hnew : t.find? key = none := find?_eq_none_iff.2 fun hk => h (contains_iff.2 hk)
    rw [find?_put, hnew]
    rfl

theorem forall_entries_put {t : Table κ α} {P : κ → α → Prop} {key : κ} {value : α}
    (h : ∀ e ∈ t.entries, P e.1 e.2) (hvalue : P key value) :
    ∀ e ∈ (t.put key value).entries, P e.1 e.2 := by
  intro e he
  have hfind : (t.put key value).find? e.1 = some e.2 := find?_eq_some_iff.2 he
  rw [find?_put] at hfind
  split at hfind
  · next hkey => exact Option.some.inj hfind ▸ hkey ▸ hvalue
  · exact h e (find?_eq_some_iff.1 hfind)

theorem find?_update (t : Table κ α) (key : κ) (default : α) (f : α → α) (other : κ) :
    (t.update key default f).find? other =
      if other = key then some (f ((t.find? key).getD default)) else t.find? other :=
  find?_put ..

theorem find?_mapValues (t : Table κ α) (f : α → β) (key : κ) :
    (t.mapValues f).find? key = (t.find? key).map f := by
  simp [find?, mapValues, List.find?_map, Function.comp_def]

theorem find?_filter (t : Table κ α) (p : κ → α → Bool) (key : κ) :
    (t.filter p).find? key = (t.find? key).filter (p key) := by
  apply Option.ext
  intro value
  rw [find?_eq_some_iff, Option.filter_eq_some_iff, find?_eq_some_iff]
  exact List.mem_filter

theorem put_of_find? {t : Table κ α} {key : κ} {value : α} (h : t.find? key = some value) :
    t.put key value = t := by
  have hkey : t.contains key = true := contains_iff.2 (find?_isSome_iff.1 (by simp [h]))
  apply ext_entries
  rw [put, dif_pos hkey]
  refine (List.map_congr_left fun e he => ?_).trans (List.map_id _)
  by_cases hsame : e.1 = key
  · have hvalue : t.find? key = some e.2 := find?_eq_some_iff.2 (hsame ▸ he)
    rw [if_pos hsame, Option.some.inj (h.symm.trans hvalue)]
    rfl
  · rw [if_neg hsame]
    rfl

theorem put_put (t : Table κ α) (key : κ) (first value : α) :
    (t.put key first).put key value = t.put key value := by
  have hcontains : (t.put key first).contains key = true := by
    rw [contains_iff, ← find?_isSome_iff, find?_put, if_pos rfl]
    rfl
  have hentry (e : κ × α) :
      (if (if e.1 = key then (e.1, first) else e).1 = key
        then ((if e.1 = key then (e.1, first) else e).1, value)
        else if e.1 = key then (e.1, first) else e) = if e.1 = key then (e.1, value) else e := by
    by_cases he : e.1 = key <;> simp [he]
  apply ext_entries
  rw [put, dif_pos hcontains]
  by_cases h : t.contains key = true
  · simp only [put, dif_pos h, replaced, List.map_map, Function.comp_def, hentry]
  · have hnew : ∀ e ∈ t.entries, (if e.1 = key then (e.1, value) else e) = e := fun e he =>
      if_neg fun hkey => h (contains_iff.2 (List.mem_map.2 ⟨e, he, hkey⟩))
    have hrest := (List.map_congr_left hnew).trans (List.map_id _)
    simp only [put, dif_neg h, replaced, List.map_append, List.map_cons, List.map_nil, if_pos]
    rw [hrest]

/-- A change finds the default where it has just been written, as where the key is new. -/
theorem update_putNew (t : Table κ α) (key : κ) (default : α) (f : α → α) :
    (t.putNew key default).update key default f = t.update key default f := by
  rw [update, update, find?_putNew, if_pos rfl, Option.getD_some, putNew]
  split
  · rfl
  · exact put_put ..

/-- What a filter does not let through can be written before it. -/
theorem filter_put (t : Table κ α) {key : κ} (value : α) {p : κ → α → Bool}
    (hp : ∀ v, p key v = false) : (t.put key value).filter p = t.filter p := by
  apply ext_entries
  by_cases h : t.contains key = true
  · have hmap : ((fun e => p e.1 e.2) ∘ fun e => if e.1 = key then (e.1, value) else e) =
        fun e : κ × α => p e.1 e.2 := by
      funext e
      by_cases he : e.1 = key <;> simp [he, hp]
    simp only [filter, put, dif_pos h, replaced, List.filter_map, hmap]
    refine (List.map_congr_left fun e he => ?_).trans (List.map_id _)
    have hne : e.1 ≠ key := fun hkey => by simp [hkey, hp] at he
    rw [if_neg hne]
    rfl
  · simp [filter, put, dif_neg h, hp]

theorem contains_eq_isSome (t : Table κ α) (key : κ) : t.contains key = (t.find? key).isSome := by
  rw [Bool.eq_iff_iff, contains_iff, find?_isSome_iff]

/-! ### Tables from lists -/

theorem mapValues_put (t : Table κ α) (key : κ) (value : α) (f : α → β) :
    (t.put key value).mapValues f = (t.mapValues f).put key (f value) := by
  have hcontains : (t.mapValues f).contains key = t.contains key := by
    simp [contains, mapValues, Function.comp_def]
  apply ext_entries
  by_cases h : t.contains key = true
  · have hreplaced : (t.replaced key value).map (fun e => (e.1, f e.2)) =
        (t.mapValues f).replaced key (f value) := by
      simp only [replaced, mapValues, List.map_map]
      refine List.map_congr_left fun e _ => ?_
      by_cases he : e.1 = key <;> simp [he]
    rw [put, put, dif_pos h, dif_pos (hcontains.trans h)]
    exact hreplaced
  · rw [put, put, dif_neg h, dif_neg (hcontains ▸ h)]
    simp [mapValues]

theorem mapValues_ofList (entries : List (κ × α)) (f : α → β) :
    (ofList entries).mapValues f = ofList (entries.map fun e => (e.1, f e.2)) := by
  have hfold (t : Table κ α) :
      (entries.foldl (fun t e => t.put e.1 e.2) t).mapValues f =
        (entries.map fun e => (e.1, f e.2)).foldl (fun t e => t.put e.1 e.2) (t.mapValues f) := by
    induction entries generalizing t with
    | nil => rfl
    | cons e rest ih =>
      rw [List.foldl_cons, ih, mapValues_put, List.map_cons, List.foldl_cons]
  exact hfold {}

theorem put_of_not_mem {t : Table κ α} {key : κ} (h : key ∉ t.keys) (value : α) :
    (t.put key value).entries = t.entries ++ [(key, value)] := by
  unfold put
  rw [dif_neg fun hk => h (contains_iff.1 hk)]

theorem entries_foldl_put (t : Table κ α) (entries : List (κ × α))
    (h : ((t.entries ++ entries).map (·.1)).Nodup) :
    (entries.foldl (fun t e => t.put e.1 e.2) t).entries = t.entries ++ entries := by
  induction entries generalizing t with
  | nil => simp
  | cons e rest ih =>
    have hnew : e.1 ∉ t.keys := by
      simp only [List.map_append, List.map_cons] at h
      exact fun hk => (List.nodup_append.1 h).2.2 _ hk _ (List.mem_cons_self ..) rfl
    have hentries := put_of_not_mem hnew e.2
    rw [List.foldl_cons, ih _ (by simpa [hentries] using h), hentries]
    simp

theorem ofList_entries (t : Table κ α) : ofList t.entries = t :=
  ext_entries (by simpa [ofList] using entries_foldl_put {} t.entries (by simpa using t.distinct))

end Table

/-- Adds an item at the end unless it is there already. -/
def addNew [DecidableEq α] (items : List α) (item : α) : List α :=
  if items.contains item then items else items ++ [item]

theorem mem_addNew [DecidableEq α] {items : List α} {item other : α} :
    other ∈ addNew items item ↔ other ∈ items ∨ other = item := by
  unfold addNew
  split
  · next h =>
    have hmem : item ∈ items := by simpa using h
    constructor
    · exact Or.inl
    · rintro (h | rfl)
      · exact h
      · exact hmem
  · simp

theorem mem_foldl_addNew [DecidableEq α] {items more : List α} {other : α} :
    other ∈ more.foldl addNew items ↔ other ∈ items ∨ other ∈ more := by
  induction more generalizing items with
  | nil => simp
  | cons item rest ih => rw [List.foldl_cons, ih, mem_addNew, List.mem_cons, or_assoc]

theorem nodup_addNew [DecidableEq α] {items : List α} (h : items.Nodup) (item : α) :
    (addNew items item).Nodup := by
  unfold addNew
  split
  · exact h
  · next hnew =>
    have hmem : item ∉ items := by simpa using hnew
    exact List.nodup_append.2 ⟨h, by simp, by grind⟩

theorem nodup_foldl_addNew [DecidableEq α] {items : List α} (h : items.Nodup) (more : List α) :
    (more.foldl addNew items).Nodup := by
  induction more generalizing items with
  | nil => exact h
  | cons item rest ih => exact ih (nodup_addNew h item)

theorem count_addNew [DecidableEq α] (items : List α) (item other : α) :
    (addNew items item).count other = if other = item then max (items.count other) 1
      else items.count other := by
  by_cases h : item ∈ items
  · have hcount := List.one_le_count_iff.2 h
    rw [addNew, if_pos (List.contains_iff_mem.2 h)]
    split
    · next heq => rw [heq, Nat.max_eq_left hcount]
    · rfl
  · rw [addNew, if_neg fun hmem => h (List.contains_iff_mem.1 hmem), List.count_append]
    split
    · next heq => simp [heq, List.count_eq_zero.2 h]
    · next hne => simp [Ne.symm hne]

/-- What is added is there once, or as often as before. -/
theorem count_foldl_addNew [DecidableEq α] (items more : List α) (other : α) :
    (more.foldl addNew items).count other = if other ∈ more then max (items.count other) 1
      else items.count other := by
  induction more generalizing items with
  | nil => rfl
  | cons item rest ih =>
    rw [List.foldl_cons, ih, count_addNew]
    by_cases hfirst : other = item
    · simp [hfirst]
    · simp [hfirst]

theorem prefix_foldl_addNew [DecidableEq α] (items more : List α) :
    items <+: more.foldl addNew items := by
  induction more generalizing items with
  | nil => exact List.prefix_rfl
  | cons item rest ih =>
    refine List.IsPrefix.trans ?_ (ih (addNew items item))
    unfold addNew
    split
    · exact List.prefix_rfl
    · exact List.prefix_append ..

theorem addNew_of_mem [DecidableEq α] {items : List α} {item : α} (h : item ∈ items) :
    addNew items item = items := if_pos (List.contains_iff_mem.2 h)

theorem foldl_addNew_replicate [DecidableEq α] (items : List α) (item : α) (n : Nat) :
    (List.replicate n item).foldl addNew items = if n = 0 then items else addNew items item := by
  induction n generalizing items with
  | zero => rfl
  | succ n ih =>
    rw [List.replicate_succ, List.foldl_cons, ih, if_neg n.succ_ne_zero]
    split
    · rfl
    · exact addNew_of_mem (mem_addNew.2 (.inr rfl))

/-- The names of all entries that list an item. An entry that lists it several times is added
once. -/
theorem foldl_addNew_listing [DecidableEq α] [DecidableEq β] (listed : γ → List α) (name : γ → β)
    (entries : List γ) (item : α) (items : List β) :
    (entries.flatMap fun e => List.replicate ((listed e).count item) (name e)).foldl addNew items =
      ((entries.filter fun e => (listed e).contains item).map name).foldl addNew items := by
  induction entries generalizing items with
  | nil => rfl
  | cons e rest ih =>
    rw [List.flatMap_cons, List.foldl_append, foldl_addNew_replicate, ih]
    by_cases hlists : item ∈ listed e
    · have hcount : (listed e).count item ≠ 0 := Nat.ne_of_gt (List.count_pos_iff.2 hlists)
      rw [if_neg hcount, List.filter_cons_of_pos (by simpa using hlists), List.map_cons,
        List.foldl_cons]
    · have hcount : (listed e).count item = 0 := List.count_eq_zero.2 hlists
      rw [if_pos hcount, List.filter_cons_of_neg (by simpa using hlists)]

end DocTrace
