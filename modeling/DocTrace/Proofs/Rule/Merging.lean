import DocTrace.Proofs.Rule.Sharing
import DocTrace.Proofs.Value.Lookup

/-! The merge of two lists of rule mappings: the order of the result, what it leaves out, and the
values in it. A second merge of the same overrides finds every rule that the first one kept as it
should be; what the first one dropped it takes for a new rule. -/

namespace DocTrace

theorem Table.entries_put_of_mem [DecidableEq κ] {t : Table κ α} {key : κ} (h : key ∈ t.keys)
    (value : α) : (t.put key value).entries =
      t.entries.map fun e => if e.1 = key then (e.1, value) else e := by
  rw [Table.put, dif_pos (Table.contains_iff.2 h)]
  rfl

namespace Rule

/-- Mappings as a list of rules holds them: each has a text of its own for an identifier, and every
key once. -/
structure AreRules (ms : List Mapping) : Prop where
  named : ∀ m ∈ ms, ∃ id, m.find? "id" = some (.str id)
  dicts : ∀ m ∈ ms, m.IsDict
  ids : (ms.map keyOf).Nodup

variable {base overrides : List Mapping} {m o : Mapping}

/-! ### One override after the other -/

/-- The override for an identifier. -/
def overrideOf? (overrides : List Mapping) (id : String) : Option Mapping :=
  overrides.find? fun o => keyOf o = id

/-- What becomes of the mapping under an identifier. -/
def overriddenBy (overrides : List Mapping) (id : String) (m : Mapping) : Mapping :=
  match overrideOf? overrides id with
  | some o => m.merge o
  | none => m

theorem overrideOf?_eq_none {id : String} (h : id ∉ overrides.map keyOf) :
    overrideOf? overrides id = none := by
  rw [overrideOf?, List.find?_eq_none]
  intro o ho hsame
  exact h (List.mem_map.2 ⟨o, ho, of_decide_eq_true hsame⟩)

theorem overrideOf?_of_mem (hids : (overrides.map keyOf).Nodup) (ho : o ∈ overrides) :
    overrideOf? overrides (keyOf o) = some o := by
  induction overrides with
  | nil => contradiction
  | cons first rest ih =>
    obtain ⟨hfirst, hrest⟩ := List.nodup_cons.1 hids
    rw [overrideOf?, List.find?_cons]
    rcases List.mem_cons.1 ho with rfl | ho
    · rw [decide_eq_true rfl]
    · have hne : keyOf first ≠ keyOf o := fun hsame =>
        hfirst (List.mem_map.2 ⟨o, ho, hsame.symm⟩)
      rw [decide_eq_false hne]
      exact ih hrest ho

/-- Overrides with identifiers of their own change each entry in its place, and the new ones follow
in their order. -/
theorem entries_foldl_addOverride (t : Table String Mapping)
    (hids : (overrides.map keyOf).Nodup) :
    (overrides.foldl (fun t m => addOverride t (keyOf m) m) t).entries =
      t.entries.map (fun e => (e.1, overriddenBy overrides e.1 e.2)) ++
        (overrides.filter fun o => keyOf o ∉ t.keys).map fun o => (keyOf o, o) := by
  induction overrides generalizing t with
  | nil => simp [overriddenBy, overrideOf?]
  | cons o rest ih =>
    obtain ⟨hfirst, hrest⟩ := List.nodup_cons.1 hids
    have hnone : overrideOf? rest (keyOf o) = none := overrideOf?_eq_none hfirst
    have hother {id : String} (hid : id ≠ keyOf o) (m : Mapping) :
        overriddenBy (o :: rest) id m = overriddenBy rest id m := by
      rw [overriddenBy, overriddenBy, overrideOf?, List.find?_cons, decide_eq_false (Ne.symm hid)]
      rfl
    rw [List.foldl_cons, ih _ hrest, addOverride, Table.keys_put]
    by_cases hkey : keyOf o ∈ t.keys
    · rw [if_pos hkey, Table.entries_put_of_mem hkey, List.map_map,
        List.filter_cons_of_neg (by simpa using hkey)]
      congr 1
      refine List.map_congr_left fun e he => ?_
      rw [Function.comp_apply]
      by_cases hsame : e.1 = keyOf o
      · have hfind : t.find? (keyOf o) = some e.2 := Table.find?_eq_some_iff.2 (hsame ▸ he)
        rw [if_pos hsame, hfind, hsame, overriddenBy, hnone, overriddenBy, overrideOf?,
          List.find?_cons, decide_eq_true rfl]
      · rw [if_neg hsame, hother hsame]
    · have hfind : t.find? (keyOf o) = none := Table.find?_eq_none_iff.2 hkey
      have hentries : t.entries.map (fun e => (e.1, overriddenBy rest e.1 e.2)) =
          t.entries.map fun e => (e.1, overriddenBy (o :: rest) e.1 e.2) := by
        refine List.map_congr_left fun e he => ?_
        rw [hother fun hsame => hkey (hsame ▸ List.mem_map_of_mem he)]
      have hfresh : (rest.filter fun m => keyOf m ∉ t.keys ++ [keyOf o]) =
          rest.filter fun m => keyOf m ∉ t.keys := by
        refine List.filter_congr fun m hm => ?_
        have hne : keyOf m ≠ keyOf o := fun hsame => hfirst (hsame ▸ List.mem_map_of_mem hm)
        simp [hne]
      rw [if_neg hkey, hfind, Table.put_of_not_mem hkey, hfresh, List.map_append, hentries,
        List.filter_cons_of_pos (by simpa using hkey)]
      simp [overriddenBy, hnone]

/-! ### The whole merge -/

/-- The base mappings, each with its override, and the overrides of none of them. -/
def mergedMappings (base overrides : List Mapping) : List Mapping :=
  base.map (fun b => overriddenBy overrides (keyOf b) b) ++
    overrides.filter fun o => keyOf o ∉ base.map keyOf

theorem entries_merged (hbase : (base.map keyOf).Nodup) (hoverrides : (overrides.map keyOf).Nodup) :
    (merged base overrides).entries.map (·.2) = mergedMappings base overrides := by
  have hentries : (Table.ofList (base.map fun m => (keyOf m, m))).entries =
      base.map fun m => (keyOf m, m) := by
    have hnodup : ((base.map fun m => (keyOf m, m)).map Prod.fst).Nodup := by
      simpa [Function.comp_def] using hbase
    exact Table.entries_foldl_put {} _ hnodup
  have hkeys : (Table.ofList (base.map fun m => (keyOf m, m))).keys = base.map keyOf := by
    rw [Table.keys, hentries, List.map_map]
    rfl
  rw [merged, entries_foldl_addOverride _ hoverrides, hentries, hkeys]
  simp [mergedMappings, Function.comp_def]

theorem AreRules.areOverrides (h : AreRules overrides) : AreOverrides overrides where
  named := h.named
  names m hm := (h.dicts m hm).nodup_names
  ids := by
    have hkeys : overrides.map mergeKey? = (overrides.map keyOf).map some := by
      rw [List.map_map]
      refine List.map_congr_left fun m hm => ?_
      obtain ⟨id, hid⟩ := h.named m hm
      rw [Function.comp_apply, mergeKey?_of_find? hid, keyOf_of_find? hid]
    rw [hkeys]
    exact h.ids.map (Option.some_injective String)

theorem merge?_eq_filter (hbase : AreRules base) (hoverrides : AreRules overrides) :
    merge? base overrides = some ((mergedMappings base overrides).filter isEnabled) := by
  rw [merge?_eq hbase.named hoverrides.areOverrides, entries_merged hbase.ids hoverrides.ids]

theorem isEnabled_eq_false_iff : isEnabled m = false ↔ m.find? "enabled" = some (.bool false) := by
  rw [isEnabled]
  cases hfind : m.find? "enabled" with
  | none => simp
  | some v =>
    cases v with
    | bool b => cases b <;> simp [Value.isFalse]
    | _ => simp [Value.isFalse]

theorem keyOf_overriddenBy (hoverrides : AreRules overrides) {b : Mapping} :
    keyOf (overriddenBy overrides (keyOf b) b) = keyOf b := by
  rw [overriddenBy]
  split
  · next o ho =>
    obtain ⟨id, hid⟩ := hoverrides.named o (List.mem_of_find?_eq_some ho)
    have hsame : keyOf o = keyOf b := by simpa using List.find?_some ho
    have hnames := (hoverrides.dicts o (List.mem_of_find?_eq_some ho)).nodup_names
    have hmerged : (b.merge o).find? "id" = some (.str id) := by
      rw [Mapping.find?_merge hnames, hid]
      rfl
    rw [keyOf_of_find? hmerged, ← hsame, keyOf_of_find? hid]
  · rfl

theorem keys_mergedMappings (hoverrides : AreRules overrides) :
    (mergedMappings base overrides).map keyOf =
      base.map keyOf ++ (overrides.filter fun o => keyOf o ∉ base.map keyOf).map keyOf := by
  rw [mergedMappings, List.map_append, List.map_map]
  congr 1
  exact List.map_congr_left fun b _ => keyOf_overriddenBy hoverrides

theorem AreRules.mergedMappings (hbase : AreRules base) (hoverrides : AreRules overrides) :
    AreRules (mergedMappings base overrides) where
  named m hm := by
    rcases List.mem_append.1 hm with hm | hm
    · obtain ⟨b, hb, rfl⟩ := List.mem_map.1 hm
      rw [overriddenBy]
      split
      · next o ho =>
        have hmem := List.mem_of_find?_eq_some ho
        obtain ⟨id, hid⟩ := hoverrides.named o hmem
        refine ⟨id, ?_⟩
        rw [Mapping.find?_merge (hoverrides.dicts o hmem).nodup_names, hid]
        rfl
      · exact hbase.named b hb
    · exact hoverrides.named m (List.mem_filter.1 hm).1
  dicts m hm := by
    rcases List.mem_append.1 hm with hm | hm
    · obtain ⟨b, hb, rfl⟩ := List.mem_map.1 hm
      rw [overriddenBy]
      split
      · next o ho =>
        exact (hbase.dicts b hb).merge (hoverrides.dicts o (List.mem_of_find?_eq_some ho))
      · exact hbase.dicts b hb
    · exact hoverrides.dicts m (List.mem_filter.1 hm).1
  ids := by
    rw [keys_mergedMappings hoverrides]
    refine List.nodup_append.2
      ⟨hbase.ids, hoverrides.ids.sublist (List.filter_sublist.map keyOf), ?_⟩
    rintro id hid _ hother rfl
    obtain ⟨o, ho, rfl⟩ := List.mem_map.1 hother
    exact of_decide_eq_true (List.mem_filter.1 ho).2 hid

theorem AreRules.sublist {ms : List Mapping} (h : AreRules base) (hsublist : ms.Sublist base) :
    AreRules ms where
  named m hm := h.named m (hsublist.subset hm)
  dicts m hm := h.dicts m (hsublist.subset hm)
  ids := h.ids.sublist (hsublist.map keyOf)

/-! ### The same overrides again -/

/-- A merged mapping is as its override wants it. -/
theorem overriddenBy_merged (hbase : AreRules base) (hoverrides : AreRules overrides)
    (hm : m ∈ mergedMappings base overrides) : overriddenBy overrides (keyOf m) m = m := by
  rcases List.mem_append.1 hm with hm | hm
  · obtain ⟨b, hb, rfl⟩ := List.mem_map.1 hm
    rw [keyOf_overriddenBy hoverrides]
    cases ho : overrideOf? overrides (keyOf b) with
    | none => simp only [overriddenBy, ho]
    | some o =>
      simp only [overriddenBy, ho]
      exact (hbase.dicts b hb).merge_merge (hoverrides.dicts o (List.mem_of_find?_eq_some ho))
  · obtain ⟨hmem, -⟩ := List.mem_filter.1 hm
    rw [overriddenBy, overrideOf?_of_mem hoverrides.ids hmem]
    exact (hoverrides.dicts m hmem).merge_self

/-- The second merge adds the enabled overrides of what the first one left out. -/
theorem merge?_again (hbase : AreRules base) (hoverrides : AreRules overrides) :
    let result := (mergedMappings base overrides).filter isEnabled
    merge? result overrides = some (result ++
      (overrides.filter fun o => keyOf o ∉ result.map keyOf).filter isEnabled) := by
  intro result
  have hsublist : result.Sublist (mergedMappings base overrides) := List.filter_sublist
  have hsame : result.map (fun m => overriddenBy overrides (keyOf m) m) = result :=
    (List.map_congr_left fun m hm =>
      overriddenBy_merged hbase hoverrides (hsublist.subset hm)).trans (List.map_id _)
  have henabled : result.filter isEnabled = result := by simp [result]
  rw [merge?_eq_filter ((hbase.mergedMappings hoverrides).sublist hsublist) hoverrides,
    mergedMappings, hsame, List.filter_append, henabled]

theorem overriddenBy_eq_merge (hids : (overrides.map keyOf).Nodup) (ho : o ∈ overrides)
    {b : Mapping} (hsame : keyOf o = keyOf b) : overriddenBy overrides (keyOf b) b = b.merge o := by
  rw [overriddenBy, ← hsame, overrideOf?_of_mem hids ho]

/-- An override lasts if its rule is among the merged ones or would be left out again. It does not
last if it says nothing of a rule that the base disables. -/
theorem lasting_iff (hbase : AreRules base) (hoverrides : AreRules overrides) (ho : o ∈ overrides) :
    (isEnabled o = true →
      keyOf o ∈ ((mergedMappings base overrides).filter isEnabled).map keyOf) ↔
    ∀ b ∈ base, keyOf o = keyOf b → b.find? "enabled" = some (.bool false) →
      (o.find? "enabled").isSome := by
  have hmerged {b : Mapping} (hb : b ∈ base) (hsame : keyOf o = keyOf b) :
      b.merge o ∈ mergedMappings base overrides ∧ keyOf (b.merge o) = keyOf o := by
    rw [← overriddenBy_eq_merge hoverrides.ids ho hsame, keyOf_overriddenBy hoverrides]
    exact ⟨List.mem_append_left _ (List.mem_map.2 ⟨b, hb, rfl⟩), hsame.symm⟩
  have henabled (b : Mapping) :
      (b.merge o).find? "enabled" = (o.find? "enabled").or (b.find? "enabled") :=
    Mapping.find?_merge (hoverrides.dicts o ho).nodup_names "enabled"
  constructor
  · intro hlasts b hb hsame hdisabled
    by_contra hsilent
    have hnone : o.find? "enabled" = none := by simpa using hsilent
    obtain ⟨m, hm, hkey⟩ := List.mem_map.1 (hlasts (by simp [isEnabled, hnone]))
    obtain ⟨hmem, hkept⟩ := List.mem_filter.1 hm
    obtain ⟨hmem', hkey'⟩ := hmerged hb hsame
    have hids := (hbase.mergedMappings hoverrides).ids
    obtain rfl := List.inj_on_of_nodup_map hids hmem hmem' (hkey.trans hkey'.symm)
    have hleftOut : isEnabled (b.merge o) = false := by
      rw [isEnabled_eq_false_iff, henabled, hnone, hdisabled]
      rfl
    rw [hleftOut] at hkept
    contradiction
  · intro hspoken hon
    by_cases hknown : keyOf o ∈ base.map keyOf
    · obtain ⟨b, hb, hsame⟩ := List.mem_map.1 hknown
      obtain ⟨hmem, hkey⟩ := hmerged hb hsame.symm
      refine List.mem_map.2 ⟨b.merge o, List.mem_filter.2 ⟨hmem, ?_⟩, hkey⟩
      by_contra hoff
      rw [Bool.not_eq_true, isEnabled_eq_false_iff, henabled] at hoff
      cases hfind : o.find? "enabled" with
      | none =>
        rw [hfind] at hoff
        have hspeaks := hspoken b hb hsame.symm hoff
        rw [hfind] at hspeaks
        contradiction
      | some v =>
        rw [hfind] at hoff
        rw [isEnabled_eq_false_iff.2 (hfind.trans hoff)] at hon
        contradiction
    · have hmem : o ∈ mergedMappings base overrides :=
        List.mem_append_right _ (List.mem_filter.2 ⟨ho, decide_eq_true hknown⟩)
      exact List.mem_map_of_mem (List.mem_filter.2 ⟨hmem, hon⟩)

/-- Whether a mapping has the values of the override, where there is one and it has the key, and
else those of `b`. -/
def Overrides (overrides : List Mapping) (b m : Mapping) : Prop :=
  ∀ key : Value, key.IsKey →
    m.value? key = ((overrideOf? overrides (keyOf b)).bind (·.value? key)).or (b.value? key)

theorem overrides_overriddenBy (hoverrides : AreRules overrides) {b : Mapping} (hb : b.IsDict) :
    Overrides overrides b (overriddenBy overrides (keyOf b) b) := by
  intro key hkey
  rw [overriddenBy]
  cases ho : overrideOf? overrides (keyOf b) with
  | none => rfl
  | some o =>
    exact hb.value?_merge (hoverrides.dicts o (List.mem_of_find?_eq_some ho)) hkey

/-- A merge lists the rules of the base in their order and then the new ones in theirs, without
those that are disabled in the end. It leaves the given mappings as they are. The same overrides
change nothing more, unless one of them says nothing of `enabled` for a rule that the base
disables. -/
theorem merge?_decides (hbase : AreRules base) (hoverrides : AreRules overrides) :
    ∃ replaced result : List Mapping,
      merge? base overrides = some result ∧
      List.Forall₂ (Overrides overrides) base replaced ∧
      result = (replaced ++ overrides.filter fun o => keyOf o ∉ base.map keyOf).filter isEnabled ∧
      (∀ m, isEnabled m = false ↔ m.find? "enabled" = some (.bool false)) ∧
      (merge? result overrides = some result ↔
        ∀ o ∈ overrides, ∀ b ∈ base, keyOf o = keyOf b →
          b.find? "enabled" = some (.bool false) → (o.find? "enabled").isSome) ∧
      ∀ (made : List Mapping) (baseAt overridesAt : List ℕ),
        baseAt.map (made[·]?) = base.map some → overridesAt.map (made[·]?) = overrides.map some →
        ∃ more kept, Objects.merge? made baseAt overridesAt = some (made ++ more, kept) ∧
          (∀ place ∈ kept, made.length ≤ place) ∧
          kept.map ((made ++ more)[·]?) = result.map some := by
  have hmerge := merge?_eq_filter hbase hoverrides
  refine ⟨base.map fun b => overriddenBy overrides (keyOf b) b, _, hmerge, ?_, rfl,
    fun m => isEnabled_eq_false_iff, ?_, ?_⟩
  · refine List.forall₂_map_right_iff.2 (List.forall₂_same.2 fun b hb => ?_)
    exact overrides_overriddenBy hoverrides (hbase.dicts b hb)
  · rw [merge?_again hbase hoverrides, Option.some.injEq, List.append_right_eq_self,
      List.filter_eq_nil_iff]
    simp only [List.mem_filter, decide_eq_true_eq, and_imp]
    refine forall₂_congr fun o ho => ?_
    rw [← lasting_iff hbase hoverrides ho, not_imp_not]
  · intro made baseAt overridesAt hbaseAt hoverridesAt
    obtain ⟨more, kept, hmade, hnew, hresult⟩ := Objects.merge?_eq hbaseAt hoverridesAt hbase.named
      hoverrides.areOverrides
    rw [hmerge] at hresult
    exact ⟨more, kept, hmade, hnew, (Option.some.inj hresult).symm⟩

/-- Rule mappings with an identifier and more fields. -/
def rulesOf (rules : List (String × List (String × Value))) : List Mapping :=
  rules.map fun r => (("id", .str r.1) :: r.2).map fun e => (.str e.1, e.2)

theorem areRules_rulesOf {rules : List (String × List (String × Value))}
    (hids : (rules.map (·.1)).Nodup) (hnames : ∀ r ∈ rules, ("id" :: r.2.map (·.1)).Nodup) :
    AreRules (rulesOf rules) where
  named m hm := by
    obtain ⟨r, -, rfl⟩ := List.mem_map.1 hm
    exact ⟨r.1, rfl⟩
  dicts m hm := by
    obtain ⟨r, hr, rfl⟩ := List.mem_map.1 hm
    exact Mapping.isDict_of_names (by simpa using hnames r hr)
  ids := by
    have hkeys : (rulesOf rules).map keyOf = rules.map (·.1) := by
      rw [rulesOf, List.map_map]
      exact List.map_congr_left fun r _ => keyOf_of_find? rfl
    rw [hkeys]
    exact hids

/-- The rule `b` is enabled again, `c` is dropped and `d` is new. -/
theorem merge?_decides_sample :
    let base := rulesOf [("a", []), ("b", [("enabled", .bool false)]), ("c", [])]
    let overrides := rulesOf [("d", []), ("c", [("enabled", .bool false)]),
      ("b", [("enabled", .bool true)])]
    AreRules base ∧ AreRules overrides ∧ ∃ result, merge? base overrides = some result ∧
      result.map keyOf = ["a", "b", "d"] ∧ merge? result overrides = some result := by
  intro base overrides
  have hbase : AreRules base := areRules_rulesOf (by decide) (by decide)
  have hoverrides : AreRules overrides := areRules_rulesOf (by decide) (by decide)
  obtain ⟨_, result, hmerge, -, -, -, hagain, -⟩ := merge?_decides hbase hoverrides
  have hids : (merge? base overrides).map (·.map keyOf) = some ["a", "b", "d"] := by decide +kernel
  rw [hmerge] at hids
  refine ⟨hbase, hoverrides, result, hmerge, Option.some.inj hids, hagain.2 ?_⟩
  have hspoken : ∀ o ∈ overrides, keyOf o = "b" → (o.find? "enabled").isSome := by decide +kernel
  have hdisabled : ∀ b ∈ base, isEnabled b = false → keyOf b = "b" := by decide +kernel
  intro o ho b hb hsame hoff
  exact hspoken o ho (hsame.trans (hdisabled b hb (isEnabled_eq_false_iff.2 hoff)))

/-- The override of a rule that the base disables is dropped with it, and the second merge takes it
for a new rule. -/
theorem merge?_not_idempotent :
    let base := rulesOf [("b", [("enabled", .bool false)])]
    let overrides := rulesOf [("b", [("name", .str "x")])]
    AreRules base ∧ AreRules overrides ∧ ∃ result, merge? base overrides = some result ∧
      merge? result overrides ≠ some result := by
  intro base overrides
  have hbase : AreRules base := areRules_rulesOf (by decide) (by decide)
  have hoverrides : AreRules overrides := areRules_rulesOf (by decide) (by decide)
  have hnone : (merge? base overrides).map (·.map keyOf) = some [] := by decide +kernel
  obtain ⟨result, hmerge, hempty⟩ := Option.map_eq_some_iff.1 hnone
  obtain rfl := List.map_eq_nil_iff.1 hempty
  refine ⟨hbase, hoverrides, [], hmerge, fun hsame => ?_⟩
  have hids : (merge? [] overrides).map (·.map keyOf) = some ["b"] := by decide +kernel
  rw [hsame] at hids
  contradiction

end Rule

end DocTrace
