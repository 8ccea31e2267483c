import DocTrace.Proofs.Rule.Enforcement
import DocTrace.Proofs.Result
import DocTrace.Proofs.Yaml.Keys
import DocTrace.Rule.Schema

/-! The enforcement of a rule in a document of rules, where a rule is read field by field from the
mapping that stands for it. -/

namespace DocTrace.Rule

/-! ### The rule that a mapping stands for -/

variable {m : Mapping} {r : Rule} {id : String}

theorem find?_of_idOf (h : idOf m = .ok id) : m.find? "id" = some (.str id) := by
  unfold idOf at h
  split at h
  · next s hs =>
    split at h
    · contradiction
    · rw [hs, Except.ok.inj h]
  · contradiction

/-- Whether a rule is what a mapping says. It runs at least one check, and the last one is the one
that the mapping names, if it names one. -/
structure IsDescribed (m : Mapping) (r : Rule) : Prop where
  id : idOf m = .ok r.id
  level : choice r.id m "level" "file" Level.name Level.all = .ok r.level
  category : choice r.id m "type" "structural" Category.name Category.all = .ok r.category
  enforcement : enforcementOf r.id m = .ok r.enforcement
  hub : hubOf r.id m = .ok r.hub
  checkName : namedCheck r.id m = .ok r.checkName
  checks : ∃ declared, declaredChecks r.id m = .ok declared ∧
    r.checks = declared ++ (r.checkName.map Check.named).toList
  nonempty : r.checks.isEmpty = false
  name : filledText m "name" r.id = .ok r.name
  description : filledText m "description" "" = .ok r.description
  target : targetOf r.id r.level m = .ok r.target

theorem ofMapping_eq_ok_iff : ofMapping m = .ok r ↔ IsDescribed m r := by
  unfold ofMapping
  simp only [bind, bind_eq_ok_iff]
  constructor
  · rintro ⟨id, hid, level, hlevel, category, hcategory, enforcement, henforcement, hub, hhub,
      declared, hdeclared, checkName, hcheckName, h⟩
    split at h
    · contradiction
    · next hchecks =>
      obtain ⟨name, hname, h⟩ := exists_of_bind_ok h
      obtain ⟨description, hdescription, h⟩ := exists_of_bind_ok h
      obtain ⟨target, htarget, h⟩ := exists_of_bind_ok h
      obtain rfl := Except.ok.inj h
      exact ⟨hid, hlevel, hcategory, henforcement, hhub, hcheckName, ⟨declared, hdeclared, rfl⟩,
        Bool.eq_false_iff.2 hchecks, hname, hdescription, htarget⟩
  · intro h
    obtain ⟨declared, hdeclared, hchecks⟩ := h.checks
    refine ⟨r.id, h.id, r.level, h.level, r.category, h.category, r.enforcement, h.enforcement,
      r.hub, h.hub, declared, hdeclared, r.checkName, h.checkName, ?_⟩
    rw [← hchecks, if_neg (by simp [h.nonempty])]
    simp only [h.name, h.description, h.target]
    rfl

theorem find?_of_ofMapping (h : ofMapping m = .ok r) : m.find? "id" = some (.str r.id) :=
  find?_of_idOf (ofMapping_eq_ok_iff.1 h).id

end DocTrace.Rule

namespace DocTrace

theorem Table.forall₂_entries [DecidableEq κ] {t u : Table κ α} {R : κ → α → α → Prop}
    (hkeys : u.keys = t.keys)
    (h : ∀ key a b, t.find? key = some a → u.find? key = some b → R key a b) :
    List.Forall₂ (fun e f => e.1 = f.1 ∧ R e.1 e.2 f.2) t.entries u.entries := by
  have hsame : List.Forall₂ (fun e f => e.1 = f.1) t.entries u.entries := by
    rw [← List.forall₂_map_left_iff (f := Prod.fst) (R := fun a (f : κ × α) => a = f.1),
      ← List.forall₂_map_right_iff (f := Prod.fst)]
    have hmap : t.entries.map (·.1) = u.entries.map (·.1) := hkeys.symm
    rw [hmap]
    exact List.forall₂_refl _
  refine List.forall₂_iff_zip.2 ⟨hsame.length_eq, fun {e f} hzip => ?_⟩
  have hkey : e.1 = f.1 := List.forall₂_zip hsame hzip
  obtain ⟨he, hf⟩ := List.of_mem_zip hzip
  exact ⟨hkey, h e.1 e.2 f.2 (Table.find?_eq_some_iff.2 he)
    (Table.find?_eq_some_iff.2 (hkey ▸ hf))⟩

namespace Rule

/-! ### Mappings of a document -/

/-- Mappings as a document lists them: each has an identifier of its own, and every name once. -/
structure AreOverrides (ms : List Mapping) : Prop where
  named : ∀ m ∈ ms, ∃ id, m.find? "id" = some (.str id)
  names : ∀ m ∈ ms, m.names.Nodup
  ids : (ms.map mergeKey?).Nodup

variable {m m' : Mapping} {ms ms' : List Mapping} {id : String}

theorem mergeKey?_of_find? (h : m.find? "id" = some (.str id)) : mergeKey? m = some id := by
  rw [mergeKey?, h]
  rfl

theorem areOverrides_mappingsFrom {source : String} {seen : List String} {index : ℕ}
    {items : List Value} (hitems : ∀ v ∈ items, v.NamesOnce)
    (h : mappingsFrom source seen index items = .ok ms) :
    AreOverrides ms ∧ ∀ m ∈ ms, ∀ id ∈ seen, mergeKey? m ≠ some id := by
  induction items generalizing seen index ms with
  | nil =>
    obtain rfl := Except.ok.inj h
    exact ⟨⟨by simp, by simp, by simp⟩, by simp⟩
  | cons v rest ih =>
    obtain ⟨hfirst, hrest⟩ := List.forall_mem_cons.1 hitems
    unfold mappingsFrom at h
    split at h
    · contradiction
    · next m hm =>
      split at h
      · contradiction
      · next id hid =>
        split at h
        · contradiction
        · next hnew =>
          obtain ⟨more, hmore, rfl⟩ := exists_of_map_ok h
          obtain ⟨hoverrides, hfresh⟩ := ih hrest hmore
          have hfind := find?_of_idOf hid
          have hkey := mergeKey?_of_find? hfind
          refine ⟨⟨?_, ?_, ?_⟩, ?_⟩
          · exact List.forall_mem_cons.2 ⟨⟨id, hfind⟩, hoverrides.named⟩
          · exact List.forall_mem_cons.2 ⟨(hfirst.of_asMap? hm).1, hoverrides.names⟩
          · rw [List.map_cons, hkey]
            refine List.nodup_cons.2 ⟨fun hmem => ?_, hoverrides.ids⟩
            obtain ⟨other, hother, hsame⟩ := List.mem_map.1 hmem
            exact hfresh other hother id (List.mem_cons_self ..) hsame
          · refine List.forall_mem_cons.2
              ⟨fun other hother hsame => ?_, fun other hother s hs => ?_⟩
            · rw [hkey] at hsame
              obtain rfl := Option.some.inj hsame
              exact hnew (List.contains_iff_mem.2 hother)
            · exact hfresh other hother s (List.mem_cons_of_mem _ hs)

theorem areOverrides_nil : AreOverrides [] := ⟨by simp, by simp, by simp⟩

theorem areOverrides_mappingsOf {source : String} (hm : ∀ e ∈ m, e.2.NamesOnce)
    (h : mappingsOf source m = .ok ms) : AreOverrides ms := by
  obtain ⟨-, -, h⟩ := exists_of_bind_ok h
  split at h
  · exact Except.ok.inj h ▸ areOverrides_nil
  · exact Except.ok.inj h ▸ areOverrides_nil
  · next v _ hv =>
    split at h
    · next items hitems =>
      obtain ⟨e, he, rfl⟩ := Mapping.exists_mem_of_find? hv
      exact (areOverrides_mappingsFrom ((hm e he).of_asList? hitems) h).1
    · contradiction

theorem areOverrides_readDocument {text source : String} (h : readDocument text source = .ok ms) :
    AreOverrides ms := by
  unfold readDocument at h
  split at h
  · contradiction
  · contradiction
  · exact Except.ok.inj h ▸ areOverrides_nil
  · next v _ hload =>
    split at h
    · next m hm => exact areOverrides_mappingsOf ((Yaml.namesOnce_load hload).of_asMap? hm).2 h
    · contradiction

/-- A rule document that is not there overrides nothing. -/
theorem overridesAt_absent {disk : Disk} {path : Path} (hlong : disk.isTooLong path = false)
    (hfile : disk.file? path = none) : overridesAt disk path = .ok [] := by
  simp [overridesAt, hlong, hfile]

theorem areOverrides_overridesAt {disk : Disk} {path : Path} (h : overridesAt disk path = .ok ms) :
    AreOverrides ms := by
  unfold overridesAt at h
  split at h
  · contradiction
  · split at h
    · exact Except.ok.inj h ▸ areOverrides_nil
    · obtain ⟨text, -, hread⟩ := exists_of_bind_ok h
      exact areOverrides_readDocument (mapError_eq_ok_iff.1 hread)

/-! ### Merged mappings -/

/-- The text of the identifier of a mapping. -/
def keyOf (m : Mapping) : String := (mergeKey? m).getD ""

theorem keyOf_of_find? (h : m.find? "id" = some (.str id)) : keyOf m = id := by
  rw [keyOf, mergeKey?_of_find? h]
  rfl

/-- The merged mappings by their keys, the disabled ones among them. -/
def merged (base overrides : List Mapping) : Table String Mapping :=
  overrides.foldl (fun t m => addOverride t (keyOf m) m)
    (Table.ofList (base.map fun m => (keyOf m, m)))

theorem mapM_mergeKey? (h : ∀ m ∈ ms, ∃ id, m.find? "id" = some (.str id)) :
    (ms.mapM fun m => (mergeKey? m).map (·, m)) = some (ms.map fun m => (keyOf m, m)) := by
  induction ms with
  | nil => rfl
  | cons m rest ih =>
    obtain ⟨⟨id, hid⟩, hrest⟩ := List.forall_mem_cons.1 h
    rw [List.mapM_cons, ih hrest, mergeKey?_of_find? hid, List.map_cons, keyOf_of_find? hid]
    rfl

variable {base : List Mapping}

theorem merge?_eq (hbase : ∀ m ∈ base, ∃ id, m.find? "id" = some (.str id))
    (hms : AreOverrides ms) : merge? base ms =
      some (((merged base ms).entries.map (·.2)).filter isEnabled) := by
  rw [merge?, mapM_mergeKey? hbase, mapM_mergeKey? hms.named]
  simp only [merged, Option.bind_eq_bind, Option.bind_some, List.foldl_map]
  rfl

theorem named_builtin : ∀ m ∈ Builtin.rules, ∃ id, m.find? "id" = some (.str id) := by
  have hall : ∀ m ∈ Builtin.rules, ((m.find? "id").bind Value.asString?).isSome = true := by
    decide +kernel
  intro m hm
  obtain ⟨id, hid⟩ := Option.isSome_iff_exists.1 (hall m hm)
  obtain ⟨v, hv, hname⟩ := Option.bind_eq_some_iff.1 hid
  exact ⟨id, Value.asString?_eq_some_iff.1 hname ▸ hv⟩

/-- Whether the rules of a table have the identifiers under which they are found. -/
def IsNamed (t : Table String Mapping) : Prop :=
  ∀ key m, t.find? key = some m → m.find? "id" = some (.str key)

theorem IsNamed.put {t : Table String Mapping} (ht : IsNamed t)
    (hm : m.find? "id" = some (.str id)) : IsNamed (t.put id m) := by
  intro key other hother
  rw [Table.find?_put] at hother
  split at hother
  · next hkey =>
    obtain rfl := Option.some.inj hother
    rw [hkey, hm]
  · exact ht key other hother

theorem IsNamed.addOverride {t : Table String Mapping} (ht : IsNamed t) (hnames : m.names.Nodup)
    (hm : m.find? "id" = some (.str id)) : IsNamed (addOverride t id m) := by
  refine ht.put ?_
  split
  · rw [Mapping.find?_merge hnames, hm]
    rfl
  · exact hm

theorem isNamed_ofList (hbase : ∀ m ∈ base, ∃ id, m.find? "id" = some (.str id)) :
    IsNamed (Table.ofList (base.map fun m => (keyOf m, m))) := by
  refine List.foldlRecOn _ _ (fun key m h => by simp at h) fun t ht e he => ?_
  obtain ⟨m, hm, rfl⟩ := List.mem_map.1 he
  obtain ⟨id, hid⟩ := hbase m hm
  dsimp only
  rw [keyOf_of_find? hid]
  exact ht.put hid

theorem isNamed_foldl {t : Table String Mapping} (ht : IsNamed t)
    (hnamed : ∀ m ∈ ms, ∃ id, m.find? "id" = some (.str id)) (hnames : ∀ m ∈ ms, m.names.Nodup) :
    IsNamed (ms.foldl (fun t m => Rule.addOverride t (keyOf m) m) t) := by
  induction ms generalizing t with
  | nil => exact ht
  | cons m rest ih =>
    obtain ⟨⟨id, hid⟩, hrest⟩ := List.forall_mem_cons.1 hnamed
    obtain ⟨hm, hothers⟩ := List.forall_mem_cons.1 hnames
    have hfirst : IsNamed (Rule.addOverride t (keyOf m) m) := by
      rw [keyOf_of_find? hid]
      exact ht.addOverride hm hid
    exact ih hfirst hrest hothers

/-! ### One rule with another enforcement -/

/-- The texts that stand for an enforcement. -/
def Enforcement.spellings : Enforcement → List String
  | .error => ["error"]
  | .warning => ["warning", "warn"]

/-- Whether a mapping says what another one says, but for the enforcement. -/
structure Enforces (level : Enforcement) (m m' : Mapping) : Prop where
  others : ∀ key, key ≠ "enforcement" → m'.find? key = m.find? key
  own : ∃ s ∈ level.spellings, m'.find? "enforcement" = some (.str s)

/-- The mappings of a document before and after one rule is given an enforcement in it: the mapping
of the rule is changed, or one that has nothing but the identifier and the enforcement is added. -/
inductive SetsEnforcement (id : String) (level : Enforcement) :
    List Mapping → List Mapping → Prop
  | changed {before after : List Mapping} {m m' : Mapping} (hid : m.find? "id" = some (.str id))
    (h : Enforces level m m') : SetsEnforcement id level (before ++ m :: after)
      (before ++ m' :: after)
  | added {before after : List Mapping} {m' : Mapping}
    (h : Enforces level [(.str "id", .str id)] m') :
    SetsEnforcement id level (before ++ after) (before ++ m' :: after)

/-- Whether two tables differ at one key only, and in the enforcement there. -/
structure EnforcesAt (id : String) (level : Enforcement) (t u : Table String Mapping) : Prop where
  keys : u.keys = t.keys
  others : ∀ key, key ≠ id → u.find? key = t.find? key
  own : ∀ m m', t.find? id = some m → u.find? id = some m' → Enforces level m m'

variable {level : Enforcement} {t u : Table String Mapping}

theorem Enforces.merge (h : Enforces level m m') (hm : m.names.Nodup) (hm' : m'.names.Nodup)
    (first : Mapping) : Enforces level (first.merge m) (first.merge m') := by
  obtain ⟨s, hs, hown⟩ := h.own
  refine ⟨fun key hkey => ?_, s, hs, ?_⟩
  · rw [Mapping.find?_merge hm, Mapping.find?_merge hm', h.others key hkey]
  · rw [Mapping.find?_merge hm', hown]
    rfl

theorem enforcesAt_put (hkeys : u.keys = t.keys)
    (hothers : ∀ key, key ≠ id → u.find? key = t.find? key) (h : Enforces level m m') :
    EnforcesAt id level (t.put id m) (u.put id m') := by
  refine ⟨by rw [Table.keys_put, Table.keys_put, hkeys], fun key hkey => ?_, fun a b ha hb => ?_⟩
  · rw [Table.find?_put, Table.find?_put, if_neg hkey, if_neg hkey, hothers key hkey]
  · rw [Table.find?_put, if_pos rfl] at ha hb
    rw [← Option.some.inj ha, ← Option.some.inj hb]
    exact h

theorem EnforcesAt.put (h : EnforcesAt id level t u) {key : String} (hkey : key ≠ id)
    (written : Mapping) : EnforcesAt id level (t.put key written) (u.put key written) := by
  refine ⟨by rw [Table.keys_put, Table.keys_put, h.keys], fun k hk => ?_, fun a b ha hb => ?_⟩
  · rw [Table.find?_put, Table.find?_put, h.others k hk]
  · rw [Table.find?_put, if_neg (Ne.symm hkey)] at ha hb
    exact h.own a b ha hb

theorem EnforcesAt.addOverride (h : EnforcesAt id level t u) {key : String} (hkey : key ≠ id) :
    EnforcesAt id level (addOverride t key m) (addOverride u key m) := by
  unfold Rule.addOverride
  rw [h.others key hkey]
  exact h.put hkey _

theorem EnforcesAt.foldl (h : EnforcesAt id level t u) (hms : ∀ m ∈ ms, keyOf m ≠ id) :
    EnforcesAt id level (ms.foldl (fun t m => Rule.addOverride t (keyOf m) m) t)
      (ms.foldl (fun t m => Rule.addOverride t (keyOf m) m) u) := by
  induction ms generalizing t u with
  | nil => exact h
  | cons m rest ih =>
    obtain ⟨hm, hrest⟩ := List.forall_mem_cons.1 hms
    exact ih (h.addOverride hm) hrest

theorem mem_keys_of_foldl {key : String}
    (hkey : key ∈ (ms.foldl (fun t m => addOverride t (keyOf m) m) t).keys)
    (hms : ∀ m ∈ ms, keyOf m ≠ key) : key ∈ t.keys := by
  induction ms generalizing t with
  | nil => exact hkey
  | cons m rest ih =>
    obtain ⟨hm, hrest⟩ := List.forall_mem_cons.1 hms
    have hput := ih hkey hrest
    unfold Rule.addOverride at hput
    rw [Table.keys_put] at hput
    split at hput
    · exact hput
    · exact (List.mem_append.1 hput).resolve_right fun h => hm (List.mem_singleton.1 h).symm

theorem merged_cons (base before : List Mapping) (m : Mapping) (after : List Mapping) :
    merged base (before ++ m :: after) =
      after.foldl (fun t m => addOverride t (keyOf m) m)
        (addOverride (merged base before) (keyOf m) m) := by
  rw [merged, List.foldl_append]
  rfl

theorem merged_append (base before after : List Mapping) :
    merged base (before ++ after) =
      after.foldl (fun t m => addOverride t (keyOf m) m) (merged base before) := by
  rw [merged, List.foldl_append]
  rfl

theorem AreOverrides.keyOf_ne {before after : List Mapping}
    (h : AreOverrides (before ++ m :: after)) (hid : m.find? "id" = some (.str id)) :
    ∀ other ∈ before ++ after, keyOf other ≠ id := by
  intro other hother hkey
  have hmem : other ∈ before ++ m :: after := by
    rcases List.mem_append.1 hother with hother | hother
    · exact List.mem_append_left _ hother
    · exact List.mem_append_right _ (List.mem_cons_of_mem _ hother)
  obtain ⟨key, hfind⟩ := h.named other hmem
  obtain rfl : key = id := (keyOf_of_find? hfind).symm.trans hkey
  have hnodup := ((List.perm_middle.map mergeKey?).nodup_iff).1 h.ids
  rw [List.map_cons, mergeKey?_of_find? hid, List.nodup_cons] at hnodup
  exact hnodup.1 (List.mem_map.2 ⟨other, hother, mergeKey?_of_find? hfind⟩)

theorem isNamed_merged (hbase : ∀ m ∈ base, ∃ id, m.find? "id" = some (.str id))
    (hnamed : ∀ m ∈ ms, ∃ id, m.find? "id" = some (.str id)) (hnames : ∀ m ∈ ms, m.names.Nodup) :
    IsNamed (merged base ms) := isNamed_foldl (isNamed_ofList hbase) hnamed hnames

theorem enforces_added {first : Mapping} (h : Enforces level [(.str "id", .str id)] m')
    (hfirst : first.find? "id" = some (.str id)) (hnames : m'.names.Nodup) :
    Enforces level first (first.merge m') := by
  obtain ⟨s, hs, hown⟩ := h.own
  refine ⟨fun key hkey => ?_, s, hs, by rw [Mapping.find?_merge hnames, hown]; rfl⟩
  rw [Mapping.find?_merge hnames, h.others key hkey, Mapping.find?_cons]
  split
  · next hid =>
    obtain rfl : "id" = key := by simpa [Value.asString?] using hid
    rw [hfirst]
    rfl
  · rfl

theorem enforcesAt_merged (hbase : ∀ m ∈ base, ∃ id, m.find? "id" = some (.str id))
    (hms : AreOverrides ms) (hms' : AreOverrides ms') (hset : SetsEnforcement id level ms ms')
    (hknown : id ∈ (merged base ms).keys) :
    EnforcesAt id level (merged base ms) (merged base ms') := by
  cases hset with
  | @changed before after m m' hid h =>
    have hid' : m'.find? "id" = some (.str id) := (h.others "id" (by decide)).trans hid
    have hm : m.names.Nodup := hms.names m (by simp)
    have hm' : m'.names.Nodup := hms'.names m' (by simp)
    rw [merged_cons, merged_cons, keyOf_of_find? hid, keyOf_of_find? hid']
    refine EnforcesAt.foldl ?_ fun other hother =>
      hms.keyOf_ne hid other (List.mem_append_right _ hother)
    refine enforcesAt_put rfl (fun _ _ => rfl) ?_
    cases (merged base before).find? id with
    | none => exact h
    | some first => exact h.merge hm hm' first
  | @added before after m' h =>
    have hid' : m'.find? "id" = some (.str id) := h.others "id" (by decide)
    have hafter : ∀ other ∈ after, keyOf other ≠ id := fun other hother =>
      hms'.keyOf_ne hid' other (List.mem_append_right _ hother)
    rw [merged_append] at hknown ⊢
    obtain ⟨first, hfirst⟩ := Option.isSome_iff_exists.1
      (Table.find?_isSome_iff.2 (mem_keys_of_foldl hknown hafter))
    have hnamed : IsNamed (merged base before) :=
      isNamed_merged hbase (fun m hm => hms.named m (List.mem_append_left _ hm))
        fun m hm => hms.names m (List.mem_append_left _ hm)
    have hadded := enforces_added h (hnamed id first hfirst) (hms'.names m' (by simp))
    have hput : EnforcesAt id level ((merged base before).put id first)
        ((merged base before).put id (first.merge m')) :=
      enforcesAt_put rfl (fun _ _ => rfl) hadded
    rw [Table.put_of_find? hfirst] at hput
    rw [merged_cons, keyOf_of_find? hid', addOverride, hfirst]
    exact hput.foldl hafter

theorem Enforces.isEnabled (h : Enforces level m m') : isEnabled m' = isEnabled m := by
  rw [Rule.isEnabled, Rule.isEnabled, h.others "enabled" (by decide)]

theorem Enforces.enforcementOf (h : Enforces level m m') (id : String) :
    enforcementOf id m' = .ok level := by
  obtain ⟨s, hs, hown⟩ := h.own
  have htext : fieldText m' "enforcement" "error" = .ok s := by
    rw [fieldText, hown]
    rfl
  unfold Rule.enforcementOf choice
  rw [htext]
  cases level with
  | error =>
    obtain rfl := List.mem_singleton.1 hs
    rfl
  | warning =>
    simp only [Enforcement.spellings, List.mem_cons, List.not_mem_nil, or_false] at hs
    rcases hs with rfl | rfl <;> rfl

theorem Enforces.isDescribed (h : Enforces level m m') {r : Rule} (hr : IsDescribed m r) :
    IsDescribed m' { r with enforcement := level } where
  id := by simpa only [idOf, h.others "id" (by decide)] using hr.id
  level := by simpa only [choice, fieldText, h.others "level" (by decide)] using hr.level
  category := by simpa only [choice, fieldText, h.others "type" (by decide)] using hr.category
  enforcement := h.enforcementOf r.id
  hub := by simpa only [hubOf, present?, h.others "hub" (by decide)] using hr.hub
  checkName := by simpa only [namedCheck, present?, h.others "check" (by decide)] using hr.checkName
  checks := by simpa only [declaredChecks, present?, h.others "checks" (by decide)] using hr.checks
  nonempty := hr.nonempty
  name := by simpa only [filledText, h.others "name" (by decide)] using hr.name
  description := by
    simpa only [filledText, h.others "description" (by decide)] using hr.description
  target := by simpa only [targetOf, present?, h.others "target" (by decide)] using hr.target

theorem Enforces.ofMapping (h : Enforces level m m') {r : Rule} (hr : ofMapping m = .ok r) :
    ofMapping m' = .ok { r with enforcement := level } :=
  ofMapping_eq_ok_iff.2 (h.isDescribed (ofMapping_eq_ok_iff.1 hr))

/-! ### The rules of a document -/

/-- What becomes of one of the merged mappings where one rule is given another enforcement. -/
structure Becomes (id : String) (level : Enforcement) (m m' : Mapping) : Prop where
  own : m.find? "id" = some (.str id) → Enforces level m m'
  other : m.find? "id" ≠ some (.str id) → m' = m

theorem Becomes.isEnabled (h : Becomes id level m m') : isEnabled m' = isEnabled m := by
  by_cases hid : m.find? "id" = some (.str id)
  · exact (h.own hid).isEnabled
  · rw [h.other hid]

theorem Becomes.ofMapping (h : Becomes id level m m') {r : Rule} (hr : ofMapping m = .ok r) :
    ofMapping m' = .ok (r.enforce id level) := by
  have hfind := find?_of_ofMapping hr
  by_cases hid : r.id = id
  · rw [enforce, if_pos hid]
    exact (h.own (hid ▸ hfind)).ofMapping hr
  · rw [enforce, if_neg hid, h.other (by simpa [hfind] using hid)]
    exact hr

theorem EnforcesAt.becomes (h : EnforcesAt id level t u) (ht : IsNamed t) :
    List.Forall₂ (Becomes id level) ((t.entries.map (·.2)).filter isEnabled)
      ((u.entries.map (·.2)).filter isEnabled) := by
  have hentries := Table.forall₂_entries (R := fun _ => Becomes id level) h.keys
    fun key m m' hm hm' => by
      refine ⟨fun hid => ?_, fun hid => ?_⟩
      · obtain rfl : key = id := by simpa [ht key m hm] using hid
        exact h.own m m' hm hm'
      · have hkey : key ≠ id := fun hkey => hid (hkey ▸ ht key m hm)
        rw [h.others key hkey, hm] at hm'
        exact (Option.some.inj hm').symm
  have hvalues : List.Forall₂ (Becomes id level) (t.entries.map (·.2)) (u.entries.map (·.2)) := by
    rw [List.forall₂_map_left_iff, List.forall₂_map_right_iff]
    exact hentries.imp fun _ _ h => h.2
  have henabled (m m' : Mapping) (hm : Becomes id level m m') :
      isEnabled m = true ↔ isEnabled m' = true := by rw [hm.isEnabled]
  exact List.rel_filter henabled hvalues

theorem ofMappings_enforce (hbase : ∀ m ∈ base, ∃ id, m.find? "id" = some (.str id))
    (hms : AreOverrides ms) (hms' : AreOverrides ms') (hset : SetsEnforcement id level ms ms')
    (hknown : id ∈ (merged base ms).keys) {rules : List Rule}
    (h : ofMappings base ms = .ok rules) :
    ofMappings base ms' = .ok (rules.map (enforce id level)) := by
  have hbecome := (enforcesAt_merged hbase hms hms' hset hknown).becomes
    (isNamed_merged hbase hms.named hms.names)
  have hrule {m m' : Mapping} (hm : Becomes id level m m') {r : Rule}
      (hr : (ofMapping m).mapError LoadFault.rule = .ok r) :
      (ofMapping m').mapError LoadFault.rule = .ok (r.enforce id level) :=
    mapError_eq_ok_iff.2 (hm.ofMapping (mapError_eq_ok_iff.1 hr))
  rw [ofMappings, merge?_eq hbase hms] at h
  rw [ofMappings, merge?_eq hbase hms']
  dsimp only at h ⊢
  generalize ((merged base ms).entries.map (·.2)).filter isEnabled = before at h hbecome
  generalize ((merged base ms').entries.map (·.2)).filter isEnabled = after at hbecome ⊢
  rw [mapM_eq_ok_iff] at h ⊢
  rw [List.forall₂_map_right_iff]
  induction hbecome generalizing rules with
  | nil =>
    cases h
    exact .nil
  | cons hfirst _ ih =>
    cases h with
    | cons hr hrest => exact .cons (hrule hfirst hr) (ih hrest)

theorem keyOf_of_mem_entries {t : Table String Mapping} (ht : IsNamed t) {e : String × Mapping}
    (he : e ∈ t.entries) : keyOf e.2 = e.1 :=
  keyOf_of_find? (ht e.1 e.2 (Table.find?_eq_some_iff.2 he))

theorem nodup_ids_of_ofMappings (hbase : ∀ m ∈ base, ∃ id, m.find? "id" = some (.str id))
    (hms : AreOverrides ms) {rules : List Rule} (h : ofMappings base ms = .ok rules) :
    (rules.map (·.id)).Nodup := by
  have hnamed := isNamed_merged hbase hms.named hms.names
  rw [ofMappings, merge?_eq hbase hms] at h
  have hrules := mapM_eq_ok_iff.1 h
  have hids : (((merged base ms).entries.map (·.2)).filter isEnabled).map keyOf =
      rules.map (·.id) := by
    rw [← List.forall₂_eq_eq_eq, List.forall₂_map_left_iff, List.forall₂_map_right_iff]
    exact hrules.imp fun m r hr => keyOf_of_find? (find?_of_ofMapping (mapError_eq_ok_iff.1 hr))
  have hkeys : ((merged base ms).entries.map (·.2)).map keyOf = (merged base ms).keys := by
    rw [List.map_map]
    exact List.map_congr_left fun e he => keyOf_of_mem_entries hnamed he
  rw [← hids]
  exact List.Nodup.sublist (List.filter_sublist.map keyOf) (hkeys ▸ (merged base ms).distinct)

end Rule

end DocTrace
