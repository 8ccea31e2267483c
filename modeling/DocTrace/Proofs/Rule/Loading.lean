import DocTrace.Proofs.Rule.Overrides

/-! Which rule documents break the program off. Every wrong field of a document is reported but
two: the version and the name of a check are looked up before it is known that they are no
collections. -/

namespace DocTrace

/-- Whether reading a text ends neither at a fault of its form nor at a scalar that its tag does not
allow. -/
def Yaml.Fault.isStray : Yaml.Fault → Bool
  | .emptyNumber => true
  | .truthValue _ => true
  | .timestamp => true
  | .codePointTooLong => true
  | .timestampMapping => true
  | .tooDeep => true
  | _ => false

namespace Rule

variable {m : Mapping} {id source text : String} {ms base : List Mapping}

/-! ### The fields of a rule -/

/-- Whether a step does not end at the name of a check that is a collection. -/
def Reports (x : Except Fault α) : Prop := ¬FailsIn (· = .checkNotName) x

@[simp] theorem reports_ok (a : α) : Reports (.ok a) := not_failsIn_ok a

@[simp] theorem reports_error_iff {fault : Fault} :
    Reports (.error fault : Except Fault α) ↔ fault ≠ .checkNotName := not_congr failsIn_error_iff

theorem Reports.bind {x : Except Fault α} {f : α → Except Fault β} (hx : Reports x)
    (hf : ∀ a, Reports (f a)) : Reports (x.bind f) := fun h =>
  (failsIn_bind_iff.1 h).elim hx fun ⟨a, _, ha⟩ => hf a ha

theorem Reports.map {x : Except Fault α} (hx : Reports x) (f : α → β) : Reports (x.map f) :=
  fun h => hx (failsIn_map_iff.1 h)

theorem Reports.exists_of_bind {x : Except Fault α} {f : α → Except Fault β} (hx : Reports x)
    (h : x.bind f = .error .checkNotName) : ∃ a, x = .ok a ∧ f a = .error .checkNotName :=
  (bind_eq_error_iff.1 h).resolve_left fun hfault => hx ⟨_, hfault, rfl⟩

theorem reports_textOf (v : Value) : Reports (textOf v) := by
  unfold textOf
  split <;> simp

theorem reports_fieldText (m : Mapping) (key default : String) :
    Reports (fieldText m key default) := by
  unfold fieldText
  cases m.find? key with
  | none => exact reports_ok default
  | some v => exact reports_textOf v

theorem reports_filledText (m : Mapping) (key default : String) :
    Reports (filledText m key default) := by
  unfold filledText
  cases (m.find? key).filter Value.truthy with
  | none => exact reports_ok default
  | some v => exact reports_textOf v

theorem reports_idOf (m : Mapping) : Reports (idOf m) := by
  unfold idOf
  split
  · split <;> simp
  · simp

theorem reports_choice (rule : String) (m : Mapping) (key default : String) (name : α → String)
    (options : List α) : Reports (choice rule m key default name options) := by
  refine (reports_fieldText m key default).bind fun given => ?_
  split <;> simp

theorem reports_enforcementOf (rule : String) (m : Mapping) : Reports (enforcementOf rule m) := by
  refine (reports_fieldText m _ _).bind fun given => ?_
  split
  · simp
  · exact reports_choice _ _ _ _ _ _

theorem reports_hubOf (rule : String) (m : Mapping) : Reports (hubOf rule m) := by
  unfold hubOf
  split
  · simp
  · split
    · exact (reports_fieldText _ _ _).map _
    · simp

theorem reports_textsOf (rule key : String) (v : Value) : Reports (textsOf rule key v) := by
  unfold textsOf
  split
  · simp
  · split <;> simp

theorem reports_textsCheck (rule : String) (m : Mapping) (key : String)
    (check : List String → Check) : Reports (textsCheck rule m key check) := by
  unfold textsCheck
  split
  · simp
  · exact (reports_textsOf _ _ _).map _

theorem reports_extensionCheck (rule : String) (m : Mapping) : Reports (extensionCheck rule m) := by
  unfold extensionCheck
  split
  · simp
  · split <;> simp
  · simp

theorem reports_linkedCheck (rule : String) (m : Mapping) : Reports (linkedCheck rule m) := by
  unfold linkedCheck
  split
  · simp
  · split <;> simp

theorem reports_declaredChecks (rule : String) (m : Mapping) : Reports (declaredChecks rule m) := by
  unfold declaredChecks
  split
  · simp
  · split
    · simp
    · refine (reports_textsCheck rule _ _ _).bind fun keywords => ?_
      refine (reports_textsCheck rule _ _ _).bind fun fields => ?_
      refine (reports_extensionCheck rule _).bind fun ending => ?_
      refine (reports_textsCheck rule _ _ _).bind fun nodes => ?_
      exact (reports_linkedCheck rule _).bind fun linked => reports_ok _

theorem reports_targetField (rule : String) (target : Mapping) (key other : String) :
    Reports (targetField rule target key other) := by
  unfold targetField
  split
  · simp
  · simp
  · split <;> simp
  · simp

theorem reports_targetOf (rule : String) (level : Level) (m : Mapping) :
    Reports (targetOf rule level m) := by
  have hfields (target : Mapping) : Reports (do
      let idPrefix ← targetField rule target "idPrefix" "id_prefix"
      let pathPattern ← targetField rule target "pathPattern" "path_pattern"
      if level ≠ .project && idPrefix.isNone && pathPattern.isNone then
        .error (.noTarget rule level)
      else return { idPrefix, pathPattern : Target }) := by
    refine (reports_targetField rule _ _ _).bind fun idPrefix => ?_
    refine (reports_targetField rule _ _ _).bind fun pathPattern => ?_
    split
    · simp
    · exact reports_ok _
  unfold targetOf
  dsimp only
  split
  · exact hfields []
  · split
    · next target _ => exact hfields target
    · exact reports_error_iff.2 (by simp)

theorem namedCheck_eq_checkNotName_iff : namedCheck id m = .error .checkNotName ↔
    ∃ v, present? m "check" = some v ∧ v.isHashable = false := by
  unfold namedCheck
  cases present? m "check" with
  | none => simp
  | some v =>
    cases hv : v.isHashable with
    | false => simp [hv]
    | true =>
      simp only [Bool.not_true, Bool.false_eq_true, if_false, Option.some.injEq,
        exists_eq_left', hv, reduceCtorEq, iff_false]
      split
      · simp
      · intro h
        obtain ⟨check, -, h⟩ := (reports_textOf v).exists_of_bind h
        simp at h

/-- Whether the fields of a rule are right that are looked at before the name of its check. -/
structure ReachesCheck (m : Mapping) (id : String) : Prop where
  named : idOf m = .ok id
  level : ∃ level, choice id m "level" "file" Level.name Level.all = .ok level
  category : ∃ category, choice id m "type" "structural" Category.name Category.all = .ok category
  enforcement : ∃ enforcement, enforcementOf id m = .ok enforcement
  hub : ∃ hub, hubOf id m = .ok hub
  checks : ∃ declared, declaredChecks id m = .ok declared

theorem ofMapping_eq_checkNotName_iff : ofMapping m = .error .checkNotName ↔
    (∃ id, ReachesCheck m id) ∧ ∃ v, present? m "check" = some v ∧ v.isHashable = false := by
  constructor
  · intro h
    obtain ⟨id, hid, h⟩ := (reports_idOf m).exists_of_bind h
    obtain ⟨level, hlevel, h⟩ := (reports_choice id m _ _ _ _).exists_of_bind h
    obtain ⟨category, hcategory, h⟩ := (reports_choice id m _ _ _ _).exists_of_bind h
    obtain ⟨enforcement, henforcement, h⟩ := (reports_enforcementOf id m).exists_of_bind h
    obtain ⟨hub, hhub, h⟩ := (reports_hubOf id m).exists_of_bind h
    obtain ⟨declared, hdeclared, h⟩ := (reports_declaredChecks id m).exists_of_bind h
    rcases bind_eq_error_iff.1 h with h | ⟨checkName, -, h⟩
    · exact ⟨⟨id, hid, ⟨level, hlevel⟩, ⟨category, hcategory⟩, ⟨enforcement, henforcement⟩,
        ⟨hub, hhub⟩, declared, hdeclared⟩, namedCheck_eq_checkNotName_iff.1 h⟩
    · dsimp only at h
      split at h
      · simp at h
      · obtain ⟨name, -, h⟩ := (reports_filledText m _ _).exists_of_bind h
        obtain ⟨description, -, h⟩ := (reports_filledText m _ _).exists_of_bind h
        obtain ⟨target, -, h⟩ := (reports_targetOf id level m).exists_of_bind h
        contradiction
  · rintro ⟨⟨id, hid, ⟨level, hlevel⟩, ⟨category, hcategory⟩, ⟨enforcement, henforcement⟩,
      ⟨hub, hhub⟩, declared, hdeclared⟩, hcheck⟩
    have hnamed : namedCheck id m = .error .checkNotName := namedCheck_eq_checkNotName_iff.2 hcheck
    simp only [ofMapping, bind, Except.bind, hid, hlevel, hcategory, henforcement, hhub, hdeclared,
      hnamed]

/-! ### Documents -/

theorem isReported_rule_iff {fault : Fault} :
    (LoadFault.rule fault).isReported = false ↔ fault = .checkNotName := by
  cases fault <;> simp [LoadFault.isReported]

/-- Whether a fault of a document breaks the program off. -/
def DocumentFault.IsUnreported (fault : DocumentFault) : Prop :=
  (LoadFault.document fault).isReported = false

theorem isUnreported_scalar_iff {fault : Yaml.Fault} :
    (DocumentFault.scalar fault).IsUnreported ↔ fault.isStray = true := by
  cases fault <;> simp [DocumentFault.IsUnreported, LoadFault.isReported, Yaml.Fault.isStray]

theorem failsIn_checkVersion_iff (source : String) (m : Mapping) :
    FailsIn DocumentFault.IsUnreported (checkVersion source m) ↔
      ∃ v, present? m "version" = some v ∧ canBeVersion v = false := by
  unfold checkVersion
  cases present? m "version" with
  | none => simp
  | some v =>
    cases hv : canBeVersion v with
    | false => simp [hv, DocumentFault.IsUnreported, LoadFault.isReported]
    | true =>
      simp only [Bool.not_true, Bool.false_eq_true, if_false, Option.some.injEq,
        exists_eq_left', hv, Bool.true_eq_false, iff_false]
      split
      · simp
      · split <;> simp [DocumentFault.IsUnreported, LoadFault.isReported]

theorem not_failsIn_mappingsFrom (seen : List String) (index : ℕ) (items : List Value) :
    ¬FailsIn DocumentFault.IsUnreported (mappingsFrom source seen index items) := by
  induction items generalizing seen index with
  | nil => exact not_failsIn_ok []
  | cons v rest ih =>
    unfold mappingsFrom
    split
    · simp [DocumentFault.IsUnreported, LoadFault.isReported]
    · split
      · simp [DocumentFault.IsUnreported, LoadFault.isReported]
      · split
        · simp [DocumentFault.IsUnreported, LoadFault.isReported]
        · rw [failsIn_map_iff]
          exact ih _ _

theorem failsIn_mappingsOf_iff (source : String) (m : Mapping) :
    FailsIn DocumentFault.IsUnreported (mappingsOf source m) ↔
      ∃ v, present? m "version" = some v ∧ canBeVersion v = false := by
  unfold mappingsOf
  rw [← failsIn_checkVersion_iff source]
  refine failsIn_bind_iff.trans (or_iff_left ?_)
  -- After the version whatever is wrong with the list of rules is reported.
  rintro ⟨_, -, h⟩
  split at h
  · exact not_failsIn_ok _ h
  · exact not_failsIn_ok _ h
  · split at h
    · exact not_failsIn_mappingsFrom _ _ _ h
    · simp [DocumentFault.IsUnreported, LoadFault.isReported] at h

/-- A document breaks off at a text that cannot be read, or at a version that is a collection. -/
theorem failsIn_readDocument_iff (text source : String) :
    FailsIn DocumentFault.IsUnreported (readDocument text source) ↔
      (∃ fault, Yaml.load text = .error fault ∧ fault.isStray = true) ∨
        ∃ v m w, Yaml.load text = .ok v ∧ v.asMap? = some m ∧ present? m "version" = some w ∧
          canBeVersion w = false := by
  unfold readDocument
  split
  · next hload =>
    simp [hload, DocumentFault.IsUnreported, LoadFault.isReported, Yaml.Fault.isStray]
  · next fault _ hload => simp [hload, isUnreported_scalar_iff]
  · next hload =>
    have hnull : Value.null.asMap? = none := rfl
    simp [hload, hnull]
  · next v _ hload =>
    cases hm : v.asMap? with
    | none => simp [hload, hm, DocumentFault.IsUnreported, LoadFault.isReported]
    | some m => simp [hload, hm, failsIn_mappingsOf_iff]

/-! ### Merged mappings -/

/-- Whether every field in a table comes from a mapping with the same key. -/
def Stems (sources : List Mapping) (t : Table String Mapping) : Prop :=
  ∀ key m field v, t.find? key = some m → m.find? field = some v →
    ∃ own ∈ sources, keyOf own = key ∧ own.find? field = some v

theorem Stems.put {sources : List Mapping} {t : Table String Mapping} (ht : Stems sources t)
    {key : String} (hm : ∀ field v, m.find? field = some v →
      ∃ own ∈ sources, keyOf own = key ∧ own.find? field = some v) :
    Stems sources (t.put key m) := by
  intro other found field v hfound hv
  rw [Table.find?_put] at hfound
  split at hfound
  · next hkey =>
    obtain rfl := Option.some.inj hfound
    exact hkey ▸ hm field v hv
  · exact ht other found field v hfound hv

theorem Stems.addOverride {sources : List Mapping} {t : Table String Mapping}
    (ht : Stems sources t) (hm : m ∈ sources) (hnames : m.names.Nodup) :
    Stems sources (addOverride t (keyOf m) m) := by
  refine ht.put fun field v hv => ?_
  split at hv
  · next first hfirst =>
    rw [Mapping.find?_merge hnames] at hv
    rcases Option.or_eq_some_iff.1 hv with hv | ⟨-, hv⟩
    · exact ⟨m, hm, rfl, hv⟩
    · exact ht (keyOf m) first field v hfirst hv
  · exact ⟨m, hm, rfl, hv⟩

theorem stems_merged (hnames : ∀ m ∈ ms, m.names.Nodup) : Stems (base ++ ms) (merged base ms) := by
  refine List.foldlRecOn _ _ ?_ fun t ht m hm => ?_
  · refine List.foldlRecOn _ _ (fun key m field v h => by simp at h) fun t ht e he => ?_
    obtain ⟨m, hm, rfl⟩ := List.mem_map.1 he
    exact ht.put fun field v hv => ⟨m, List.mem_append_left _ hm, rfl, hv⟩
  · exact ht.addOverride (List.mem_append_right _ hm) (hnames m hm)

theorem find?_check_builtin : ∀ m ∈ Builtin.rules, m.find? "check" = none := by
  have hall : ∀ m ∈ Builtin.rules, (m.find? "check").isNone = true := by decide +kernel
  exact fun m hm => Option.isNone_iff_eq_none.1 (hall m hm)

/-! ### Whole documents -/

/-- Why loading the rules breaks off: at a text that cannot be read, at a version that is a
collection, or at a rule for which the document names its check by a collection. All rules before
that one are right, and so are its own fields before the check. -/
inductive BreaksOff (withBuiltin : Bool) (source text : String) : Prop
  | scalar {fault : Yaml.Fault} (hload : Yaml.load text = .error fault)
    (hstray : fault.isStray = true)
  | version {v w : Value} {m : Mapping} (hload : Yaml.load text = .ok v) (hm : v.asMap? = some m)
    (hversion : present? m "version" = some w) (hw : canBeVersion w = false)
  | check {overrides before after : List Mapping} {m own : Mapping} {id : String} {w : Value}
    (hread : readDocument text source = .ok overrides)
    (hmerge : merge? (if withBuiltin then Builtin.rules else []) overrides =
      some (before ++ m :: after))
    (hbefore : ∀ b ∈ before, ∃ r, ofMapping b = .ok r) (hreaches : ReachesCheck m id)
    (hcheck : present? m "check" = some w) (hw : w.isHashable = false)
    (hown : own ∈ overrides) (hid : own.find? "id" = some (.str id))
    (hsame : present? own "check" = some w)

/-- Whether the file at a path can be asked for and has a text. -/
structure HasText (disk : Disk) (path : Path) (text : String) : Prop where
  isTooLong : disk.isTooLong path = false
  content : ∃ content, disk.file? path = some content ∧ Disk.textOf content = .ok text

variable {disk : Disk} {path : Path} {withBuiltin : Bool}

theorem HasText.overridesAt_eq (h : HasText disk path text) :
    overridesAt disk path = (readDocument text path.name).mapError LoadFault.document := by
  obtain ⟨content, hfile, htext⟩ := h.content
  simp only [overridesAt, h.isTooLong, hfile, htext]
  rfl

theorem result_load (disk : Disk) (path : Path) (withBuiltin : Bool) :
    (load disk (some path) withBuiltin).result =
      (overridesAt disk path).bind (ofMappings (if withBuiltin then Builtin.rules else [])) := by
  unfold load
  dsimp only [Option.elim]
  cases overridesAt disk path with
  | error fault => rfl
  | ok overrides =>
    dsimp only [Except.bind]
    cases ofMappings (if withBuiltin then Builtin.rules else []) overrides <;> rfl

theorem ofMappings_eq_error_iff (hbase : ∀ m ∈ base, ∃ id, m.find? "id" = some (.str id))
    (hms : AreOverrides ms) {fault : LoadFault} :
    ofMappings base ms = .error fault ↔ ∃ before m after cause,
      merge? base ms = some (before ++ m :: after) ∧ (∀ b ∈ before, ∃ r, ofMapping b = .ok r) ∧
        ofMapping m = .error cause ∧ fault = .rule cause := by
  unfold ofMappings
  rw [merge?_eq hbase hms]
  dsimp only
  rw [mapM_eq_error_iff]
  simp only [mapError_eq_ok_iff, mapError_eq_error_iff]
  constructor
  · rintro ⟨before, m, after, hmerged, hbefore, cause, hcause, rfl⟩
    exact ⟨before, m, after, cause, congrArg some hmerged, hbefore, hcause, rfl⟩
  · rintro ⟨before, m, after, cause, hmerged, hbefore, hcause, rfl⟩
    exact ⟨before, m, after, Option.some.inj hmerged, hbefore, cause, hcause, rfl⟩

theorem named_base (withBuiltin : Bool) :
    ∀ m ∈ if withBuiltin then Builtin.rules else [], ∃ id, m.find? "id" = some (.str id) := by
  cases withBuiltin with
  | false => exact fun m hm => nomatch hm
  | true => exact named_builtin

theorem present?_eq_some_iff {field : String} {w : Value} :
    present? m field = some w ↔ m.find? field = some w ∧ w.isNull = false := by
  simp [present?, Option.filter_eq_some_iff]

/-- The check that a merged mapping names is named in the document, in the mapping of that rule. -/
theorem exists_own_check {before after : List Mapping} {w : Value} (hms : AreOverrides ms)
    (hmerge : merge? (if withBuiltin then Builtin.rules else []) ms = some (before ++ m :: after))
    (hid : idOf m = .ok id) (hcheck : present? m "check" = some w) :
    ∃ own ∈ ms, own.find? "id" = some (.str id) ∧ present? own "check" = some w := by
  obtain ⟨hfind, hnull⟩ := present?_eq_some_iff.1 hcheck
  have hbase := named_base withBuiltin
  rw [merge?_eq hbase hms] at hmerge
  have hm : m ∈ ((merged (if withBuiltin then Builtin.rules else []) ms).entries.map (·.2)).filter
      isEnabled := by
    rw [Option.some.inj hmerge]
    exact List.mem_append_right _ (List.mem_cons_self ..)
  obtain ⟨⟨key, found⟩, he, rfl⟩ := List.mem_map.1 (List.mem_of_mem_filter hm)
  have hfound := Table.find?_eq_some_iff.2 he
  have hkey : key = id := by
    have hnamed := isNamed_merged hbase hms.named hms.names key found hfound
    simpa [find?_of_idOf hid, eq_comm] using hnamed
  obtain ⟨own, hown, hsame, hcheck⟩ := stems_merged hms.names key found "check" w hfound hfind
  -- A built-in rule names no check, so the mapping is one of the document.
  rcases List.mem_append.1 hown with hbuiltin | hown
  · cases withBuiltin with
    | false => contradiction
    | true => simp [find?_check_builtin own hbuiltin] at hcheck
  · obtain ⟨name, hname⟩ := hms.named own hown
    rw [keyOf_of_find? hname, hkey] at hsame
    exact ⟨own, hown, hsame ▸ hname, present?_eq_some_iff.2 ⟨hcheck, hnull⟩⟩

/-- Where the document has a text, only that text and its rules can be wrong. -/
theorem cause_of_load (h : HasText disk path text) {fault : LoadFault}
    (hfault : (load disk (some path) withBuiltin).result = .error fault) :
    (∃ cause, fault = .document cause) ∨ ∃ cause, fault = .rule cause := by
  rw [result_load, h.overridesAt_eq] at hfault
  rcases bind_eq_error_iff.1 hfault with hread | ⟨ms, hread, hof⟩
  · obtain ⟨cause, -, hcause⟩ := mapError_eq_error_iff.1 hread
    exact .inl ⟨cause, hcause.symm⟩
  · have hms := areOverrides_readDocument (mapError_eq_ok_iff.1 hread)
    obtain ⟨_, _, _, cause, -, -, -, hcause⟩ :=
      (ofMappings_eq_error_iff (named_base withBuiltin) hms).1 hof
    exact .inr ⟨cause, hcause⟩

/-- Loading the rules with a document ends at a fault that is not reported exactly if the text
breaks off. -/
theorem load_breaksOff_iff (h : HasText disk path text) :
    (∃ fault, (load disk (some path) withBuiltin).result = .error fault ∧
      fault.isReported = false) ↔ BreaksOff withBuiltin path.name text := by
  rw [result_load, h.overridesAt_eq]
  simp only [bind_eq_error_iff, mapError_eq_error_iff, mapError_eq_ok_iff]
  constructor
  · rintro ⟨_, ⟨fault, hread, rfl⟩ | ⟨ms, hread, hof⟩, hreported⟩
    · rcases (failsIn_readDocument_iff text _).1 ⟨fault, hread, hreported⟩ with
        ⟨cause, hload, hstray⟩ | ⟨v, m, w, hload, hm, hversion, hw⟩
      · exact .scalar hload hstray
      · exact .version hload hm hversion hw
    · have hms := areOverrides_readDocument hread
      obtain ⟨before, m, after, cause, hmerge, hbefore, hcause, rfl⟩ :=
        (ofMappings_eq_error_iff (named_base withBuiltin) hms).1 hof
      obtain rfl := isReported_rule_iff.1 hreported
      obtain ⟨⟨id, hreaches⟩, w, hcheck, hw⟩ := ofMapping_eq_checkNotName_iff.1 hcause
      obtain ⟨own, hown, hid, hsame⟩ := exists_own_check hms hmerge hreaches.named hcheck
      exact .check hread hmerge hbefore hreaches hcheck hw hown hid hsame
  · rintro (⟨hload, hstray⟩ | ⟨hload, hm, hversion, hw⟩ |
      ⟨hread, hmerge, hbefore, hreaches, hcheck, hw, -, -, -⟩)
    · obtain ⟨fault, hread, hreported⟩ :=
        (failsIn_readDocument_iff text path.name).2 (.inl ⟨_, hload, hstray⟩)
      exact ⟨_, .inl ⟨fault, hread, rfl⟩, hreported⟩
    · obtain ⟨fault, hread, hreported⟩ :=
        (failsIn_readDocument_iff text path.name).2 (.inr ⟨_, _, _, hload, hm, hversion, hw⟩)
      exact ⟨_, .inl ⟨fault, hread, rfl⟩, hreported⟩
    · have hms := areOverrides_readDocument hread
      have hcause := ofMapping_eq_checkNotName_iff.2 ⟨⟨_, hreaches⟩, _, hcheck, hw⟩
      exact ⟨_, .inr ⟨_, hread, (ofMappings_eq_error_iff (named_base withBuiltin) hms).2
        ⟨_, _, _, _, hmerge, hbefore, hcause, rfl⟩⟩, rfl⟩

end Rule

end DocTrace
