import DocTrace.Proofs.Graph.DocumentOrder
import DocTrace.Proofs.Path.Folder

/-! The registry of folders. It reports every directory that no rule covers, and every folder that
two rules claim. Of two folders that cover one directory, one lies below the other: where the
registry reports nothing, such folders are all that keeps a directory from having exactly one
rule. -/

namespace DocTrace

namespace Inspection

/-! ### Folders and what lies below them -/

/-- Whether a directory lies strictly below a folder. -/
def IsBelow (directory folder : String) : Prop := ∃ rest, directory = folder ++ "/" ++ rest

/-- Whether a directory is a folder or lies below it. -/
def IsWithin (directory folder : String) : Prop := directory = folder ∨ IsBelow directory folder

theorem isBelow_iff {directory folder : String} :
    IsBelow directory folder ↔ (folder ++ "/").toList <+: directory.toList := by
  constructor
  · rintro ⟨rest, rfl⟩
    exact ⟨rest.toList, (String.toList_append ..).symm⟩
  · rintro ⟨rest, hrest⟩
    refine ⟨String.ofList rest, String.toList_inj.1 ?_⟩
    rw [String.toList_append, String.toList_ofList, hrest]

theorem covers_iff {folder directory : String} :
    covers folder directory = true ↔ IsWithin directory folder := by
  rw [covers, Bool.or_eq_true, decide_eq_true_eq, Text.beginsWith, List.isPrefixOf_iff_prefix,
    ← isBelow_iff]
  rfl

/-- With a slash behind both, a directory within a folder begins with it. -/
theorem IsWithin.begins {directory folder : String} (h : IsWithin directory folder) :
    (folder ++ "/").toList <+: (directory ++ "/").toList := by
  rcases h with rfl | hbelow
  · exact List.prefix_rfl
  · exact (isBelow_iff.1 hbelow).trans (by simp)

theorem isWithin_of_begins {directory folder : String}
    (h : (folder ++ "/").toList <+: (directory ++ "/").toList) : IsWithin directory folder := by
  have hslash : (directory ++ "/").toList = directory.toList ++ ['/'] := String.toList_append
  rw [hslash] at h
  rcases List.prefix_concat_iff.1 h with hsame | hbelow
  · have hlists : folder.toList = directory.toList := by simpa using hsame
    exact .inl (String.toList_inj.1 hlists.symm)
  · exact .inr (isBelow_iff.2 hbelow)

theorem IsWithin.comparable {directory folder other : String} (h : IsWithin directory folder)
    (hother : IsWithin directory other) :
    folder = other ∨ IsBelow folder other ∨ IsBelow other folder := by
  rcases List.prefix_or_prefix_of_prefix h.begins hother.begins with hwithin | hwithin
  · rcases isWithin_of_begins hwithin with rfl | hbelow
    · exact .inl rfl
    · exact .inr (.inr hbelow)
  · rcases isWithin_of_begins hwithin with rfl | hbelow
    · exact .inl rfl
    · exact .inr (.inl hbelow)

theorem not_isBelow_self (folder : String) : ¬IsBelow folder folder := by
  intro h
  have hlength := (isBelow_iff.1 h).length_le
  rw [String.toList_append, List.length_append] at hlength
  exact absurd hlength (by simp)

end Inspection

namespace Rule

/-! ### Claims -/

/-- Whether a rule is one of a folder that a directory is or lies below. -/
def Covers (r : Rule) (directory : String) : Prop :=
  r.level = .folder ∧ ∃ folder, r.target.folder? = some folder ∧
    Inspection.IsWithin directory folder

theorem covers_iff {r : Rule} {directory : String} :
    r.Covers directory ↔ ∃ folder, r.claim? = some folder ∧
      Inspection.IsWithin directory folder := by
  rw [Covers, claim?]
  by_cases hlevel : r.level = .folder <;> simp [hlevel]

instance (r : Rule) (directory : String) : Decidable (r.Covers directory) :=
  decidable_of_iff (r.claim?.any fun folder => Inspection.covers folder directory) <| by
    rw [covers_iff]
    simp [Option.any_eq_true, Inspection.covers_iff]

/-- Whether the folder of a rule lies below that of another one. -/
def ClaimsBelow (r other : Rule) : Prop :=
  ∃ folder, r.claim? = some folder ∧ ∃ above, other.claim? = some above ∧
    Inspection.IsBelow folder above

theorem find?_folderClaims (rules : List Rule) (folder : String) :
    (folderClaims rules).find? folder =
      let claiming := rules.filter fun r => r.claim? = some folder
      if claiming = [] then none else some (claiming.map (·.id)) := by
  -- From the end: the claim of the last rule is put on the table of the rules before it.
  induction rules using List.reverseRecOn with
  | nil => rfl
  | append_singleton rest r ih =>
    rw [folderClaims, List.foldl_concat, ← folderClaims]
    cases hclaim : r.claim? with
    | none => simpa [List.filter_append, hclaim] using ih
    | some claimed =>
      dsimp only
      rw [Table.find?_put]
      by_cases hsame : claimed = folder
      · subst hsame
        by_cases hrest : (rest.filter fun r => r.claim? = some claimed) = []
        · simp [ih, List.filter_append, hclaim, hrest]
        · simp [ih, List.filter_append, hclaim, hrest]
      · have hother : folder ≠ claimed := fun h => hsame h.symm
        simpa [List.filter_append, hclaim, hsame, hother] using ih

theorem mem_keys_folderClaims {rules : List Rule} {folder : String} :
    folder ∈ (folderClaims rules).keys ↔ ∃ r ∈ rules, r.claim? = some folder := by
  rw [← Table.find?_isSome_iff, find?_folderClaims]
  dsimp only
  split
  · next hnone => simpa [List.filter_eq_nil_iff] using hnone
  · next hsome => simpa [List.filter_eq_nil_iff] using hsome

theorem count_claims (rules : List Rule) (folder : String) :
    (rules.filterMap claim?).count folder =
      (rules.filter fun r => r.claim? = some folder).length := by
  induction rules with
  | nil => rfl
  | cons r rest ih =>
    cases hclaim : r.claim? with
    | none => simp [hclaim, ih]
    | some claimed =>
      by_cases hsame : claimed = folder
      · simp [hclaim, hsame, ih]
      · simp [hclaim, hsame, ih]

theorem nodup_claims_iff {rules : List Rule} : (rules.filterMap claim?).Nodup ↔
    ∀ e ∈ (folderClaims rules).entries, e.2.length ≤ 1 := by
  rw [List.nodup_iff_count_le_one]
  simp only [count_claims]
  constructor
  · intro hcount e he
    have hfind := Table.find?_eq_some_iff.2 he
    rw [find?_folderClaims] at hfind
    dsimp only at hfind
    split at hfind
    · contradiction
    · rw [← Option.some.inj hfind, List.length_map]
      exact hcount e.1
  · intro hentries folder
    by_cases hnone : (rules.filter fun r => r.claim? = some folder) = []
    · simp [hnone]
    · have hfind := find?_folderClaims rules folder
      dsimp only at hfind
      rw [if_neg hnone] at hfind
      simpa using hentries _ (Table.find?_eq_some_iff.1 hfind)

/-- Where no folder is claimed twice, the rules that cover one directory claim nested folders. -/
theorem countP_covers_eq_one_iff {rules : List Rule} {directory : String}
    (hclaims : (rules.filterMap claim?).Nodup) (hcovered : ∃ r ∈ rules, r.Covers directory) :
    (rules.countP fun r => r.Covers directory) = 1 ↔
      ∀ r ∈ rules, ∀ other ∈ rules, r.Covers directory → other.Covers directory →
        ¬r.ClaimsBelow other := by
  rw [List.countP_eq_length_filter]
  constructor
  · intro hone r hr other hother hcovers hcovers' hbelow
    obtain ⟨only, honly⟩ := List.length_eq_one_iff.1 hone
    have hmem (x : Rule) (hx : x ∈ rules) (hc : x.Covers directory) : x = only := by
      have : x ∈ rules.filter fun r => r.Covers directory := List.mem_filter.2 ⟨hx, by simpa⟩
      rwa [honly, List.mem_singleton] at this
    obtain rfl := hmem r hr hcovers
    obtain rfl := hmem other hother hcovers'
    obtain ⟨folder, hfolder, above, habove, hbelow⟩ := hbelow
    obtain rfl := Option.some.inj (hfolder.symm.trans habove)
    exact Inspection.not_isBelow_self folder hbelow
  · intro hflat
    have hpairs : (rules.filter fun r => r.Covers directory).Pairwise fun _ _ => False := by
      refine ((List.pairwise_filterMap.1 hclaims).filter _).imp_of_mem ?_
      intro r other hr hother hdistinct
      rw [List.mem_filter, decide_eq_true_eq] at hr hother
      obtain ⟨folder, hfolder, hwithin⟩ := covers_iff.1 hr.2
      obtain ⟨above, habove, hwithin'⟩ := covers_iff.1 hother.2
      rcases hwithin.comparable hwithin' with hsame | hbelow | hbelow
      · exact hdistinct folder hfolder above habove hsame
      · exact hflat r hr.1 other hother.1 hr.2 hother.2 ⟨folder, hfolder, above, habove, hbelow⟩
      · exact hflat other hother.1 r hr.1 hother.2 hr.2 ⟨above, habove, folder, hfolder, hbelow⟩
    obtain ⟨r, hr, hcovers⟩ := hcovered
    have hmem : r ∈ rules.filter fun r => r.Covers directory :=
      List.mem_filter.2 ⟨hr, decide_eq_true hcovers⟩
    generalize rules.filter (fun r => r.Covers directory) = found at hpairs hmem
    cases hpairs with
    | nil => contradiction
    | cons hnone _ =>
      rw [List.eq_nil_iff_forall_not_mem.2 hnone]
      rfl

end Rule

namespace Inspection

open Finding (quoted bracketed)

/-! ### What is reported -/

/-- No segment of a directory is a system folder. -/
def IsChecked (systemFolders : List String) (directory : String) : Prop :=
  ∀ segment ∈ (Path.ofText directory).parts, segment ∉ systemFolders

instance (systemFolders : List String) (directory : String) :
    Decidable (IsChecked systemFolders directory) := inferInstanceAs (Decidable (∀ _ ∈ _, _))

/-- What is reported for a directory without a rule. -/
def withoutRule (systemFolders : List String) (directory : String) : Finding where
  message := "Folder " ++ quoted directory ++
    " is not registered by any folder rule and is not a system folder " ++ bracketed systemFolders
  file := some directory

variable {g : Graph} {rules : List Rule}

theorem inSystemFolder_eq_false_iff {directory : String} :
    inSystemFolder g directory = false ↔ IsChecked g.systemFolders directory := by
  simp [inSystemFolder, IsChecked]

theorem any_covers_iff (hfolders : g.folders = Rule.folderClaims rules) {directory : String} :
    g.folders.keys.any (covers · directory) = true ↔ ∃ r ∈ rules, r.Covers directory := by
  simp only [List.any_eq_true, hfolders, Rule.mem_keys_folderClaims, covers_iff, Rule.covers_iff]
  constructor
  · rintro ⟨folder, ⟨r, hr, hclaim⟩, hwithin⟩
    exact ⟨r, hr, folder, hclaim, hwithin⟩
  · rintro ⟨r, hr, folder, hclaim, hwithin⟩
    exact ⟨folder, ⟨r, hr, hclaim⟩, hwithin⟩

theorem unregistered_eq_nil_iff (hfolders : g.folders = Rule.folderClaims rules)
    {directory : String} : unregistered g directory = [] ↔
      (IsChecked g.systemFolders directory → ∃ r ∈ rules, r.Covers directory) := by
  rw [← any_covers_iff hfolders, ← inSystemFolder_eq_false_iff, unregistered]
  cases inSystemFolder g directory <;> cases g.folders.keys.any (covers · directory) <;> simp

theorem mem_unregistered_iff (hfolders : g.folders = Rule.folderClaims rules)
    {directory : String} {f : Finding} : f ∈ unregistered g directory ↔
      (IsChecked g.systemFolders directory ∧ ∀ r ∈ rules, ¬r.Covers directory) ∧
        f = withoutRule g.systemFolders directory := by
  have hnone : (∀ r ∈ rules, ¬r.Covers directory) ↔
      g.folders.keys.any (covers · directory) = false := by
    rw [← Bool.not_eq_true, any_covers_iff hfolders]
    simp
  rw [hnone, ← inSystemFolder_eq_false_iff, unregistered]
  cases inSystemFolder g directory <;> cases g.folders.keys.any (covers · directory) <;>
    simp [withoutRule]

theorem not_mem_sharedClaim {directory folder : String} {ids systemFolders : List String} :
    withoutRule systemFolders directory ∉ sharedClaim folder ids := by
  intro hmem
  rw [sharedClaim] at hmem
  split at hmem
  · contradiction
  · obtain ⟨hmessage, hfile, -⟩ := Finding.mk.inj (List.mem_singleton.1 hmem)
    obtain rfl := Option.some.inj hfile
    have hlists := congrArg String.toList hmessage
    simp [String.append_assoc] at hlists

theorem folderRegistry_eq_nil_iff (hfolders : g.folders = Rule.folderClaims rules) :
    folderRegistry g = [] ↔
      (∀ directory ∈ g.directories, IsChecked g.systemFolders directory →
        ∃ r ∈ rules, r.Covers directory) ∧ (rules.filterMap Rule.claim?).Nodup := by
  have hshared (e : String × List String) : sharedClaim e.1 e.2 = [] ↔ e.2.length ≤ 1 := by
    rw [sharedClaim]
    split <;> simp_all
  simp only [folderRegistry, List.append_eq_nil_iff, List.flatMap_eq_nil_iff,
    unregistered_eq_nil_iff hfolders, Rule.nodup_claims_iff, hshared, hfolders]

theorem mem_folderRegistry_iff (hfolders : g.folders = Rule.folderClaims rules)
    {directory : String} :
    withoutRule g.systemFolders directory ∈ folderRegistry g ↔
      directory ∈ g.directories ∧ IsChecked g.systemFolders directory ∧
        ∀ r ∈ rules, ¬r.Covers directory := by
  simp only [folderRegistry, List.mem_append, List.mem_flatMap, not_mem_sharedClaim, and_false,
    exists_false, or_false, mem_unregistered_iff hfolders]
  constructor
  · rintro ⟨found, hfound, hmissing, hsame⟩
    obtain rfl := Option.some.inj (congrArg Finding.file hsame)
    exact ⟨hfound, hmissing⟩
  · rintro ⟨hfound, hmissing⟩
    exact ⟨directory, hfound, hmissing, rfl⟩

/-- The registry reports exactly the directories without a rule, and nothing at all if and only if
every directory has one and no folder is claimed twice. Then a directory has exactly one rule
unless one of its rules claims a folder below that of another. -/
theorem folderRegistry_decides (s : Graph.Sources) (rules : List Rule) :
    let report := folderRegistry (Graph.build { s with folders := Rule.folderClaims rules }).1
    (∀ directory, withoutRule s.systemFolders directory ∈ report ↔
      directory ∈ s.directories ∧ IsChecked s.systemFolders directory ∧
        ∀ r ∈ rules, ¬r.Covers directory) ∧
    (report = [] ↔
      (∀ directory ∈ s.directories, IsChecked s.systemFolders directory →
        ∃ r ∈ rules, r.Covers directory) ∧ (rules.filterMap Rule.claim?).Nodup) ∧
    (report = [] → ∀ directory ∈ s.directories, IsChecked s.systemFolders directory →
      ((rules.countP fun r => r.Covers directory) = 1 ↔
        ∀ r ∈ rules, ∀ other ∈ rules, r.Covers directory → other.Covers directory →
          ¬r.ClaimsBelow other)) := by
  intro report
  have hsettings := congrArg folderRegistry
    (Graph.settings_build { s with folders := Rule.folderClaims rules })
  have hreport : report =
    folderRegistry (Graph.start { s with folders := Rule.folderClaims rules }) := hsettings
  have hfolders : (Graph.start { s with folders := Rule.folderClaims rules }).folders =
    Rule.folderClaims rules := rfl
  rw [hreport]
  have hnil := folderRegistry_eq_nil_iff hfolders
  refine ⟨fun directory => mem_folderRegistry_iff hfolders, hnil, ?_⟩
  intro hempty directory hdirectory hchecked
  obtain ⟨hcovered, hclaims⟩ := hnil.1 hempty
  exact Rule.countP_covers_eq_one_iff hclaims (hcovered directory hdirectory hchecked)

/-- A rule for the documents right in a folder. -/
def folderRule (id pattern : String) : Rule where
  id := id
  name := id
  level := .folder
  target := ⟨none, some pattern⟩

/-- A folder of a folder, each with a rule of its own: nothing is reported, and the inner one has
two rules. -/
theorem folderRegistry_nested :
    let rules := [folderRule "outer" "a/*", folderRule "inner" "a/b/*"]
    let report := folderRegistry (Graph.build
      { assets := [], directories := ["a", "a/b"], folders := Rule.folderClaims rules }).1
    report = [] ∧ IsChecked [othersFolder, footnotesFolder] "a/b" ∧
      (rules.countP fun r => r.Covers "a/b") ≠ 1 ∧
      ∃ r ∈ rules, ∃ other ∈ rules, r.ClaimsBelow other := by
  intro rules report
  obtain ⟨-, hnil, hone⟩ := folderRegistry_decides
    { assets := [], directories := ["a", "a/b"] } rules
  have hchecked : IsChecked [othersFolder, footnotesFolder] "a/b" := by decide +kernel
  have hempty : report = [] := hnil.2 (by decide +kernel)
  have hbelow : (folderRule "inner" "a/b/*").ClaimsBelow (folderRule "outer" "a/*") :=
    ⟨"a/b", by decide +kernel, "a", by decide +kernel, "b", rfl⟩
  have hinner : folderRule "inner" "a/b/*" ∈ rules := by simp [rules]
  have houter : folderRule "outer" "a/*" ∈ rules := by simp [rules]
  refine ⟨hempty, hchecked, fun hcount => ?_, _, hinner, _, houter, hbelow⟩
  exact (hone hempty "a/b" (by simp) hchecked).1 hcount _ hinner _ houter (by decide +kernel)
    (by decide +kernel) hbelow

end Inspection

end DocTrace
