import DocTrace.Collection
import DocTrace.Proofs.Header.Parsing
import DocTrace.Proofs.Result

/-! What a collection holds. It sorts the entries that are not ignored, and comes to an end
unless the header of a document breaks off. -/

namespace DocTrace

namespace Collection

/-! ### The kinds of entries -/

inductive Kind where
  | directory
  | foreign
  | unreadable
  | document (text : String)
deriving DecidableEq

def kindOf : String × Disk.Entry → Kind
  | (_, .directory) => .directory
  | (path, .file content) =>
    if isDocument path then
      match Disk.textOf content with
      | .error _ => .unreadable
      | .ok text => .document text
    else .foreign

/-- The entries that are not ignored, each with its path. -/
def visible (ignore : List String) (entries : List (Place × Disk.Entry)) :
    List (String × Disk.Entry) :=
  (entries.map fun e => (Text.joinWith "/" e.1, e.2)).filter fun e => !Ignore.covers ignore e.1

def pathsOf (kind : Kind) (entries : List (String × Disk.Entry)) : List String :=
  (entries.filter fun e => kindOf e = kind).map (·.1)

def textsOf (entries : List (String × Disk.Entry)) : List (String × String) :=
  entries.filterMap fun e =>
    match kindOf e with
    | .document text => some (e.1, text)
    | _ => none

/-- A collection with some more documents, and with the other entries from a list. -/
def withEntries (c : Collection) (assets : List Asset) (entries : List (String × Disk.Entry)) :
    Collection :=
  { assets := c.assets ++ assets
    directories := c.directories ++ pathsOf .directory entries
    foreignFiles := c.foreignFiles ++ pathsOf .foreign entries
    unreadable := c.unreadable ++ pathsOf .unreadable entries }

theorem visible_cons (ignore : List String) (e : Place × Disk.Entry)
    (rest : List (Place × Disk.Entry)) :
    visible ignore (e :: rest) =
      if Ignore.covers ignore (Text.joinWith "/" e.1) then visible ignore rest
      else (Text.joinWith "/" e.1, e.2) :: visible ignore rest := by
  rw [visible, List.map_cons, List.filter_cons]
  cases Ignore.covers ignore (Text.joinWith "/" e.1) <;> rfl

/-- A collection with one more entry in its list. -/
def addKind (c : Collection) (path : String) : Kind → Except Yaml.Fault Collection
  | .directory => .ok { c with directories := c.directories ++ [path] }
  | .foreign => .ok { c with foreignFiles := c.foreignFiles ++ [path] }
  | .unreadable => .ok { c with unreadable := c.unreadable ++ [path] }
  | .document text => (Asset.ofText path text).map fun a => { c with assets := c.assets ++ [a] }

theorem result_addFile (c : Collection) (path : String) (content : List UInt8) :
    (c.addFile path content).result = c.addKind path (kindOf (path, .file content)) := by
  unfold addFile
  by_cases hdocument : isDocument path = true
  · cases htext : Disk.textOf content with
    | error fault => simp [kindOf, hdocument, htext, addKind]
    | ok text => simp [kindOf, hdocument, htext, addKind, Told.quietly]
  · simp only [kindOf, hdocument]
    rfl

theorem result_addAll_cons (ignore : List String) (c : Collection) (e : Place × Disk.Entry)
    (rest : List (Place × Disk.Entry)) :
    (addAll ignore c (e :: rest)).result =
      let path := Text.joinWith "/" e.1
      if Ignore.covers ignore path then (addAll ignore c rest).result
      else (c.addKind path (kindOf (path, e.2))).bind fun c => (addAll ignore c rest).result := by
  obtain ⟨place, entry⟩ := e
  rw [addAll.eq_def]
  dsimp only
  split
  · rfl
  · cases entry with
    | directory => rfl
    | file content => rw [Told.result_andThen, result_addFile]

/-- Collecting puts every entry that is not ignored in its list, and parses the documents in
their order. -/
theorem result_addAll (ignore : List String) (c : Collection)
    (entries : List (Place × Disk.Entry)) :
    (addAll ignore c entries).result =
      ((textsOf (visible ignore entries)).mapM fun e => Asset.ofText e.1 e.2).map
        (c.withEntries · (visible ignore entries)) := by
  induction entries generalizing c with
  | nil =>
    have hsame : c.withEntries [] [] = c := by simp [withEntries, pathsOf]
    exact (congrArg Except.ok hsame).symm
  | cons e rest ih =>
    rw [result_addAll_cons, visible_cons]
    generalize hpath : Text.joinWith "/" e.1 = path
    dsimp only
    by_cases hignored : Ignore.covers ignore path = true
    · rw [if_pos hignored, if_pos hignored, ih]
    rw [if_neg hignored, if_neg hignored]
    cases hkind : kindOf (path, e.2) with
    | directory => simp [addKind, Except.bind, ih, textsOf, withEntries, pathsOf, hkind]
    | foreign => simp [addKind, Except.bind, ih, textsOf, withEntries, pathsOf, hkind]
    | unreadable => simp [addKind, Except.bind, ih, textsOf, withEntries, pathsOf, hkind]
    | document text =>
      have htexts : textsOf ((path, e.2) :: visible ignore rest) =
          (path, text) :: textsOf (visible ignore rest) := by simp [textsOf, hkind]
      rw [htexts, List.mapM_cons, addKind]
      dsimp only
      cases hread : Asset.ofText path text with
      | error fault => rfl
      | ok a =>
        change (addAll ignore _ rest).result = _
        rw [ih]
        cases (textsOf (visible ignore rest)).mapM fun e => Asset.ofText e.1 e.2 with
        | error fault => rfl
        | ok assets =>
          refine congrArg Except.ok ?_
          simp [withEntries, pathsOf, hkind]

/-! ### Whether a collection comes to an end -/

theorem mem_textsOf {entries : List (String × Disk.Entry)} {path text : String} :
    (path, text) ∈ textsOf entries ↔ ∃ content, (path, .file content) ∈ entries ∧
      isDocument path = true ∧ Disk.textOf content = .ok text := by
  rw [textsOf, List.mem_filterMap]
  constructor
  · rintro ⟨⟨other, entry⟩, hmem, hkind⟩
    cases entry with
    | directory => simp [kindOf] at hkind
    | file content =>
      by_cases hdocument : isDocument other = true
      · cases htext : Disk.textOf content with
        | error fault => simp [kindOf, hdocument, htext] at hkind
        | ok found =>
          simp only [kindOf, hdocument, htext, if_true, Option.some.injEq, Prod.mk.injEq] at hkind
          obtain ⟨rfl, rfl⟩ := hkind
          exact ⟨content, hmem, hdocument, htext⟩
      · simp [kindOf, hdocument] at hkind
  · rintro ⟨content, hmem, hdocument, htext⟩
    exact ⟨(path, .file content), hmem, by simp [kindOf, hdocument, htext]⟩

theorem result_ofDisk (disk : Disk) (docs : Path) (ignore : List String) :
    (ofDisk disk docs ignore).result =
      ((textsOf (visible ignore (disk.below docs))).mapM fun e => Asset.ofText e.1 e.2).map
        (withEntries {} · (visible ignore (disk.below docs))) := by
  rw [← result_addAll, ofDisk, Told.andThen]
  cases (addAll ignore {} (disk.below docs)).result <;> rfl

theorem eq_withEntries {disk : Disk} {docs : Path} {ignore : List String} {c : Collection}
    (hc : (ofDisk disk docs ignore).result = .ok c) :
    ∃ assets, ((textsOf (visible ignore (disk.below docs))).mapM fun e =>
        Asset.ofText e.1 e.2) = .ok assets ∧
      c = withEntries {} assets (visible ignore (disk.below docs)) := by
  rw [result_ofDisk] at hc
  generalize visible ignore (disk.below docs) = entries at hc ⊢
  cases hassets : (textsOf entries).mapM fun e => Asset.ofText e.1 e.2 with
  | error fault => simp [hassets, Except.map] at hc
  | ok assets =>
    rw [hassets, Except.map] at hc
    exact ⟨assets, rfl, (Except.ok.inj hc).symm⟩

theorem exists_ofText_iff {path text : String} :
    (∃ a, Asset.ofText path text = .ok a) ↔ ¬∃ fault, Header.BreaksOff text fault := by
  rw [← Header.exists_parse_iff, Asset.ofText]
  rcases Header.parse text with fault | ⟨h, body⟩
  · exact iff_of_false (fun ⟨_, h⟩ => nomatch h) fun ⟨_, _, h⟩ => nomatch h
  · exact iff_of_true ⟨_, rfl⟩ ⟨h, body, rfl⟩

theorem parse_of_ofText {path text : String} {a : Asset} (hread : Asset.ofText path text = .ok a) :
    Header.parse text = .ok (a.header, a.body) ∧ a.path = path := by
  rw [Asset.ofText] at hread
  rcases hparse : Header.parse text with fault | ⟨h, body⟩
  · simp [hparse, Except.map] at hread
  · rw [hparse] at hread
    obtain rfl := Except.ok.inj hread
    exact ⟨rfl, rfl⟩

/-- A header breaks off only with a scalar that its tag does not allow, with nesting that is too
deep, or with an integer that is too long to be shown; all other problems are errors of the
header. A collection ends unless the header of a document breaks off, and then holds every document
or lists it as unreadable. -/
theorem ofDisk_returns_iff (disk : Disk) (docs : Path) (ignore : List String) :
    (∀ text fault, Header.parse text = .error fault ↔ Header.BreaksOff text fault) ∧
    (∀ text h body, Header.parse text = .ok (h, body) →
      body = Header.bodyOf text ∧ (Header.headerOf text = none → h = {}) ∧
        ∀ header, Header.headerOf text = some header → Header.Says header h) ∧
    ((∃ c, (ofDisk disk docs ignore).result = .ok c) ↔
      ∀ path content text, (path, .file content) ∈ visible ignore (disk.below docs) →
        isDocument path = true → Disk.textOf content = .ok text →
          ¬∃ fault, Header.BreaksOff text fault) ∧
    ∀ c, (ofDisk disk docs ignore).result = .ok c →
      ∀ path content, (path, .file content) ∈ visible ignore (disk.below docs) →
        isDocument path = true →
          (∃ text, Disk.textOf content = .ok text ∧ ∃ a ∈ c.assets, a.path = path ∧
            Header.parse text = .ok (a.header, a.body)) ∨
          (∃ fault, Disk.textOf content = .error fault) ∧ path ∈ c.unreadable := by
  refine ⟨fun text fault => Header.parse_eq_error_iff, fun text h body => Header.says_of_parse,
    ?_, ?_⟩
  · have hreturns : (∃ c, (ofDisk disk docs ignore).result = .ok c) ↔
        ∀ e ∈ textsOf (visible ignore (disk.below docs)), ∃ a, Asset.ofText e.1 e.2 = .ok a := by
      rw [← exists_mapM_iff, result_ofDisk]
      cases (textsOf (visible ignore (disk.below docs))).mapM fun e => Asset.ofText e.1 e.2 with
      | error fault => exact iff_of_false (fun ⟨_, h⟩ => nomatch h) fun ⟨_, h⟩ => nomatch h
      | ok assets => exact iff_of_true ⟨_, rfl⟩ ⟨assets, rfl⟩
    rw [hreturns]
    constructor
    · intro hall path content text hmem hdocument htext
      have hread := hall (path, text) (mem_textsOf.2 ⟨content, hmem, hdocument, htext⟩)
      exact exists_ofText_iff.1 hread
    · rintro hnone ⟨path, text⟩ hmem
      obtain ⟨content, hmem, hdocument, htext⟩ := mem_textsOf.1 hmem
      exact exists_ofText_iff.2 (hnone path content text hmem hdocument htext)
  · intro c hc path content hmem hdocument
    obtain ⟨assets, hassets, rfl⟩ := eq_withEntries hc
    cases htext : Disk.textOf content with
    | error fault =>
      refine .inr ⟨⟨fault, rfl⟩, ?_⟩
      refine List.mem_map.2 ⟨(path, .file content), List.mem_filter.2 ⟨hmem, ?_⟩, rfl⟩
      simp [kindOf, hdocument, htext]
    | ok text =>
      obtain ⟨a, ha, hread⟩ :=
        exists_of_mapM hassets (mem_textsOf.2 ⟨content, hmem, hdocument, htext⟩)
      obtain ⟨hparse, hpath⟩ := parse_of_ofText hread
      exact .inl ⟨text, rfl, a, ha, hpath, hparse⟩

end Collection

end DocTrace
