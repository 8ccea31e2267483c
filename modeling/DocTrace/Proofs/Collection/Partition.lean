import DocTrace.Proofs.Collection.Completeness
import DocTrace.Proofs.Disk.Rewriting
import DocTrace.Proofs.Path.Folder
import DocTrace.Proofs.Text.Utf8

/-! What a collection lists, said of the tree. Every entry has one standing, the lists of the
collection are the entries of each standing in the order of their places, and the names on the way
to an entry can be told from its path, so that no two entries share one. -/

namespace DocTrace

/-! ### Entries below a directory -/

namespace Disk

variable {d : Disk} {p : Path} {place : Place} {entry : Entry}

/-- The name of an entry in a directory. -/
def IsFileName (name : String) : Prop := name ≠ "" ∧ name ≠ "." ∧ '/' ∉ name.toList

instance (name : String) : Decidable (IsFileName name) :=
  inferInstanceAs (Decidable (_ ∧ _ ∧ _))

/-- An entry below the directory that a path leads to, with its place from there. -/
def LiesBelow (d : Disk) (p : Path) (place : Place) (entry : Entry) : Prop :=
  place ≠ [] ∧ ∃ here, d.resolve? p = some here ∧ d.entry? (here ++ place) = some entry

theorem mem_below : (place, entry) ∈ d.below p ↔ d.LiesBelow p place entry := by
  unfold LiesBelow
  cases hresolve : d.resolve? p with
  | none => simp [below, hresolve]
  | some here =>
    rw [below_of_resolve? hresolve, List.mem_mergeSort, mem_entriesBelow]
    simp

theorem nodup_below (d : Disk) (p : Path) : ((d.below p).map (·.1)).Nodup := by
  cases hresolve : d.resolve? p with
  | none => simp [below, hresolve]
  | some here =>
    rw [below_of_resolve? hresolve]
    exact ((List.mergeSort_perm _ _).map _).nodup_iff.2 (nodup_entriesBelow d here)

theorem lt_of_placeLe {a b : Place} (h : placeLe a b = true) (hne : a ≠ b) : a < b := by
  induction a generalizing b with
  | nil =>
    cases b with
    | nil => exact absurd rfl hne
    | cons other more => exact List.nil_lt_cons other more
  | cons first rest ih =>
    cases b with
    | nil => contradiction
    | cons other more =>
      rw [List.cons_lt_cons_iff]
      rcases placeLe_cons.1 h with hlt | ⟨rfl, hrest⟩
      · exact .inl hlt
      · exact .inr ⟨rfl, ih hrest fun hsame => hne (hsame ▸ rfl)⟩

/-- The entries come in the order of their places, name by name. -/
theorem pairwise_below (d : Disk) (p : Path) :
    (d.below p).Pairwise fun a b => a.1 < b.1 := by
  have hsorted : (d.below p).Pairwise fun a b => placeLe a.1 b.1 = true := by
    cases hresolve : d.resolve? p with
    | none => simp [below, hresolve]
    | some here =>
      rw [below_of_resolve? hresolve]
      exact pairwise_mergeSort_placeLe _
  have hdistinct := List.pairwise_map.1 (nodup_below d p)
  exact hsorted.imp₂ (fun _ _ hle hne => lt_of_placeLe hle hne) hdistinct

end Disk

/-- The names on the way to an entry are the parts of its path. -/
theorem Path.parts_joinWith {place : Place} (hne : place ≠ [])
    (hnames : ∀ name ∈ place, Disk.IsFileName name) :
    (ofText (Text.joinWith "/" place)).parts = place := by
  have hpieces : Text.splitOn '/' (Text.joinWith "/" place).toList = place.map String.toList := by
    rw [Text.toList_joinWith_eq]
    refine (Text.splitOn_intercalate_iff (by simpa using hne)).2 fun piece hpiece => ?_
    obtain ⟨name, hname, rfl⟩ := List.mem_map.1 hpiece
    exact (hnames name hname).2.2
  have hroot : (ofText (Text.joinWith "/" place)).root = "" := by
    refine root_ofText fun hslash => ?_
    obtain ⟨rest, hrest⟩ := List.head?_eq_some_iff.1 hslash
    obtain ⟨name, more, rfl⟩ := List.exists_cons_of_ne_nil hne
    -- A slash at the beginning makes the first piece empty, which is no name.
    rw [hrest, Text.splitOn_eq, List.splitOn_cons_eq_if_modifyHead, if_pos (by simp),
      List.map_cons] at hpieces
    have hempty : name = "" := String.toList_eq_nil_iff.1 (List.cons.inj hpieces).1.symm
    exact (hnames name (List.mem_cons_self ..)).1 hempty
  have hsegments : (ofText (Text.joinWith "/" place)).segments = place := by
    have hkept : ∀ piece ∈ place.map String.toList, (piece ≠ [] && piece ≠ ['.']) = true := by
      intro piece hpiece
      obtain ⟨name, hname, rfl⟩ := List.mem_map.1 hpiece
      obtain ⟨hempty, hdot, -⟩ := hnames name hname
      have hdot : name.toList ≠ ['.'] := fun h => hdot (String.toList_inj.1 h)
      simp [hempty, hdot]
    rw [ofText, segmentsOf, hpieces, List.filter_eq_self.2 hkept]
    simp
  rw [parts, hroot, hsegments]
  rfl

namespace Collection

open Disk (LiesBelow)

/-! ### Standings -/

inductive Standing where
  | ignored
  | directory
  | foreign
  | unreadable
  | document
deriving DecidableEq

/-- The standing of an entry with a path, from the patterns, the ending of the path and the bytes of
the file. -/
inductive Stands (ignore : List String) (path : String) : Disk.Entry → Standing → Prop
  | ignored {entry : Disk.Entry} : Ignore.covers ignore path = true →
      Stands ignore path entry .ignored
  | directory : Ignore.covers ignore path = false → Stands ignore path .directory .directory
  | foreign {content : List UInt8} : Ignore.covers ignore path = false →
      lowerSuffix path ∉ [".mermaid", ".mmd", ".md"] → Stands ignore path (.file content) .foreign
  | unreadable {content : List UInt8} : Ignore.covers ignore path = false →
      lowerSuffix path ∈ [".mermaid", ".mmd", ".md"] → ¬content.toByteArray.IsValidUTF8 →
      Stands ignore path (.file content) .unreadable
  | document {content : List UInt8} : Ignore.covers ignore path = false →
      lowerSuffix path ∈ [".mermaid", ".mmd", ".md"] → content.toByteArray.IsValidUTF8 →
      Stands ignore path (.file content) .document

def listOf (c : Collection) : Standing → List String
  | .ignored => []
  | .directory => c.directories
  | .foreign => c.foreignFiles
  | .unreadable => c.unreadable
  | .document => c.assets.map (·.path)

/-- All paths that the collection holds. -/
def listed (c : Collection) : List String :=
  c.directories ++ c.foreignFiles ++ c.unreadable ++ c.assets.map (·.path)

/-! ### What is listed -/

def Kind.standing : Kind → Standing
  | .directory => .directory
  | .foreign => .foreign
  | .unreadable => .unreadable
  | .document _ => .document

/-- The standing of an entry with a path, as the collection finds it. -/
def standingOf (ignore : List String) (e : String × Disk.Entry) : Standing :=
  if Ignore.covers ignore e.1 then .ignored else (kindOf e).standing

theorem exists_textOf_iff {content : List UInt8} :
    (∃ text, Disk.textOf content = .ok text) ↔ content.toByteArray.IsValidUTF8 := by
  rw [← Text.Utf8.exists_decode_iff, Disk.textOf]
  cases Text.Utf8.decode content <;> simp [Except.map]

theorem isDocument_iff {path : String} :
    isDocument path = true ↔ lowerSuffix path ∈ [".mermaid", ".mmd", ".md"] :=
  List.contains_iff_mem

theorem stands_iff {ignore : List String} {path : String} {entry : Disk.Entry} {s : Standing} :
    Stands ignore path entry s ↔ standingOf ignore (path, entry) = s := by
  unfold standingOf
  constructor
  · intro h
    cases h with
    | ignored hcovers => rw [if_pos hcovers]
    | directory hcovers => simp [hcovers, kindOf, Kind.standing]
    | foreign hcovers hsuffix =>
      have hdocument := mt isDocument_iff.1 hsuffix
      simp [hcovers, kindOf, hdocument, Kind.standing]
    | @unreadable content hcovers hsuffix hbytes =>
      have hdocument := isDocument_iff.2 hsuffix
      cases htext : Disk.textOf content with
      | error fault => simp [hcovers, kindOf, hdocument, htext, Kind.standing]
      | ok text => exact absurd (exists_textOf_iff.1 ⟨text, htext⟩) hbytes
    | document hcovers hsuffix hbytes =>
      have hdocument := isDocument_iff.2 hsuffix
      obtain ⟨text, htext⟩ := exists_textOf_iff.2 hbytes
      simp [hcovers, kindOf, hdocument, htext, Kind.standing]
  · rintro rfl
    by_cases hcovers : Ignore.covers ignore path = true
    · rw [if_pos hcovers]
      exact .ignored hcovers
    · rw [if_neg hcovers]
      rw [Bool.not_eq_true] at hcovers
      cases entry with
      | directory => exact .directory hcovers
      | file content =>
        by_cases hdocument : isDocument path = true
        · have hsuffix := isDocument_iff.1 hdocument
          cases htext : Disk.textOf content with
          | error fault =>
            have hbytes : ¬content.toByteArray.IsValidUTF8 := by
              rw [← exists_textOf_iff, htext]
              simp
            simpa [kindOf, hdocument, htext, Kind.standing] using
              Stands.unreadable hcovers hsuffix hbytes
          | ok text =>
            have hbytes := exists_textOf_iff.1 ⟨text, htext⟩
            simpa [kindOf, hdocument, htext, Kind.standing] using
              Stands.document hcovers hsuffix hbytes
        · have hsuffix := mt isDocument_iff.2 hdocument
          have hforeign : Stands ignore path (.file content) .foreign := .foreign hcovers hsuffix
          simpa [kindOf, hdocument, Kind.standing] using hforeign

theorem pathsOf_eq {kind : Kind} {s : Standing}
    (h : ∀ other : Kind, other = kind ↔ other.standing = s) (entries : List (String × Disk.Entry)) :
    pathsOf kind entries = (entries.filter fun e => (kindOf e).standing = s).map (·.1) := by
  simp only [pathsOf, h]

theorem map_fst_textsOf (entries : List (String × Disk.Entry)) :
    (textsOf entries).map (·.1) =
      (entries.filter fun e => (kindOf e).standing = .document).map (·.1) := by
  induction entries with
  | nil => rfl
  | cons e rest ih =>
    cases hkind : kindOf e <;> simp_all [textsOf, Kind.standing]

theorem map_path_of_mapM {texts : List (String × String)} {assets : List Asset}
    (h : (texts.mapM fun e => Asset.ofText e.1 e.2) = .ok assets) :
    assets.map (·.path) = texts.map (·.1) := by
  have hall := mapM_eq_ok_iff.1 h
  clear h
  induction hall with
  | nil => rfl
  | cons hread _ ih => rw [List.map_cons, List.map_cons, ih, (parse_of_ofText hread).2]

/-- Each list of a collection holds the paths of the visible entries of its standing, in order. -/
theorem listOf_eq {ignore : List String} {disk : Disk} {docs : Path} {c : Collection}
    (hc : (ofDisk disk docs ignore).result = .ok c) (s : Standing) : c.listOf s =
      ((visible ignore (disk.below docs)).filter fun e => (kindOf e).standing = s).map (·.1) := by
  obtain ⟨assets, hassets, rfl⟩ := eq_withEntries hc
  generalize visible ignore (disk.below docs) = entries at hassets
  cases s with
  | ignored =>
    have hnone (kind : Kind) : kind.standing ≠ .ignored := by cases kind <;> simp [Kind.standing]
    simp [listOf, hnone]
  | directory => exact pathsOf_eq (fun kind => by cases kind <;> simp [Kind.standing]) entries
  | foreign => exact pathsOf_eq (fun kind => by cases kind <;> simp [Kind.standing]) entries
  | unreadable => exact pathsOf_eq (fun kind => by cases kind <;> simp [Kind.standing]) entries
  | document => exact (map_path_of_mapM hassets).trans (map_fst_textsOf entries)

theorem perm_filter_standing (entries : List (String × Disk.Entry)) :
    ((entries.filter fun e => (kindOf e).standing = .directory) ++
      (entries.filter fun e => (kindOf e).standing = .foreign) ++
      (entries.filter fun e => (kindOf e).standing = .unreadable) ++
      entries.filter fun e => (kindOf e).standing = .document).Perm entries := by
  refine List.perm_iff_count.2 fun e => ?_
  have hcount (s : Standing) : (entries.filter fun e => (kindOf e).standing = s).count e =
      if (kindOf e).standing = s then entries.count e else 0 := by
    split
    · next h => exact List.count_filter (by simpa using h)
    · next h =>
      exact List.count_eq_zero_of_not_mem fun hmem => h (by simpa using (List.mem_filter.1 hmem).2)
  simp only [List.count_append, hcount]
  cases kindOf e <;> simp [Kind.standing]

theorem perm_listed {ignore : List String} {disk : Disk} {docs : Path} {c : Collection}
    (hc : (ofDisk disk docs ignore).result = .ok c) :
    c.listed.Perm ((visible ignore (disk.below docs)).map (·.1)) := by
  have hlists : c.listed =
      c.listOf .directory ++ c.listOf .foreign ++ c.listOf .unreadable ++ c.listOf .document := rfl
  rw [hlists, listOf_eq hc, listOf_eq hc, listOf_eq hc, listOf_eq hc, ← List.map_append,
    ← List.map_append, ← List.map_append]
  exact (perm_filter_standing _).map _

/-! ### The tree as a whole -/

section Tree

variable {ignore : List String} {disk : Disk} {docs : Path} {c : Collection}

/-- The names on the way to each entry are names of entries. -/
def HasFileNames (disk : Disk) (docs : Path) : Prop :=
  ∀ place entry, LiesBelow disk docs place entry → ∀ name ∈ place, Disk.IsFileName name

theorem mem_visible {path : String} {entry : Disk.Entry} :
    (path, entry) ∈ visible ignore (disk.below docs) ↔ Ignore.covers ignore path = false ∧
      ∃ place, LiesBelow disk docs place entry ∧ Text.joinWith "/" place = path := by
  simp only [visible, List.mem_filter, List.mem_map, Prod.exists, Disk.mem_below, Prod.mk.injEq,
    Bool.not_eq_true']
  constructor
  · rintro ⟨⟨place, _, hplace, rfl, rfl⟩, hcovers⟩
    exact ⟨hcovers, place, hplace, rfl⟩
  · rintro ⟨hcovers, place, hplace, rfl⟩
    exact ⟨⟨place, entry, hplace, rfl, rfl⟩, hcovers⟩

/-- The paths of the visible entries come in the order of their parts. -/
theorem pairwise_visible (hnames : HasFileNames disk docs) :
    (visible ignore (disk.below docs)).Pairwise fun e f =>
      (Path.ofText e.1).parts < (Path.ofText f.1).parts := by
  refine List.Pairwise.filter _ (List.pairwise_map.2 ?_)
  have hparts {e : Place × Disk.Entry} (he : e ∈ disk.below docs) :
      (Path.ofText (Text.joinWith "/" e.1)).parts = e.1 := by
    have hbelow := Disk.mem_below.1 he
    exact Path.parts_joinWith hbelow.1 (hnames e.1 e.2 hbelow)
  refine (Disk.pairwise_below disk docs).imp_of_mem fun {e f} he hf hlt => ?_
  rwa [hparts he, hparts hf]

theorem pairwise_listOf (hnames : HasFileNames disk docs)
    (hc : (ofDisk disk docs ignore).result = .ok c) (s : Standing) :
    (c.listOf s).Pairwise fun p q => (Path.ofText p).parts < (Path.ofText q).parts := by
  rw [listOf_eq hc, List.pairwise_map]
  exact (pairwise_visible hnames).filter _

theorem mem_listOf (hc : (ofDisk disk docs ignore).result = .ok c) {s : Standing} {path : String} :
    path ∈ c.listOf s ↔ s ≠ .ignored ∧ ∃ place entry, LiesBelow disk docs place entry ∧
      Text.joinWith "/" place = path ∧ Stands ignore path entry s := by
  rw [listOf_eq hc, List.mem_map]
  simp only [stands_iff, standingOf]
  constructor
  · rintro ⟨⟨_, entry⟩, hmem, rfl⟩
    obtain ⟨hvisible, hstanding⟩ := List.mem_filter.1 hmem
    obtain ⟨hcovers, place, hplace, hpath⟩ := mem_visible.1 hvisible
    obtain rfl : (kindOf (_, entry)).standing = s := by simpa using hstanding
    refine ⟨?_, place, entry, hplace, hpath, by simp [hcovers]⟩
    cases kindOf (_, entry) <;> simp [Kind.standing]
  · rintro ⟨hs, place, entry, hplace, hpath, hstanding⟩
    by_cases hcovers : Ignore.covers ignore path = true
    · rw [if_pos hcovers] at hstanding
      exact absurd hstanding.symm hs
    · rw [if_neg hcovers] at hstanding
      have hvisible := mem_visible.2 ⟨Bool.not_eq_true _ ▸ hcovers, place, hplace, hpath⟩
      exact ⟨(path, entry), List.mem_filter.2 ⟨hvisible, by simpa using hstanding⟩, rfl⟩

theorem count_listed (hnames : HasFileNames disk docs)
    (hc : (ofDisk disk docs ignore).result = .ok c) {place : Place} {entry : Disk.Entry}
    (hplace : LiesBelow disk docs place entry) :
    c.listed.count (Text.joinWith "/" place) =
      if Ignore.covers ignore (Text.joinWith "/" place) then 0 else 1 := by
  have hperm := perm_listed hc
  rw [hperm.count_eq]
  split
  · next hcovers =>
    refine List.count_eq_zero_of_not_mem fun hmem => ?_
    obtain ⟨⟨_, other⟩, hvisible, rfl⟩ := List.mem_map.1 hmem
    rw [(mem_visible.1 hvisible).1] at hcovers
    contradiction
  · next hcovers =>
    have hdistinct : ((visible ignore (disk.below docs)).map (·.1)).Nodup := by
      refine List.pairwise_map.2 ((pairwise_visible hnames).imp fun hlt hsame => ?_)
      rw [hsame] at hlt
      exact absurd hlt (List.lt_irrefl _)
    refine List.count_eq_one_of_mem hdistinct (List.mem_map.2 ⟨(_, entry), ?_, rfl⟩)
    exact mem_visible.2 ⟨by simpa using hcovers, place, hplace, rfl⟩

theorem isDiagram_ne_isNote {a : Asset}
    (h : lowerSuffix a.path ∈ [".mermaid", ".mmd", ".md"]) : a.isDiagram ≠ a.isNote := by
  simp only [List.mem_cons, List.not_mem_nil, or_false] at h
  unfold Asset.isDiagram Asset.isNote Asset.suffix
  rcases h with h | h | h <;> rw [h] <;> decide

/-- A collection puts every entry of the tree that is not ignored in the one list for its standing,
once, and in the order of the paths. -/
theorem ofDisk_partitions (hnames : HasFileNames disk docs)
    (hc : (ofDisk disk docs ignore).result = .ok c) :
    (∀ place entry, LiesBelow disk docs place entry →
      (∃! s, Stands ignore (Text.joinWith "/" place) entry s) ∧
        c.listed.count (Text.joinWith "/" place) =
          if Ignore.covers ignore (Text.joinWith "/" place) then 0 else 1) ∧
    (∀ s path, path ∈ c.listOf s ↔ s ≠ .ignored ∧ ∃ place entry, LiesBelow disk docs place entry ∧
      Text.joinWith "/" place = path ∧ Stands ignore path entry s) ∧
    (∀ s, (c.listOf s).Pairwise fun p q => (Path.ofText p).parts < (Path.ofText q).parts) ∧
    ∀ a ∈ c.assets, a.isDiagram ≠ a.isNote := by
  refine ⟨fun place entry hplace => ⟨?_, count_listed hnames hc hplace⟩,
    fun s path => mem_listOf hc, pairwise_listOf hnames hc, fun a ha => ?_⟩
  · simp only [stands_iff]
    exact existsUnique_eq'
  · have hpath : a.path ∈ c.listOf .document := List.mem_map_of_mem ha
    obtain ⟨-, place, entry, -, -, hstands⟩ := (mem_listOf hc).1 hpath
    cases hstands with
    | document _ hsuffix _ => exact isDiagram_ne_isNote hsuffix

end Tree

/-- Entries of each standing. -/
def assorted : List (Place × Disk.Entry) :=
  [([".git"], .directory), (["broken.md"], .file [0xFF]), (["views"], .directory),
    (["views", "Flow.MMD"], .file [0x78]), (["views", "data.csv"], .file [])]

def assortedDisk : Disk :=
  { entries := .ofList ((["docs"], .directory) :: assorted.map fun e => ("docs" :: e.1, e.2)) }

theorem below_assortedDisk : assortedDisk.below ⟨"", ["docs"]⟩ = assorted := by
  have hresolve : assortedDisk.resolve? ⟨"", ["docs"]⟩ = some ["docs"] := by decide +kernel
  have hentries : assortedDisk.entriesBelow ["docs"] = assorted := by decide +kernel
  rw [Disk.below_of_resolve? hresolve, hentries]
  exact List.mergeSort_of_pairwise (by decide +kernel)

theorem ofDisk_partitions_assorted : HasFileNames assortedDisk ⟨"", ["docs"]⟩ ∧
    ∃ c, (ofDisk assortedDisk ⟨"", ["docs"]⟩ []).result = .ok c ∧
      c.listed = ["views", "views/data.csv", "broken.md", "views/Flow.MMD"] ∧
      (∃! s, Stands [] "broken.md" (.file [0xFF]) s) ∧ c.listed.count "broken.md" = 1 ∧
      (∃! s, Stands [] ".git" .directory s) ∧ c.listed.count ".git" = 0 ∧
      (∃ place entry, LiesBelow assortedDisk ⟨"", ["docs"]⟩ place entry ∧
        Text.joinWith "/" place = "views/data.csv" ∧ Stands [] "views/data.csv" entry .foreign) ∧
      (c.listOf .document).Pairwise (fun p q => (Path.ofText p).parts < (Path.ofText q).parts) ∧
      ∀ a ∈ c.assets, a.isDiagram ≠ a.isNote := by
  have hbelow {place : Place} {entry : Disk.Entry} :
      LiesBelow assortedDisk ⟨"", ["docs"]⟩ place entry ↔ (place, entry) ∈ assorted := by
    rw [← Disk.mem_below, below_assortedDisk]
  have hnames : HasFileNames assortedDisk ⟨"", ["docs"]⟩ := by
    have hall : ∀ e ∈ assorted, ∀ name ∈ e.1, Disk.IsFileName name := by decide +kernel
    exact fun place entry hplace => hall _ (hbelow.1 hplace)
  have hc : (ofDisk assortedDisk ⟨"", ["docs"]⟩ []).result = .ok
      { assets := [⟨"views/Flow.MMD", {}, "x"⟩]
        directories := ["views"]
        foreignFiles := ["views/data.csv"]
        unreadable := ["broken.md"] } := by
    unfold ofDisk
    rw [below_assortedDisk]
    rfl
  obtain ⟨hentries, hlists, hsorted, hassets⟩ := ofDisk_partitions hnames hc
  obtain ⟨hbroken, hbrokenOnce⟩ := hentries ["broken.md"] (.file [0xFF]) (hbelow.2 (by decide))
  obtain ⟨hhidden, hnowhere⟩ := hentries [".git"] .directory (hbelow.2 (by decide))
  obtain ⟨-, hforeign⟩ := (hlists .foreign "views/data.csv").1 (by decide)
  exact ⟨hnames, _, hc, rfl, hbroken, hbrokenOnce, hhidden, hnowhere, hforeign, hsorted .document,
    hassets⟩

end Collection

end DocTrace
