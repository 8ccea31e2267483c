import DocTrace.Proofs.Path.Language
import DocTrace.Rule.Loading
import Mathlib.Data.List.TakeWhile

/-! The folder that a pattern names contains every path that the pattern matches. The folder is read
from the segments of the pattern and the match from its characters; what joins them is the beginning
of the pattern in which each character stands for itself. -/

namespace DocTrace

/-! ### Pieces of a text -/

namespace Text

theorem splitFrom_eq (sep : Char) (piece s : List Char) :
    splitFrom sep piece s = (s.splitOn sep).modifyHead (piece.reverse ++ ·) := by
  induction s generalizing piece with
  | nil => simp [splitFrom]
  | cons c s ih =>
    rw [splitFrom, List.splitOn_cons_eq_if_modifyHead]
    by_cases hc : c = sep
    · have hsame : (s.splitOn sep).modifyHead (([] : List Char).reverse ++ ·) = s.splitOn sep :=
        congrFun List.modifyHead_id _
      simp only [hc, if_true, beq_self_eq_true, ih, hsame, List.modifyHead_cons, List.append_nil]
    · simp [hc, ih, Function.comp_def]

theorem splitOn_eq (sep : Char) (s : List Char) : splitOn sep s = s.splitOn sep :=
  (splitFrom_eq sep [] s).trans (congrFun List.modifyHead_id _)

theorem not_mem_of_mem_splitOn {sep : Char} {s piece : List Char} (h : piece ∈ s.splitOn sep) :
    sep ∉ piece := by
  induction s generalizing piece with
  | nil =>
    rw [List.splitOn_nil, List.mem_singleton] at h
    rw [h]
    exact List.not_mem_nil
  | cons c s ih =>
    rw [List.splitOn_cons_eq_if_modifyHead] at h
    split at h
    · rcases List.mem_cons.1 h with rfl | h
      · exact List.not_mem_nil
      · exact ih h
    · next hc =>
      obtain ⟨first, others, hsplit⟩ := List.exists_cons_of_ne_nil (List.splitOn_ne_nil sep s)
      rw [hsplit] at h ih
      rcases List.mem_cons.1 h with rfl | h
      · rw [List.mem_cons, not_or]
        exact ⟨fun heq => hc (by simp [heq]), ih (List.mem_cons_self ..)⟩
      · exact ih (List.mem_cons_of_mem _ h)

/-- The pieces, each with the separator behind it. -/
def terminated (sep : Char) (pieces : List (List Char)) : List Char :=
  pieces.flatMap fun piece => piece ++ [sep]

theorem intercalate_append_cons (sep : Char) (pieces : List (List Char)) (piece : List Char)
    (others : List (List Char)) :
    [sep].intercalate (pieces ++ piece :: others) =
      terminated sep pieces ++ [sep].intercalate (piece :: others) := by
  induction pieces with
  | nil => rfl
  | cons first pieces ih =>
    have hne : pieces ++ piece :: others ≠ [] := by simp
    obtain ⟨next, more, hnext⟩ := List.exists_cons_of_ne_nil hne
    rw [List.cons_append, hnext, List.intercalate_cons_cons, ← hnext, ih]
    simp [terminated]

theorem splitOn_append_cons (sep : Char) (s t : List Char) :
    (s ++ sep :: t).splitOn sep = s.splitOn sep ++ t.splitOn sep :=
  List.splitOnP_append_cons _ _ (by simp)

theorem splitOn_terminated_append {sep : Char} {pieces : List (List Char)}
    (h : ∀ piece ∈ pieces, sep ∉ piece) (rest : List Char) :
    (terminated sep pieces ++ rest).splitOn sep = pieces ++ rest.splitOn sep := by
  induction pieces with
  | nil => rfl
  | cons piece pieces ih =>
    have hcons : terminated sep (piece :: pieces) ++ rest =
        piece ++ sep :: (terminated sep pieces ++ rest) := by
      simp [terminated]
    rw [List.forall_mem_cons] at h
    rw [hcons, splitOn_append_cons, List.splitOn_eq_singleton h.1, ih h.2]
    rfl

theorem splitOn_intercalate_iff {sep : Char} {pieces : List (List Char)} (hne : pieces ≠ []) :
    splitOn sep ([sep].intercalate pieces) = pieces ↔ ∀ piece ∈ pieces, sep ∉ piece := by
  rw [splitOn_eq]
  refine ⟨fun h piece hpiece => ?_, fun h => List.splitOn_intercalate sep h hne⟩
  rw [← h] at hpiece
  exact not_mem_of_mem_splitOn hpiece

theorem toList_joinWith_eq (sep : String) (texts : List String) :
    (joinWith sep texts).toList = sep.toList.intercalate (texts.map String.toList) := by
  induction texts with
  | nil => rfl
  | cons text texts ih =>
    cases texts with
    | nil => simp [joinWith]
    | cons next more =>
      simp only [joinWith, String.toList_append, ih, List.map_cons, List.intercalate_cons_cons]

theorem toList_joinWith {names : List (List Char)} (h : names ≠ []) :
    (joinWith "/" (names.map .ofList) ++ "/").toList = terminated '/' names := by
  induction names with
  | nil => exact absurd rfl h
  | cons name names ih =>
    cases names with
    | nil => simp [joinWith, terminated]
    | cons next more =>
      have hrest := ih (List.cons_ne_nil next more)
      have hjoin : joinWith "/" ((name :: next :: more).map .ofList) ++ "/" =
          String.ofList name ++ "/" ++ (joinWith "/" ((next :: more).map .ofList) ++ "/") := by
        simp only [List.map_cons, joinWith, String.append_assoc]
      rw [hjoin, String.toList_append, hrest]
      simp [terminated]

end Text

/-- No segment is empty or a dot. An absolute path begins with an empty segment. -/
def Path.IsNormalized (path : String) : Prop :=
  ∀ segment ∈ Text.splitOn '/' path.toList, segment ≠ [] ∧ segment ≠ ['.']

instance (path : String) : Decidable (Path.IsNormalized path) :=
  inferInstanceAs (Decidable (∀ _ ∈ _, _))

theorem Path.root_ofText {path : String} (h : path.toList.head? ≠ some '/') :
    (ofText path).root = "" := by
  cases htext : path.toList with
  | nil => simp [ofText, rootOf, htext]
  | cons c s =>
    have hc : c ≠ '/' := by simpa [htext] using h
    simp [ofText, rootOf, htext, hc]

namespace Glob

/-! ### The beginning of a pattern -/

theorem Reads.exists_of_plain {written s w : List Char} (h : Reads (written ++ s) w)
    (hplain : ∀ c ∈ written, c ∉ ['*', '?', '\x7b']) : ∃ v, w = written ++ v := by
  induction written generalizing w with
  | nil => exact ⟨w, rfl⟩
  | cons c written ih =>
    rw [List.forall_mem_cons] at hplain
    have hmem : w ∈ words (c :: (written ++ s)) := h
    rw [words_char hplain.1, Language.mem_mul] at hmem
    obtain ⟨_, rfl, w, hw, rfl⟩ := hmem
    obtain ⟨v, rfl⟩ := ih hw hplain.2
    exact ⟨v, rfl⟩

/-- A path that a pattern matches begins as the pattern does, up to its first wildcard or group. -/
theorem exists_of_accepts_plain {pattern path : String} {written s : List Char}
    (hpattern : pattern.toList = written ++ s) (hplain : ∀ c ∈ written, c ∉ ['*', '?', '\x7b'])
    (h : (ofPattern pattern).accepts path = true) : ∃ rest, path.toList = written ++ rest := by
  obtain ⟨u, hu, hpath⟩ := exists_of_accepts h
  rw [language_ofPattern, hpattern] at hu
  obtain ⟨v, rfl⟩ := Reads.exists_of_plain hu hplain
  rcases hpath with hpath | hpath
  · exact ⟨v, hpath⟩
  · exact ⟨v ++ ['\n'], hpath.trans (List.append_assoc ..)⟩

/-! ### The segments that name the folder -/

/-- The segment holds no special character. -/
def isName (segment : List Char) : Bool := !segment.any special.contains

/-- The segment stays when a path is read. -/
def isKept (segment : List Char) : Bool := segment ≠ [] && segment ≠ ['.']

/-- The names before the first special segment, and without the last one if there is none. -/
def folderNames (segments : List (List Char)) : List (List Char) :=
  let names := segments.takeWhile isName
  if names.length = segments.length then names.dropLast else names

theorem folder?_eq {pattern : String} (hroot : (Path.ofText pattern).root = "") :
    folder? pattern =
      let names := folderNames ((pattern.toList.splitOn '/').filter isKept)
      let folder := Text.joinWith "/" (names.map .ofList)
      if folder = "" then none else some folder := by
  have hparts : (Path.ofText pattern).parts =
      ((pattern.toList.splitOn '/').filter isKept).map .ofList := by
    rw [Path.parts, if_pos hroot, ← Text.splitOn_eq]
    rfl
  have hname :
      (fun part : String => !part.toList.any special.contains) ∘ String.ofList = isName := by
    funext segment
    simp [isName]
  simp only [folder?, hparts, List.takeWhile_map, hname, List.length_map, folderNames]
  split_ifs <;> simp_all [List.map_dropLast]

theorem isKept_of_not_isName {segment : List Char} (h : isName segment = false) :
    isKept segment = true := by
  have hempty : segment ≠ [] := by
    rintro rfl
    exact absurd h (by decide)
  have hdot : segment ≠ ['.'] := by
    rintro rfl
    exact absurd h (by decide)
  simp [isKept, hempty, hdot]

/-- The segments cut behind the names at their beginning. What follows is special or the last. -/
structure IsCut (segments names : List (List Char)) (next : List Char)
    (others : List (List Char)) : Prop where
  whole : segments = names ++ next :: others
  names : ∀ name ∈ names, isName name = true
  next : others ≠ [] → isName next = false

theorem exists_cut {segments : List (List Char)} (h : segments ≠ []) :
    ∃ names next others, IsCut segments names next others := by
  induction segments with
  | nil => exact absurd rfl h
  | cons segment others ih =>
    by_cases hsegment : isName segment = false ∨ others = []
    · exact ⟨[], segment, others, rfl, by simp, hsegment.resolve_right⟩
    · rw [not_or, Bool.not_eq_false] at hsegment
      obtain ⟨names, next, rest, rfl, hnames, hnext⟩ := ih hsegment.2
      refine ⟨segment :: names, next, rest, rfl, ?_, hnext⟩
      rw [List.forall_mem_cons]
      exact ⟨hsegment.1, hnames⟩

theorem IsCut.folderNames_prefix {segments names others : List (List Char)} {next : List Char}
    (h : IsCut segments names next others) (hkept : ∀ name ∈ names, isKept name = true) :
    folderNames (segments.filter isKept) <+: names := by
  have htake (rest : List (List Char)) :
      (names ++ rest).takeWhile isName = names ++ rest.takeWhile isName :=
    List.takeWhile_append_of_pos h.names
  rw [h.whole, List.filter_append, List.filter_eq_self.2 hkept, folderNames, htake]
  cases hnext : isName next with
  | false =>
    rw [List.filter_cons_of_pos (isKept_of_not_isName hnext)]
    simp [hnext]
  | true =>
    obtain rfl : others = [] := by
      by_contra hothers
      rw [h.next hothers] at hnext
      exact Bool.false_ne_true hnext
    by_cases hdropped : isKept next = true
    · simp [hdropped, hnext, List.dropLast_append_of_ne_nil]
    · simpa [hdropped] using List.dropLast_prefix names

theorem not_mem_special {segments : List (List Char)} (h : ∀ s ∈ segments, isName s = true) :
    ∀ c ∈ Text.terminated '/' segments, c ∉ special := by
  intro c hc
  simp only [Text.terminated, List.mem_flatMap, List.mem_append, List.mem_singleton] at hc
  obtain ⟨segment, hsegment, hc | rfl⟩ := hc
  · have hname := h segment hsegment
    simp only [isName, Bool.not_eq_true', List.any_eq_false, List.contains_iff_mem] at hname
    exact hname c hc
  · decide

theorem IsCut.root_ofText {pattern : String} {names others : List (List Char)} {next : List Char}
    (h : IsCut (pattern.toList.splitOn '/') names next others)
    (hkept : ∀ name ∈ names, isKept name = true) : (Path.ofText pattern).root = "" := by
  refine Path.root_ofText fun hslash => ?_
  obtain ⟨s, hs⟩ := List.head?_eq_some_iff.1 hslash
  have hwhole := h.whole
  rw [hs, List.splitOn_cons_eq_if_modifyHead, if_pos (by simp)] at hwhole
  cases names with
  | nil =>
    -- The segment before the slash is empty, which is a name, and it is not the last one.
    obtain ⟨rfl, rfl⟩ := List.cons.inj hwhole
    exact absurd (h.next (List.splitOn_ne_nil '/' s)) (by decide)
  | cons name names =>
    obtain ⟨rfl, -⟩ := List.cons.inj hwhole
    exact absurd (hkept [] (List.mem_cons_self ..)) (by decide)

/-- The names that a pattern begins with stand at the beginning of the path, and none of them is
dropped when the pattern is read as a path, because the path is normalized. -/
theorem beginsWith_folder {pattern folder path : String} (hfolder : folder? pattern = some folder)
    (hpath : Path.IsNormalized path) (h : (ofPattern pattern).accepts path = true) :
    Text.beginsWith (folder ++ "/") path = true := by
  obtain ⟨names, next, others, hcut⟩ := exists_cut (List.splitOn_ne_nil '/' pattern.toList)
  have hpattern : pattern.toList =
      Text.terminated '/' names ++ ['/'].intercalate (next :: others) := by
    rw [← Text.intercalate_append_cons, ← hcut.whole, List.intercalate_splitOn]
  have hplain : ∀ c ∈ Text.terminated '/' names, c ∉ ['*', '?', '\x7b'] := fun c hc hspecial =>
    not_mem_special hcut.names c hc (List.mem_append_left ['['] hspecial)
  obtain ⟨rest, hrest⟩ := exists_of_accepts_plain hpattern hplain h
  have hkept : ∀ name ∈ names, isKept name = true := by
    intro name hname
    have hslash : ∀ piece ∈ names, '/' ∉ piece := fun piece hpiece =>
      Text.not_mem_of_mem_splitOn (hcut.whole ▸ List.mem_append_left _ hpiece)
    have hsegments : Text.splitOn '/' path.toList = names ++ rest.splitOn '/' := by
      rw [Text.splitOn_eq, hrest, Text.splitOn_terminated_append hslash]
    have hsegment := hpath name (hsegments ▸ List.mem_append_left _ hname)
    simp [isKept, hsegment]
  have hprefix := hcut.folderNames_prefix hkept
  rw [folder?_eq (hcut.root_ofText hkept)] at hfolder
  generalize folderNames ((pattern.toList.splitOn '/').filter isKept) = folders at hfolder hprefix
  obtain ⟨hne, rfl⟩ : Text.joinWith "/" (folders.map .ofList) ≠ "" ∧
      Text.joinWith "/" (folders.map .ofList) = folder := by simpa using hfolder
  have hfolders : folders ≠ [] := by
    rintro rfl
    exact hne rfl
  obtain ⟨more, rfl⟩ := hprefix
  rw [Text.beginsWith, List.isPrefixOf_iff_prefix, Text.toList_joinWith hfolders, hrest]
  simp [Text.terminated]

end Glob

namespace Rule

/-- Every path that the pattern of the target matches is a path of the folder. -/
def Target.LiesIn (t : Target) (folder : String) : Prop :=
  ∀ pattern ∈ t.pathPattern, ∀ path, Path.IsNormalized path →
    (Glob.ofPattern pattern).accepts path = true → Text.beginsWith (folder ++ "/") path = true

theorem Target.liesIn_of_folder? {t : Target} {folder : String} (h : t.folder? = some folder) :
    t.LiesIn folder := by
  intro pattern hpattern path hpath haccepts
  rw [Target.folder?, Option.mem_def.1 hpattern, Option.bind_eq_some_iff] at h
  obtain ⟨_, hsame, hfolder⟩ := h
  obtain rfl := Option.some.inj (Option.filter_eq_some_iff.1 hsame).1
  exact Glob.beginsWith_folder hfolder hpath haccepts

theorem folder?_of_claim? {r : Rule} {folder : String} (h : r.claim? = some folder) :
    r.target.folder? = some folder := by
  rw [claim?] at h
  split at h
  · exact h
  · exact absurd h (by simp)

/-- Each folder of the table is claimed by the rules that stand beside it. -/
def IsClaimed (rules : List Rule) (t : Table String (List String)) : Prop :=
  ∀ folder ids, t.find? folder = some ids →
    ∀ id ∈ ids, ∃ r ∈ rules, r.id = id ∧ r.claim? = some folder

theorem isClaimed_folderClaims (rules : List Rule) : IsClaimed rules (folderClaims rules) := by
  refine List.foldlRecOn rules _ (fun folder ids h => by simp at h) fun t ht r hr => ?_
  split
  · next claimed hclaim =>
    intro folder ids hids id hid
    rw [Table.find?_put] at hids
    split at hids
    · next hsame =>
      obtain rfl := hsame
      obtain rfl := Option.some.inj hids
      rcases List.mem_append.1 hid with hold | hnew
      · cases hfind : t.find? folder with
        | none => simp [hfind] at hold
        | some old => exact ht folder old hfind id (by simpa [hfind] using hold)
      · exact ⟨r, hr, (List.mem_singleton.1 hnew).symm, hclaim⟩
    · exact ht folder ids hids id hid
  · exact ht

/-- Each folder of the table is claimed by a rule for identifiers that begin as the table says. -/
def IsGoverned (rules : List Rule) (t : Table String String) : Prop :=
  ∀ folder start, t.find? folder = some start →
    ∃ r ∈ rules, r.target.idPrefix = some start ∧ r.claim? = some folder

theorem isGoverned_folderPrefixes (rules : List Rule) :
    IsGoverned rules (folderPrefixes rules) := by
  refine List.foldlRecOn rules _ (fun folder start h => by simp at h) fun t ht r hr => ?_
  split
  · next claimed governed hclaim hgoverned =>
    intro folder start hstart
    rw [Table.find?_putNew] at hstart
    split at hstart
    · next hsame =>
      obtain rfl := hsame
      cases hfind : t.find? folder with
      | none =>
        obtain rfl : governed = start := by simpa [hfind] using hstart
        exact ⟨r, hr, (Option.filter_eq_some_iff.1 hgoverned).1, hclaim⟩
      | some old =>
        obtain rfl : old = start := by simpa [hfind] using hstart
        exact ht folder old hfind
    · exact ht folder start hstart
  · exact ht

/-- What the rules of a project say about a folder comes from rules whose patterns stay in it. -/
theorem liesIn_folder (rules : List Rule) :
    (∀ t folder, Target.folder? t = some folder → t.LiesIn folder) ∧
      (∀ hub ∈ hubFolders rules, ∃ r ∈ rules,
        hub.rule = some r.id ∧ r.target.LiesIn hub.folder) ∧
      (∀ folder ids, (folderClaims rules).find? folder = some ids →
        ∀ id ∈ ids, ∃ r ∈ rules, r.id = id ∧ r.target.LiesIn folder) ∧
      ∀ folder start, (folderPrefixes rules).find? folder = some start →
        ∃ r ∈ rules, r.target.idPrefix = some start ∧ r.target.LiesIn folder := by
  refine ⟨fun t folder => Target.liesIn_of_folder?, ?_, ?_, ?_⟩
  · intro hub hhub
    obtain ⟨r, hr, hfrom⟩ := List.mem_filterMap.1 hhub
    rw [hubFolder?] at hfrom
    split at hfrom
    · next described folder _ hfolder =>
      obtain rfl := Option.some.inj hfrom
      exact ⟨r, hr, rfl, Target.liesIn_of_folder? hfolder⟩
    · exact absurd hfrom (by simp)
  · intro folder ids hids id hid
    obtain ⟨r, hr, hrule, hclaim⟩ := isClaimed_folderClaims rules folder ids hids id hid
    exact ⟨r, hr, hrule, Target.liesIn_of_folder? (folder?_of_claim? hclaim)⟩
  · intro folder start hstart
    obtain ⟨r, hr, hgoverned, hclaim⟩ := isGoverned_folderPrefixes rules folder start hstart
    exact ⟨r, hr, hgoverned, Target.liesIn_of_folder? (folder?_of_claim? hclaim)⟩

/-- A rule whose pattern goes on behind its folder with alternatives that hold slashes. -/
def architecture : Rule where
  id := "architecture"
  name := "Architecture"
  level := .folder
  target := ⟨some "ARC_", some "docs/arch/**/\x7bviews/*,notes\x7d.md"⟩
  hub := some ⟨"arch", "Architecture"⟩

theorem liesIn_folder_architecture :
    architecture.target.folder? = some "docs/arch" ∧
      Path.IsNormalized "docs/arch/b/views/z.md" ∧
      architecture.target.selectsPath "docs/arch/b/views/z.md" = true ∧
      Text.beginsWith "docs/arch/" "docs/arch/b/views/z.md" = true ∧
      (∃ hub ∈ hubFolders [architecture], architecture.target.LiesIn hub.folder) ∧
      (∃ r ∈ [architecture], r.id = "architecture" ∧ r.target.LiesIn "docs/arch") ∧
      ∃ r ∈ [architecture], r.target.idPrefix = some "ARC_" ∧ r.target.LiesIn "docs/arch" := by
  obtain ⟨htarget, hhubs, hclaims, hprefixes⟩ := liesIn_folder [architecture]
  have hfolder : architecture.target.folder? = some "docs/arch" := by decide +kernel
  have hpath : Path.IsNormalized "docs/arch/b/views/z.md" := by decide +kernel
  have haccepts : architecture.target.selectsPath "docs/arch/b/views/z.md" = true := by
    decide +kernel
  have hhub : ⟨"arch", "Architecture", "docs/arch", some "ARC_", some "architecture"⟩ ∈
      hubFolders [architecture] := by decide +kernel
  have hclaim : (folderClaims [architecture]).find? "docs/arch" = some ["architecture"] := by
    decide +kernel
  have hprefix : (folderPrefixes [architecture]).find? "docs/arch" = some "ARC_" := by
    decide +kernel
  obtain ⟨r, hr, -, hlies⟩ := hhubs _ hhub
  obtain rfl := List.mem_singleton.1 hr
  have hbegins := htarget architecture.target "docs/arch" hfolder _ rfl _ hpath
    (by simpa [Target.selectsPath, architecture] using haccepts)
  exact ⟨hfolder, hpath, haccepts, hbegins, ⟨_, hhub, hlies⟩,
    hclaims _ _ hclaim _ (List.mem_singleton_self _), hprefixes _ _ hprefix⟩

end Rule

end DocTrace
