import DocTrace.Evaluation
import DocTrace.Proofs.Diagram.Opening

/-! The check of how a diagram opens, and the kind that the diagram is analyzed as. The check takes
a keyword that is continued after a dash, the analysis knows only a few words of that form. -/

namespace DocTrace

open Diagram Text

/-! ### The first word of the first line -/

namespace Text

theorem isBlank_of_isLineBreak {c : Char} (h : isLineBreak c = true) : isBlank c = true := by
  simp only [isLineBreak, Bool.or_eq_true, Bool.and_eq_true, decide_eq_true_eq] at h
  simp only [isBlank, Bool.or_eq_true, Bool.and_eq_true, decide_eq_true_eq]
  omega

theorem isLineBreak_eq_false {c : Char} (h : isBlank c = false) : isLineBreak c = false := by
  by_contra hbreak
  rw [isBlank_of_isLineBreak (by simpa using hbreak)] at h
  contradiction

theorem headD_linesFrom (line s : List Char) :
    (linesFrom line s).headD [] = line.reverse ++ s.takeWhile fun c => !isLineBreak c := by
  fun_induction linesFrom line s with
  | case1 line h => simp_all
  | case2 line h => simp
  | case3 line s => simp [isLineBreak]
  | case4 line c s hc hbreak => simp [hbreak]
  | case5 line c s hc hbreak ih =>
    rw [ih, List.takeWhile_cons_of_pos (by simpa using hbreak)]
    simp

theorem takeWhile_dropEndWhile (p : Char → Bool) (s : List Char) :
    (dropEndWhile p s).takeWhile (fun c => !p c) = s.takeWhile fun c => !p c := by
  induction s with
  | nil => rfl
  | cons c s ih =>
    cases hc : p c with
    | false => rw [dropEndWhile_cons hc]; simp [hc, ih]
    | true =>
      simp only [dropEndWhile, List.reverse_cons, List.dropWhile_append]
      split <;> simp [hc]

theorem isBlank_of_trim_eq_cons {s t : List Char} {c : Char} (h : trim s = c :: t) :
    isBlank c = false := by
  cases hs : s.dropWhile isBlank with
  | nil =>
    rw [trim, stripChars, hs] at h
    exact absurd h (by simp [dropEndWhile])
  | cons d u =>
    have hd : isBlank d = false := by
      have hhead := List.head?_dropWhile_not isBlank s
      rw [hs] at hhead
      simpa using hhead
    rw [trim, stripChars, hs, dropEndWhile_cons hd] at h
    exact (List.cons.inj h).1 ▸ hd

theorem firstWord_headD_lines (s : List Char) :
    firstWord (trim ((lines (trim s)).headD [])) = (trim s).takeWhile fun c => !isBlank c := by
  cases htrim : trim s with
  | nil => rfl
  | cons c t =>
    have hc : isBlank c = false := isBlank_of_trim_eq_cons htrim
    have hbreak : isLineBreak c = false := isLineBreak_eq_false hc
    have hword : ∀ d, (!isBlank d && !isLineBreak d) = !isBlank d := by
      intro d
      cases hd : isLineBreak d with
      | false => simp
      | true => simp [isBlank_of_isLineBreak hd]
    rw [lines, headD_linesFrom, List.reverse_nil, List.nil_append,
      List.takeWhile_cons_of_pos (by simp [hbreak]), trim_cons hc, firstWord, skipBlanks,
      List.dropWhile_cons_of_neg (by simp [hc]), List.takeWhile_cons_of_pos (by simp [hc]),
      takeWhile_dropEndWhile, List.takeWhile_takeWhile, List.takeWhile_cons_of_pos (by simp [hc])]
    simp only [Bool.decide_and, Bool.decide_eq_true, hword]

end Text

namespace Inspection

/-- The word is the keyword, or continues it after a dash. -/
def Continues (keyword : String) (word : List Char) : Prop :=
  word = keyword.toList ∨ keyword.toList ++ ['-'] <+: word

instance (keyword : String) (word : List Char) : Decidable (Continues keyword word) :=
  inferInstanceAs (Decidable (_ ∨ _))

theorem firstWord_firstLine (a : Asset) :
    firstWord (firstLine a) = (clean a.body.toList).takeWhile fun c => !isBlank c :=
  firstWord_headD_lines _

/-- The keyword of a diagram ends where its first word does, or within it. -/
theorem takeWhile_firstWord (a : Asset) :
    (firstWord (firstLine a)).takeWhile isKeywordChar =
      (clean a.body.toList).takeWhile isKeywordChar := by
  rw [firstWord_firstLine, takeWhile_isKeywordChar fun _ hc => hc]

theorem opensWith_iff {line : List Char} {keyword : String} :
    opensWith line keyword = true ↔ Continues keyword (firstWord line) := by
  simp [opensWith, Continues]

theorem Continues.takeWhile {keyword : String} {word : List Char} (h : Continues keyword word)
    (hkeyword : ∀ c ∈ keyword.toList, isKeywordChar c = true) :
    Continues keyword (word.takeWhile isKeywordChar) := by
  rcases h with rfl | ⟨rest, rfl⟩
  · left
    exact List.takeWhile_eq_self_iff.2 hkeyword
  · right
    have hdash : ∀ c ∈ keyword.toList ++ ['-'], isKeywordChar c = true := by
      intro c hc
      rcases List.mem_append.1 hc with hc | hc
      · exact hkeyword c hc
      · rw [List.mem_singleton.1 hc]
        rfl
    rw [List.takeWhile_append_of_pos hdash]
    exact List.prefix_append _ _

theorem exists_keyword?_of_opensWith {a : Asset} {keyword : String} (hne : keyword.toList ≠ [])
    (hkeyword : ∀ c ∈ keyword.toList, isKeywordChar c = true)
    (h : opensWith (firstLine a) keyword = true) :
    ∃ word, keyword? a.body.toList = some word ∧ Continues keyword word := by
  have hword := (opensWith_iff.1 h).takeWhile hkeyword
  rw [takeWhile_firstWord] at hword
  refine ⟨_, keyword?_eq_some_iff.2 ⟨?_, rfl⟩, hword⟩
  intro hnil
  rw [hnil] at hword
  rcases hword with hkey | hstart
  · exact hne hkey.symm
  · exact absurd hstart (by simp)

end Inspection

/-! ### Words that continue a keyword -/

namespace DiagramKind

theorem toList_opener {kind : DiagramKind} {word : String} (h : word ∈ kind.openers) :
    word.toList ≠ [] ∧ ∀ c ∈ word.toList, isKeywordChar c = true := by
  have hall : ∀ kind ∈ all, ∀ word ∈ kind.openers,
      word.toList ≠ [] ∧ word.toList.all isKeywordChar = true := by decide
  obtain ⟨hne, hchars⟩ := hall kind kind.mem_all word h
  exact ⟨hne, List.all_eq_true.1 hchars⟩

theorem eq_of_continues {kind other : DiagramKind} {keyword : String} {word : List Char}
    (hkeyword : keyword ∈ kind.openers) (hother : .ofList word ∈ other.openers)
    (h : Inspection.Continues keyword word) : other = kind := by
  have hall : ∀ kind ∈ all, ∀ keyword ∈ kind.openers, ∀ other ∈ all, ∀ word ∈ other.openers,
      Inspection.Continues keyword word.toList → other = kind := by decide +kernel
  refine hall kind kind.mem_all keyword hkeyword other other.mem_all _ hother ?_
  rwa [String.toList_ofList]

theorem name_ne_of_continues {kind other : DiagramKind} {keyword : String} {word : List Char}
    (hkeyword : keyword ∈ kind.openers) (hword : .ofList word ∉ kind.openers)
    (h : Inspection.Continues keyword word) : other.name ≠ .ofList word := by
  intro hname
  rcases h with rfl | hstart
  · rw [String.ofList_toList] at hword
    exact hword hkeyword
  · have hdash : '-' ∈ other.name.toList := by
      rw [hname, String.toList_ofList]
      exact hstart.subset (by simp)
    cases other <;> exact absurd hdash (by decide)

end DiagramKind

/-- A diagram that the check passes is analyzed as the kind of the keywords if and only if its first
word is one of that kind's. Any other first word continues a keyword after a dash, and nothing is
found in the diagram. -/
theorem Rule.Check.detectType_of_opensWith {kind : DiagramKind} {keywords : List String}
    {g : Graph} {a : Asset} (hkeywords : ∀ keyword ∈ keywords, keyword ∈ kind.openers)
    (hdiagram : a.isDiagram = true) (h : (opensWith keywords).report g (some a) = .ok []) :
    ∃ word, keyword? a.body.toList = some word ∧
      (∃ keyword ∈ keywords, Inspection.Continues keyword word) ∧
      (detectType a.body = kind.name ↔ .ofList word ∈ kind.openers) ∧
      (.ofList word ∉ kind.openers → analyze a.body = { diagramType := .ofList word }) := by
  have hpasses : ∃ keyword ∈ keywords,
      Inspection.opensWith (Inspection.firstLine a) keyword = true := by
    simpa [report, messagesFor, forDocument, Finding.ofMessages, Inspection.wrongOpening,
      hdiagram] using h
  obtain ⟨keyword, hmem, hopens⟩ := hpasses
  have hopener := hkeywords keyword hmem
  obtain ⟨hne, hchars⟩ := DiagramKind.toList_opener hopener
  obtain ⟨word, hword, hcontinues⟩ := Inspection.exists_keyword?_of_opensWith hne hchars hopens
  have hnone (hunknown : .ofList word ∉ kind.openers) (other : DiagramKind) :
      .ofList word ∉ other.openers := by
    intro hother
    obtain rfl := DiagramKind.eq_of_continues hopener hother hcontinues
    exact hunknown hother
  refine ⟨word, hword, ⟨keyword, hmem, hcontinues⟩, ⟨fun htype => ?_, ?_⟩, fun hunknown => ?_⟩
  · by_contra hunknown
    rw [detectType_of_not_opener hword (hnone hunknown)] at htype
    exact DiagramKind.name_ne_of_continues hopener hunknown hcontinues htype.symm
  · exact detectType_of_opener hword
  · refine analyze_of_unknown hword (hnone hunknown) fun other => ?_
    exact DiagramKind.name_ne_of_continues hopener hunknown hcontinues

def variantDiagram : Asset := { path := "a.mmd", header := {}, body := "graph-x TD\nA --> B\n" }

theorem Rule.Check.detectType_of_opensWith_variant :
    (∀ keyword ∈ ["graph", "flowchart"], keyword ∈ DiagramKind.flowchart.openers) ∧
      variantDiagram.isDiagram = true ∧
      (opensWith ["graph", "flowchart"]).report {} (some variantDiagram) = .ok [] ∧
      detectType variantDiagram.body ≠ DiagramKind.flowchart.name ∧
      analyze variantDiagram.body = { diagramType := "graph-x" } := by
  have hkeywords : ∀ keyword ∈ ["graph", "flowchart"],
      keyword ∈ DiagramKind.flowchart.openers := by decide
  have hdiagram : variantDiagram.isDiagram = true := by decide +kernel
  have hpasses : (opensWith ["graph", "flowchart"]).report {} (some variantDiagram) = .ok [] := by
    decide +kernel
  have hfirst : keyword? variantDiagram.body.toList = some "graph-x".toList := by decide +kernel
  obtain ⟨word, hword, -, htype, hempty⟩ := detectType_of_opensWith hkeywords hdiagram hpasses
  obtain rfl : "graph-x".toList = word := Option.some.inj (hfirst.symm.trans hword)
  have hunknown : String.ofList "graph-x".toList ∉ DiagramKind.flowchart.openers := by decide
  exact ⟨hkeywords, hdiagram, hpasses, fun h => hunknown (htype.1 h), hempty hunknown⟩

end DocTrace
