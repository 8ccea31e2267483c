import DocTrace.Diagram.Kind
import DocTrace.Proofs.Diagram.Cleaning

/-! The word that opens a diagram and the kind it stands for. A word opens at most one kind, but a
kind is also found by its name: a text whose first word is such a name and opens nothing is analyzed
as that kind all the same. -/

namespace DocTrace

open Diagram Text

namespace DiagramKind

/-- The words that open a diagram of the kind. -/
def openers (kind : DiagramKind) : List String :=
  if kind = .flowchart then layoutKeyword :: kind.keywords else kind.keywords

theorem mem_all (kind : DiagramKind) : kind ∈ all := by
  cases kind <;> decide

theorem ofKeyword?_eq_some_iff {kind : DiagramKind} {word : String} :
    ofKeyword? word = some kind ↔ word ∈ kind.openers := by
  constructor
  · intro h
    unfold ofKeyword? at h
    split at h
    · next hlayout =>
      obtain rfl := Option.some.inj h
      simp [openers, hlayout]
    · have hmem : word ∈ kind.keywords := by simpa using List.find?_some h
      unfold openers
      split
      · exact List.mem_cons_of_mem _ hmem
      · exact hmem
  · intro h
    have hall : ∀ kind ∈ all, ∀ word ∈ kind.openers, ofKeyword? word = some kind := by decide
    exact hall kind kind.mem_all word h

theorem ofKeyword?_eq_none_iff {word : String} :
    ofKeyword? word = none ↔ ∀ kind : DiagramKind, word ∉ kind.openers := by
  simp only [Option.eq_none_iff_forall_ne_some, ne_eq, ofKeyword?_eq_some_iff]

theorem ofName?_eq_some_iff {kind : DiagramKind} {name : String} :
    ofName? name = some kind ↔ kind.name = name := by
  constructor
  · intro h
    simpa using List.find?_some h
  · rintro rfl
    cases kind <;> decide

theorem find?_name (kind : DiagramKind) : find? kind.name = some kind := by
  rw [find?, ofName?_eq_some_iff.2 rfl, Option.orElse_some]

theorem find?_of_not_opener {word : String} (h : ∀ kind : DiagramKind, word ∉ kind.openers) :
    find? word = ofName? word := by
  rw [find?, ofKeyword?_eq_none_iff.2 h]
  cases ofName? word <;> rfl

end DiagramKind

/-! ### The first word of a text -/

namespace Diagram

theorem isKeywordChar_of_isBlank {c : Char} (h : isBlank c = true) : isKeywordChar c = false := by
  have hnone : ∀ n ∈ blankCodes, isKeywordChar (Char.ofNat n) = false := by decide
  rw [← Char.ofNat_toNat c]
  exact hnone _ (toNat_mem_blankCodes h)

/-- A keyword ends before a blank, and so before any line break. -/
theorem takeWhile_isKeywordChar {p : Char → Bool} (hp : ∀ c, p c = true → isBlank c = true)
    (s : List Char) :
    (s.takeWhile fun c => !p c).takeWhile isKeywordChar = s.takeWhile isKeywordChar := by
  have hchar : ∀ c, (isKeywordChar c && !p c) = isKeywordChar c := by
    intro c
    cases hc : p c with
    | false => simp
    | true => simp [isKeywordChar_of_isBlank (hp c hc)]
  rw [List.takeWhile_takeWhile]
  simp only [Bool.decide_and, Bool.decide_eq_true, hchar]

theorem keyword?_eq_some_iff {s word : List Char} :
    keyword? s = some word ↔ word ≠ [] ∧ word = (clean s).takeWhile isKeywordChar := by
  unfold keyword? span1?
  rw [List.span_eq_takeWhile_dropWhile]
  split
  · next hcut =>
    have hnil := (Prod.mk.inj hcut).1
    rw [hnil]
    simp
  · next hcut =>
    have hne : (clean s).takeWhile isKeywordChar ≠ [] := fun h => hcut _ (Prod.ext h rfl)
    rw [Option.map_some, Option.some.injEq, eq_comm]
    exact ⟨fun h => ⟨h ▸ hne, h⟩, And.right⟩

end Diagram

theorem detectType_of_opener {content : String} {word : List Char} {kind : DiagramKind}
    (hword : keyword? content.toList = some word) (hkind : .ofList word ∈ kind.openers) :
    detectType content = kind.name := by
  have hfind := DiagramKind.ofKeyword?_eq_some_iff.2 hkind
  unfold detectType
  simp only [hword, hfind]

theorem detectType_of_not_opener {content : String} {word : List Char}
    (hword : keyword? content.toList = some word)
    (hnone : ∀ kind : DiagramKind, .ofList word ∉ kind.openers) :
    detectType content = .ofList word := by
  have hfind := DiagramKind.ofKeyword?_eq_none_iff.2 hnone
  unfold detectType
  simp only [hword, hfind]

/-! ### The analysis that the first word leads to -/

theorem analyzeAs_name (kind : DiagramKind) (content : String) :
    analyzeAs kind.name content = kind.analyze content := by
  rw [analyzeAs, kind.find?_name]

theorem analyze_of_opener {content : String} {word : List Char} {kind : DiagramKind}
    (hword : keyword? content.toList = some word) (hkind : .ofList word ∈ kind.openers) :
    analyze content = kind.analyze content := by
  rw [analyze, detectType_of_opener hword hkind, analyzeAs_name]

theorem analyze_of_name {content : String} {word : List Char} {kind : DiagramKind}
    (hword : keyword? content.toList = some word)
    (hnone : ∀ kind : DiagramKind, .ofList word ∉ kind.openers) (hname : kind.name = .ofList word) :
    analyze content = kind.analyze content := by
  rw [analyze, detectType_of_not_opener hword hnone, ← hname, analyzeAs_name]

theorem analyze_of_unknown {content : String} {word : List Char}
    (hword : keyword? content.toList = some word)
    (hnone : ∀ kind : DiagramKind, .ofList word ∉ kind.openers)
    (hname : ∀ kind : DiagramKind, kind.name ≠ .ofList word) :
    analyze content = { diagramType := .ofList word } := by
  have hfind : DiagramKind.find? (.ofList word) = none := by
    rw [DiagramKind.find?_of_not_opener hnone, Option.eq_none_iff_forall_ne_some]
    intro kind hkind
    exact hname kind (DiagramKind.ofName?_eq_some_iff.1 hkind)
  rw [analyze, detectType_of_not_opener hword hnone, analyzeAs, hfind]

/-- A text is analyzed as the kind that its first word opens. Under any other first word its
analysis is empty, unless that word is the name of a kind that finds something in the text. -/
theorem analyze_by_keyword (content : String) :
    (keyword? content.toList = none → analyze content = { diagramType := "unknown" }) ∧
      ∀ word, keyword? content.toList = some word →
        (∀ kind : DiagramKind, .ofList word ∈ kind.openers →
          analyze content = kind.analyze content) ∧
        ((∀ kind : DiagramKind, .ofList word ∉ kind.openers) →
          (analyze content = { diagramType := .ofList word } ↔
            ∀ kind : DiagramKind, kind.name = .ofList word →
              kind.analyze content = { diagramType := kind.name })) := by
  refine ⟨fun hnone => ?_, fun word hword => ⟨fun kind => analyze_of_opener hword, fun hnone => ?_⟩⟩
  · have htype : detectType content = "unknown" := by
      unfold detectType
      rw [hnone]
    have hfind : DiagramKind.find? "unknown" = none := by decide
    rw [analyze, htype, analyzeAs]
    simp only [hfind]
  · constructor
    · intro hempty kind hname
      rw [hname]
      exact (analyze_of_name hword hnone hname).symm.trans hempty
    · intro hempty
      by_cases hnamed : ∃ kind : DiagramKind, kind.name = .ofList word
      · obtain ⟨kind, hname⟩ := hnamed
        rw [← hname]
        exact (analyze_of_name hword hnone hname).trans (hempty kind hname)
      · exact analyze_of_unknown hword hnone fun kind hname => hnamed ⟨kind, hname⟩

theorem analyze_by_keyword_sequence :
    (keyword? "%% a note".toList = none ∧ analyze "%% a note" = { diagramType := "unknown" }) ∧
      (keyword? "flowchart-elk\nA --> B".toList = some "flowchart-elk".toList ∧
        "flowchart-elk" ∈ DiagramKind.flowchart.openers ∧
        analyze "flowchart-elk\nA --> B" =
          DiagramKind.flowchart.analyze "flowchart-elk\nA --> B") ∧
      keyword? "sequence\nA->>B: hi".toList = some "sequence".toList ∧
      (∀ kind : DiagramKind, "sequence" ∉ kind.openers) ∧
      analyze "sequence\nA->>B: hi" ≠ { diagramType := "sequence" } := by
  have hnone : keyword? "%% a note".toList = none := by decide +kernel
  have hlayout : keyword? "flowchart-elk\nA --> B".toList = some "flowchart-elk".toList := by
    decide +kernel
  have hsequence : keyword? "sequence\nA->>B: hi".toList = some "sequence".toList := by
    decide +kernel
  have hfree : ∀ kind : DiagramKind, "sequence" ∉ kind.openers := by
    intro kind
    cases kind <;> decide
  have hfound : DiagramKind.sequence.analyze "sequence\nA->>B: hi" ≠
      { diagramType := "sequence" } := by
    decide +kernel
  refine ⟨⟨hnone, (analyze_by_keyword _).1 hnone⟩, ⟨hlayout, by decide, ?_⟩, hsequence, hfree, ?_⟩
  · exact ((analyze_by_keyword _).2 _ hlayout).1 .flowchart (by decide)
  · intro hempty
    exact hfound ((((analyze_by_keyword _).2 _ hsequence).2 hfree).1 hempty .sequence rfl)

end DocTrace
