import DocTrace.Proofs.Path.Folder
import DocTrace.Proofs.Rule.Recording
import DocTrace.Report

/-! A report for programs is read back with two cuts: at the line feeds, and in each line at the
first five colons. Of the six fields the writer folds only the message. The severity and the type
come from fixed lists, so what can go wrong are the rule, the file and the identifier. -/

namespace DocTrace

/-! ### Cutting and joining -/

namespace Text

/-- The pieces before the first `n` separators, and all that follows them as the last piece. -/
def cut (sep : Char) : Nat → List Char → List (List Char)
  | 0, s => [s]
  | n + 1, s =>
    match s.span (· ≠ sep) with
    | (piece, []) => [piece]
    | (piece, _ :: rest) => piece :: cut sep n rest

theorem cut_append {sep : Char} {piece : List Char} (h : sep ∉ piece) (n : ℕ) (rest : List Char) :
    cut sep (n + 1) (piece ++ sep :: rest) = piece :: cut sep n rest := by
  have hpiece : ∀ c ∈ piece, decide (c ≠ sep) = true := fun c hc =>
    decide_eq_true fun heq => h (heq ▸ hc)
  rw [cut, List.span_eq_takeWhile_dropWhile, List.takeWhile_append_of_pos hpiece,
    List.dropWhile_append_of_pos hpiece]
  simp

theorem cut_terminated_append {sep : Char} {pieces : List (List Char)}
    (h : ∀ piece ∈ pieces, sep ∉ piece) (last : List Char) :
    cut sep pieces.length (terminated sep pieces ++ last) = pieces ++ [last] := by
  induction pieces with
  | nil => rfl
  | cons piece pieces ih =>
    rw [List.forall_mem_cons] at h
    have hcons : terminated sep (piece :: pieces) ++ last =
        piece ++ sep :: (terminated sep pieces ++ last) := by
      simp [terminated]
    rw [hcons, List.length_cons, cut_append h.1, ih h.2, List.cons_append]

theorem not_mem_of_cut_eq {sep : Char} {n : ℕ} {s last : List Char} {pieces : List (List Char)}
    (h : cut sep n s = pieces ++ [last]) : ∀ piece ∈ pieces, sep ∉ piece := by
  induction n generalizing s pieces with
  | zero =>
    cases pieces with
    | nil => simp
    | cons piece pieces => simp [cut] at h
  | succ n ih =>
    cases pieces with
    | nil => simp
    | cons piece pieces =>
      rw [cut, List.span_eq_takeWhile_dropWhile] at h
      split at h
      · simp at h
      · next first _ rest hspan =>
        obtain ⟨rfl, -⟩ := Prod.mk.inj hspan
        obtain ⟨rfl, hrest⟩ := List.cons.inj h
        rw [List.forall_mem_cons]
        exact ⟨fun hsep => by simpa using List.mem_takeWhile_imp hsep, ih hrest⟩

/-- The cut brings back what was joined just if no piece but the last holds the separator. -/
theorem cut_intercalate_iff {sep : Char} {pieces : List (List Char)} {last : List Char} :
    cut sep pieces.length ([sep].intercalate (pieces ++ [last])) = pieces ++ [last] ↔
      ∀ piece ∈ pieces, sep ∉ piece := by
  refine ⟨not_mem_of_cut_eq, fun h => ?_⟩
  rw [intercalate_append_cons, List.intercalate_singleton, cut_terminated_append h]

theorem mem_intercalate {c sep : Char} (hc : c ≠ sep) (pieces : List (List Char)) :
    c ∈ [sep].intercalate pieces ↔ ∃ piece ∈ pieces, c ∈ piece := by
  induction pieces with
  | nil => simp
  | cons piece pieces ih =>
    cases pieces with
    | nil => simp
    | cons next more =>
      rw [List.intercalate_cons_cons, List.mem_append, List.mem_append, ih,
        List.exists_mem_cons_iff]
      simp [hc]

theorem not_isBlank_of_mem_wordsFrom {word s piece : List Char}
    (hword : ∀ c ∈ word, isBlank c = false) (hpiece : piece ∈ wordsFrom word s) :
    ∀ c ∈ piece, isBlank c = false := by
  induction s generalizing word with
  | nil =>
    rw [wordsFrom] at hpiece
    split at hpiece
    · simp at hpiece
    · rw [List.mem_singleton.1 hpiece]
      simpa using hword
  | cons d s ih =>
    have hstart : ∀ c ∈ ([] : List Char), isBlank c = false := by simp
    rw [wordsFrom] at hpiece
    split at hpiece
    · split at hpiece
      · exact ih hstart hpiece
      · rcases List.mem_cons.1 hpiece with rfl | hpiece
        · simpa using hword
        · exact ih hstart hpiece
    · next hblank =>
      refine ih ?_ hpiece
      rw [List.forall_mem_cons]
      exact ⟨by simpa using hblank, hword⟩

end Text

namespace Violation

/-- The fields before the message in their order. -/
def leadingFields (v : Violation) : List String :=
  [v.severity, v.ruleId, v.ruleType, v.file.getD "", v.id.getD ""]

def porcelainFields (v : Violation) : List String := v.leadingFields ++ [v.foldedMessage]

/-- The fields that are written as the documents and the rules have them. -/
def givenFields (v : Violation) : List String := [v.ruleId, v.file.getD "", v.id.getD ""]

theorem toList_toPorcelain (v : Violation) :
    v.toPorcelain.toList = [':'].intercalate (v.porcelainFields.map String.toList) :=
  Text.toList_joinWith_eq ":" v.porcelainFields

/-- The words of a message stand on one line. -/
theorem lineFeed_not_mem_foldedMessage (v : Violation) : '\n' ∉ v.foldedMessage.toList := by
  have hjoin : v.foldedMessage.toList = [' '].intercalate (Text.words v.message.toList) := by
    rw [foldedMessage, Text.toList_joinWith_eq]
    simp [Function.comp_def]
  rw [hjoin, Text.mem_intercalate (by decide)]
  rintro ⟨word, hword, hfeed⟩
  have hblank := Text.not_isBlank_of_mem_wordsFrom (by simp) hword '\n' hfeed
  exact absurd hblank (by decide)

/-- The severity and the type of a violation are names that a rule has for them. -/
structure IsNamed (v : Violation) : Prop where
  severity : ∃ enforcement : Rule.Enforcement, v.severity = enforcement.name
  ruleType : ∃ category : Rule.Category, v.ruleType = category.name

variable {v : Violation}

theorem IsNamed.not_mem_severity (h : v.IsNamed) {c : Char} (hc : c.isAlpha = false) :
    c ∉ v.severity.toList := by
  obtain ⟨enforcement, heq⟩ := h.severity
  have hletters : v.severity.toList.all Char.isAlpha = true := by
    rw [heq]
    cases enforcement <;> decide
  exact fun hmem => by simp [List.all_eq_true.1 hletters c hmem] at hc

theorem IsNamed.not_mem_ruleType (h : v.IsNamed) {c : Char} (hc : c.isAlpha = false) :
    c ∉ v.ruleType.toList := by
  obtain ⟨category, heq⟩ := h.ruleType
  have hletters : v.ruleType.toList.all Char.isAlpha = true := by
    rw [heq]
    cases category <;> decide
  exact fun hmem => by simp [List.all_eq_true.1 hletters c hmem] at hc

theorem IsNamed.lineFeed_not_mem (h : v.IsNamed) :
    '\n' ∉ v.toPorcelain.toList ↔ ∀ field ∈ v.givenFields, '\n' ∉ field.toList := by
  rw [toList_toPorcelain, Text.mem_intercalate (by decide)]
  have hseverity := h.not_mem_severity (c := '\n') (by decide)
  have hruleType := h.not_mem_ruleType (c := '\n') (by decide)
  have hmessage := v.lineFeed_not_mem_foldedMessage
  simp [porcelainFields, leadingFields, givenFields, hseverity, hruleType, hmessage]

/-- The first five colons of a line are those between the fields just if no given field has one. -/
theorem IsNamed.cut_toPorcelain (h : v.IsNamed) :
    Text.cut ':' 5 v.toPorcelain.toList = v.porcelainFields.map String.toList ↔
      ∀ field ∈ v.givenFields, ':' ∉ field.toList := by
  have hseverity := h.not_mem_severity (c := ':') (by decide)
  have hruleType := h.not_mem_ruleType (c := ':') (by decide)
  have hcut : Text.cut ':' 5 v.toPorcelain.toList = v.porcelainFields.map String.toList ↔
      ∀ piece ∈ v.leadingFields.map String.toList, ':' ∉ piece := by
    have hlength : (v.leadingFields.map String.toList).length = 5 := rfl
    rw [toList_toPorcelain, porcelainFields, List.map_append, List.map_singleton, ← hlength]
    exact Text.cut_intercalate_iff
  rw [hcut]
  simp [leadingFields, givenFields, hseverity, hruleType]

end Violation

namespace Rule

theorem isNamed_of_mem_run {r : Rule} {a : Option Asset} {g : Graph} {v : Violation}
    (h : v ∈ (r.run a g).1) : v.IsNamed := by
  rw [violations_run] at h
  unfold violations at h
  split at h
  · obtain ⟨f, -, rfl⟩ := List.mem_map.1 h
    exact ⟨⟨r.enforcement, rfl⟩, ⟨r.category, rfl⟩⟩
  · obtain rfl := List.mem_singleton.1 h
    exact ⟨⟨.error, rfl⟩, ⟨r.category, rfl⟩⟩

theorem isNamed_of_mem_runAll {g : Graph} {items : List (Rule × Option Asset)} {v : Violation}
    (h : v ∈ (runAll g items).1) : v.IsNamed := by
  induction items generalizing g with
  | nil => simp [runAll] at h
  | cons item rest ih =>
    rw [(runAll_cons g item.1 item.2 rest).1, List.mem_append] at h
    exact h.elim isNamed_of_mem_run ih

theorem isNamed_of_mem_evaluate {rules : List Rule} {assets : List Asset} {g : Graph}
    {v : Violation} (h : v ∈ (evaluate rules assets g).1) : v.IsNamed := isNamed_of_mem_runAll h

end Rule

namespace Report

/-- The lines of a written report. A report without violations is empty and has no line. -/
def porcelainLines (s : String) : List (List Char) :=
  if s = "" then [] else Text.splitOn '\n' s.toList

theorem porcelainLines_toPorcelain (r : Report) :
    porcelainLines r.toPorcelain = r.violations.map (·.toPorcelain.toList) ↔
      ∀ v ∈ r.violations, '\n' ∉ v.toPorcelain.toList := by
  have hwritten : r.toPorcelain.toList =
      ['\n'].intercalate (r.violations.map (·.toPorcelain.toList)) := by
    rw [toPorcelain, Text.toList_joinWith_eq, List.map_map]
    rfl
  cases hviolations : r.violations with
  | nil => simp [porcelainLines, toPorcelain, hviolations, Text.joinWith]
  | cons v more =>
    have hcolon : ':' ∈ r.toPorcelain.toList := by
      rw [hwritten, Text.mem_intercalate (by decide), hviolations]
      refine ⟨v.toPorcelain.toList, by simp, ?_⟩
      rw [v.toList_toPorcelain]
      simp [Violation.porcelainFields, Violation.leadingFields]
    have hne : r.toPorcelain ≠ "" := by
      intro hempty
      simp [hempty] at hcolon
    rw [← hviolations, porcelainLines, if_neg hne, hwritten,
      Text.splitOn_intercalate_iff (by simp [hviolations]), List.forall_mem_map]

/-- What a report for programs says of an evaluation. Its lines are those of the violations, one for
each and in their order, just if no rule, file or identifier has a line feed; and the first five
colons of a line cut it into the six fields just if none of these three has a colon. -/
theorem toPorcelain_decodes (rules : List Rule) (assets : List Asset) (g : Graph) (r : Report) :
    let violations := (Rule.evaluate rules assets g).1
    (porcelainLines { r with violations }.toPorcelain =
          violations.map (·.toPorcelain.toList) ↔
        ∀ v ∈ violations, ∀ field ∈ v.givenFields, '\n' ∉ field.toList) ∧
      ∀ v ∈ violations,
        (Text.cut ':' 5 v.toPorcelain.toList = v.porcelainFields.map String.toList ↔
          ∀ field ∈ v.givenFields, ':' ∉ field.toList) := by
  intro violations
  have hnamed : ∀ v ∈ violations, v.IsNamed := fun v hv => Rule.isNamed_of_mem_evaluate hv
  refine ⟨?_, fun v hv => (hnamed v hv).cut_toPorcelain⟩
  rw [porcelainLines_toPorcelain]
  exact forall₂_congr fun v hv => (hnamed v hv).lineFeed_not_mem

/-- The rule on file names reports an identifier as it is written in the header. -/
def filenames : Rule where
  id := "filename-id"
  name := "File names"
  target := { pathPattern := some "*" }
  checks := [.named .filenameId]

def brokenName : Asset where
  path := "a.mmd"
  header := { id := some "A\nB" }
  body := "graph TD\n"

/-- One violation, of an identifier with a line feed, is written on two lines. -/
theorem toPorcelain_decodes_brokenName :
    let violations := (Rule.evaluate [filenames] [brokenName] {}).1
    violations.map (·.id) = [some "A\nB"] ∧
      porcelainLines { violations : Report }.toPorcelain ≠
        violations.map (·.toPorcelain.toList) := by
  intro violations
  have hids : violations.map (·.id) = [some "A\nB"] := by decide +kernel
  refine ⟨hids, fun hlines => ?_⟩
  obtain ⟨v, hv, hid⟩ := List.mem_map.1 (hids ▸ List.mem_singleton_self (some "A\nB"))
  have hfield : v.id.getD "" ∈ v.givenFields := by simp [Violation.givenFields]
  have hfeed := (toPorcelain_decodes [filenames] [brokenName] {} {}).1.1 hlines v hv _ hfield
  rw [hid] at hfeed
  exact hfeed (by decide)

end Report

end DocTrace
