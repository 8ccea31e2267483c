import DocTrace.Proofs.Diagram.LineReading
import DocTrace.Proofs.Diagram.Sketch

/-! Calls of a C4 diagram. The arguments of a call are cut at its commas, but not at those between
double quotes: a list of arguments is read back as it was written. A relation in a line of its own
draws one edge, whatever its quoted arguments hold. -/

namespace DocTrace.Diagram

open Text

namespace C4

/-! ### Written arguments -/

/-- An argument as it is written: bare, or between double quotes, where all other characters may
stand. -/
inductive Argument where
  | bare (text : List Char) (ne_nil : text ≠ []) (trimmed : trim text = text)
      (comma_not_mem : ',' ∉ text) (quote_not_mem : '"' ∉ text)
  | quoted (text : List Char) (quote_not_mem : '"' ∉ text)

namespace Argument

def written : Argument → List Char
  | bare text .. => text
  | quoted text _ => '"' :: text ++ ['"']

/-- What an argument says. Around a bare one there may be single quotes. -/
def value : Argument → List Char
  | bare text .. =>
    if 2 ≤ text.length ∧ text.head? = some '\'' ∧ text.getLast? = some '\'' then text.tail.dropLast
    else text
  | quoted text _ => text

end Argument

/-- Arguments with commas between them, and some spaces behind each comma. -/
def joined (first : Argument) (others : List (ℕ × Argument)) : List Char :=
  first.written ++
    others.flatMap fun other => ',' :: (List.replicate other.1 ' ' ++ other.2.written)

theorem joined_cons (first : Argument) (next : ℕ × Argument) (others : List (ℕ × Argument)) :
    joined first (next :: others) =
      first.written ++ ',' :: (List.replicate next.1 ' ' ++ joined next.2 others) := by
  simp [joined]

theorem mem_joined {first : Argument} {others : List (ℕ × Argument)} {c : Char}
    (hc : c ∈ joined first others) :
    (∃ a ∈ first :: others.map Prod.snd, c ∈ a.written) ∨ c = ',' ∨ c = ' ' := by
  rcases List.mem_append.1 hc with hc | hc
  · exact .inl ⟨first, List.mem_cons_self .., hc⟩
  · obtain ⟨other, hother, hc⟩ := List.mem_flatMap.1 hc
    rcases List.mem_cons.1 hc with rfl | hc
    · exact .inr (.inl rfl)
    rcases List.mem_append.1 hc with hc | hc
    · exact .inr (.inr (List.eq_of_mem_replicate hc))
    · exact .inl ⟨other.2, List.mem_cons_of_mem _ (List.mem_map_of_mem hother), hc⟩

namespace Argument

variable (a : Argument)

theorem isTight_written : IsTight a.written := by
  cases a with
  | bare text ne_nil trimmed =>
    have htight := isTight_trim (trimmed.symm ▸ ne_nil)
    rwa [trimmed] at htight
  | quoted text =>
    have hquote : IsTight ['"'] := isTight_singleton (by decide)
    exact hquote.append hquote text

theorem written_ne_nil : a.written ≠ [] := by
  cases a with
  | bare text ne_nil => exact ne_nil
  | quoted text => exact List.cons_ne_nil '"' _

theorem unquote_written : unquote a.written = a.value := by
  cases a with
  | bare text ne_nil trimmed _ quote_not_mem =>
    obtain ⟨c, t, rfl⟩ := List.exists_cons_of_ne_nil ne_nil
    have hquote : isQuote c = decide (c = '\'') := by
      have hc : c ≠ '"' := fun h => quote_not_mem (h ▸ List.mem_cons_self ..)
      simp [isQuote, hc]
    rw [written, unquote, trimmed]
    cases t with
    | nil => simp [value]
    | cons d t =>
      by_cases hc : c = '\''
      · simp [value, hc, isQuote]
      · simp [value, hc, hquote]
  | quoted text => exact unquote_quoted (by decide) text

end Argument

/-! ### Arguments are read back -/

/-- Without quotes, and without commas outside of them, a text is read up to its end. -/
theorem argumentsFrom_append {quoted : Bool} {s : List Char}
    (h : ∀ c ∈ s, c ≠ '"' ∧ (c = ',' → quoted = true)) (piece rest : List Char) :
    argumentsFrom quoted piece (s ++ rest) = argumentsFrom quoted (s.reverse ++ piece) rest := by
  induction s generalizing piece with
  | nil => rfl
  | cons c s ih =>
    obtain ⟨⟨hquote, hcomma⟩, hs⟩ := List.forall_mem_cons.1 h
    have hkept : ¬(decide (c = ',') && !quoted) = true := by
      simpa using hcomma
    rw [List.cons_append, argumentsFrom, if_neg hkept, if_neg hquote, ih hs, List.reverse_cons,
      List.append_assoc]
    rfl

theorem argumentsFrom_spaces (n : ℕ) (piece rest : List Char) :
    argumentsFrom false piece (List.replicate n ' ' ++ rest) =
      argumentsFrom false (List.replicate n ' ' ++ piece) rest := by
  have hspaces : ∀ c ∈ List.replicate n ' ', c ≠ '"' ∧ (c = ',' → false = true) := by
    intro c hc
    obtain rfl := List.eq_of_mem_replicate hc
    decide
  rw [argumentsFrom_append hspaces, List.reverse_replicate]

/-- The quotes of an argument are closed again at its end. -/
theorem Argument.argumentsFrom_written (a : Argument) (piece rest : List Char) :
    argumentsFrom false piece (a.written ++ rest) =
      argumentsFrom false (a.written.reverse ++ piece) rest := by
  cases a with
  | bare text _ _ comma_not_mem quote_not_mem =>
    exact argumentsFrom_append (fun c hc => ⟨ne_of_mem_of_not_mem hc quote_not_mem,
      fun h => absurd (h ▸ hc) comma_not_mem⟩) piece rest
  | quoted text quote_not_mem =>
    have htext : ∀ c ∈ text, c ≠ '"' ∧ (c = ',' → true = true) := fun c hc =>
      ⟨ne_of_mem_of_not_mem hc quote_not_mem, fun _ => rfl⟩
    calc argumentsFrom false piece (('"' :: text ++ ['"']) ++ rest)
      _ = argumentsFrom true ('"' :: piece) (text ++ '"' :: rest) := by
        rw [List.cons_append, List.cons_append, List.append_assoc]
        rfl
      _ = argumentsFrom true (text.reverse ++ '"' :: piece) ('"' :: rest) :=
        argumentsFrom_append htext _ _
      _ = argumentsFrom false (('"' :: text ++ ['"']).reverse ++ piece) rest := by
        simp [argumentsFrom]

theorem splitArguments_spaced (n : ℕ) (first : Argument) (others : List (ℕ × Argument)) :
    splitArguments (List.replicate n ' ' ++ joined first others) =
      first.written :: others.map fun other => other.2.written := by
  have hpiece (n : ℕ) (a : Argument) :
      trim (a.written.reverse ++ (List.replicate n ' ' ++ [])).reverse = a.written := by
    have hspaces : ∀ c ∈ List.replicate n ' ', isBlank c = true := by
      intro c hc
      rw [List.eq_of_mem_replicate hc]
      decide
    rw [List.append_nil, List.reverse_append, List.reverse_reverse, List.reverse_replicate,
      trim_blanks_append hspaces, a.isTight_written.trim_eq]
  -- The spaces behind a comma stand before the next argument, where those of the list stand too.
  induction others generalizing n first with
  | nil =>
    have hend : joined first [] = first.written ++ [] := rfl
    rw [splitArguments, argumentsFrom_spaces, hend, first.argumentsFrom_written, argumentsFrom,
      hpiece, if_neg (by simpa using first.written_ne_nil)]
    rfl
  | cons next others ih =>
    have hcut (piece rest : List Char) :
        argumentsFrom false piece (',' :: rest) = trim piece.reverse :: splitArguments rest := rfl
    rw [splitArguments, argumentsFrom_spaces, joined_cons, first.argumentsFrom_written, hcut,
      hpiece, ih, List.map_cons]

/-- Cutting undoes joining. -/
theorem splitArguments_joined (first : Argument) (others : List (ℕ × Argument)) :
    splitArguments (joined first others) =
      first.written :: others.map fun other => other.2.written :=
  splitArguments_spaced 0 first others

/-! ### Relations -/

/-- A relation between two arguments, and a label. What stands behind a comma may be set off by
spaces. -/
structure Relation where
  word : String
  first : Argument
  second : ℕ × Argument
  label : Option (ℕ × Argument) := none
  word_mem : word ∈ relationWords

/-- What the words of relations have in common. -/
theorem relationWords_spelled : ∀ word ∈ relationWords,
    word.toList ≠ [] ∧ word.toList.all isCallChar = true ∧ word.toList.all isNameChar = true ∧
      isElement word = false ∧ isBoundary word = false := by
  decide +kernel

namespace Relation

def others (r : Relation) : List (ℕ × Argument) := r.second :: r.label.toList

/-- What is read in its text. -/
def call (r : Relation) : Call where
  word := r.word
  arguments := r.first.written :: r.others.map fun other => other.2.written

def text (r : Relation) : List Char :=
  r.word.toList ++ '(' :: (joined r.first r.others ++ [')'])

/-- What the label says, if it says anything. -/
def shown (r : Relation) : Option (List Char) :=
  (r.label.map fun label => label.2.value).filter (!·.isEmpty)

def edge (r : Relation) : Edge :=
  let source := if r.word = backwardWord then r.second.2.value else r.first.value
  let target := if r.word = backwardWord then r.first.value else r.second.2.value
  ⟨.ofList source, .ofList target, r.shown.map .ofList⟩

/-- No argument breaks the line. -/
def IsLine (r : Relation) : Prop :=
  ∀ a ∈ r.first :: r.others.map Prod.snd, (a.written.all fun c => !isLineBreak c) = true

instance (r : Relation) : Decidable r.IsLine :=
  inferInstanceAs (Decidable (∀ a ∈ r.first :: r.others.map Prod.snd, _ = true))

end Relation

/-- Parentheses inside of a call count for nothing. -/
theorem call?_written {word : List Char} (hne : word ≠ []) (h : ∀ c ∈ word, isCallChar c = true)
    (inner : List Char) :
    call? (word ++ '(' :: (inner ++ [')'])) = some ⟨.ofList word, splitArguments inner⟩ := by
  have hword : span1? isCallChar (word ++ '(' :: (inner ++ [')'])) =
      some (word, '(' :: (inner ++ [')'])) :=
    span1?_append hne h (forall_head?_cons (by decide) _)
  have hopening : after? ['('] (skipBlanks ('(' :: (inner ++ [')']))) = some (inner ++ [')']) := by
    rw [skipBlanks_cons (by decide)]
    rfl
  have hclosing : dropEndWhile isBlank (inner ++ [')']) = inner ++ [')'] :=
    dropEndWhile_concat (by decide) inner
  simp [call?, hword, hopening, hclosing]

namespace Relation

variable (r : Relation)

theorem call?_text : call? r.text = some r.call := by
  obtain ⟨hne, hword, -⟩ := relationWords_spelled r.word r.word_mem
  rw [text, call?_written hne (List.all_eq_true.1 hword), splitArguments_joined,
    String.ofList_toList, call]

theorem marks_call :
    r.call.marks =
      if r.word = backwardWord then connection r.second.2.value r.first.value r.shown
      else connection r.first.value r.second.2.value r.shown := by
  obtain ⟨-, -, -, helement, hboundary⟩ := relationWords_spelled r.word r.word_mem
  have hvalue : (unquote ∘ fun other : ℕ × Argument => other.2.written) =
      fun other => other.2.value :=
    funext fun other => other.2.unquote_written
  simp [Call.marks, call, helement, hboundary, others, r.word_mem, Argument.unquote_written,
    hvalue, shown]

end Relation

/-! ### Lines of a diagram -/

/-- The edges that lines draw, each read by itself. -/
def edgesOf (lines : List (List Char)) : List Edge :=
  (((lines.map trim).filterMap call?).flatMap Call.marks).filterMap Mark.edge?

theorem edges_analyze (content : String) :
    (DiagramKind.c4.analyze content).edges = edgesOf (bodyLines content.toList) := by
  simp only [DiagramKind.analyze, DiagramKind.marks, Sketch.toAnalysis]
  rw [Sketch.edges_ofMarks, marks, edgesOf]

theorem edgesOf_append (front back : List (List Char)) :
    edgesOf (front ++ back) = edgesOf front ++ edgesOf back := by
  simp only [edgesOf, List.map_append, List.filterMap_append, List.flatMap_append]

theorem edgesOf_filled (lines : List (List Char)) : edgesOf (filled lines) = edgesOf lines := by
  rw [edgesOf, filterMap_filled rfl, edgesOf]

/-- Lines below a diagram draw their edges behind those of the diagram. -/
theorem edgesOf_bodyLines_append {s word rest : List Char} (hword : keyword? s = some word)
    (hdash : word.head? ≠ some '-') (hrest : ∀ c ∈ rest.head?, c = '\n') :
    edgesOf (bodyLines (s ++ rest)) = edgesOf (bodyLines s) ++ edgesOf (writtenLines rest) := by
  rw [← edgesOf_filled, ← tail_filledLines_clean, filledLines_clean_append hword hdash hrest,
    List.tail_append_of_ne_nil (filledLines_clean_ne_nil hword), edgesOf_append,
    tail_filledLines_clean, edgesOf_filled]

/-- A diagram that goes on keeps its edges, and the lines below add theirs. -/
theorem edges_analyze_append {before content : String} {word rest : List Char}
    (hword : keyword? before.toList = some word) (hkind : .ofList word ∈ DiagramKind.c4.openers)
    (hcontent : content.toList = before.toList ++ rest) (hrest : ∀ c ∈ rest.head?, c = '\n') :
    (analyze content).edges = (analyze before).edges ++ edgesOf (writtenLines rest) := by
  have hdash := DiagramKind.head?_opener hkind
  have hopening : keyword? content.toList = some word := by
    rw [hcontent]
    exact keyword?_append hword hdash hrest
  rw [analyze_of_opener hopening hkind, analyze_of_opener hword hkind, edges_analyze,
    edges_analyze, hcontent, edgesOf_bodyLines_append hword hdash hrest]

namespace Relation

variable (r : Relation)

/-- A relation draws its edge and no other. -/
theorem edgesOf_line {line : List Char} (h : trim line = r.text) : edgesOf [line] = [r.edge] := by
  have hmarks : edgesOf [line] = r.call.marks.filterMap Mark.edge? := by
    simp [edgesOf, h, r.call?_text]
  rw [hmarks, r.marks_call, edge]
  split <;> rfl

theorem isTight_text : IsTight r.text := by
  obtain ⟨hne, -, hname, -⟩ := relationWords_spelled r.word r.word_mem
  have hopening : IsTight r.word.toList := isTight_name hne (List.all_eq_true.1 hname)
  have hclosing : IsTight [')'] := isTight_singleton (by decide)
  exact hopening.append hclosing ('(' :: joined r.first r.others)

theorem opensComment_text : opensComment r.text = false := by
  obtain ⟨hne, -, hname, -⟩ := relationWords_spelled r.word r.word_mem
  obtain ⟨c, t, hcons⟩ := List.exists_cons_of_ne_nil hne
  rw [text, hcons]
  exact opensComment_name (List.all_eq_true.1 hname c (hcons ▸ List.mem_cons_self ..)) _

theorem isLineBreak_text (h : r.IsLine) : ∀ c ∈ r.text, isLineBreak c = false := by
  obtain ⟨-, -, hname, -⟩ := relationWords_spelled r.word r.word_mem
  have hjoined : ∀ c ∈ joined r.first r.others, isLineBreak c = false := by
    intro c hc
    rcases mem_joined hc with ⟨a, ha, hc⟩ | rfl | rfl
    · exact forall_eq_false_of_all (h a ha) c hc
    · decide
    · decide
  refine List.forall_mem_append.2 ⟨fun c hc => ?_, List.forall_mem_cons.2 ⟨by decide, ?_⟩⟩
  · exact isLineBreak_eq_false (isBlank_of_isNameChar (List.all_eq_true.1 hname c hc))
  · exact List.forall_mem_append.2 ⟨hjoined, List.forall_mem_singleton.2 (by decide)⟩

section

variable {indent ending rest : List Char}
  (hindent : ∀ c ∈ indent, isBlank c = true ∧ isLineBreak c = false)

include hindent

theorem trim_indented : trim (indent ++ r.text) = r.text := by
  rw [trim_blanks_append fun c hc => (hindent c hc).1, r.isTight_text.trim_eq]

theorem writtenLines_indented (h : r.IsLine) :
    writtenLines (indent ++ r.text) = filled [indent ++ r.text] := by
  have hline : ∀ c ∈ indent ++ r.text, isLineBreak c = false :=
    List.forall_mem_append.2 ⟨fun c hc => (hindent c hc).2, r.isLineBreak_text h⟩
  have hfeed : '\n' ∉ indent ++ r.text := fun hmem => absurd (hline _ hmem) (by decide)
  have hopens : opensComment (indent ++ r.text) = false := by
    rw [opensComment_append_of_blanks fun c hc => (hindent c hc).1, r.opensComment_text]
  rw [writtenLines_of_not_opensComment hfeed hopens, filledLines_line hline]

theorem edgesOf_writtenLines (h : r.IsLine) (hending : ∀ c ∈ ending, isBlank c = true ∧ c ≠ '\n')
    (hrest : ∀ c ∈ rest.head?, c = '\n') :
    edgesOf (writtenLines ('\n' :: (indent ++ r.text ++ (ending ++ rest)))) =
      r.edge :: edgesOf (writtenLines rest) := by
  have hbreak : ∀ c ∈ rest.head?, isLineBreak c = true := by
    intro c hc
    rw [hrest c hc]
    decide
  rw [writtenLines_feed, writtenLines_append_blanks (fun c hc => (hending c hc).1)
    (fun hmem => (hending _ hmem).2 rfl) hbreak, writtenLines_append hrest,
    r.writtenLines_indented hindent h, edgesOf_append, edgesOf_filled,
    r.edgesOf_line (r.trim_indented hindent), List.singleton_append]

end

/-- A diagram that goes on with the relation in a line of its own, between blanks, and with the
lines behind it. -/
def below (before : String) (indent ending : List Char) (rest : String) : String :=
  before ++ "\n" ++ (.ofList (indent ++ r.text ++ ending) ++ rest)

theorem toList_below (before : String) (indent ending : List Char) (rest : String) :
    (r.below before indent ending rest).toList =
      before.toList ++ '\n' :: (indent ++ r.text ++ (ending ++ rest.toList)) := by
  rw [below, toList_append_feed, String.toList_append, String.toList_ofList, List.append_assoc]

end Relation

/-- Cutting a list of arguments undoes joining them. A line of a diagram that is a relation draws
one edge in its place, between what the two arguments say; and where a relation without a line
break in an argument is written in a line of its own, that edge is all that is added. -/
theorem analyze_relation :
    (∀ (first : Argument) (others : List (ℕ × Argument)),
      splitArguments (joined first others) =
        first.written :: others.map fun other => other.2.written) ∧
    (∀ (r : Relation) (content : String) (front back : List (List Char)) (line : List Char),
      bodyLines content.toList = front ++ line :: back → trim line = r.text →
      (DiagramKind.c4.analyze content).edges = edgesOf front ++ r.edge :: edgesOf back) ∧
    ∀ (r : Relation) (before rest : String) (word indent ending : List Char),
      r.IsLine →
      keyword? before.toList = some word → .ofList word ∈ DiagramKind.c4.openers →
      (∀ c ∈ indent, isBlank c = true ∧ isLineBreak c = false) →
      (∀ c ∈ ending, isBlank c = true ∧ c ≠ '\n') → (∀ c ∈ rest.toList.head?, c = '\n') →
      ∃ later,
        (analyze (before ++ rest)).edges = (analyze before).edges ++ later ∧
        (analyze (r.below before indent ending rest)).edges =
          (analyze before).edges ++ r.edge :: later := by
  refine ⟨splitArguments_joined, ?_, ?_⟩
  · intro r content front back line hbody hline
    rw [edges_analyze, hbody, edgesOf_append, ← List.singleton_append, edgesOf_append,
      r.edgesOf_line hline, List.singleton_append]
  · intro r before rest word indent ending hr hword hkind hindent hending hrest
    have hbelow := edges_analyze_append hword hkind (r.toList_below before indent ending rest)
      fun _ hc => (Option.some.inj hc).symm
    refine ⟨_, edges_analyze_append hword hkind String.toList_append hrest, ?_⟩
    rw [hbelow, r.edgesOf_writtenLines hindent hr hending hrest]

/-! Commas, parentheses and a comment mark in quoted arguments of a relation that is drawn
backward. -/

def sampleBackward : Relation where
  word := "Rel_Back"
  first := .quoted "a, (b".toList (by decide)
  second := (2, .bare "'c'".toList (by decide) (by decide) (by decide) (by decide))
  label := some (0, .quoted "%% x), y \x7b".toList (by decide))
  word_mem := by decide

def sampleText : String :=
  "C4Context\n Rel_Back(\"a, (b\",  'c',\"%% x), y \x7b\")\r\nRel(d, e)"

theorem analyze_relation_backward :
    splitArguments (joined sampleBackward.first sampleBackward.others) =
        ["\"a, (b\"".toList, "'c'".toList, "\"%% x), y \x7b\"".toList] ∧
      (bodyLines sampleText.toList =
          [] ++ (' ' :: sampleBackward.text) :: ["Rel(d, e)".toList] ∧
        (DiagramKind.c4.analyze sampleText).edges =
          ⟨"c", "a, (b", some "%% x), y \x7b"⟩ :: edgesOf ["Rel(d, e)".toList]) ∧
      (sampleBackward.IsLine ∧ keyword? "C4Context".toList = some "C4Context".toList ∧
        "C4Context" ∈ DiagramKind.c4.openers ∧
        sampleText = sampleBackward.below "C4Context" [' '] ['\r'] "\nRel(d, e)") ∧
      (analyze sampleText).edges = [⟨"c", "a, (b", some "%% x), y \x7b"⟩, ⟨"d", "e", none⟩] := by
  have hlines : bodyLines sampleText.toList =
      [] ++ (' ' :: sampleBackward.text) :: ["Rel(d, e)".toList] := by
    decide +kernel
  have hedge : sampleBackward.edge = ⟨"c", "a, (b", some "%% x), y \x7b"⟩ := by decide +kernel
  have hbody := analyze_relation.2.1 sampleBackward sampleText [] _ _ hlines (by decide +kernel)
  have hline : sampleBackward.IsLine := by decide +kernel
  have hword : keyword? "C4Context".toList = some "C4Context".toList := by decide +kernel
  have hkind : "C4Context" ∈ DiagramKind.c4.openers := by decide
  have htext : sampleText = sampleBackward.below "C4Context" [' '] ['\r'] "\nRel(d, e)" := by
    decide +kernel
  have hopening : (analyze "C4Context").edges = [] := by decide +kernel
  have hrest : (analyze ("C4Context" ++ "\nRel(d, e)")).edges = [⟨"d", "e", none⟩] := by
    decide +kernel
  obtain ⟨later, hwithout, hwith⟩ := analyze_relation.2.2 sampleBackward "C4Context" "\nRel(d, e)"
    _ [' '] ['\r'] hline hword hkind (List.forall_mem_singleton.2 (by decide))
    (List.forall_mem_singleton.2 (by decide)) fun _ hc => (Option.some.inj hc).symm
  rw [hopening, List.nil_append, hrest] at hwithout
  refine ⟨(analyze_relation.1 _ _).trans (by decide), ⟨hlines, hedge ▸ hbody⟩,
    ⟨hline, hword, hkind, htext⟩, ?_⟩
  rw [htext, hwith, hopening, hedge, ← hwithout, List.nil_append]

end C4

end DocTrace.Diagram
