import DocTrace.Text.Blank
import DocTrace.Text.Case
import DocTrace.Text.Emoji.Table

/-!
Emoji codes in a text. A code is a name between two colons without a blank in
it; a hyphen and the word `text` or `emoji` before the last colon ask for one of
the two presentations. Codes of unknown names stay as they are.
-/

namespace DocTrace.Text

/-- The symbol after a name in a row of names and symbols by turns. -/
def symbolIn? (name : List Char) : List (List Char) → Option (List Char)
  | key :: symbol :: rest => if key = name then some symbol else symbolIn? name rest
  | _ => none

def emoji? (name : List Char) : Option (List Char) :=
  let name := lower name
  emojiNames.findSome? fun row => symbolIn? name (words row.toList)

def withoutEnd? (ending s : List Char) : Option (List Char) :=
  if ending.isSuffixOf s then some (s.take (s.length - ending.length)) else none

/-- The name of a code and the selector of the presentation that it asks for. -/
def presentation (code : List Char) : List Char × List Char :=
  match withoutEnd? "-emoji".toList code with
  | some name => (name, ['\uFE0F'])
  | none =>
    match withoutEnd? "-text".toList code with
    | some name => (name, ['\uFE0E'])
    | none => (code, [])

def symbol? (code : List Char) : Option (List Char) :=
  (emoji? (presentation code).1).map (· ++ (presentation code).2)

/-- What stands before the next colon, and what follows it; none if a blank or the end is first. -/
def code? : List Char → Option (List Char × List Char)
  | [] => none
  | c :: s =>
    if c = ':' then some ([], s)
    else if isBlank c then none
    else (code? s).map fun r => (c :: r.1, r.2)

theorem eq_append_of_code? {s code rest : List Char} (h : code? s = some (code, rest)) :
    s = code ++ ':' :: rest := by
  induction s generalizing code rest with
  | nil => simp [code?] at h
  | cons c s ih =>
    simp only [code?] at h
    split at h
    · next hc => simp only [Option.some.injEq, Prod.mk.injEq] at h; simp [← h.1, hc, h.2]
    · split at h
      · simp at h
      · obtain ⟨⟨code', rest'⟩, hs, heq⟩ := Option.map_eq_some_iff.1 h
        simp only [Prod.mk.injEq] at heq
        rw [← heq.1, ← heq.2, List.cons_append, ih hs]

def expandEmoji (s : List Char) : List Char :=
  match s with
  | [] => []
  | c :: s =>
    if c = ':' then
      match _h : code? s with
      | some (code, rest) => (symbol? code).getD (':' :: code ++ [':']) ++ expandEmoji rest
      | none => c :: expandEmoji s
    else c :: expandEmoji s
termination_by s.length
decreasing_by
  · simp [eq_append_of_code? _h]; omega
  all_goals simp

theorem expandEmoji_eq_self {s : List Char} (h : ':' ∉ s) : expandEmoji s = s := by
  induction s with
  | nil => simp [expandEmoji]
  | cons c s ih =>
    simp only [List.mem_cons, not_or] at h
    rw [expandEmoji, if_neg (Ne.symm h.1), ih h.2]

end DocTrace.Text
