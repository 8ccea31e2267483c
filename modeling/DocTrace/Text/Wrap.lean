import DocTrace.Text.Blank
import DocTrace.Text.Line
import DocTrace.Text.Split
import DocTrace.Text.Width

/-!
Texts in a column of fixed width. Lines break between words, tabs go to every
eighth place, and a line with a word that is too long ends in an ellipsis. The
width that a text asks for is that of its longest line.
-/

namespace DocTrace.Text

def tabWidth : Nat := 8

/-- Blanks in place of tabs; `position` is where the text begins in its line. -/
def expandTabs (position : Nat) : List Char → List Char
  | [] => []
  | '\t' :: s =>
    let blanks := 1 + (tabWidth - (position + 1) % tabWidth) % tabWidth
    List.replicate blanks ' ' ++ expandTabs (position + blanks) s
  | c :: s => c :: expandTabs (position + charWidth c) s

/-- The words of a line, each with the blanks behind it; those before the first word are part of
it. The rest is for a line without words. -/
def wordRuns (s : List Char) : List (List Char) :=
  let lead := s.takeWhile isBlank
  match _h : s.dropWhile isBlank with
  | [] => []
  | c :: rest =>
    let word := c :: rest.takeWhile fun x => !isBlank x
    let after := rest.dropWhile fun x => !isBlank x
    (lead ++ word ++ after.takeWhile isBlank) :: wordRuns (after.dropWhile isBlank)
termination_by s.length
decreasing_by
  have h1 := (List.dropWhile_sublist isBlank (l := s)).length_le
  have h2 := (List.dropWhile_sublist (fun x => !isBlank x) (l := rest)).length_le
  have h3 := (List.dropWhile_sublist isBlank
    (l := rest.dropWhile fun x => !isBlank x)).length_le
  rw [_h, List.length_cons] at h1
  omega

/-- Puts words on lines of a width; `line` is the line that is being filled and `used` its width.
A word that is too long for every line begins one of its own. -/
def fillLines (width used : Nat) (line : List Char) : List (List Char) → List (List Char)
  | [] => [line]
  | run :: runs =>
    let size := displayWidth run
    if used + displayWidth (dropEndWhile isBlank run) ≤ width || line.isEmpty then
      fillLines width (used + size) (line ++ run) runs
    else line :: fillLines width size run runs

/-- The beginning of a text that takes `total` places, looked for by halving between two places.
Half of a double character that would stand over the end is a blank. -/
def cutAt (total : Nat) (s : List Char) : Nat → Nat → Nat → List Char
  | 0, start, _ => s.take start
  | fuel + 1, start, stop =>
    let pos := (start + stop) / 2
    let before := s.take (pos + 1)
    let size := displayWidth before
    if size = total + 1 && (before.getLast?.map charWidth).getD 0 = 2 then
      before.dropLast ++ [' ']
    else if size = total then before
    else if size > total then cutAt total s fuel start pos
    else cutAt total s fuel pos stop

def setWidth (total : Nat) (s : List Char) : List Char :=
  let size := displayWidth s
  if size ≤ total then s ++ List.replicate (total - size) ' '
  else if total = 0 then []
  else cutAt total s s.length 0 s.length

/-- A text filled up to a width, or cut short with an ellipsis. -/
def fitted (width : Nat) (s : List Char) : List Char :=
  if displayWidth s ≤ width then setWidth width s else setWidth (width - 1) s ++ ['…']

/-- Drops blanks from the end of a line, but no more than it has characters beyond the width. -/
def dropExcessBlanks (width : Nat) (s : List Char) : List Char :=
  let blanks := s.length - (dropEndWhile isBlank s).length
  s.take (s.length - min blanks (s.length - width))

def wrapLine (width : Nat) (s : List Char) : List (List Char) :=
  let s := expandTabs 0 s
  let lines :=
    match wordRuns s with
    | [] => [s]
    | runs => fillLines width 0 [] runs
  lines.map fun line => fitted width (dropExcessBlanks width line)

def wrap (width : Nat) (s : List Char) : List (List Char) :=
  (splitOn '\n' s).flatMap (wrapLine width)

def naturalWidth (s : List Char) : Nat := ((lines s).map displayWidth).foldl max 0

end DocTrace.Text
