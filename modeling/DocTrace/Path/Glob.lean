import DocTrace.Path.Basic
import DocTrace.Text.Endings

/-!
Globs over whole paths. `**/` is any number of leading folders, `**` any text,
`*` and `?` stay within one segment, and `{a,b}` offers alternatives. A group
that is left open ends with the pattern.
-/

namespace DocTrace

inductive Glob where
  | empty
  | char (c : Char)
  /-- One character of a segment. -/
  | inSegment
  /-- Any text within a segment. -/
  | segment
  | text
  /-- Nothing, or any text that ends in a slash. -/
  | folders
  | seq (first second : Glob)
  | alt (first second : Glob)
deriving DecidableEq

namespace Glob

/-- A group that is being read: its finished alternatives and the current one. -/
structure Group where
  alternatives : List Glob := []
  current : Glob := .empty

namespace Group

def add (g : Group) (item : Glob) : Group := { g with current := .seq g.current item }

def nextAlternative (g : Group) : Group := ⟨g.alternatives ++ [g.current], .empty⟩

def close (g : Group) : Glob := g.alternatives.foldr .alt g.current

end Group

/-- Reads a pattern inside of a group; `outer` holds the groups around it. -/
def read (outer : List Group) (group : Group) : List Char → Glob
  | [] => outer.foldl (fun inner g => (g.add inner).close) group.close
  | '*' :: '*' :: '/' :: s => read outer (group.add .folders) s
  | '*' :: '*' :: s => read outer (group.add .text) s
  | c :: s =>
    if c = '*' then read outer (group.add .segment) s
    else if c = '?' then read outer (group.add .inSegment) s
    else if c = '\x7b' then read (group :: outer) {} s
    else
      match outer with
      | [] => read [] (group.add (.char c)) s
      | g :: gs =>
        if c = '\x7d' then read gs (g.add group.close) s
        else if c = ',' then read outer group.nextAlternative s
        else read outer (group.add (.char c)) s

def ofPattern (pattern : String) : Glob := read [] {} pattern.toList

open Text.Endings

/-- Whether a text has a beginning that the glob matches, with `rest` holding after it. -/
def matchThen : Glob → (List Char → Bool) → List Char → Bool
  | .empty, rest, s => rest s
  | .char c, rest, s => afterOne (· = c) rest s
  | .inSegment, rest, s => afterOne (· ≠ '/') rest s
  | .segment, rest, s => afterSome (· ≠ '/') rest s
  | .text, rest, s => afterSome (· ≠ '\n') rest s
  | .folders, rest, s => rest s || afterSome (· ≠ '\n') (afterOne (· = '/') rest) s
  | .seq first second, rest, s => first.matchThen (second.matchThen rest) s
  | .alt first second, rest, s => first.matchThen rest s || second.matchThen rest s

/-- The endings of a text that have such a beginning, where `row` tells where `rest` holds. -/
def matchRow : Glob → List Char → List Bool → List Bool
  | .empty, _, row => row
  | .char c, s, row => stepRow (· = c) s row
  | .inSegment, s, row => stepRow (· ≠ '/') s row
  | .segment, s, row => spreadRow (· ≠ '/') s row
  | .text, s, row => spreadRow (· ≠ '\n') s row
  | .folders, s, row => orRow row (spreadRow (· ≠ '\n') s (stepRow (· = '/') s row))
  | .seq first second, s, row => first.matchRow s (second.matchRow s row)
  | .alt first second, s, row => orRow (first.matchRow s row) (second.matchRow s row)

theorem matchRow_row (g : Glob) (rest : List Char → Bool) (s : List Char) :
    g.matchRow s (row rest s) = row (g.matchThen rest) s := by
  induction g generalizing rest with
  | empty => rfl
  | char c => exact stepRow_row _ rest s
  | inSegment => exact stepRow_row _ rest s
  | segment => exact spreadRow_row _ rest s
  | text => exact spreadRow_row _ rest s
  | folders => simp only [matchRow, stepRow_row, spreadRow_row, orRow_row]; rfl
  | seq first second h₁ h₂ => simp only [matchRow, h₁, h₂]; rfl
  | alt first second h₁ h₂ => simp only [matchRow, h₁, h₂, orRow_row]; rfl

/-- A text may end in one line break that the glob does not account for. -/
def atEnd (s : List Char) : Bool := s = [] || s = ['\n']

def accepts (g : Glob) (path : String) : Bool :=
  (g.matchRow path.toList (row atEnd path.toList)).headD false

theorem accepts_eq_matchThen (g : Glob) (path : String) :
    g.accepts path = g.matchThen atEnd path.toList := by
  simp [accepts, matchRow_row]

/-- The characters that make a segment of a pattern something other than a name. -/
def special : List Char := ['*', '?', '\x7b', '[']

/-- The directory that a pattern names before its first special segment; a
pattern without one names a file, and the directory is its parent. -/
def folder? (pattern : String) : Option String :=
  let parts := (Path.ofText pattern).parts
  let isName (part : String) : Bool := !part.toList.any special.contains
  let names := parts.takeWhile isName
  let names := if names.length = parts.length then names.dropLast else names
  let folder := Text.joinWith "/" names
  if folder = "" then none else some folder

end Glob

end DocTrace
