import DocTrace.Text.Endings
import DocTrace.Text.Split

/-!
Wildcard patterns over a text as a whole: `*` is any text, `?` any character,
and a set in brackets one character, which may be given by ranges and negated.
-/

namespace DocTrace

namespace Wildcard

inductive Item where
  | star
  | any
  | one (c : Char)
  | oneOf (negated : Bool) (ranges : List (Char × Char))
deriving DecidableEq

/-- Cuts the inside of brackets at the dashes that stand for ranges. `held` characters
are taken before a dash counts; `piece` is the reversed beginning of a piece. -/
def cutAtDashes (held : Nat) (piece : List Char) : List Char → List (List Char)
  | [] => [piece.reverse]
  | c :: s =>
    if c = '-' && held = 0 then piece.reverse :: cutAtDashes 2 [] s
    else cutAtDashes (held - 1) (c :: piece) s

/-- A dash at the end stands for itself. -/
def keepLastDash : List (List Char) → List (List Char)
  | [] => []
  | [piece] => [piece]
  | [piece, []] => [piece ++ ['-']]
  | piece :: rest => piece :: keepLastDash rest

/-- Takes out the ranges whose ends are in the wrong order. -/
def dropEmptyRanges : List (List Char) → List (List Char)
  | [] => []
  | piece :: rest =>
    match dropEmptyRanges rest with
    | [] => [piece]
    | next :: others =>
      match piece.getLast?, next.head? with
      | some low, some high =>
        if high < low then (piece.dropLast ++ next.tail) :: others else piece :: next :: others
      | _, _ => piece :: next :: others

/-- Every character of the pieces, and a range from the end of each to the start of the next. -/
def ranges : List (List Char) → List (Char × Char)
  | [] => []
  | piece :: rest =>
    let between :=
      match piece.getLast?, rest.head?.bind List.head? with
      | some low, some high => [(low, high)]
      | none, some _ => [('-', '-')]
      | _, none => []
    piece.map (fun c => (c, c)) ++ between ++ ranges rest

def setOf (inside : List Char) : Item :=
  let held := if inside.head? = some '!' then 2 else 1
  match dropEmptyRanges (keepLastDash (cutAtDashes held [] inside)) with
  | ('!' :: piece) :: rest => .oneOf true (ranges (piece :: rest))
  | pieces => .oneOf false (ranges pieces)

/-- What stands before the closing bracket, if there is one. A bracket right at
the beginning, or right after an exclamation mark there, does not close. -/
def inside? (s : List Char) : Option (List Char) :=
  let mark := if s.head? = some '!' then ['!'] else []
  let s := s.drop mark.length
  let first := if s.head? = some ']' then [']'] else []
  let s := s.drop first.length
  if s.contains ']' then some (mark ++ first ++ s.takeWhile (· ≠ ']')) else none

/-- Reads a pattern after leaving out `skip` characters. -/
def itemsFrom (skip : Nat) : List Char → List Item
  | [] => []
  | c :: s =>
    if skip ≠ 0 then itemsFrom (skip - 1) s
    else if c = '*' then .star :: itemsFrom 0 s
    else if c = '?' then .any :: itemsFrom 0 s
    else if c = '[' then
      match inside? s with
      | some inside => setOf inside :: itemsFrom (inside.length + 1) s
      | none => .one c :: itemsFrom 0 s
    else .one c :: itemsFrom 0 s

def items (pattern : List Char) : List Item := itemsFrom 0 pattern

def Item.takes : Item → Char → Bool
  | .star, _ => true
  | .any, _ => true
  | .one c, d => c = d
  | .oneOf negated ranges, d => negated != ranges.any fun r => r.1 ≤ d && d ≤ r.2

open Text.Endings

def takesAll : List Item → List Char → Bool
  | [], s => s.isEmpty
  | .star :: is, s => afterSome (fun _ => true) (takesAll is) s
  | i :: is, s => afterOne i.takes (takesAll is) s

def takesRow (s : List Char) : List Item → List Bool
  | [] => row List.isEmpty s
  | .star :: is => spreadRow (fun _ => true) s (takesRow s is)
  | i :: is => stepRow i.takes s (takesRow s is)

theorem takesRow_eq (s : List Char) (is : List Item) : takesRow s is = row (takesAll is) s := by
  induction is with
  | nil => rfl
  | cons i is ih => cases i <;> simp only [takesRow, ih, spreadRow_row, stepRow_row] <;> rfl

def accepts (pattern text : String) : Bool :=
  (takesRow text.toList (items pattern.toList)).headD false

theorem accepts_eq_takesAll (pattern text : String) :
    accepts pattern text = takesAll (items pattern.toList) text.toList := by
  simp [accepts, takesRow_eq]

end Wildcard

end DocTrace
