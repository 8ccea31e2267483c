import DocTrace.Text.Wrap

/-!
Boxed tables for a terminal. Every cell stands between two blanks, every column
asks for the width of its widest cell, and the title is centred above the box.
Columns that ask for more than the terminal has give way, the widest ones first.
-/

namespace DocTrace.Text

/-- The nearest whole number to a quotient; a half goes to the even one. -/
def roundedQuotient (a b : Nat) : Nat :=
  let q := a / b
  let r := a % b
  if 2 * r < b then q else if b < 2 * r then q + 1 else q + q % 2

structure Grid where
  title : List Char
  header : List (List Char)
  /-- The rows; a cell may have several lines. -/
  rows : List (List (List Char))

namespace Grid

def padding : Nat := 2

/-- The widths that the columns ask for, with the blanks. -/
def naturalWidths (g : Grid) : List Nat :=
  let ask (row : List (List Char)) := row.map fun cell => naturalWidth cell + padding
  g.rows.foldl (fun ws row => List.zipWith max ws (ask row)) (ask g.header)

/-- Takes `excess` from the chosen columns in equal shares, from each at most its limit. -/
def shrink (excess chosen : Nat) : List (Nat × Bool × Nat) → List Nat
  | [] => []
  | (width, isChosen, limit) :: rest =>
    if isChosen && 0 < chosen then
      let share := min limit (roundedQuotient excess chosen)
      (width - share) :: shrink (excess - share) (chosen - 1) rest
    else width :: shrink excess chosen rest

/-- Brings the widest columns down to the next width, again and again, until all widths together
are small enough. Every round makes a column smaller, so the sum is enough fuel. -/
def collapse (total : Nat) : Nat → List Nat → List Nat
  | 0, ws => ws
  | fuel + 1, ws =>
    let excess := ws.foldl (· + ·) 0 - total
    let widest := ws.foldl max 0
    let next := (ws.filter (· ≠ widest)).foldl max 0
    if excess = 0 then ws
    else
      collapse total fuel
        (shrink excess (ws.filter (· = widest)).length
          (ws.map fun w => (w, w = widest, min excess (widest - next))))

/-- The widths of the columns when they have `total` places together. -/
def widthsWithin (total : Nat) (g : Grid) : List Nat :=
  let natural := g.naturalWidths.map (min total)
  collapse total (natural.foldl (· + ·) 0) natural

/-- One line of the box: a left end, the columns with a mark between them, a right end. -/
def boxLine (left mid right : Char) (columns : List (List Char)) : List Char :=
  left :: [mid].intercalate columns ++ [right]

def rule (ws : List Nat) (fill left mid right : Char) : List Char :=
  boxLine left mid right (ws.map fun w => List.replicate w fill)

def rowLines (ws : List Nat) (mark : Char) (row : List (List Char)) : List (List Char) :=
  let cells := List.zipWith (fun w cell => wrap (w - padding) cell) ws row
  (List.range ((cells.map List.length).foldl max 1)).map fun i =>
    boxLine mark mark mark
      (List.zipWith (fun w cell => ' ' :: setWidth (w - padding) (cell[i]?.getD []) ++ [' '])
        ws cells)

/-- The title in the middle of a width; an odd blank goes to the right. -/
def centred (width : Nat) (title : List Char) : List Char :=
  setWidth width (List.replicate ((width - displayWidth title) / 2) ' ' ++ title)

/-- The lines of the table on a terminal of `columns` places. The box takes one place beside each
column and one more. -/
def lines (columns : Nat) (g : Grid) : List (List Char) :=
  let ws := g.widthsWithin (columns - (g.header.length + 1))
  let top := rule ws '━' '┏' '┳' '┓'
  centred top.length g.title :: top :: rowLines ws '┃' g.header ++
    [rule ws '━' '┡' '╇' '┩'] ++ g.rows.flatMap (rowLines ws '│') ++ [rule ws '─' '└' '┴' '┘']

def render (columns : Nat) (g : Grid) : List Char := (g.lines columns).flatMap (· ++ ['\n'])

end Grid

end DocTrace.Text
