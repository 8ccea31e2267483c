/-!
Lines of a text. A line ends at any of ten separators, of which CR followed by
LF counts once; a final separator opens no further line. File contents are
brought to LF alone before they are used.
-/

namespace DocTrace.Text

def isLineBreak (c : Char) : Bool :=
  let n := c.toNat
  (10 ≤ n && n ≤ 13) || (28 ≤ n && n ≤ 30) || n = 0x85 || n = 0x2028 || n = 0x2029

/-- The lines of a text; `line` is the reversed beginning of the one being read. -/
def linesFrom (line : List Char) : List Char → List (List Char)
  | [] => if line.isEmpty then [] else [line.reverse]
  | '\r' :: '\n' :: s => line.reverse :: linesFrom [] s
  | c :: s => if isLineBreak c then line.reverse :: linesFrom [] s else linesFrom (c :: line) s

def lines (s : List Char) : List (List Char) := linesFrom [] s

/-- Writes CRLF and lone CR as LF. -/
def unifyNewlines : List Char → List Char
  | [] => []
  | '\r' :: '\n' :: s => '\n' :: unifyNewlines s
  | '\r' :: s => '\n' :: unifyNewlines s
  | c :: s => c :: unifyNewlines s

/-- One LF, with or without a CR before it. -/
def newline? : List Char → Option (List Char)
  | '\n' :: s => some s
  | '\r' :: '\n' :: s => some s
  | _ => none

end DocTrace.Text
