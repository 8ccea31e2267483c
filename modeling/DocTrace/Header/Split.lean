import DocTrace.Diagram.Cleaning

/-!
Where the header of a text ends and its body begins. A header stands between a
first line of three dashes and the next such line; blanks may follow the dashes.
-/

namespace DocTrace.Header

open Text Diagram

def isLineBlank (c : Char) : Bool := c = ' ' || c = '\t'

/-- Three dashes and the blanks after them. -/
def dashLine? (s : List Char) : Option (List Char) := (after? dashes s).map (·.dropWhile isLineBlank)

def opening? (s : List Char) : Option (List Char) :=
  let text := match s with
    | c :: t => if c = byteOrderMark then t else s
    | [] => []
  (dashLine? text).bind newline?

/-- What follows a closing line, which may be the last of the text. -/
def closing? (s : List Char) : Option (List Char) :=
  (dashLine? s).bind fun rest => if rest.isEmpty then some [] else newline? rest

/-- The text before the first closing line, and what follows that line. -/
def upToClosing (lineStart : Bool) : List Char → Option (List Char × List Char)
  | [] => none
  | c :: s =>
    match if lineStart then closing? (c :: s) else none with
    | some body => some ([], body)
    | none => (upToClosing (c = '\n') s).map fun cut => (c :: cut.1, cut.2)

def dropLastBreak (s : List Char) : List Char :=
  match s.reverse with
  | '\n' :: '\r' :: r => r.reverse
  | '\n' :: r => r.reverse
  | _ => s

def split (s : List Char) : Option (List Char) × List Char :=
  match (opening? s).bind (upToClosing true) with
  | some (header, body) => (some (dropLastBreak header), body)
  | none => (none, s.dropWhile (· = byteOrderMark))

end DocTrace.Header
