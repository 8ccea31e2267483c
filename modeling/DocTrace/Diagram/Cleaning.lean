import DocTrace.Text.Blank
import DocTrace.Text.Line
import DocTrace.Text.Split

/-!
The text of a diagram before its notation is looked at. An embedded header
block and whole-line comments are removed, the first word of what is left names
the notation, and the lines after the first form the body.
-/

namespace DocTrace.Diagram

open Text

def dashes : List Char := ['-', '-', '-']

def byteOrderMark : Char := '\ufeff'

/-- What follows the first line break with a line of three dashes after it. -/
def afterBlockEnd? : List Char → Option (List Char)
  | [] => none
  | c :: s =>
    (((newline? (c :: s)).bind (after? dashes)).bind newline?).orElse fun _ => afterBlockEnd? s

/-- Drops a header block: a first line of three dashes, some text, and another such line. -/
def dropHeaderBlock (s : List Char) : List Char :=
  (((after? dashes s).bind newline?).bind afterBlockEnd?).getD s

/-- Where a text stands while its comments are removed. -/
inductive CommentState where
  | lineStart
  | inLine
  | beforeComment
  | inComment
deriving DecidableEq

def opensComment (s : List Char) : Bool := ['%', '%'].isPrefixOf (skipBlanks s)

/-- Removes every comment from `%%` to the end of its line, together with the
blanks and blank lines right before it. -/
def dropCommentsFrom (state : CommentState) : List Char → List Char
  | [] => []
  | c :: s =>
    match state with
    | .inComment =>
      if c = '\n' then c :: dropCommentsFrom .lineStart s else dropCommentsFrom .inComment s
    | .beforeComment =>
      dropCommentsFrom (if isBlank c then .beforeComment else .inComment) s
    | .lineStart =>
      if opensComment (c :: s) then
        dropCommentsFrom (if isBlank c then .beforeComment else .inComment) s
      else c :: dropCommentsFrom (if c = '\n' then .lineStart else .inLine) s
    | .inLine => c :: dropCommentsFrom (if c = '\n' then .lineStart else .inLine) s

def dropComments (s : List Char) : List Char := dropCommentsFrom .lineStart s

def clean (s : List Char) : List Char :=
  trim (dropComments (dropHeaderBlock (s.dropWhile (· = byteOrderMark))))

def cleanLines (s : List Char) : List (List Char) := lines (clean s)

def bodyLines (s : List Char) : List (List Char) := (cleanLines s).drop 1

def isKeywordChar (c : Char) : Bool := c.isAlphanum || c = '_' || c = '-'

def keyword? (s : List Char) : Option (List Char) :=
  (span1? isKeywordChar (clean s)).map (·.1)

def isQuote (c : Char) : Bool := c = '"' || c = '\''

/-- Trims a text and takes off one pair of equal quotes around it. -/
def unquote (s : List Char) : List Char :=
  match trim s with
  | c :: t => if isQuote c && !t.isEmpty && t.getLast? = some c then t.dropLast else c :: t
  | [] => []

end DocTrace.Diagram
