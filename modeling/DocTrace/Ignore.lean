import DocTrace.Path.Basic
import DocTrace.Path.Wildcard
import DocTrace.Text.Blank
import DocTrace.Text.Line

/-!
Which entries of a directory tree are left out: the hidden ones, and those that
a pattern covers as a whole or in one of their segments.
-/

namespace DocTrace.Ignore

def isHidden (segment : String) : Bool := Text.beginsWith "." segment

def covers (patterns : List String) (path : String) : Bool :=
  let parts := (Path.ofText path).parts
  parts.any isHidden ||
    patterns.any fun pattern =>
      Wildcard.accepts pattern path || parts.any (Wildcard.accepts pattern)

/-- The pattern on a line, if it is neither blank nor a comment. Slashes at the end do not count. -/
def ofLine? (line : List Char) : Option String :=
  match Text.trim line with
  | [] => none
  | '#' :: _ => none
  | s => some (.ofList (Text.dropEndWhile (· = '/') s))

def patternsOf (text : String) : List String := (Text.lines text.toList).filterMap ofLine?

end DocTrace.Ignore
