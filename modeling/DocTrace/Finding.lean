import DocTrace.Text.Split

/-!
What a check reports: a message, and the file and the identifier that it is
about where they are others than those of the document under check.
-/

namespace DocTrace

structure Finding where
  message : String
  file : Option String := none
  id : Option String := none
deriving DecidableEq

/-- Why a check breaks off before it can report anything. -/
inductive Finding.Crash where
  /-- A path without any segment has no first one. -/
  | emptyPath
deriving DecidableEq

def Finding.Crash.message : Finding.Crash → String
  | .emptyPath => "IndexError: tuple index out of range"

namespace Finding

def ofMessages (messages : List String) : List Finding := messages.map fun m => { message := m }

def quoted (s : String) : String := "\"" ++ s ++ "\""

theorem quoted_inj {s t : String} : quoted s = quoted t ↔ s = t := by
  rw [quoted, quoted, String.append_left_inj, String.append_right_inj]

def bracketed (texts : List String) : String := "[" ++ Text.joinWith ", " texts ++ "]"

end Finding

end DocTrace
