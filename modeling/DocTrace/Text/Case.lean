import DocTrace.Text.Case.Table

/-!
Small letters. `lower` writes a whole text in small letters; `fold` is the
per-character form under which keywords are compared without regard to case.
-/

namespace DocTrace.Text

/-- The small letter of a character that has exactly one. -/
def lowerChar (c : Char) : Char :=
  if c.toNat < 128 then c.toLower
  else if c = '\u0130' then 'i'
  else
    match lowerRuns.find? (·.covers c.toNat) with
    | some run => Char.ofNat (c.toNat + run.shift).toNat
    | none => c

/-- A sigma ends a word when a letter stands before it and none after it, marks left aside. -/
def endsWord (before after : List Char) : Bool :=
  let edge (s : List Char) : Bool :=
    ((s.dropWhile caseIgnorableRanges.contains).head?.map casedRanges.contains).getD false
  edge before && !edge after

/-- Small letters for a text; `before` is what precedes it, reversed. -/
def lowerFrom (before : List Char) : List Char → List Char
  | [] => []
  | c :: s =>
    let small :=
      if c = '\u03a3' then [if endsWord before s then '\u03c2' else '\u03c3']
      else if c = '\u0130' then ['i', '\u0307']
      else [lowerChar c]
    small ++ lowerFrom (c :: before) s

def lower (s : List Char) : List Char := lowerFrom [] s

def lowerString (s : String) : String := String.ofList (lower s.toList)

/-- The dotless and the dotted i, and the long s, count as their plain letters. -/
def fold (c : Char) : Char :=
  if c = '\u0131' then 'i' else if c = '\u017f' then 's' else lowerChar c

/-- What follows `start`, a text in small letters, when the comparison ignores case. -/
def afterFolded? : List Char → List Char → Option (List Char)
  | [], s => some s
  | _ :: _, [] => none
  | p :: ps, c :: s => if p = fold c then afterFolded? ps s else none

/-- A capital first letter and small letters after it, for ASCII text. -/
def capitalize (s : String) : String :=
  match s.toList with
  | [] => ""
  | c :: cs => String.ofList (c.toUpper :: cs.map Char.toLower)

end DocTrace.Text
