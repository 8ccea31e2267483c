/-!
Cutting texts at a character or after a beginning, and joining them again.
-/

namespace DocTrace.Text

/-- The pieces between the occurrences of `sep`; one more than there are occurrences. -/
def splitFrom (sep : Char) (piece : List Char) : List Char → List (List Char)
  | [] => [piece.reverse]
  | c :: s => if c = sep then piece.reverse :: splitFrom sep [] s else splitFrom sep (c :: piece) s

def splitOn (sep : Char) (s : List Char) : List (List Char) := splitFrom sep [] s

/-- What follows `start`, for a text that begins with it. -/
def after? : List Char → List Char → Option (List Char)
  | [], s => some s
  | _ :: _, [] => none
  | p :: ps, c :: s => if p = c then after? ps s else none

theorem after?_append (start s : List Char) : after? start (start ++ s) = some s := by
  induction start with
  | nil => rfl
  | cons p ps ih => simp [after?, ih]

theorem eq_append_of_after? {start s rest : List Char} (h : after? start s = some rest) :
    s = start ++ rest := by
  induction start generalizing s with
  | nil => simp_all [after?]
  | cons p ps ih =>
    cases s with
    | nil => simp [after?] at h
    | cons c s =>
      simp only [after?] at h
      split at h
      · next hpc => simp [hpc, ih h]
      · simp at h

def beginsWith (start : String) (s : String) : Bool := start.toList.isPrefixOf s.toList

def endsWith (ending : String) (s : String) : Bool := ending.toList.isSuffixOf s.toList

def firstSome (f : α → Option β) : List α → Option β
  | [] => none
  | a :: as => (f a).orElse fun _ => firstSome f as

/-- The shortest beginning of class `p` after which `rest?` succeeds. -/
def shortest? (p : Char → Bool) (rest? : List Char → Option β) :
    List Char → Option (List Char × β)
  | [] => (rest? []).map fun b => ([], b)
  | c :: s =>
    match rest? (c :: s) with
    | some b => some ([], b)
    | none => if p c then (shortest? p rest? s).map fun r => (c :: r.1, r.2) else none

/-- The shortest non-empty beginning of class `p` after which `rest?` succeeds. -/
def shortest1? (p : Char → Bool) (rest? : List Char → Option β) :
    List Char → Option (List Char × β)
  | [] => none
  | c :: s => if p c then (shortest? p rest? s).map fun r => (c :: r.1, r.2) else none

/-- The longest beginning of class `p` after which `rest?` succeeds. -/
def longest? (p : Char → Bool) (rest? : List Char → Option β) :
    List Char → Option (List Char × β)
  | [] => (rest? []).map fun b => ([], b)
  | c :: s =>
    let here := (rest? (c :: s)).map fun b => ([], b)
    if p c then ((longest? p rest? s).map fun r => (c :: r.1, r.2)).orElse fun _ => here
    else here

/-- The longest non-empty beginning of class `p` after which `rest?` succeeds. -/
def longest1? (p : Char → Bool) (rest? : List Char → Option β) :
    List Char → Option (List Char × β)
  | [] => none
  | c :: s => if p c then (longest? p rest? s).map fun r => (c :: r.1, r.2) else none

/-- All characters of class `p` at the beginning, of which there is at least one, and the rest. -/
def span1? (p : Char → Bool) (s : List Char) : Option (List Char × List Char) :=
  match s.span p with
  | ([], _) => none
  | cut => some cut

def joinWith (sep : String) : List String → String
  | [] => ""
  | [s] => s
  | s :: ss => s ++ sep ++ joinWith sep ss

end DocTrace.Text
