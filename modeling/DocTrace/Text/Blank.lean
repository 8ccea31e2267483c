/-!
Blank characters and the words between them. Blanks are the whitespace of
Unicode together with the four separators U+001C to U+001F.
-/

namespace DocTrace.Text

def isBlank (c : Char) : Bool :=
  let n := c.toNat
  (9 ≤ n && n ≤ 13) || (28 ≤ n && n ≤ 32) || n = 0x85 || n = 0xA0 || n = 0x1680 ||
    (0x2000 ≤ n && n ≤ 0x200A) || n = 0x2028 || n = 0x2029 || n = 0x202F || n = 0x205F ||
    n = 0x3000

theorem isBlank_of_isWhitespace {c : Char} (h : c.isWhitespace = true) : isBlank c = true := by
  simp only [Char.isWhitespace, Bool.or_eq_true, decide_eq_true_eq] at h
  rcases h with ((rfl | rfl) | rfl) | rfl <;> rfl

def skipBlanks (s : List Char) : List Char := s.dropWhile isBlank

def dropEndWhile (p : Char → Bool) (s : List Char) : List Char :=
  (s.reverse.dropWhile p).reverse

def stripChars (p : Char → Bool) (s : List Char) : List Char :=
  dropEndWhile p (s.dropWhile p)

def trim (s : List Char) : List Char := stripChars isBlank s

def skipBlanks1? : List Char → Option (List Char)
  | c :: s => if isBlank c then some (skipBlanks s) else none
  | [] => none

def firstWord (s : List Char) : List Char :=
  (skipBlanks s).takeWhile fun c => !isBlank c

/-- What follows the first word and the blanks after it. -/
def afterFirstWord (s : List Char) : List Char :=
  skipBlanks ((skipBlanks s).dropWhile fun c => !isBlank c)

/-- The words of a text; `word` is the reversed beginning of the one being read. -/
def wordsFrom (word : List Char) : List Char → List (List Char)
  | [] => if word.isEmpty then [] else [word.reverse]
  | c :: s =>
    if isBlank c then
      if word.isEmpty then wordsFrom [] s else word.reverse :: wordsFrom [] s
    else wordsFrom (c :: word) s

def words (s : List Char) : List (List Char) := wordsFrom [] s

end DocTrace.Text
