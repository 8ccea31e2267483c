import DocTrace.Text.Blank
import DocTrace.Text.Split
import DocTrace.Text.Word

/-!
Constants written out: numbers, quoted texts, truth values, and tuples, sets and
tables of constants. The arguments of an action in a style tag have this form.
-/

namespace DocTrace.Text.Literal

inductive Numeral where
  | whole (value : Nat)
  | real
  | imaginary

inductive Token where
  | numeral (n : Numeral)
  | quoted (bytes : Bool)
  | word (name : List Char)
  | dots
  | mark (c : Char)
  | lineEnd

/-- Digits of a class, with single underscores between them, and the rest; `taken` are the
reversed ones before. -/
def digitsFrom (p : Char → Bool) (taken : List Char) : List Char → List Char × List Char
  | [] => (taken.reverse, [])
  | '_' :: d :: s =>
    if p d then digitsFrom p (d :: taken) s else (taken.reverse, '_' :: d :: s)
  | c :: s => if p c then digitsFrom p (c :: taken) s else (taken.reverse, c :: s)

/-- At least one digit of a class, with single underscores between them, and the rest. -/
def digits? (p : Char → Bool) : List Char → Option (List Char × List Char)
  | [] => none
  | c :: s => if p c then some (digitsFrom p [c] s) else none

/-- Decimal digits, of which there may be none, and the rest. -/
def optionalDigits (s : List Char) : List Char × List Char := (digits? Char.isDigit s).getD ([], s)

/-- An exponent, if digits follow its letter. -/
def exponent? : List Char → Option (List Char)
  | c :: s =>
    if c = 'e' || c = 'E' then
      let s := match s with | '+' :: s => s | '-' :: s => s | s => s
      (digits? Char.isDigit s).map (·.2)
    else none
  | [] => none

def isHex (c : Char) : Bool :=
  c.isDigit || ('a' ≤ c && c ≤ 'f') || ('A' ≤ c && c ≤ 'F')

/-- The digits of a number after `0` and a letter for its base. -/
def based? (mark : Char) (s : List Char) : Option (List Char × List Char) :=
  let s := match s with | '_' :: s => s | s => s
  if mark = 'x' || mark = 'X' then digits? isHex s
  else if mark = 'o' || mark = 'O' then digits? (fun c => '0' ≤ c && c ≤ '7') s
  else if mark = 'b' || mark = 'B' then digits? (fun c => c = '0' || c = '1') s
  else none

def maxDigits : Nat := 4300

/-- A number in base ten. Only zeros may follow a leading zero of a whole number. -/
def decimal? (s : List Char) : Option (Numeral × List Char) :=
  let (whole, rest) := optionalDigits s
  let (fraction, rest) :=
    match rest with
    | '.' :: rest => (some (optionalDigits rest).1, (optionalDigits rest).2)
    | rest => (none, rest)
  if whole.isEmpty && (fraction.map List.isEmpty).getD true then none
  else
    let power : Option (List Char) := exponent? rest
    let rest := power.getD rest
    match rest with
    | 'j' :: rest => some (.imaginary, rest)
    | 'J' :: rest => some (.imaginary, rest)
    | rest =>
      if fraction.isSome || power.isSome then some (.real, rest)
      else if whole.head? = some '0' && whole.any (· ≠ '0') then none
      else if whole.length > maxDigits then none
      else some (.whole (whole.foldl (fun n d => n * 10 + (d.toNat - 48)) 0), rest)

def isNameChar (c : Char) : Bool := isWord c || 128 ≤ c.toNat

def numeral? (s : List Char) : Option (Numeral × List Char) :=
  let cut : Option (Numeral × List Char) :=
    match s with
    | '0' :: mark :: rest =>
      if "xXoObB".toList.contains mark then
        (based? mark rest).map fun r => (Numeral.whole 0, r.2)
      else decimal? s
    | _ => decimal? s
  cut.filter fun r => !((r.2.head?.map isNameChar).getD false)

/-- Whether so many hexadecimal digits come next. -/
def hexNext (n : Nat) (s : List Char) : Bool := (s.take n).length = n && (s.take n).all isHex

/-- Whether what follows a backslash is a possible escape. -/
def escapeAllowed (bytes : Bool) : List Char → Bool
  | 'x' :: s => hexNext 2 s
  | 'u' :: s => bytes || hexNext 4 s
  | 'U' :: s => bytes || (hexNext 8 s && "000".isPrefixOf (String.ofList s) ||
      "0010".isPrefixOf (String.ofList s) && hexNext 8 s)
  | 'N' :: '\x7b' :: s => bytes || s.contains '\x7d'
  | 'N' :: _ => bytes
  | _ => true

def closing? (quote : Char) (triple raw bytes : Bool) : List Char → Option (List Char)
  | [] => none
  | '\\' :: c :: s =>
    if (raw || escapeAllowed bytes (c :: s)) && (!bytes || c.toNat < 128) then
      closing? quote triple raw bytes s
    else none
  | c :: s =>
    if c = quote then
      if triple then
        match s with
        | a :: b :: rest =>
          if a = quote && b = quote then some rest else closing? quote triple raw bytes (a :: b :: rest)
        | _ => none
      else some s
    else if (c = '\n' && !triple) || (bytes && 128 ≤ c.toNat) then none
    else closing? quote triple raw bytes s

def quoted? (raw bytes : Bool) : List Char → Option (List Char)
  | [] => none
  | q :: s =>
    if q = '"' || q = '\'' then
      match s with
      | a :: b :: rest =>
        if a = q && b = q then closing? q true raw bytes rest else closing? q false raw bytes s
      | _ => closing? q false raw bytes s
    else none

/-- The letters that may stand before a quoted text: whether it is raw, and whether it is bytes. -/
def textLetters? (word : List Char) : Option (Bool × Bool) :=
  match String.ofList (word.map Char.toLower) with
  | "" => some (false, false)
  | "u" => some (false, false)
  | "r" => some (true, false)
  | "b" => some (false, true)
  | "br" => some (true, true)
  | "rb" => some (true, true)
  | _ => none

/-- The next token and what follows it; `depth` is the number of open brackets. -/
def token? (depth : Nat) (s : List Char) : Option (Option Token × List Char) :=
  match s with
  | [] => none
  | c :: rest =>
    if c = ' ' || c = '\t' || c = '\x0c' then some (none, rest)
    else if c = '\n' || c = '\r' then some (if depth = 0 then some .lineEnd else none, rest)
    else if c = '#' then some (none, rest.dropWhile fun x => x ≠ '\n' && x ≠ '\r')
    else if c = '\\' then
      match rest with
      | '\n' :: rest => some (none, rest)
      | _ => none
    else if c.isDigit || (c = '.' && ((rest.head?.map Char.isDigit).getD false)) then
      (numeral? s).map fun r => (some (.numeral r.1), r.2)
    else if c = '.' then
      (after? "..".toList rest).map fun rest => (some .dots, rest)
    else if "()\x7b\x7d,:+-".toList.contains c then some (some (.mark c), rest)
    else
      let word := s.takeWhile isNameChar
      let after := s.dropWhile isNameChar
      match (textLetters? word).bind fun k => (quoted? k.1 k.2 after).map fun r => (k.2, r) with
      | some (bytes, after) => some (some (.quoted bytes), after)
      | none => if word.isEmpty then none else some (some (.word word), after)

/-- The brackets open after a token; none if there are more than 200 or none to close. -/
def depthAfter? (depth : Nat) : Token → Option Nat
  | .mark '(' => if depth < 200 then some (depth + 1) else none
  | .mark '\x7b' => if depth < 200 then some (depth + 1) else none
  | .mark ')' => if depth = 0 then none else some (depth - 1)
  | .mark '\x7d' => if depth = 0 then none else some (depth - 1)
  | _ => some depth

/-- All tokens; no token is empty, so the length of the text is enough fuel. -/
def tokensFrom : Nat → Nat → List Char → Option (List Token)
  | _, _, [] => some []
  | 0, _, _ => none
  | fuel + 1, depth, s =>
    (token? depth s).bind fun r =>
      match r.1 with
      | none => tokensFrom fuel depth r.2
      | some t => (depthAfter? depth t).bind fun depth =>
          (tokensFrom fuel depth r.2).map (t :: ·)

/-- What the use of a constant depends on. -/
inductive Kind where
  | numeral (n : Numeral) (signed : Bool)
  | complex
  | scalar
  | tuple (hashable : Bool)
  | table

def Kind.isHashable : Kind → Bool
  | .tuple hashable => hashable
  | .table => false
  | _ => true

/-- Whether a number can stand before an imaginary one in a sum; a whole one must not be too large. -/
def Kind.isAddend : Kind → Bool
  | .numeral (.whole n) _ => n < Nat.pow 2 1024 - Nat.pow 2 970
  | .numeral .real _ => true
  | _ => false

def Kind.isImaginary : Kind → Bool
  | .numeral .imaginary false => true
  | _ => false

def skipQuoted (bytes : Bool) : List Token → Option (List Token)
  | .quoted b :: rest => if b = bytes then skipQuoted bytes rest else none
  | rest => some rest

mutual

/-- A constant, or a sum of a number and an imaginary one. -/
def constant? : Nat → List Token → Option (Kind × List Token)
  | 0, _ => none
  | fuel + 1, ts =>
    let first :=
      match ts with
      | .mark c :: rest =>
        if c = '+' || c = '-' then
          (atom? fuel rest).bind fun r =>
            match r.1 with
            | .numeral n false => some (Kind.numeral n true, r.2)
            | _ => none
        else atom? fuel ts
      | _ => atom? fuel ts
    first.bind fun (left, rest) =>
      match rest with
      | .mark c :: more =>
        if c = '+' || c = '-' then
          (atom? fuel more).bind fun (right, rest) =>
            if left.isAddend && right.isImaginary then some (.complex, rest) else none
        else some (left, rest)
      | _ => some (left, rest)

def atom? : Nat → List Token → Option (Kind × List Token)
  | 0, _ => none
  | fuel + 1, ts =>
    match ts with
    | .numeral n :: rest => some (.numeral n false, rest)
    | .quoted bytes :: rest => (skipQuoted bytes rest).map fun rest => (.scalar, rest)
    | .dots :: rest => some (.scalar, rest)
    | .word w :: rest =>
      if ["True", "False", "None"].contains (String.ofList w) then some (.scalar, rest)
      else
        match rest with
        | .mark '(' :: .mark ')' :: rest =>
          if w = "set".toList then some (.table, rest) else none
        | _ => none
    | .mark '(' :: .mark ')' :: rest => some (.tuple true, rest)
    | .mark '(' :: rest =>
      (constant? fuel rest).bind fun (first, rest) =>
        match rest with
        | .mark ')' :: rest => some (first, rest)
        | .mark ',' :: rest =>
          (items? fuel ')' rest).map fun (hashable, rest) =>
            (.tuple (first.isHashable && hashable), rest)
        | _ => none
    | .mark '\x7b' :: .mark '\x7d' :: rest => some (.table, rest)
    | .mark '\x7b' :: rest =>
      (constant? fuel rest).bind fun (first, rest) =>
        if !first.isHashable then none
        else
          match rest with
          | .mark '\x7d' :: rest => some (.table, rest)
          | .mark ',' :: rest =>
            (items? fuel '\x7d' rest).bind fun (hashable, rest) =>
              if hashable then some (.table, rest) else none
          | .mark ':' :: rest =>
            (constant? fuel rest).bind fun (_, rest) =>
              (entries? fuel rest).map fun rest => (.table, rest)
          | _ => none
    | _ => none

/-- The items up to a bracket, after a comma, and whether all of them are hashable. -/
def items? : Nat → Char → List Token → Option (Bool × List Token)
  | 0, _, _ => none
  | fuel + 1, close, ts =>
    match ts with
    | .mark c :: rest =>
      if c = close then some (true, rest) else itemsAfter? fuel close ts
    | _ => itemsAfter? fuel close ts

def itemsAfter? : Nat → Char → List Token → Option (Bool × List Token)
  | 0, _, _ => none
  | fuel + 1, close, ts =>
    (constant? fuel ts).bind fun (item, rest) =>
      match rest with
      | .mark c :: rest =>
        if c = close then some (item.isHashable, rest)
        else if c = ',' then
          (items? fuel close rest).map fun (hashable, rest) => (item.isHashable && hashable, rest)
        else none
      | _ => none

def entries? : Nat → List Token → Option (List Token)
  | 0, _ => none
  | fuel + 1, ts =>
    match ts with
    | .mark '\x7d' :: rest => some rest
    | .mark ',' :: .mark '\x7d' :: rest => some rest
    | .mark ',' :: rest =>
      (constant? fuel rest).bind fun (key, rest) =>
        match rest with
        | .mark ':' :: rest =>
          if key.isHashable then (constant? fuel rest).bind fun (_, rest) => entries? fuel rest
          else none
        | _ => none
    | _ => none

end

def isDone (ts : List Token) : Bool := ts.all fun | .lineEnd => true | _ => false

/-- The items of a tuple without brackets, each after a comma. -/
def isTail (fuel : Nat) : Nat → List Token → Bool
  | 0, _ => false
  | n + 1, ts =>
    isDone ts ||
      match ts with
      | .mark ',' :: rest =>
        isDone rest || (((constant? fuel rest).map fun r => isTail fuel n r.2).getD false)
      | _ => false

/-- Whether a text is a constant. Every call of the readers takes a token or goes to a part of
the one that called it, so four times the number of tokens is enough fuel. -/
def isConstant (s : List Char) : Bool :=
  match tokensFrom (s.length + 1) 0 s with
  | none => false
  | some ts =>
    let fuel := 4 * ts.length + 4
    ((constant? fuel ts).map fun r => isTail fuel (ts.length + 1) r.2).getD false

end DocTrace.Text.Literal
