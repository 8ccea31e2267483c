import DocTrace.Text.Emoji
import DocTrace.Text.Literal
import DocTrace.Text.Style

/-!
Style tags and emoji codes in the cells of a table. A tag is a name in brackets
that begins with a small letter or one of `#`, `/` and `@`; a backslash before it
makes it plain text. Tags leave no trace in the text, but a closing tag has to
close an open one of the same effect, and the arguments of an action, a tag whose
name begins with `@`, have to be constants when it is closed.
-/

namespace DocTrace.Text.Markup

inductive Piece where
  | plain (text : List Char)
  | tag (content : List Char)
deriving DecidableEq

def beginsTag (c : Char) : Bool := ('a' ≤ c && c ≤ 'z') || c = '#' || c = '/' || c = '@'

/-- The content of a tag at the beginning of a text, and what follows it. -/
def tag? : List Char → Option (List Char × List Char)
  | '[' :: c :: s =>
    if beginsTag c then
      match s.dropWhile fun x => x ≠ '[' && x ≠ ']' with
      | ']' :: rest => some (c :: s.takeWhile fun x => x ≠ '[' && x ≠ ']', rest)
      | _ => none
    else none
  | _ => none

theorem length_dropWhile_le (p : Char → Bool) (s : List Char) :
    (s.dropWhile p).length ≤ s.length := (List.dropWhile_sublist p).length_le

theorem length_lt_of_tag? {s content rest : List Char} (h : tag? s = some (content, rest)) :
    rest.length < s.length := by
  unfold tag? at h
  split at h
  · next c s =>
    split at h
    · split at h
      · next heq =>
        have := length_dropWhile_le (fun x => x ≠ '[' && x ≠ ']') s
        rw [heq] at this
        simp only [Option.some.injEq, Prod.mk.injEq] at h
        simp only [List.length_cons] at this ⊢
        rw [← h.2]
        omega
      · simp at h
    · simp at h
  · simp at h

/-- The pieces for a tag after some backslashes. Two of them stand for one, and
an odd one makes the tag plain. -/
def escapedTag (backslashes : Nat) (content : List Char) : List Piece :=
  .plain (List.replicate (backslashes / 2) '\\') ::
    [if backslashes % 2 = 1 then .plain ('[' :: content ++ [']']) else .tag content]

/-- The pieces of a text; `before` are the plain characters in front of it, reversed. -/
def pieces (before : List Char) (s : List Char) : List Piece :=
  match _h : s.dropWhile (· = '\\') with
  | [] => [.plain ((s.takeWhile (· = '\\')).reverse ++ before).reverse]
  | c :: rest =>
    match _ht : tag? (c :: rest) with
    | some (content, after) =>
      .plain before.reverse ::
        (escapedTag (s.takeWhile (· = '\\')).length content ++ pieces [] after)
    | none => pieces (c :: ((s.takeWhile (· = '\\')).reverse ++ before)) rest
termination_by s.length
decreasing_by
  all_goals
    have hle := length_dropWhile_le (· = '\\') s
    rw [_h] at hle
    simp only [List.length_cons] at hle
  · have hlt := length_lt_of_tag? _ht
    simp only [List.length_cons] at hlt
    omega
  · omega

/-- Drops each backslash that stands before a bracket. -/
def unescape : List Char → List Char
  | '\\' :: '[' :: s => '[' :: unescape s
  | c :: s => c :: unescape s
  | [] => []

inductive Fault where
  /-- A closing tag closes no open one. -/
  | notOpen
  /-- The arguments of an action are no constants. -/
  | arguments
  /-- A component of a color is not a number. -/
  | component
deriving DecidableEq

/-- An open tag: the normal form of its name, and what stands after `=`. -/
structure Opened where
  name : String
  value : Option (List Char)

/-- The constants that an action with this value takes. A value can be the name of an action,
with or without arguments, or constants alone. -/
def actionArguments (value : List Char) : List Char :=
  let rest := (trim value).dropWhile fun c => isWord c || c = '.'
  if rest.isEmpty then "()".toList
  else if rest.head? = some '(' && rest.getLast? = some ')' && 2 ≤ rest.length &&
      !rest.contains '\n' then rest
  else trim value

def Opened.isClosable (o : Opened) : Bool :=
  !beginsWith "@" o.name ||
    ((o.value.filter fun v => !v.isEmpty).map fun v => Literal.isConstant (actionArguments v)).getD
      true

/-- Whether the style that a tag sets can be looked up. -/
def Opened.isUsable (o : Opened) : Bool :=
  match o.value with
  | none => true
  | some value =>
    match Style.read (o.name.toList ++ ' ' :: value) with
    | .error .component => false
    | _ => true

def normalize (name : List Char) : Except Fault String :=
  (Style.normalize name).mapError fun _ => .component

/-- Takes the last opened tag of a name out of the open ones. -/
def take? (name : String) : List Opened → Option (Opened × List Opened)
  | [] => none
  | o :: os => if o.name = name then some (o, os) else (take? name os).map fun r => (r.1, o :: r.2)

/-- What a tag leaves open: its name and value, cut at the first `=`. -/
def opening (content : List Char) : List Char × Option (List Char) :=
  (content.takeWhile (· ≠ '='),
    match content.dropWhile (· ≠ '=') with
    | _ :: value => some value
    | [] => none)

/-- Opens or closes a tag. A closing tag without a name closes the last one. -/
def applyTag (opened : List Opened) (content : List Char) : Except Fault (List Opened) :=
  match opening content with
  | ('/' :: closed, _) =>
    let closing : Except Fault (Opened × List Opened) :=
      if (trim closed).isEmpty then
        match opened with
        | [] => .error .notOpen
        | o :: os => .ok (o, os)
      else do
        match take? (← normalize (trim closed)) opened with
        | none => .error .notOpen
        | some r => .ok r
    closing.bind fun r => if r.1.isClosable then .ok r.2 else .error .arguments
  | (name, value) => (normalize name).map fun name => ⟨name, value⟩ :: opened

def isControl (c : Char) : Bool := [7, 8, 11, 12, 13].contains c.toNat

/-- A text without its tags, and whether all of its styles can be looked up. -/
structure Shown where
  text : List Char
  usable : Bool

def Shown.put (text : List Char) (rest : Shown) : Shown :=
  { rest with text := expandEmoji (unescape text) ++ rest.text }

/-- Whether a tag that was opened between two lists of open tags can be looked up. -/
def opensUsable (before after : List Opened) : Bool :=
  after.length ≤ before.length || ((after.head?.map (·.isUsable)).getD true)

def shownFrom (opened : List Opened) : List Piece → Except Fault Shown
  | [] => .ok ⟨[], true⟩
  | .plain text :: rest => (shownFrom opened rest).map (·.put text)
  | .tag content :: rest =>
    (applyTag opened content).bind fun now =>
      (shownFrom now rest).map fun s => { s with usable := s.usable && opensUsable opened now }

/-- What a text shows. Without an opening bracket it has no tags and no backslashes to drop. -/
def shown (s : List Char) : Except Fault Shown :=
  let all : Except Fault Shown :=
    if s.contains '[' then shownFrom [] (pieces [] s) else .ok ⟨expandEmoji s, true⟩
  all.map fun r => { r with text := r.text.filter fun c => !isControl c }

end DocTrace.Text.Markup
