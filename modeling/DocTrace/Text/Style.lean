import DocTrace.Text.Style.Color

/-!
Definitions of styles: words for attributes and colors, and a link. Definitions
of one effect have one normal form, which names the attributes in a fixed order
and then the colors and the link.
-/

namespace DocTrace.Text

structure Style where
  /-- The attributes that are switched on or off, the last setting first. -/
  attributes : List (String × Bool)
  color : Option (List Char)
  background : Option (List Char)
  link : Option (List Char)

namespace Style

/-- The attributes in the order of the normal form, with their short names. -/
def attributeNames : List (String × Option String) := [
  ("bold", some "b"), ("dim", some "d"), ("italic", some "i"), ("underline", some "u"),
  ("blink", none), ("blink2", none), ("reverse", some "r"), ("conceal", some "c"),
  ("strike", some "s"), ("underline2", some "uu"), ("frame", none), ("encircle", none),
  ("overline", some "o")]

def attribute? (word : List Char) : Option String :=
  let word := String.ofList word
  (attributeNames.find? fun a => a.1 = word || a.2 = some word).map (·.1)

def empty : Style := ⟨[], none, none, none⟩

/-- Reads the words of a definition; an attribute or a color replaces what was set before. -/
def ofWords (style : Style) : List (List Char) → Except Fault Style
  | [] => .ok style
  | word :: rest =>
    let small := lower word
    if small = "on".toList then
      match rest with
      | [] => .error .malformed
      | name :: rest => do ofWords { style with background := ← readColor name } rest
    else if small = "not".toList then
      match rest with
      | [] => .error .malformed
      | name :: rest =>
        match attribute? name with
        | none => .error .malformed
        | some a => ofWords { style with attributes := (a, false) :: style.attributes } rest
    else if small = "link".toList then
      match rest with
      | [] => .error .malformed
      | address :: rest => ofWords { style with link := some address } rest
    else
      match attribute? small with
      | some a => ofWords { style with attributes := (a, true) :: style.attributes } rest
      | none => do ofWords { style with color := ← readColor small } rest

def read (definition : List Char) : Except Fault Style :=
  if trim definition = "none".toList then .ok empty else ofWords empty (words definition)

def toWords (s : Style) : List String :=
  attributeNames.filterMap (fun a =>
      (s.attributes.lookup a.1).map fun on => if on then a.1 else "not " ++ a.1) ++
    (s.color.map String.ofList).toList ++
    (s.background.map fun c => "on " ++ String.ofList c).toList ++
    (s.link.map fun address => "link " ++ String.ofList address).toList

def toText (s : Style) : String :=
  match s.toWords with
  | [] => "none"
  | ws => joinWith " " ws

/-- The normal form of a definition. A text that defines no style is only put in small letters. -/
def normalize (definition : List Char) : Except Fault String :=
  match read definition with
  | .ok style => .ok style.toText
  | .error .malformed => .ok (String.ofList (lower (trim definition)))
  | .error .component => .error .component

end Style

end DocTrace.Text
