import DocTrace.Header.Basic
import DocTrace.Header.Split
import DocTrace.Yaml.Document

/-!
From the fields of a header to what they declare. Nothing is dropped in silence:
a field with a value of the wrong kind is reported, and unknown ones are kept.
-/

namespace DocTrace.Header

/-- A result together with the errors found on the way. -/
abbrev Checked (α : Type) := α × List HeaderError

/-- A field whose value is taken as text; numbers and dates stand for what they show. -/
def textField (place : Option Nat) (key : String) : Option Value → Checked (Option String)
  | none => (none, [])
  | some v =>
    match v with
    | .null => (none, [])
    | .bool _ => (none, [.notText place key v.kindName])
    | .list _ => (none, [.notText place key v.kindName])
    | .map _ => (none, [.notText place key v.kindName])
    | .knot .. => (none, [.notText place key v.kindName])
    | v => (some v.toText, [])

/-- The items of a list that are texts and not blank, trimmed. -/
def listItems (place : Option Nat) (key : String) (index : Nat) :
    List Value → Checked (List String)
  | [] => ([], [])
  | v :: rest =>
    let (items, errors) := listItems place key (index + 1) rest
    match v with
    | .str s =>
      let trimmed := Text.trim s.toList
      if trimmed.isEmpty then (items, .badItem place key index :: errors)
      else (.ofList trimmed :: items, errors)
    | _ => (items, .badItem place key index :: errors)

/-- A field that lists identifiers; a text alone stands for itself. -/
def listField (place : Option Nat) (key : String) : Option Value → Checked (Option (List String))
  | none => (none, [])
  | some v =>
    match v.unfold with
    | .null => (none, [])
    | .str s => (some [s], [])
    | .list items =>
      let (items, errors) := listItems place key 0 items
      (some items, errors)
    | _ => (none, [.notList place key])

def commonKeys : List String :=
  ["id", "title", "description", "uplink", "downlinks", "requirements", "entities"]

def entityKeys : List String := ["id", "uplink", "downlinks", "requirements", "classification"]

def entityItem (index : Nat) (item : Value) : Checked (Option Entity) :=
  match item.asMap? with
  | none => (none, [.entityNotMapping index])
  | some m =>
    let place := some index
    let (id, idErrors) := textField place "id" (m.find? "id")
    match id.filter (· ≠ "") with
    | none => (none, idErrors ++ [.entityWithoutId index])
    | some id =>
      let (uplink, uplinkErrors) := textField place "uplink" (m.find? "uplink")
      let (downlinks, downErrors) := listField place "downlinks" (m.find? "downlinks")
      let (requirements, reqErrors) := listField place "requirements" (m.find? "requirements")
      let (classification, classErrors) :=
        textField place "classification" (m.find? "classification")
      let isExtra (k : Value) : Bool :=
        match k with
        | .str s => !entityKeys.contains s
        | _ => true
      (some { id, uplink, downlinks, requirements, classification,
              extra := List.filter (fun e => isExtra e.1) m },
        idErrors ++ uplinkErrors ++ downErrors ++ reqErrors ++ classErrors)

def entitiesFrom (index : Nat) : List Value → Checked (List Entity)
  | [] => ([], [])
  | item :: rest =>
    let (found, errors) := entityItem index item
    let (entities, more) := entitiesFrom (index + 1) rest
    (found.toList ++ entities, errors ++ more)

def entitiesField : Option Value → Checked (List Entity)
  | none => ([], [])
  | some v =>
    match v.unfold with
    | .null => ([], [])
    | .list items => entitiesFrom 0 items
    | _ => ([], [.entitiesNotList])

/-- The header that some fields declare, after errors that were found before. -/
def ofFields (fields : Fields) (before : List HeaderError) : Header :=
  let (id, idErrors) := textField none "id" (fields.find? "id")
  let kind := HeaderKind.ofId id
  let (title, titleErrors) := textField none "title" (fields.find? "title")
  let (description, descriptionErrors) := textField none "description" (fields.find? "description")
  let (uplink, uplinkErrors) := textField none "uplink" (fields.find? "uplink")
  let (downlinks, downErrors) := listField none "downlinks" (fields.find? "downlinks")
  let (requirements, reqErrors) := listField none "requirements" (fields.find? "requirements")
  let (entities, entityErrors) := entitiesField (fields.find? "entities")
  let (classification, classErrors) :=
    if kind = .requirement then textField none "classification" (fields.find? "classification")
    else (none, [])
  let known := commonKeys ++ (if kind = .requirement then ["classification"] else [])
  { kind, id, title, description, uplink, downlinks, requirements, entities, classification
    extra := fields.filter fun key _ => !known.contains key
    errors := before ++ idErrors ++ titleErrors ++ descriptionErrors ++ uplinkErrors ++
      downErrors ++ reqErrors ++ entityErrors ++ classErrors
    raw := fields }

def fieldsOf (m : Mapping) : Fields := .ofList (List.map (fun e => (e.1.toText, e.2)) m)

def hasText : Option Value → Bool
  | none => true
  | some (.list _) => true
  | some (.map _) => true
  | some (.knot ..) => true
  | some v => v.isShowable

def entityHasTexts (item : Value) : Bool :=
  match item.asMap? with
  | none => true
  | some m =>
    hasText (m.find? "id") &&
      (((textField none "id" (m.find? "id")).1.filter (· ≠ "")).isNone ||
        (hasText (m.find? "uplink") && hasText (m.find? "classification")))

def haveTexts (fields : Fields) : Bool :=
  ["id", "title", "description", "uplink"].all (fun key => hasText (fields.find? key)) &&
    (((fields.find? "entities").bind Value.asList?).getD []).all entityHasTexts &&
    (HeaderKind.ofId (textField none "id" (fields.find? "id")).1 ≠ .requirement ||
      hasText (fields.find? "classification"))

/-- The header that a mapping declares, if all that is taken as text has one. -/
def ofMapping (m : Mapping) : Except Yaml.Fault Header :=
  if (List.all m fun e => e.1.isShowable) && haveTexts (fieldsOf m) then
    .ok (ofFields (fieldsOf m) [])
  else .error .notShown

/-- The header written in a text between its lines of dashes. A scalar that its
tag does not allow is a fault; every other problem is an error of the header. -/
def ofText (text : String) : Except Yaml.Fault Header :=
  match Yaml.load text with
  | .error .malformed => .ok { errors := [.malformed] }
  | .error fault => .error fault
  | .ok .null => .ok {}
  | .ok v =>
    match v.asMap? with
    | some m => ofMapping m
    | none => .ok { errors := [.notMapping] }

def parse (text : String) : Except Yaml.Fault (Header × String) :=
  match split text.toList with
  | (none, body) => .ok ({}, .ofList body)
  | (some header, body) => (ofText (.ofList header)).map fun h => (h, .ofList body)

end DocTrace.Header
