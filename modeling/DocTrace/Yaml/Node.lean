import DocTrace.Yaml.Lexer
import DocTrace.Yaml.NodeGraph

/-!
Reading the nodes of a YAML document from its tokens. An alias is the place of
the node that its anchor names, which may still be open.
-/

namespace DocTrace.Yaml

namespace Node

def maxDepth : Nat := 485

/-- The state of a reader: the tokens to come, the nodes so far, what anchors name, what tag
handles stand for, and the collections that are being read. -/
structure Reader where
  tokens : List Token
  graph : NodeGraph := {}
  anchors : List (List Char × Nat) := []
  handles : List (List Char × List Char) := []
  opened : List Nat := []

namespace Reader

def peek (r : Reader) : Token := r.tokens.headD .streamEnd

def skip (r : Reader) : Reader := { r with tokens := r.tokens.drop 1 }

def put (r : Reader) (anchor : Option (List Char)) (node : Node) : Nat × Reader :=
  let (n, graph) := r.graph.add node
  (n, { r with graph, anchors := (anchor.map fun name => (name, n)).toList ++ r.anchors })

def putBlank (r : Reader) : Nat × Reader := r.put none NodeGraph.blank

def openNode (r : Reader) (anchor : Option (List Char)) (tag : Tag) : Nat × Reader :=
  let (n, r) := r.put anchor ⟨tag, .seq []⟩
  (n, { r with opened := n :: r.opened })

def leave (r : Reader) (graph : NodeGraph) : Reader :=
  { r with graph, opened := r.opened.drop 1 }

def closeSequence (r : Reader) (n : Nat) (items : List Nat) : Reader :=
  r.leave (r.graph.setNode n ⟨r.graph.tag n, .seq items⟩)

def closeMapping (r : Reader) (n : Nat) (entries : List NodePair) : Reader :=
  r.leave (r.graph.putEntries n entries.toArray)

def alias? (r : Reader) (name : List Char) : Option (Nat × Reader) :=
  (r.anchors.lookup name).map fun n =>
    (n, { r.skip with graph :=
      { r.graph with isRecursive := r.graph.isRecursive || r.opened.contains n } })

end Reader

/-- The fault of a token that does not fit, which may be the place where the text breaks off. -/
def misplaced : Token → Fault
  | .fault cause => cause
  | _ => .malformed

structure Properties where
  anchor : Option (List Char) := none
  tag : Option (Option (List Char) × List Char) := none

/-- Reads an anchor and a tag, in either order. After the first one the next token is looked at. -/
def properties (r : Reader) : Except Fault (Properties × Reader) :=
  match r.tokens with
  | .anchor a :: .tag handle rest :: tokens =>
    .ok (⟨some a, some (handle, rest)⟩, { r with tokens })
  | .tag handle rest :: .anchor a :: tokens =>
    .ok (⟨some a, some (handle, rest)⟩, { r with tokens })
  | .anchor _ :: .fault cause :: _ => .error cause
  | .tag .. :: .fault cause :: _ => .error cause
  | .anchor a :: tokens => .ok (⟨some a, none⟩, { r with tokens })
  | .tag handle rest :: tokens => .ok (⟨none, some (handle, rest)⟩, { r with tokens })
  | _ => .ok ({}, r)

/-- The whole tag, with its handle replaced; a lone exclamation mark counts as no tag. -/
def resolveTag (r : Reader) : Option (Option (List Char) × List Char) →
    Except Fault (Option (List Char))
  | none => .ok none
  | some (none, rest) => .ok (some rest)
  | some (some handle, rest) =>
    match r.handles.lookup handle with
    | some expansion => .ok (some (expansion ++ rest))
    | none => .error .malformed

/-- A tag that leaves the choice to the form of the node. -/
def isOpenTag (tag : Option (List Char)) : Bool := tag = none || tag = some ['!']

def collectionTag (tag : Option (List Char)) (default : Tag) : Tag :=
  if isOpenTag tag then default else (tag.map Tag.ofName).getD default

/-- A scalar is tagged by its form if it is plain or its tag is an exclamation mark. -/
def scalarTag (tag : Option (List Char)) (text : List Char) (isPlain : Bool) : Tag :=
  match tag with
  | none => if isPlain then Tag.ofPlain text else .str
  | some name => if name = ['!'] then Tag.ofPlain text else Tag.ofName name

/-- Which collections may begin where a node is read, and how many are open. -/
structure Context where
  block : Bool
  indentless : Bool := false
  depth : Nat

def endsEntry (stops : List Token) (r : Reader) : Bool := stops.contains r.peek

mutual

/-- Reads one node. An anchor that is taken is noticed when the node begins. -/
def read (fuel : Nat) (ctx : Context) (r : Reader) : Except Fault (Nat × Reader) :=
  match fuel with
  | 0 => .error .malformed
  | fuel + 1 =>
    if ctx.depth > maxDepth then .error .tooDeep
    else if let .alias name := r.peek then
      match r.alias? name with
      | some read => .ok read
      | none => .error .malformed
    else do
      let (props, r) ← properties r
      let tag ← resolveTag r props.tag
      if (props.anchor.bind fun a => r.anchors.lookup a).isSome then .error (misplaced r.peek)
      let inside := ctx.depth + 1
      -- A collection is opened before its items are read: one of them may be an alias of it.
      let sequence (items : Reader → Except Fault (List Nat × Reader)) (r : Reader) := do
        let (n, r) := r.openNode props.anchor (collectionTag tag .seq)
        let (items, r) ← items r
        return (n, r.closeSequence n items)
      let mapping (entries : Reader → Except Fault (List NodePair × Reader)) (r : Reader) := do
        let (n, r) := r.openNode props.anchor (collectionTag tag .map)
        let (entries, r) ← entries r
        return (n, r.closeMapping n entries)
      match r.peek, ctx.block, ctx.indentless with
      -- These dashes stand below their key without an indentation, so no token opens the sequence.
      | .blockEntry, _, true => sequence (indentlessItems fuel inside) r
      | .scalar text isPlain, _, _ =>
        return r.skip.put props.anchor ⟨scalarTag tag text isPlain, .scalar text⟩
      | .flowSequenceStart, _, _ => sequence (flowItems fuel inside true) r.skip
      | .flowMappingStart, _, _ => mapping (flowEntries fuel inside true) r.skip
      | .blockSequenceStart, true, _ => sequence (blockItems fuel inside) r.skip
      | .blockMappingStart, true, _ => mapping (blockEntries fuel inside) r.skip
      | t, _, _ =>
        match misplaced t with
        | .malformed =>
          -- An anchor or a tag alone belongs to a blank scalar.
          if props.anchor.isSome || tag.isSome then
            let tag := if isOpenTag tag then .null else (tag.map Tag.ofName).getD .null
            return r.put props.anchor ⟨tag, .scalar []⟩
          else .error .malformed
        | cause => .error cause

def readUnless (fuel : Nat) (stops : List Token) (ctx : Context) (r : Reader) :
    Except Fault (Nat × Reader) :=
  match fuel with
  | 0 => .error .malformed
  | fuel + 1 => if endsEntry stops r then .ok r.putBlank else read fuel ctx r

/-- The value of an entry, which is blank without a colon. -/
def readValue (fuel : Nat) (stops : List Token) (ctx : Context) (r : Reader) :
    Except Fault (Nat × Reader) :=
  match fuel with
  | 0 => .error .malformed
  | fuel + 1 => if r.peek = .value then readUnless fuel stops ctx r.skip else .ok r.putBlank

def blockItems (fuel : Nat) (depth : Nat) (r : Reader) : Except Fault (List Nat × Reader) :=
  match fuel with
  | 0 => .error .malformed
  | fuel + 1 =>
    match r.peek with
    | .blockEntry => do
      let (item, r) ← readUnless fuel [.blockEntry, .blockEnd] { block := true, depth } r.skip
      let (items, r) ← blockItems fuel depth r
      return (item :: items, r)
    | .blockEnd => .ok ([], r.skip)
    | t => .error (misplaced t)

/-- Items of a sequence that is not indented below its key. -/
def indentlessItems (fuel : Nat) (depth : Nat) (r : Reader) : Except Fault (List Nat × Reader) :=
  match fuel with
  | 0 => .error .malformed
  | fuel + 1 =>
    match r.peek with
    | .blockEntry => do
      let (item, r) ←
        readUnless fuel [.blockEntry, .key, .value, .blockEnd] { block := true, depth } r.skip
      let (items, r) ← indentlessItems fuel depth r
      return (item :: items, r)
    | _ => .ok ([], r)

def blockEntries (fuel : Nat) (depth : Nat) (r : Reader) : Except Fault (List NodePair × Reader) :=
  match fuel with
  | 0 => .error .malformed
  | fuel + 1 =>
    let stops := [Token.key, .value, .blockEnd]
    let ctx : Context := { block := true, indentless := true, depth }
    match r.peek with
    | .key => do
      let (key, r) ← readUnless fuel stops ctx r.skip
      let (value, r) ← readValue fuel stops ctx r
      let (entries, r) ← blockEntries fuel depth r
      return ((key, value) :: entries, r)
    | .blockEnd => .ok ([], r.skip)
    | t => .error (misplaced t)

/-- Items of a flow sequence; one that is a key stands for a mapping with one entry. -/
def flowItems (fuel : Nat) (depth : Nat) (first : Bool) (r : Reader) :
    Except Fault (List Nat × Reader) :=
  match fuel with
  | 0 => .error .malformed
  | fuel + 1 =>
    if r.peek = .flowSequenceEnd then .ok ([], r.skip)
    else if !first && r.peek ≠ .flowEntry then .error (misplaced r.peek)
    else
      let r := if first then r else r.skip
      match r.peek with
      | .flowSequenceEnd => .ok ([], r.skip)
      | .key => do
        let ctx : Context := { block := false, depth := depth + 1 }
        let (n, r) := r.skip.openNode none .map
        let (key, r) ← readUnless fuel [.value, .flowEntry, .flowSequenceEnd] ctx r
        let (value, r) ← readValue fuel [.flowEntry, .flowSequenceEnd] ctx r
        let (items, r) ← flowItems fuel depth false (r.closeMapping n [(key, value)])
        return (n :: items, r)
      | _ => do
        let (item, r) ← read fuel { block := false, depth } r
        let (items, r) ← flowItems fuel depth false r
        return (item :: items, r)

/-- Entries of a flow mapping; a node without a colon is a key without a value. -/
def flowEntries (fuel : Nat) (depth : Nat) (first : Bool) (r : Reader) :
    Except Fault (List NodePair × Reader) :=
  match fuel with
  | 0 => .error .malformed
  | fuel + 1 =>
    if r.peek = .flowMappingEnd then .ok ([], r.skip)
    else if !first && r.peek ≠ .flowEntry then .error (misplaced r.peek)
    else
      let r := if first then r else r.skip
      let ctx : Context := { block := false, depth }
      match r.peek with
      | .flowMappingEnd => .ok ([], r.skip)
      | .key => do
        let (key, r) ← readUnless fuel [.value, .flowEntry, .flowMappingEnd] ctx r.skip
        let (value, r) ← readValue fuel [.flowEntry, .flowMappingEnd] ctx r
        let (entries, r) ← flowEntries fuel depth false r
        return ((key, value) :: entries, r)
      | _ => do
        let (key, r) ← read fuel ctx r
        let (value, r) := r.putBlank
        let (entries, r) ← flowEntries fuel depth false r
        return ((key, value) :: entries, r)

end

def defaultHandles : List (List Char × List Char) :=
  [(['!'], ['!']), (['!', '!'], Tag.vocabulary.toList)]

def directives (versionSeen : Bool) (handles : List (List Char × List Char)) :
    List Token → Except Fault (List (List Char × List Char) × List Token)
  | .versionDirective major :: tokens =>
    if versionSeen || major ≠ 1 then .error .malformed else directives true handles tokens
  | .tagDirective handle expansion :: tokens =>
    if (handles.lookup handle).isSome then .error .malformed
    else directives versionSeen ((handle, expansion) :: handles) tokens
  | .otherDirective :: tokens => directives versionSeen handles tokens
  | tokens => .ok (handles ++ defaultHandles, tokens)

def isDirective : Token → Bool
  | .versionDirective _ => true
  | .tagDirective .. => true
  | .otherDirective => true
  | _ => false

/-- Nothing but ends of the document may follow it. Directives are still read, and a place where
the text breaks off is told before the second document. -/
def finish : List Token → Except Fault Unit
  | .documentEnd :: tokens => finish tokens
  | .streamEnd :: _ => .ok ()
  | tokens => do
    let (_, rest) ← directives false [] tokens
    .error (misplaced (rest.headD .streamEnd))

/-- The nodes of a document, and which of them is the root. -/
structure Document where
  graph : NodeGraph
  root : Nat

def document (handles : List (List Char × List Char)) (tokens : List Token) :
    Except Fault Document := do
  let r : Reader := { tokens, handles }
  let t := r.peek
  let (root, r) ←
    if t = .documentStart || t = .documentEnd || t = .streamEnd || isDirective t then
      pure r.putBlank
    else read (4 * tokens.length + 8) { block := true, depth := 0 } r
  finish r.tokens
  return ⟨r.graph, root⟩

/-- The only document of a text, or none if the text is empty. -/
def ofTokens (tokens : List Token) : Except Fault (Option Document) :=
  match tokens with
  | [] => .ok none
  | .streamEnd :: _ => .ok none
  | t :: _ =>
    if isDirective t || t = .documentStart then do
      let (handles, rest) ← directives false [] tokens
      match rest with
      | .documentStart :: rest => (document handles rest).map some
      | t :: _ => .error (misplaced t)
      | [] => .error .malformed
    else if t = .documentEnd then .error .malformed
    else (document defaultHandles tokens).map some

def ofText (s : List Char) : Except Fault (Option Document) := ofTokens (Token.ofText s)

end Node

end DocTrace.Yaml
