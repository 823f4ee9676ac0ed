import SchemaGraph.Yaml.Tag
import SchemaGraph.Yaml.Token

/-!
# Nodes

A document is a tree of scalars, sequences and mappings, each with a tag. Where nothing is written
a node is an empty plain scalar. A node with an anchor may be named again further on; inside of
itself it is still without parts. Blocks can be nested only so deep.

Every step takes a token or goes into a part of the grammar that does, so a multiple of the number
of tokens bounds the steps.
-/

namespace SchemaGraph.Yaml

inductive Node where
  | scalar (tag : Tag) (text : String)
  | sequence (tag : Tag) (items : List Node)
  | mapping (tag : Tag) (entries : List (Node × Node))

namespace Node

def tag : Node → Tag
  | scalar t _ => t
  | sequence t _ => t
  | mapping t _ => t

def empty : Node := scalar (Tag.ofPlain "") ""

/-- How deep sequences and mappings can be nested. -/
def depthLimit : Nat := 485

/-- What is known and left to read at a place in a document. -/
structure Place where
  tokens : List Token
  /-- The first parts of tags by their handles. -/
  handles : List (String × String) := [("!", "!"), ("!!", Tag.firstPart)]
  anchors : List (String × Node) := []

abbrev Reading := StateT Place (Except Fault)

def fail : Reading α := throw .malformed

/-- The token at the front. -/
def peek : Reading Token := do
  match (← get).tokens with
  | .broken f :: _ => throw f
  | t :: _ => return t
  | [] => return .stop

def drop : Reading Unit := modify fun p => { p with tokens := p.tokens.drop 1 }

/-- Take a token if it is at the front. -/
def accept (t : Token) : Reading Bool := do
  if (← peek) == t then drop; return true else return false

def expect (t : Token) : Reading Unit := do
  if !(← accept t) then fail

/-- A tag in full. -/
def fullTag (t : TagName) : Reading String := do
  match t.handle with
  | none => return t.suffix
  | some h =>
    match (← get).handles.lookup h with
    | some first => return first ++ t.suffix
    | none => fail

def anchor? : Reading (Option String) := do
  match ← peek with
  | .anchor name => drop; return some name
  | _ => return none

def tag? : Reading (Option String) := do
  match ← peek with
  | .tag t => drop; return some (← fullTag t)
  | _ => return none

/-- The anchor and the tag of a node, in either order. -/
def properties : Reading (Option String × Option String) := do
  match ← anchor? with
  | some a => return (some a, ← tag?)
  | none =>
    let t ← tag?
    return (← anchor?, t)

/-- Let an anchor stand for a node. -/
def bindAnchor (anchor : Option String) (n : Node) : Reading Unit :=
  match anchor with
  | some a => modify fun p => { p with anchors := (a, n) :: p.anchors }
  | none => pure ()

/-- The tag of a collection; a mark alone is no tag. -/
def collectionTag (given : Option String) (usual : Tag) : Tag :=
  match given with
  | none => usual
  | some t => if t == "!" then usual else .ofName t

/-- The tag of a scalar. A mark alone asks for the form of the text, even in quotes. -/
def scalarTag (given : Option String) (isPlain : Bool) (text : String) : Tag :=
  match given with
  | none => if isPlain then .ofPlain text else .text
  | some t => if t == "!" then .ofPlain text else .ofName t

/-- A collection, which its anchor stands for without its parts while they are read. -/
def collection (depth : Nat) (anchor : Option String) (hollow : Node) (parts : Reading Node) :
    Reading Node := do
  if depth == 0 then throw .tooDeep
  bindAnchor anchor hollow
  let n ← parts
  bindAnchor anchor n
  return n

/-- A part that may be left out before certain tokens. -/
def unlessBefore (ends : List Token) (part : Reading Node) : Reading Node := do
  if ends.contains (← peek) then return empty else part

/-- A key and its value, each of which may be left out before certain tokens. -/
def entry (keyEnds valueEnds : List Token) (part : Reading Node) : Reading (Node × Node) := do
  let key ← unlessBefore keyEnds part
  if ← accept .value then return (key, ← unlessBefore valueEnds part)
  else return (key, empty)

mutual

/-- A node where blocks may start or not, and where sequences without an indentation of their own
may or may not. -/
def node (fuel depth : Nat) (inBlock indentless : Bool) : Reading Node :=
  match fuel with
  | 0 => fail
  | fuel + 1 => do
    if let .alias a ← peek then
      drop
      match (← get).anchors.lookup a with
      | some n => return n
      | none => fail
    else
      let (anchor, tag) ← properties
      let anchors := (← get).anchors
      if anchor.any fun a => (anchors.lookup a).isSome then fail
      let listTag := collectionTag tag .list
      let mapTag := collectionTag tag .map
      let list (items : Reading (List Node)) : Reading Node :=
        collection depth anchor (sequence listTag []) (sequence listTag <$> items)
      let map (entries : Reading (List (Node × Node))) : Reading Node :=
        collection depth anchor (mapping mapTag []) (mapping mapTag <$> entries)
      match ← peek, inBlock, indentless with
      | .scalar text isPlain, _, _ =>
        drop
        let n := scalar (scalarTag tag isPlain text) text
        bindAnchor anchor n
        return n
      | .flowSequence, _, _ =>
        drop
        list (flowItems fuel (depth - 1) true)
      | .flowMapping, _, _ =>
        drop
        map (flowEntries fuel (depth - 1) true)
      | .blockEntry, _, true => list (indentlessItems fuel (depth - 1))
      | .blockSequence, true, _ =>
        drop
        list (blockItems fuel (depth - 1))
      | .blockMapping, true, _ =>
        drop
        map (blockEntries fuel (depth - 1))
      | _, _, _ =>
        if anchor.isNone && tag.isNone then fail
        else
          let n := scalar (scalarTag tag true "") ""
          bindAnchor anchor n
          return n

def blockItems (fuel depth : Nat) : Reading (List Node) :=
  match fuel with
  | 0 => fail
  | fuel + 1 => do
    if ← accept .blockEntry then
      let n ← unlessBefore [.blockEntry, .blockEnd] (node fuel depth true false)
      return n :: (← blockItems fuel depth)
    else
      expect .blockEnd
      return []

/-- The items of a sequence that is indented like the mapping around it. -/
def indentlessItems (fuel depth : Nat) : Reading (List Node) :=
  match fuel with
  | 0 => fail
  | fuel + 1 => do
    if ← accept .blockEntry then
      let ends := [.blockEntry, .key, .value, .blockEnd]
      let n ← unlessBefore ends (node fuel depth true false)
      return n :: (← indentlessItems fuel depth)
    else return []

def blockEntries (fuel depth : Nat) : Reading (List (Node × Node)) :=
  match fuel with
  | 0 => fail
  | fuel + 1 => do
    if ← accept .key then
      let ends := [.key, .value, .blockEnd]
      let e ← entry ends ends (node fuel depth true true)
      return e :: (← blockEntries fuel depth)
    else
      expect .blockEnd
      return []

/-- The items of a flow sequence, where an entry stands for a mapping with this entry alone. -/
def flowItems (fuel depth : Nat) (first : Bool) : Reading (List Node) :=
  match fuel with
  | 0 => fail
  | fuel + 1 => do
    if ← accept .flowSequenceEnd then return []
    if !first then expect .flowEntry
    if ← accept .key then
      let ends := [.flowEntry, .flowSequenceEnd]
      let e ← entry (.value :: ends) ends (node fuel (depth - 1) false false)
      return mapping .map [e] :: (← flowItems fuel depth false)
    else if ← accept .flowSequenceEnd then return []
    else
      let n ← node fuel depth false false
      return n :: (← flowItems fuel depth false)

/-- The entries of a flow mapping, where a node alone is a key. -/
def flowEntries (fuel depth : Nat) (first : Bool) : Reading (List (Node × Node)) :=
  match fuel with
  | 0 => fail
  | fuel + 1 => do
    if ← accept .flowMappingEnd then return []
    if !first then expect .flowEntry
    if ← accept .key then
      let ends := [.flowEntry, .flowMappingEnd]
      let e ← entry (.value :: ends) ends (node fuel depth false false)
      return e :: (← flowEntries fuel depth false)
    else if ← accept .flowMappingEnd then return []
    else
      let n ← node fuel depth false false
      return (n, empty) :: (← flowEntries fuel depth false)

end

/-- The handles that directives introduce, and the tokens after them. At most one directive gives
the version of the form, and each handle is introduced once. -/
def directives (versioned : Bool) (own : List (String × String)) :
    List Token → Except Fault (List (String × String) × List Token)
  | .directive (.version major) :: rest =>
    if versioned || major != 1 then .error .malformed else directives true own rest
  | .directive (.handle name first) :: rest =>
    if (own.lookup name).isSome then .error .malformed
    else directives versioned ((name, first) :: own) rest
  | .directive .other :: rest => directives versioned own rest
  | rest => .ok (own, rest)

/-- The only document, if there is one. -/
def document (fuel : Nat) : Reading (Option Node) := do
  let (own, rest) ← directives false [] (← get).tokens
  let isExplicit := rest.length != (← get).tokens.length || rest.head? == some .documentStart
  modify fun p => { p with tokens := rest, handles := own ++ p.handles }
  if (← peek) == .stop && !isExplicit then return none
  else
    let root := node fuel depthLimit true false
    let n ←
      if isExplicit then
        expect .documentStart
        unlessBefore [.documentStart, .documentEnd, .stop] root
      else root
    modify fun p => { p with tokens := p.tokens.dropWhile (· == .documentEnd) }
    expect .stop
    return some n

def ofTokens (tokens : List Token) : Except Fault (Option Node) :=
  (document (2 * tokens.length + 4)).run' { tokens := tokens }

end Node
end SchemaGraph.Yaml
