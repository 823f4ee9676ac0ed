import SchemaGraph.Yaml.Property
import SchemaGraph.Yaml.Scalar

/-!
# Tokens of a settings file

Tokens are read one after the other. Outside of flow collections the indentation opens and closes
blocks, so the columns of the open blocks are kept. Whether a scalar or a collection is a key shows
only at the colon behind it, on the same line and not too far away. So each place where a key could
have started is kept until then, one for every open flow collection and one for the blocks. Tokens
are never put in between: the places that turned out to be keys are noted, and marked at the end.

A key is required at the column of the block it stands in.
-/

namespace SchemaGraph.Yaml

inductive Token where
  | directive (d : Directive)
  | documentStart
  | documentEnd
  | blockSequence
  | blockMapping
  | blockEnd
  | blockEntry
  | flowSequence
  | flowSequenceEnd
  | flowMapping
  | flowMappingEnd
  | flowEntry
  | key
  | value
  | alias (name : String)
  | anchor (name : String)
  | tag (t : TagName)
  | scalar (text : String) (isPlain : Bool)
  | stop
  /-- The place where the text cannot be read on. -/
  | broken (f : Fault)
  deriving Repr, DecidableEq

/-- A place where a key may have started. -/
structure KeyStart where
  /-- The number of tokens before it. -/
  index : Nat
  glyph : Glyph
  required : Bool

/-- A place where a key did start, and whether it starts a block as well. -/
structure KeyMark where
  index : Nat
  startsBlock : Bool

structure Lexer where
  source : Source
  /-- The columns of the open blocks, innermost first. -/
  columns : List Nat := []
  /-- The key that may have started in the innermost collection. -/
  pending : Option KeyStart := none
  /-- Those of the collections around it. -/
  outer : List (Option KeyStart) := []
  keyAllowed : Bool := true
  /-- The tokens so far, last first, and their number. -/
  tokens : List Token := []
  count : Nat := 0
  marks : List KeyMark := []

namespace Lexer

/-- How far behind its start the colon of a key may be. -/
def keyReach : Nat := 1024

def inFlow (s : Lexer) : Bool := !s.outer.isEmpty

def push (s : Lexer) (t : Token) : Lexer :=
  { s with tokens := t :: s.tokens, count := s.count + 1 }

/-- The least column of what belongs to the innermost block. -/
def innerColumn (s : Lexer) : Nat :=
  match s.columns with
  | c :: _ => c + 1
  | [] => 0

/-- Close the blocks from a column on. -/
def closeFrom (s : Lexer) (column : Nat) : Lexer :=
  if s.inFlow then s
  else
    let closed := (s.columns.takeWhile (column ≤ ·)).length
    { s with
      columns := s.columns.drop closed
      tokens := List.replicate closed .blockEnd ++ s.tokens
      count := s.count + closed }

/-- Open a block, unless there is one in this column. -/
def openAt (s : Lexer) (column : Nat) (t : Token) : Lexer :=
  if s.inFlow || column < s.innerColumn then s
  else { s with columns := column :: s.columns }.push t

/-- Give up the key that may have started; one that is required cannot be given up. -/
def giveUp (key : Option KeyStart) : Except Fault (Option KeyStart) :=
  if key.any (·.required) then .error .malformed else .ok none

def withoutKey (s : Lexer) : Except Fault Lexer := do
  return { s with pending := ← giveUp s.pending }

/-- Give up the keys that are out of reach of a place. -/
def withoutStale (s : Lexer) (g : Glyph) : Except Fault Lexer := do
  let kept (key : Option KeyStart) : Except Fault (Option KeyStart) :=
    let isStale := key.any fun k =>
      k.glyph.line != g.line || k.glyph.offset + keyReach < g.offset
    if isStale then giveUp key else .ok key
  return { s with pending := ← kept s.pending, outer := ← s.outer.mapM kept }

/-- Keep a place where a key may start. -/
def withKey (s : Lexer) (g : Glyph) : Except Fault Lexer :=
  if s.keyAllowed then do
    let required := !s.inFlow && s.columns.head? == some g.column
    return { ← s.withoutKey with pending := some ⟨s.count, g, required⟩ }
  else .ok s

/-- A token that may be a key, after which none may start. -/
def operand (s : Lexer) (g : Glyph) (t : Token) (rest : Source) : Except Fault Lexer := do
  return { (← s.withKey g).push t with source := rest, keyAllowed := false }

def openFlow (s : Lexer) (g : Glyph) (t : Token) (rest : Source) : Except Fault Lexer := do
  let s := (← s.withKey g).push t
  return { s with
    source := rest, keyAllowed := true, pending := none, outer := s.pending :: s.outer }

def closeFlow (s : Lexer) (t : Token) (rest : Source) : Except Fault Lexer := do
  match (← s.withoutKey).outer with
  | [] => .error .malformed
  | key :: outer =>
    return { s.push t with source := rest, keyAllowed := false, pending := key, outer := outer }

/-- A mark between documents, or a directive before one. -/
def divider (s : Lexer) (t : Token) (rest : Source) : Except Fault Lexer := do
  return { (← (s.closeFrom 0).withoutKey).push t with source := rest, keyAllowed := false }

/-- A mark that starts a part of a block or of a flow collection. -/
def mark (s : Lexer) (g : Glyph) (block t : Token) (keyAllowed : Bool) (rest : Source) :
    Except Fault Lexer :=
  if s.inFlow || s.keyAllowed then do
    return { (← (s.openAt g.column block).withoutKey).push t with
      source := rest, keyAllowed := keyAllowed }
  else .error .malformed

/-- The colon behind a key. -/
def colon (s : Lexer) (g : Glyph) (rest : Source) : Except Fault Lexer :=
  match s.pending with
  | none => s.mark g .blockMapping .value (!s.inFlow) rest
  | some key =>
    let startsBlock := !s.inFlow && s.innerColumn ≤ key.glyph.column
    let columns := if startsBlock then key.glyph.column :: s.columns else s.columns
    .ok { s.push .value with
      source := rest, keyAllowed := false, pending := none, columns := columns
      marks := ⟨key.index, startsBlock⟩ :: s.marks }

def block (s : Lexer) (folds : Bool) (fuel : Nat) (rest : Source) : Except Fault Lexer := do
  let (text, rest) ← blockScalar folds s.innerColumn fuel rest
  return { (← s.withoutKey).push (.scalar text false) with source := rest, keyAllowed := true }

def plain (s : Lexer) (g : Glyph) (fuel : Nat) : Except Fault Lexer :=
  if startsPlain s.inFlow s.source then do
    let scalar := plainScalar s.inFlow s.innerColumn fuel s.source
    return { ← s.operand g (.scalar scalar.text true) scalar.rest with
      keyAllowed := scalar.crossed }
  else .error .malformed

/-- Read the token that starts with a character. -/
def tokenAt (s : Lexer) (fuel : Nat) (g : Glyph) (rest : Source) : Except Fault Lexer :=
  let isMark := s.inFlow || rest.isApart
  if g.column == 0 && g.char == '%' then do
    let (d, rest) ← directive fuel rest
    s.divider (.directive d) rest
  else if g.column == 0 && s.source.isDivider then
    s.divider (if g.char == '-' then .documentStart else .documentEnd) (s.source.drop 3)
  else
    match g.char with
    | '[' => s.openFlow g .flowSequence rest
    | '\x7b' => s.openFlow g .flowMapping rest
    | ']' => s.closeFlow .flowSequenceEnd rest
    | '\x7d' => s.closeFlow .flowMappingEnd rest
    | ',' => do
      return { (← s.withoutKey).push .flowEntry with source := rest, keyAllowed := true }
    | '-' =>
      if rest.isApart then s.mark g .blockSequence .blockEntry true rest else s.plain g fuel
    | '?' => if isMark then s.mark g .blockMapping .key (!s.inFlow) rest else s.plain g fuel
    | ':' => if isMark then s.colon g rest else s.plain g fuel
    | '*' => do
      let (name, rest) ← anchorName rest
      s.operand g (.alias name) rest
    | '&' => do
      let (name, rest) ← anchorName rest
      s.operand g (.anchor name) rest
    | '!' => do
      let (t, rest) ← tagName fuel s.source
      s.operand g (.tag t) rest
    | '|' => if s.inFlow then .error .malformed else s.block false fuel rest
    | '>' => if s.inFlow then .error .malformed else s.block true fuel rest
    | '\'' => do
      let (text, rest) ← quotedBody false fuel [] rest
      s.operand g (.scalar text false) rest
    | '"' => do
      let (text, rest) ← quotedBody true fuel [] rest
      s.operand g (.scalar text false) rest
    | _ => s.plain g fuel

/-- Read the next token. -/
def step (s : Lexer) (fuel : Nat) : Except Fault Lexer := do
  let (crossed, rest) := Source.skipGap false false s.source
  let s := { s with source := rest, keyAllowed := s.keyAllowed || (crossed && !s.inFlow) }
  match rest with
  | [] => return (← (s.closeFrom 0).withoutKey).push .stop
  | g :: rest => ((← s.withoutStale g).closeFrom (g.column + 1)).tokenAt fuel g rest

/-- Give up the keys that are out of reach already behind the last token. -/
def decided (s : Lexer) : Except Fault Lexer :=
  match s.source with
  | [] => .ok s
  | g :: _ => s.withoutStale g

/-- Stop at a fault. What may still be a key cannot be looked at, as that is not decided yet. -/
def breakOff (s : Lexer) (f : Fault) : Lexer :=
  let starts := (s.pending :: s.outer).filterMap fun key => key.map (·.index)
  let count := starts.foldl min s.count
  { s with tokens := s.tokens.drop (s.count - count), count := count }.push (.broken f)

def run : Nat → Lexer → Lexer
  | 0, s => s.breakOff .malformed
  | fuel + 1, s =>
    match s.decided with
    | .error f => s.breakOff f
    | .ok s =>
      match s.step fuel with
      | .error f => s.breakOff f
      | .ok s' => if s'.tokens.head? == some .stop then s' else run fuel s'

end Lexer

namespace Token

/-- Put in the marks of keys, in the order of their places; `n` tokens come before. -/
def marked (n : Nat) : List KeyMark → List Token → List Token
  | m :: marks, t :: tokens =>
    if m.index == n then
      (if m.startsBlock then [blockMapping, key] else [key]) ++ t :: marked (n + 1) marks tokens
    else t :: marked (n + 1) (m :: marks) tokens
  | _, tokens => tokens

/-- The tokens of a text. The last one tells how the text ends. -/
def ofSource (text : Source) : List Token :=
  let s := Lexer.run (text.length + 2) { source := text }
  marked 0 (s.marks.mergeSort fun a b => a.index ≤ b.index) s.tokens.reverse

end Token
end SchemaGraph.Yaml
