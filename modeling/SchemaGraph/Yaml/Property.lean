import SchemaGraph.Decimal.Numeral
import SchemaGraph.Text.Encoding
import SchemaGraph.Yaml.Source

/-!
# Properties and directives

A node may have an anchor, by which it can be named again, and a tag, which says what kind of value
it is. A tag is written in full, or as a suffix behind a handle for its first part. Directives at
the top of a document tell the version of the form and introduce handles.
-/

namespace SchemaGraph.Yaml

structure TagName where
  /-- The handle; none for a tag that is written in full. -/
  handle : Option String
  suffix : String
  deriving Repr, DecidableEq

inductive Directive where
  | version (major : Nat)
  | handle (name first : String)
  | other
  deriving Repr, DecidableEq

def isWord (c : Char) : Bool := c.isAlphanum || c == '-' || c == '_'

/-- The name of an anchor, from behind its mark on. -/
def anchorName (s : Source) : Except Fault (String × Source) :=
  let name := s.takeWhile isWord
  let rest := s.dropWhile isWord
  if name.isEmpty then .error .malformed
  else if rest.isApart || rest.startsWith ("?:,]\x7d%@\x60".toList.contains ·) then
    .ok (String.ofList name, rest)
  else .error .malformed

/-- The characters that a tag may hold as they are. -/
def isTagChar (c : Char) : Bool :=
  c.isAlphanum || "-;/?:@&=+$,_.!~*'()[]".toList.contains c

/-- The bytes that percent signs and pairs of digits stand for. -/
def escapedBytes : Source → Except Fault (List UInt8 × Source)
  | g :: a :: b :: rest =>
    if g.char == '%' then
      match Decimal.natural? 16 [a.char, b.char] with
      | some n => do
        let (bytes, rest) ← escapedBytes rest
        return (UInt8.ofNat n :: bytes, rest)
      | none => .error .malformed
    else .ok ([], g :: a :: b :: rest)
  | s => if s.startsWith (· == '%') then .error .malformed else .ok ([], s)

def tagChars : Nat → Source → Except Fault (List Char × Source)
  | 0, s => .ok ([], s)
  | fuel + 1, s =>
    let part := s.takeWhile isTagChar
    let rest := s.dropWhile isTagChar
    if rest.startsWith (· == '%') then do
      let (bytes, rest) ← escapedBytes rest
      match Text.ofUtf8? bytes with
      | some escaped =>
        let (more, rest) ← tagChars fuel rest
        return (part ++ escaped.toList ++ more, rest)
      | none => .error .malformed
    else .ok (part, rest)

/-- A tag or a part of one, which has at least one character. -/
def tagText (fuel : Nat) (s : Source) : Except Fault (String × Source) := do
  let (cs, rest) ← tagChars fuel s
  if s.startsWith fun c => isTagChar c || c == '%' then return (String.ofList cs, rest)
  else .error .malformed

/-- A handle: a mark alone, or a word between two marks, which may be empty. -/
def handle (s : Source) : Except Fault (String × Source) :=
  let rest := s.drop 1
  let word := rest.takeWhile isWord
  let rest' := rest.dropWhile isWord
  if !s.startsWith (· == '!') then .error .malformed
  else if rest.startsWith (· == ' ') then .ok ("!", rest)
  else if rest'.startsWith (· == '!') then
    .ok (String.ofList ('!' :: word ++ ['!']), rest'.drop 1)
  else .error .malformed

/-- Whether a word is followed by a space, a line end or the end of the text. -/
def endsProperty (s : Source) : Bool :=
  s.isEmpty || s.startsWith fun c => c == ' ' || isLineEnd c

/-- A tag, from its mark on. -/
def tagName (fuel : Nat) (s : Source) : Except Fault (TagName × Source) := do
  let rest := s.drop 1
  let (tag, rest) ←
    if rest.startsWith (· == '<') then
      let (suffix, rest) ← tagText fuel (rest.drop 1)
      if rest.startsWith (· == '>') then .ok (⟨none, suffix⟩, rest.drop 1) else .error .malformed
    else if rest.isApart then .ok (⟨none, "!"⟩, rest)
    else
      let word := rest.takeWhile fun c => !(c == ' ' || isLineEnd c)
      let (name, rest) ← if word.contains '!' then handle s else .ok ("!", rest)
      let (suffix, rest) ← tagText fuel rest
      .ok (⟨some name, suffix⟩, rest)
  if endsProperty rest then return (tag, rest) else .error .malformed

/-- Digits at the front. -/
def number (s : Source) : Except Fault (Nat × Source) :=
  match s.takeWhile Char.isDigit with
  | [] => .error .malformed
  | digits =>
    match Decimal.natural? 10 digits with
    | some n => .ok (n, s.dropWhile Char.isDigit)
    | none => .error .malformed

def spaced (s : Source) : Source := s.dropWhile (· == ' ')

def versionDirective (s : Source) : Except Fault (Directive × Source) := do
  let (major, rest) ← number (spaced s)
  if !rest.startsWith (· == '.') then .error .malformed
  else
    let (_, rest) ← number (rest.drop 1)
    if endsProperty rest then return (.version major, rest) else .error .malformed

def handleDirective (fuel : Nat) (s : Source) : Except Fault (Directive × Source) := do
  let (name, rest) ← handle (spaced s)
  if !rest.startsWith (· == ' ') then .error .malformed
  else
    let (first, rest) ← tagText fuel (spaced rest)
    if endsProperty rest then return (.handle name first, rest) else .error .malformed

/-- A directive, from behind its mark on, with its line. -/
def directive (fuel : Nat) (s : Source) : Except Fault (Directive × Source) := do
  let name := s.takeWhile isWord
  let rest := s.dropWhile isWord
  if name.isEmpty || !endsProperty rest then .error .malformed
  else
    let (d, rest) ←
      match String.ofList name with
      | "YAML" => versionDirective rest
      | "TAG" => handleDirective fuel rest
      | _ => .ok (.other, rest.dropWhile (!isLineEnd ·))
    match rest.restOfLine? with
    | some rest => return (d, rest)
    | none => .error .malformed

end SchemaGraph.Yaml
