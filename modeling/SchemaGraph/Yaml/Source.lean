import SchemaGraph.Text.Symbol

/-!
# The text of a settings file

Where a character stands decides what it means, so the text is a list of characters with their
places. All kinds of line end but the two separators of Unicode count as one. A byte order mark
takes no column, and in front of the text it is no part of it. Control characters are refused.
-/

namespace SchemaGraph.Yaml

/-- What can be wrong with a settings file. -/
inductive Fault where
  /-- The text breaks the rules of the form. -/
  | malformed
  /-- A scalar of the right form has no meaning, for a stated reason. -/
  | unreadable (message : String)
  | noPart
  | noKey
  | noIndex
  | overflow
  | tooDeep
  deriving Repr, DecidableEq

/-- A character and its place. -/
structure Glyph where
  char : Char
  line : Nat
  column : Nat
  offset : Nat
  deriving Repr, DecidableEq

abbrev Source := List Glyph

def nextLine : Char := Char.ofNat 0x85

def byteOrderMark : Char := Char.ofNat 0xFEFF

def isAllowed (c : Char) : Bool :=
  let n := c.toNat
  c == '\t' || c == '\n' || c == '\r' || c == nextLine || (0x20 ≤ n && n < 0x7F) ||
    (0xA0 ≤ n && n < 0xFFFE) || 0x10000 ≤ n

def isLineEnd (c : Char) : Bool := c == '\n' || c == '\u2028' || c == '\u2029'

def isBlank (c : Char) : Bool := c == ' ' || c == '\t'

/-- Write every line end but the separators as a line feed. -/
def joinLineEnds : List Char → List Char
  | '\r' :: '\n' :: cs => '\n' :: joinLineEnds cs
  | c :: cs => (if c == '\r' || c == nextLine then '\n' else c) :: joinLineEnds cs
  | [] => []

namespace Source

def placed (line column offset : Nat) : List Char → Source
  | [] => []
  | c :: cs =>
    ⟨c, line, column, offset⟩ ::
      if isLineEnd c then placed (line + 1) 0 (offset + 1) cs
      else placed line (if c == byteOrderMark then column else column + 1) (offset + 1) cs

def ofText? (text : String) : Option Source :=
  let cs := text.toList
  if Text.isWhole text && cs.all isAllowed then
    some <| placed 0 0 0 <| joinLineEnds <|
      match cs with
      | c :: rest => if c == byteOrderMark then rest else c :: rest
      | [] => []
  else none

def chars (s : Source) : List Char := s.map (·.char)

def startsWith (s : Source) (p : Char → Bool) : Bool := s.head?.any fun g => p g.char

/-- Whether a word that ends here is followed by nothing that could belong to it. -/
def isApart (s : Source) : Bool :=
  s.isEmpty || s.startsWith fun c => isBlank c || isLineEnd c

/-- Whether a line that starts here divides documents. -/
def isDivider : Source → Bool
  | a :: b :: c :: rest =>
    (a.char == '-' || a.char == '.') && b.char == a.char && c.char == a.char && isApart rest
  | _ => false

def drop (s : Source) (n : Nat) : Source := List.drop n s

def takeWhile (p : Char → Bool) (s : Source) : List Char :=
  chars (List.takeWhile (fun g => p g.char) s)

def dropWhile (p : Char → Bool) (s : Source) : Source :=
  List.dropWhile (fun g => p g.char) s

/-- Drop spaces and a comment, and the end of the line, which nothing else may come before. -/
def restOfLine? (s : Source) : Option Source :=
  let s := s.dropWhile (· == ' ')
  let s := if s.startsWith (· == '#') then s.dropWhile (!isLineEnd ·) else s
  match s with
  | [] => some []
  | g :: rest => if isLineEnd g.char then some rest else none

/-- Drop what stands between tokens: spaces, comments and line ends. Tells whether there was a line
end. -/
def skipGap (inComment crossed : Bool) : Source → Bool × Source
  | [] => (crossed, [])
  | g :: rest =>
    if isLineEnd g.char then skipGap false true rest
    else if inComment || g.char == ' ' then skipGap inComment crossed rest
    else if g.char == '#' then skipGap true crossed rest
    else (crossed, g :: rest)

end Source

/-- What a line end and the ones after it stand for inside a scalar: one line feed is a space, and
of several the first one is dropped. -/
def folded (first : Char) (more : List Char) : List Char :=
  if first != '\n' then first :: more else if more.isEmpty then [' '] else more

end SchemaGraph.Yaml
