import SchemaGraph.Decimal.Numeral
import SchemaGraph.Yaml.Source

/-!
# Scalars of settings files

A scalar is quoted, plain, or a block of lines. Each form ends in its own way and folds the lines
that it runs over in its own way.

## Quoted scalars

Between single quotes only the quote itself is written in a special way, namely twice. Between
double quotes a backslash starts an escape. Both may run over several lines, which are folded, and
the blanks around a line end are dropped. A divider between documents cannot stand inside.
-/

namespace SchemaGraph.Yaml

/-- The line ends from the start of a line on, and what follows the blanks after them. -/
def quotedLineEnds : Nat → Source → Except Fault (List Char × Source)
  | 0, _ => .error .malformed
  | fuel + 1, s =>
    if s.isDivider then .error .malformed
    else
      match s.dropWhile isBlank with
      | [] => .ok ([], [])
      | g :: rest =>
        if isLineEnd g.char then do
          let (more, rest) ← quotedLineEnds fuel rest
          return (g.char :: more, rest)
        else .ok ([], g :: rest)

/-- The blanks and line ends at the front. -/
def quotedGap (fuel : Nat) (s : Source) : Except Fault (List Char × Source) :=
  match s.dropWhile isBlank with
  | [] => .error .malformed
  | g :: rest =>
    if isLineEnd g.char then do
      let (more, rest) ← quotedLineEnds fuel rest
      return (folded g.char more, rest)
    else .ok (s.takeWhile isBlank, g :: rest)

def namedEscapes : List (Char × Nat) :=
  [('0', 0x00), ('a', 0x07), ('b', 0x08), ('t', 0x09), ('\t', 0x09), ('n', 0x0A), ('v', 0x0B),
    ('f', 0x0C), ('r', 0x0D), ('e', 0x1B), (' ', 0x20), ('"', 0x22), ('\\', 0x5C), ('/', 0x2F),
    ('N', 0x85), ('_', 0xA0), ('L', 0x2028), ('P', 0x2029)]

/-- The number of digits after the letter of a numbered escape. -/
def numberedEscapes : List (Char × Nat) := [('x', 2), ('u', 4), ('U', 8)]

/-- The symbol with a number. -/
def numbered (n : Nat) : Except Fault Text.Symbol :=
  if n < 0x110000 then .ok (.ofNumber n)
  else if n < Nat.pow 2 31 then .error (.unreadable "chr() arg not in range(0x110000)")
  else .error .overflow

/-- What follows a backslash. -/
def escape (fuel : Nat) : Source → Except Fault (List Char × Source)
  | [] => .error .malformed
  | g :: rest =>
    match namedEscapes.lookup g.char, numberedEscapes.lookup g.char with
    | some n, _ => .ok ([Char.ofNat n], rest)
    | none, some width =>
      let digits := Source.chars (rest.take width)
      match Decimal.natural? 16 digits with
      | some n =>
        if digits.length < width then .error .malformed
        else (numbered n).map fun x => (x.kept, rest.drop width)
      | none => .error .malformed
    | none, none => if isLineEnd g.char then quotedLineEnds fuel rest else .error .malformed

/-- The rest of a quoted scalar; `read` holds what came before, last character first. -/
def quotedBody (double : Bool) : Nat → List Char → Source → Except Fault (String × Source)
  | 0, _, _ => .error .malformed
  | _ + 1, _, [] => .error .malformed
  | fuel + 1, read, g :: rest =>
    if isBlank g.char || isLineEnd g.char then do
      let (gap, rest) ← quotedGap fuel (g :: rest)
      quotedBody double fuel (gap.reverse ++ read) rest
    else if double && g.char == '\\' then do
      let (cs, rest) ← escape fuel rest
      quotedBody double fuel (cs.reverse ++ read) rest
    else if double && g.char == '"' then .ok (String.ofList read.reverse, rest)
    else if !double && g.char == '\'' then
      match rest with
      | next :: more =>
        if next.char == '\'' then quotedBody double fuel ('\'' :: read) more
        else .ok (String.ofList read.reverse, rest)
      | [] => .ok (String.ofList read.reverse, [])
    else quotedBody double fuel (g.char :: read) rest

end SchemaGraph.Yaml

/-!
## Plain scalars

A plain scalar goes on over spaces and line ends as long as its words are not the start of something
else: a comment, the colon after a key, a mark of a flow collection, or a line that is indented
less than the block it stands in. Tabs end it.
-/

namespace SchemaGraph.Yaml

/-- Characters that cannot start a plain scalar. -/
def indicators : List Char := "-?:,[]\x7b\x7d#&*!|>'\"%@\x60".toList

def startsPlain (inFlow : Bool) : Source → Bool
  | [] => false
  | g :: rest =>
    !(indicators.contains g.char || isBlank g.char || isLineEnd g.char) ||
      (!Source.isApart rest &&
        (g.char == '-' || (!inFlow && (g.char == '?' || g.char == ':'))))

/-- Whether a word ends before the character at the front. -/
def endsWord (inFlow : Bool) : Source → Bool
  | [] => true
  | g :: rest =>
    isBlank g.char || isLineEnd g.char ||
      (g.char == ':' && (Source.isApart rest ||
        (inFlow && Source.startsWith rest (",[]\x7b\x7d".toList.contains ·)))) ||
      (inFlow && ",?[]\x7b\x7d".toList.contains g.char)

def plainWord (inFlow : Bool) : Source → List Char × Source
  | [] => ([], [])
  | g :: rest =>
    if endsWord inFlow (g :: rest) then ([], g :: rest)
    else
      let (word, rest) := plainWord inFlow rest
      (g.char :: word, rest)

/-- Line ends with spaces between them; none if a divider follows one of them. -/
def plainLineEnds : Source → Option (List Char) × Source
  | [] => (some [], [])
  | g :: rest =>
    if g.char == ' ' then plainLineEnds rest
    else if isLineEnd g.char then
      if Source.isDivider rest then (none, rest)
      else
        let (more, rest) := plainLineEnds rest
        (more.map (g.char :: ·), rest)
    else (some [], g :: rest)

/-- What stands between two words. An empty text ends the scalar. -/
structure PlainGap where
  text : List Char
  crossed : Bool
  rest : Source

def plainGap (s : Source) : PlainGap :=
  match s.dropWhile (· == ' ') with
  | [] => ⟨s.takeWhile (· == ' '), false, []⟩
  | g :: rest =>
    if isLineEnd g.char then
      if Source.isDivider rest then ⟨[], true, rest⟩
      else
        match plainLineEnds rest with
        | (some more, rest) => ⟨folded g.char more, true, rest⟩
        | (none, rest) => ⟨[], true, rest⟩
    else ⟨s.takeWhile (· == ' '), false, g :: rest⟩

/-- A plain scalar. A line end at its end is not part of it, but is read past. -/
structure PlainScalar where
  text : String
  crossed : Bool
  rest : Source

/-- The words after a gap; `read` holds what came before it, last character first. -/
def plainWords (inFlow : Bool) (least : Nat) : Nat → List Char → PlainGap → PlainScalar
  | 0, read, gap => ⟨String.ofList read.reverse, gap.crossed, gap.rest⟩
  | fuel + 1, read, gap =>
    let ended := ⟨String.ofList read.reverse, gap.crossed, gap.rest⟩
    match gap.rest with
    | [] => ended
    | g :: _ =>
      if gap.text.isEmpty || g.char == '#' || (!inFlow && g.column < least) then ended
      else
        match plainWord inFlow gap.rest with
        | ([], _) => ended
        | (word, rest) =>
          plainWords inFlow least fuel (word.reverse ++ gap.text.reverse ++ read) (plainGap rest)

/-- A plain scalar whose lines stand at least in a given column. -/
def plainScalar (inFlow : Bool) (least fuel : Nat) (s : Source) : PlainScalar :=
  let (word, rest) := plainWord inFlow s
  plainWords inFlow least fuel word.reverse (plainGap rest)

end SchemaGraph.Yaml

/-!
## Block scalars

A block scalar is the lines below its mark that are indented more than what the mark stands in. It
keeps its line ends, or folds them between two lines that do not start with a blank. What becomes
of the line ends behind the last line is written beside the mark.
-/

namespace SchemaGraph.Yaml

/-- The line ends behind the text of a block: how many of them are kept. -/
inductive Tail where
  | none | one | all
  deriving Repr, DecidableEq

structure BlockHeader where
  tail : Tail
  /-- How much further the lines are indented; otherwise the first line decides. -/
  extra : Option Nat
  deriving Repr, DecidableEq

def tailOf? (c : Char) : Option Tail :=
  if c == '+' then some .all else if c == '-' then some .none else none

/-- A digit other than zero. -/
def extraOf? (c : Char) : Option Nat :=
  if '1' ≤ c && c ≤ '9' then some (c.toNat - '0'.toNat) else none

/-- The marks beside the bar, in either order, each at most once. -/
def blockHeader (s : Source) : BlockHeader × Source :=
  let tail (s : Source) : Option Tail × Source :=
    match s.head?.bind (tailOf? ·.char) with
    | some t => (some t, s.drop 1)
    | .none => (.none, s)
  let extra (s : Source) : Option Nat × Source :=
    match s.head?.bind (extraOf? ·.char) with
    | some n => (some n, s.drop 1)
    | .none => (.none, s)
  match tail s with
  | (some t, s) =>
    let (n, s) := extra s
    (⟨t, n⟩, s)
  | (.none, s) =>
    let (n, s) := extra s
    let (t, s) := if n.isSome then tail s else (.none, s)
    (⟨t.getD .one, n⟩, s)

/-- The line ends before the first line, and the column that the widest of the blank lines
reaches. -/
def leadingLines (widest : Nat) : Source → List Char × Nat × Source
  | [] => ([], widest, [])
  | g :: rest =>
    if isLineEnd g.char then
      let (ends, widest, rest) := leadingLines widest rest
      (g.char :: ends, widest, rest)
    else if g.char == ' ' then leadingLines (max widest (g.column + 1)) rest
    else ([], widest, g :: rest)

/-- The line ends before the next line, whose indentation is dropped. -/
def blockLineEnds (column : Nat) : Source → List Char × Source
  | [] => ([], [])
  | g :: rest =>
    if isLineEnd g.char then
      let (ends, rest) := blockLineEnds column rest
      (g.char :: ends, rest)
    else if g.char == ' ' && g.column < column then blockLineEnds column rest
    else ([], g :: rest)

/-- The text of the lines of a block, and what comes behind its last line: the line end of the line
and further ones. -/
def blockLines (folds : Bool) (column : Nat) : Nat → List Char → Source →
    List Char × List Char × List Char × Source
  | 0, ends, s => ([], [], ends, s)
  | fuel + 1, ends, s =>
    let ended := ([], [], ends, s)
    match s with
    | [] => ended
    | g :: _ =>
      if g.column != column then ended
      else
        let line := s.takeWhile (!isLineEnd ·)
        let rest := s.dropWhile (!isLineEnd ·)
        let lineEnd := Source.chars (rest.take 1)
        let (more, rest) := blockLineEnds column (rest.drop 1)
        match rest with
        | next :: _ =>
          if next.column == column then
            let folds' := folds && lineEnd == ['\n'] && !isBlank g.char && !isBlank next.char
            let joint := if !folds' then lineEnd else if more.isEmpty then [' '] else []
            let (text, last, left, rest) := blockLines folds column fuel more rest
            (ends ++ line ++ joint ++ text, last, left, rest)
          else (ends ++ line, lineEnd, more, rest)
        | [] => (ends ++ line, lineEnd, more, [])

/-- A block scalar from behind its mark on. The lines stand at least in column `least`. -/
def blockScalar (folds : Bool) (least fuel : Nat) (s : Source) : Except Fault (String × Source) :=
  let (header, rest) := blockHeader s
  if !(rest.isEmpty || rest.startsWith fun c => c == ' ' || isLineEnd c) then .error .malformed
  else
    match rest.restOfLine? with
    | none => .error .malformed
    | some rest =>
      let least := max least 1
      let (ends, column, rest) :=
        match header.extra with
        | none =>
          let (ends, widest, rest) := leadingLines 0 rest
          (ends, max least widest, rest)
        | some n =>
          let column := least + n - 1
          let (ends, rest) := blockLineEnds column rest
          (ends, column, rest)
      let (text, last, more, rest) := blockLines folds column fuel ends rest
      let tail :=
        match header.tail with
        | .none => []
        | .one => last
        | .all => last ++ more
      .ok (String.ofList (text ++ tail), rest)

end SchemaGraph.Yaml
