import SchemaGraph.Text.Printable

/-!
# Symbols of a text

A text can hold what is no character, and is then still kept, compared and quoted. It consists of
symbols.

## Halves of surrogate pairs

A document may name one half of a surrogate pair without the other. Such a half stands for no
character, but it can be kept, compared and written again. So what a text consists of are symbols:
characters and halves. A half is kept as the private-use character of the last plane that has the
same low sixteen bits. A guard stands in front of every character that is itself one of those, so
that each text is kept in one way and each symbol is found again.

Whatever has to be sent as bytes cannot hold a half.
-/

namespace SchemaGraph.Text

def isHighHalf (u : Nat) : Bool := 0xD800 ≤ u && u < 0xDC00

def isLowHalf (u : Nat) : Bool := 0xDC00 ≤ u && u < 0xE000

inductive Symbol where
  | char (c : Char)
  | half (u : Nat)
  deriving Repr, DecidableEq

/-- The character that two halves make. -/
def joinHalves (high low : Nat) : Char :=
  Char.ofNat (0x10000 + (high - 0xD800) * 0x400 + (low - 0xDC00))

/-- The first of the characters that halves are kept as, less the first half. -/
def halfOffset : Nat := 0x100000

def guard : Char := Char.ofNat 0x10E000

/-- Whether a character stands for a half, or guards one that does not. -/
def isShared (c : Char) : Bool := 0x10D800 ≤ c.toNat && c.toNat ≤ 0x10E000

/-- A character as it is kept. -/
def kept (c : Char) : List Char := if isShared c then [guard, c] else [c]

namespace Symbol

/-- The symbol with a number. -/
def ofNumber (n : Nat) : Symbol :=
  if isHighHalf n || isLowHalf n then half n else char (Char.ofNat n)

/-- The symbol that a character without a guard stands for. -/
def ofChar (c : Char) : Symbol :=
  if isShared c && c != guard then half (c.toNat - halfOffset) else char c

def kept : Symbol → List Char
  | char c => Text.kept c
  | half u => [Char.ofNat (halfOffset + u)]

def isChar : Symbol → Bool
  | char _ => true
  | half _ => false

/-- The number of a symbol, by which it is written. -/
def number : Symbol → Nat
  | char c => c.toNat
  | half u => u

end Symbol

/-- The symbols of a text. -/
def symbols : List Char → List Symbol
  | [] => []
  | [c] => [.ofChar c]
  | c :: d :: rest =>
    if c == guard then .char d :: symbols rest else .ofChar c :: symbols (d :: rest)

/-- Text as it is kept. -/
def keep (s : String) : String := String.ofList (s.toList.flatMap kept)

/-- Whether a text holds no halves. -/
def isWhole (s : String) : Bool := (symbols s.toList).all (·.isChar)

end SchemaGraph.Text

/-!
## Quoted text

Messages that show a value put text between single quotes, or between double quotes when it holds
a single quote and no double one. The quote in use and the backslash are escaped, the common
control characters have short names, and every other character without a glyph is written by its
number in two, four or eight hexadecimal digits.
-/

namespace SchemaGraph.Text

def hexDigits (width n : Nat) : List Char :=
  let digits := Nat.toDigits 16 n
  List.replicate (width - digits.length) '0' ++ digits

def quoteMark (s : String) : Char :=
  if s.toList.contains '\'' && !s.toList.contains '"' then '"' else '\''

/-- The escape of a symbol by its number. -/
def numberEscape (n : Nat) : List Char :=
  if n < 0x100 then '\\' :: 'x' :: hexDigits 2 n
  else if n < 0x10000 then '\\' :: 'u' :: hexDigits 4 n
  else '\\' :: 'U' :: hexDigits 8 n

def quoteSymbol (mark : Char) : Symbol → List Char
  | .half u => numberEscape u
  | .char c =>
    if c == mark || c == '\\' then ['\\', c]
    else if c == '\n' then ['\\', 'n']
    else if c == '\r' then ['\\', 'r']
    else if c == '\t' then ['\\', 't']
    else if isPrintable c then [c]
    else numberEscape c.toNat

def quoted (s : String) : String :=
  let mark := quoteMark s
  String.ofList (mark :: (symbols s.toList).flatMap (quoteSymbol mark) ++ [mark])

end SchemaGraph.Text
