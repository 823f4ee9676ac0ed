import SchemaGraph.Decimal.Notation
import SchemaGraph.Json.Basic
import SchemaGraph.Text.Symbol

/-!
# Writing documents

A document is written on one line or with every item on a line of its own. Strings escape the
quote, the backslash and the control characters; what lies beyond ASCII is kept, or written as
UTF-16 units where the reader takes only ASCII.
-/

namespace SchemaGraph.Json

structure Format where
  /-- The unit of indentation; none keeps everything on one line. -/
  indent : Option String
  asciiOnly : Bool
  itemMark : String
  nameMark : String

/-- The format of saved snapshots. -/
def Format.saved (indent : Option String) : Format :=
  ⟨indent, false, if indent.isSome then "," else ", ", ": "⟩

/-- The format of one-line messages. -/
def Format.wire : Format := ⟨none, true, ",", ":"⟩

namespace Writer

def unit (n : Nat) : List Char := '\\' :: 'u' :: Text.hexDigits 4 n

/-- Escapes that are not numbers. -/
def shortEscape? (n : Nat) : Option Char :=
  [(0x22, '"'), (0x5C, '\\'), (0x0A, 'n'), (0x0D, 'r'), (0x09, 't'), (0x08, 'b'),
    (0x0C, 'f')].lookup n

def escape (asciiOnly : Bool) (x : Text.Symbol) : List Char :=
  let n := x.number
  match shortEscape? n with
  | some c => ['\\', c]
  | none =>
    if n < 0x20 then unit n
    else if !asciiOnly || n < 0x7F then x.kept
    else if n < 0x10000 then unit n
    else unit (0xD800 + (n - 0x10000) / 0x400) ++ unit (0xDC00 + (n - 0x10000) % 0x400)

def string (f : Format) (s : String) : String :=
  "\"" ++ String.ofList ((Text.symbols s.toList).flatMap (escape f.asciiOnly)) ++ "\""

/-- Items between brackets, at a given depth. -/
def bracketed (f : Format) (depth : Nat) (opening closing : String) (items : List String) :
    String :=
  if items.isEmpty then opening ++ closing
  else
    match f.indent with
    | none => opening ++ f.itemMark.intercalate items ++ closing
    | some unit =>
      let line (n : Nat) := "\n" ++ String.join (List.replicate n unit)
      opening ++ line (depth + 1) ++ (f.itemMark ++ line (depth + 1)).intercalate items ++
        line depth ++ closing

mutual

def value (f : Format) (depth : Nat) : Json → String
  | null => "null"
  | bool b => if b then "true" else "false"
  | int n => toString n
  | float x => Decimal.Notation.document.text x
  | str s => string f s
  | arr items => bracketed f depth "[" "]" (values f (depth + 1) items)
  | obj ms => bracketed f depth "\x7b" "\x7d" (members f (depth + 1) ms)

def values (f : Format) (depth : Nat) : List Json → List String
  | [] => []
  | v :: rest => value f depth v :: values f depth rest

def members (f : Format) (depth : Nat) : List (String × Json) → List String
  | [] => []
  | (name, v) :: rest => (string f name ++ f.nameMark ++ value f depth v) :: members f depth rest

end

end Writer

def write (f : Format) (v : Json) : String := Writer.value f 0 v

mutual

/-- The same document with the members of every object in the order of their names. -/
def sorted : Json → Json
  | arr items => arr (sortedItems items)
  | obj ms => obj ((sortedMembers ms).mergeSort fun a b => a.1 ≤ b.1)
  | v => v

def sortedItems : List Json → List Json
  | [] => []
  | v :: rest => sorted v :: sortedItems rest

def sortedMembers : List (String × Json) → List (String × Json)
  | [] => []
  | (name, v) :: rest => (name, sorted v) :: sortedMembers rest

end

mutual

/-- The same document with null for every number that is not finite. -/
def withFiniteNumbers : Json → Json
  | float x => if x.isFinite then float x else null
  | arr items => arr (itemsWithFiniteNumbers items)
  | obj ms => obj (membersWithFiniteNumbers ms)
  | v => v

def itemsWithFiniteNumbers : List Json → List Json
  | [] => []
  | v :: rest => withFiniteNumbers v :: itemsWithFiniteNumbers rest

def membersWithFiniteNumbers : List (String × Json) → List (String × Json)
  | [] => []
  | (name, v) :: rest => (name, withFiniteNumbers v) :: membersWithFiniteNumbers rest

end

mutual

def isFinite : Json → Bool
  | float x => x.isFinite
  | arr items => itemsAreFinite items
  | obj ms => membersAreFinite ms
  | _ => true

def itemsAreFinite : List Json → Bool
  | [] => true
  | v :: rest => isFinite v && itemsAreFinite rest

def membersAreFinite : List (String × Json) → Bool
  | [] => true
  | (_, v) :: rest => isFinite v && membersAreFinite rest

end

mutual

/-- Whether no text in a document holds half of a surrogate pair. -/
def isWhole : Json → Bool
  | str s => Text.isWhole s
  | arr items => itemsAreWhole items
  | obj ms => membersAreWhole ms
  | _ => true

def itemsAreWhole : List Json → Bool
  | [] => true
  | v :: rest => isWhole v && itemsAreWhole rest

def membersAreWhole : List (String × Json) → Bool
  | [] => true
  | (name, v) :: rest => Text.isWhole name && isWhole v && membersAreWhole rest

end

end SchemaGraph.Json
