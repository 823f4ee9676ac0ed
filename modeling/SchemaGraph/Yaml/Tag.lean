import SchemaGraph.Yaml.Time

/-!
# Tags

The tag of a node is the kind of value that it is. A plain scalar without one shows its kind by its
form: a few words are null or a flag, and numbers and times have forms of their own, among them
numbers in base 60, whose digits stand between colons. Every other scalar is text.
-/

namespace SchemaGraph.Yaml

inductive Tag where
  | null
  | flag
  | integer
  | real
  | time
  | text
  | bytes
  | list
  | orderedMap
  | pairs
  | set
  | map
  /-- The key of entries that are taken over from other maps. -/
  | merge
  /-- The key of the value that stands for a whole map. -/
  | default
  | unknown
  deriving Repr, DecidableEq

namespace Tag

/-- What the names of all known tags start with. -/
def firstPart : String := "tag:yaml.org,2002:"

def names : List (String × Tag) :=
  [("null", null), ("bool", flag), ("int", integer), ("float", real), ("timestamp", time),
    ("str", text), ("binary", bytes), ("seq", list), ("omap", orderedMap), ("pairs", pairs),
    ("set", set), ("map", map), ("merge", merge), ("value", default)]

def ofName (name : String) : Tag :=
  ((names.map fun (n, t) => (firstPart ++ n, t)).lookup name).getD unknown

/-- Whether the values have parts. Such values cannot be keys. -/
def hasParts : Tag → Bool
  | list | orderedMap | pairs | set | map => true
  | _ => false

def nullWords : List String := ["", "~", "null", "Null", "NULL"]

def flagWords : List String :=
  ["yes", "Yes", "YES", "no", "No", "NO", "true", "True", "TRUE", "false", "False", "FALSE",
    "on", "On", "ON", "off", "Off", "OFF"]

def infinityWords : List String := [".inf", ".Inf", ".INF"]

def nanWords : List String := [".nan", ".NaN", ".NAN"]

def unsigned : List Char → List Char
  | '-' :: cs => cs
  | '+' :: cs => cs
  | cs => cs

/-- The parts of a text between colons. -/
def parts (cs : List Char) : List (List Char) := cs.splitOn ':'

def isRun (p : Char → Bool) (cs : List Char) : Bool := cs.all fun c => p c || c == '_'

def startsWithDigit (cs : List Char) : Bool := cs.head?.any Char.isDigit

/-- A digit of a number in base 60, in one or two decimal digits. -/
def isSixtieth : List Char → Bool
  | [a] => a.isDigit
  | [a, b] => '0' ≤ a && a ≤ '5' && b.isDigit
  | _ => false

def isOctal (c : Char) : Bool := '0' ≤ c && c ≤ '7'

def isHex (c : Char) : Bool :=
  c.isDigit || ('a' ≤ c && c ≤ 'f') || ('A' ≤ c && c ≤ 'F')

def isInteger (cs : List Char) : Bool :=
  match unsigned cs with
  | '0' :: 'b' :: ds => !ds.isEmpty && isRun (fun c => c == '0' || c == '1') ds
  | '0' :: 'x' :: ds => !ds.isEmpty && isRun isHex ds
  | '0' :: ds => isRun isOctal ds
  | ds =>
    match parts ds with
    | first :: more => startsWithDigit first && isRun Char.isDigit first && more.all isSixtieth
    | [] => false

/-- Nothing, or an exponent with a sign. -/
def isExponent : List Char → Bool
  | [] => true
  | e :: sign :: ds =>
    (e == 'e' || e == 'E') && (sign == '-' || sign == '+') && !ds.isEmpty && ds.all Char.isDigit
  | _ => false

/-- Whether digits, underscores among them, and then a point stand in front of what passes. -/
def hasPoint (before after : List Char → Bool) (cs : List Char) : Bool :=
  match cs.dropWhile (· != '.') with
  | [] => false
  | _ :: places => before (cs.takeWhile (· != '.')) && after places

/-- The places behind the point of a number, and its exponent. -/
def arePlaces (cs : List Char) : Bool :=
  isExponent (cs.dropWhile fun c => c.isDigit || c == '_')

def isWhole (cs : List Char) : Bool := startsWithDigit cs && isRun Char.isDigit cs

def isReal (cs : List Char) : Bool :=
  let body := unsigned cs
  match cs with
  | '.' :: places =>
    (startsWithDigit places && arePlaces places) || (infinityWords ++ nanWords).contains word
  | _ =>
    infinityWords.contains (String.ofList body) ||
      match parts body with
      | [] => false
      | [number] => hasPoint isWhole arePlaces number
      | first :: more =>
        isWhole first && more.dropLast.all isSixtieth &&
          hasPoint isSixtieth (isRun Char.isDigit) (more.getLastD [])
where word := String.ofList cs

/-- Whether a text is a time. A date alone has to be written with all its digits. -/
def isTime (cs : List Char) : Bool :=
  (Time.ofChars? cs).any fun t => t.clock.isSome || cs.length == 10

/-- The tag of a plain scalar. -/
def ofPlain (s : String) : Tag :=
  let cs := s.toList
  if nullWords.contains s then null
  else if flagWords.contains s then flag
  else if s == "<<" then merge
  else if s == "=" then default
  else if isInteger cs then integer
  else if isReal cs then real
  else if isTime cs then time
  else text

end Tag
end SchemaGraph.Yaml
