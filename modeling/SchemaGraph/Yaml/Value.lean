import SchemaGraph.Decimal.Notation
import SchemaGraph.Json.Basic
import SchemaGraph.Text.Encoding
import SchemaGraph.Yaml.Time

/-!
# Values

What a settings file holds is richer than a document: there are bytes, times and sets, and the keys
of a map may be values of any kind that has no parts. As keys, numbers and flags are the same when
they are equal as numbers.
-/

namespace SchemaGraph.Yaml

inductive Value where
  | null
  | flag (b : Bool)
  | int (n : Int)
  | real (x : Float)
  | text (s : String)
  | bytes (bs : List UInt8)
  | time (t : Time)
  | list (items : List Value)
  | set (items : List Value)
  | map (entries : List (Value × Value))
  deriving Inhabited

namespace Value

/-- The kind of a value, in the words of the messages that name it. -/
def kindName : Value → String
  | null => "NoneType"
  | flag _ => "bool"
  | int _ => "int"
  | real _ => "float"
  | text _ => "str"
  | bytes _ => "bytes"
  | time t => if t.clock.isSome then "datetime" else "date"
  | list _ => "list"
  | set _ => "set"
  | map _ => "dict"

/-- The integer that a number or a flag is equal to. -/
def integer? : Value → Option Int
  | flag b => some (if b then 1 else 0)
  | int n => some n
  | real x => Decimal.toInt? x
  | _ => none

/-- Whether two values are the same key. -/
def isSameKey (v w : Value) : Bool :=
  match v, w with
  | null, null => true
  | text s, text t => s == t
  | bytes bs, bytes cs => bs == cs
  | time t, time u => t == u
  | v, w =>
    match v.integer?, w.integer?, v, w with
    | some m, some n, _, _ => m == n
    | none, none, real x, real y => x.toBits == y.toBits
    | _, _, _, _ => false

/-- Set the value of a key. A key that is already there stays as it is and keeps its place. -/
def put (entries : List (Value × Value)) (key v : Value) : List (Value × Value) :=
  match entries with
  | [] => [(key, v)]
  | (k, w) :: rest => if k.isSameKey key then (k, v) :: rest else (k, w) :: put rest key v

/-- The entries of a map under names. -/
def named? (v : Value) (name : String) : Option Value :=
  match v with
  | map entries => (entries.find? fun (k, _) => k.isSameKey (text name)).map (·.2)
  | _ => none

/-- The text of bytes; half of a surrogate pair when they are no text. -/
def textOfBytes (bs : List UInt8) : String :=
  (Text.ofUtf8? bs).getD (String.ofList (Text.Symbol.half 0xDC80).kept)

/-- A key as the name of a member. -/
def memberName : Value → String
  | null => "null"
  | flag b => toString b
  | int n => toString n
  | real x => Decimal.Notation.document.text x
  | text s => s
  | bytes bs => textOfBytes bs
  | time t => t.shown
  | _ => ""

/-- A key as a step of a path. -/
def stepName : Value → String
  | null => "None"
  | flag b => if b then "1" else "0"
  | real x => Decimal.Notation.plain.text x
  | v => v.memberName

mutual

/-- The document of a value. Times, which no document holds, count as empty lists. -/
def toJson : Value → Json
  | null => .null
  | flag b => .bool b
  | int n => .int n
  | real x => .float x
  | text s => .str s
  | bytes bs => .str (textOfBytes bs)
  | time _ => .arr []
  | list items => .arr (toItems items)
  | set items => .arr (toItems items)
  | map entries => .obj (toMembers [] entries)

def toItems : List Value → List Json
  | [] => []
  | v :: rest => toJson v :: toItems rest

def toMembers (read : Members) : List (Value × Value) → Members
  | [] => read
  | (k, v) :: rest => toMembers (read.put k.memberName (toJson v)) rest

end

mutual

def ofJson : Json → Value
  | .null => null
  | .bool b => flag b
  | .int n => int n
  | .float x => real x
  | .str s => text s
  | .arr items => list (ofItems items)
  | .obj ms => map (ofMembers ms)

def ofItems : List Json → List Value
  | [] => []
  | v :: rest => ofJson v :: ofItems rest

def ofMembers : List (String × Json) → List (Value × Value)
  | [] => []
  | (name, v) :: rest => (text name, ofJson v) :: ofMembers rest

end

/-- Whether a value counts as given: everything but null, false, zero and the empty ones. -/
def isGiven : Value → Bool
  | time _ => true
  | v => v.toJson.isGiven

end Value
end SchemaGraph.Yaml
