import SchemaGraph.Text.Encoding
import SchemaGraph.Yaml.Node
import SchemaGraph.Yaml.Number
import SchemaGraph.Yaml.Value

/-!
# What a node means

The value of a node follows from its tag. A map may take over the entries of other maps, which its
own entries override, and of several maps the first one wins. Lists and maps are refused as keys.

Collections are filled level by level: the parts of a collection are looked at after everything
that is nested less deep. So of several faults the one at the least level is reported, and of those
the first.
-/

namespace SchemaGraph.Yaml

/-- A fault, and how deep the collection is nested whose part it is. -/
structure LevelFault where
  level : Nat
  fault : Fault

namespace Meaning

abbrev Outcome (α : Type) := Except LevelFault α

def fail (level : Nat) : Outcome α := .error ⟨level, .malformed⟩

def atLevel (level : Nat) : Except Fault α → Outcome α
  | .ok a => .ok a
  | .error f => .error ⟨level, f⟩

/-- Both of two outcomes; of two faults the one at the lesser level, or else the first. -/
def both (x : Outcome α) (y : Outcome β) : Outcome (α × β) :=
  match x, y with
  | .ok a, .ok b => .ok (a, b)
  | .error f, .ok _ => .error f
  | .ok _, .error g => .error g
  | .error f, .error g => .error (if g.level < f.level then g else f)

/-- The text of a scalar, or of the value that stands for a map. -/
def textOf : Nat → Node → Except Fault String
  | _, .scalar _ s => .ok s
  | fuel + 1, .mapping _ entries =>
    match entries.find? fun (k, _) => k.tag == .default with
    | some (_, v) => textOf fuel v
    | none => .error .malformed
  | _, _ => .error .malformed

def flagWords : List (String × Bool) :=
  [("yes", true), ("no", false), ("true", true), ("false", false), ("on", true), ("off", false)]

def ofFlag (s : String) : Except Fault Value :=
  match flagWords.lookup (Text.lower s) with
  | some b => .ok (.flag b)
  | none => .error .noKey

def ofBytes (s : String) : Except Fault Value :=
  if s.toList.all (·.toNat < 0x80) then
    match Text.bytesOfBase64? s with
    | some bs => .ok (.bytes bs)
    | none => .error .malformed
  else .error .malformed

def ofTime (s : String) : Except Fault Value :=
  match Time.ofChars? s.toList with
  | none => .error .noPart
  | some t =>
    match t.problem? with
    | some message => .error (.unreadable message)
    | none => .ok (.time t)

/-- The value of a text under a tag for values without parts. -/
def ofText (tag : Tag) (s : String) : Except Fault Value :=
  match tag with
  | .null => .ok .null
  | .flag => ofFlag s
  | .integer => (integer s).map .int
  | .real => (real s).map .real
  | .time => ofTime s
  | .bytes => ofBytes s
  | .text => .ok (.text s)
  | _ => .error .malformed

/-- The entries of a map with those that it takes over in front. The key of a default value is a
text here. -/
def entriesOf : Nat → Node → Except Fault (List (Node × Node))
  | fuel + 1, .mapping _ entries => do
    let taken ← (entries.filter fun (k, _) => k.tag == .merge).mapM fun (_, v) =>
      match v with
      | .sequence _ items => do
        return (← items.mapM (entriesOf fuel)).reverse.flatten
      | v => entriesOf fuel v
    let own := (entries.filter fun (k, _) => k.tag != .merge).map fun (k, v) =>
      match k with
      | .scalar .default s => (Node.scalar .text s, v)
      | k => (k, v)
    return taken.flatten ++ own
  | _, _ => .error .malformed

/-- Set the value of a key. -/
def put (read : Outcome (List (Value × Value))) (key v : Outcome Value) :
    Outcome (List (Value × Value)) :=
  (both (both read key) v).map fun ((read, k), v) => Value.put read k v

def pairOf : Node → Except Fault (Node × Node)
  | .mapping _ [e] => .ok e
  | _ => .error .malformed

/-- The value of a node that is nested so deep. -/
def value : Nat → Nat → Node → Outcome Value
  | 0, level, _ => fail level
  | fuel + 1, level, n =>
    let map (n : Node) : Outcome (List (Value × Value)) := do
      let entry read := fun ((k, v) : Node × Node) =>
        let key := if k.tag.hasParts then fail (level + 1) else value fuel (level + 1) k
        put read key (value fuel (level + 1) v)
      (← atLevel (level + 1) (entriesOf (fuel + 1) n)).foldl entry (.ok [])
    let pair (n : Node) : Outcome Value := do
      let (k, v) ← atLevel (level + 1) (pairOf n)
      let (k, v) ← both (value fuel (level + 1) k) (value fuel (level + 1) v)
      return .list [k, v]
    let items (of : Node → Outcome Value) (n : Node) : Outcome Value :=
      match n with
      | .sequence _ ns => (ns.foldr (fun n vs => (both (of n) vs).map fun (v, vs) => v :: vs)
          (.ok [])).map .list
      | _ => fail (level + 1)
    match n.tag with
    | .list => items (value fuel (level + 1)) n
    | .orderedMap | .pairs => items pair n
    | .map => (map n).map .map
    | .set => (map n).map fun entries => .set (entries.map (·.1))
    | tag => atLevel level ((textOf (fuel + 1) n).bind (ofText tag))

end Meaning

/-- The value of a node. A node is nested less deep than the number of tokens it was read from. -/
def Node.value (size : Nat) (n : Node) : Except Fault Value :=
  (Meaning.value (size + 1) 0 n).mapError (·.fault)

end SchemaGraph.Yaml

/-!
## Reading a settings file

A text is cut into tokens, these make up the nodes of a document, and the root of the document has a
value. A text without a document is null.
-/

namespace SchemaGraph.Yaml

/-- The value of a text. -/
def read (text : String) : Except Fault Value :=
  match Source.ofText? text with
  | none => .error .malformed
  | some source =>
    let tokens := Token.ofSource source
    match Node.ofTokens tokens with
    | .error f => .error f
    | .ok none => .ok .null
    | .ok (some root) => root.value tokens.length

end SchemaGraph.Yaml
