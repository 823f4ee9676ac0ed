import SchemaGraph.Failure
import SchemaGraph.Text.Normal

/-!
# What edits work with

An edit draws ids, looks for names that are free, and takes apart the drafts that it is given.

## Fresh ids

Whatever is created without an id gets one from a supply, which may be any sequence of texts. An id
that was drawn is gone, also when the edit that drew it fails later, so an edit gives its outcome
and the supply that it leaves.
-/

namespace SchemaGraph

structure Supply where
  idAt : Nat → String
  used : Nat := 0

/-- The next id, and the supply without it. -/
def Supply.draw (s : Supply) : String × Supply := (s.idAt s.used, { s with used := s.used + 1 })

/-- An edit that may fail and may draw ids. -/
abbrev Edit (α : Type) := ExceptT Failure (StateM Supply) α

namespace Edit

def freshId : Edit String := do
  let (id, rest) := (← get).draw
  set rest
  return id

/-- The id given, if one is, and a fresh one otherwise. -/
def givenId (v : Json) : Edit Json :=
  if v.isGiven then pure v else Json.str <$> freshId

/-- Run an edit on a supply. -/
def runOn (e : Edit α) (supply : Supply) : Except Failure α × Supply := (ExceptT.run e) supply

end Edit
end SchemaGraph

/-!
## Free names

A new table or column gets the name asked for, or that name with the least number that makes it
free. Names collide when their lower-case forms are equal. There are more candidates than taken
names, so one of the first of them is free.
-/

namespace SchemaGraph

/-- The name itself, then the name with 1, 2, ... after an underscore. -/
def candidateName (base : String) : Nat → String
  | 0 => base
  | k + 1 => base ++ "_" ++ toString (k + 1)

def isTaken (taken : List String) (name : String) : Bool :=
  (taken.map Text.lower).contains (Text.lower name)

def freeName (base : String) (taken : List String) : String :=
  match (List.range (taken.length + 1)).find? fun k => !isTaken taken (candidateName base k) with
  | some k => candidateName base k
  | none => base

end SchemaGraph

/-!
## Values taken apart

Drafts of tables and columns come from programs that are loose about their form. A draft is an
object, or a sequence of pairs that says the same. A value without items cannot be taken apart, and
a pair has to have two. A pair whose key is not text gives no member.
-/

namespace SchemaGraph.Json

/-- The items of a value: those of a list, the names of an object, the characters of a text. -/
def elements : Json → Except Failure (List Json)
  | arr items => .ok items
  | obj ms => .ok (ms.map fun m => str m.1)
  | str s => .ok (s.toList.map fun c => str (String.singleton c))
  | _ => .error (.crash .wrongKind)

/-- Add the member that a pair stands for. A key that is not text names no field. -/
def putPair (ms : Members) (index : Nat) (pair : Json) : Except Failure Members := do
  match ← pair.elements with
  | [str name, v] => .ok (ms.put name v)
  | [arr _, _] => .error (.crash .wrongKind)
  | [obj _, _] => .error (.crash .wrongKind)
  | [_, _] => .ok ms
  | items => .error (.value (.pairLength index items.length))

def putPairs (ms : Members) : Nat → List Json → Except Failure Members
  | _, [] => .ok ms
  | index, pair :: rest => do
    let ms ← putPair ms index pair
    putPairs ms (index + 1) rest

/-- The members that a value stands for. -/
def entries (v : Json) : Except Failure Members :=
  match v with
  | obj ms => .ok ms
  | v => do putPairs [] 0 (← v.elements)

/-- Whether a pair has text for its key. -/
def isNamedPair (pair : Json) : Bool :=
  match pair.elements with
  | .ok (str _ :: _) => true
  | _ => false

/-- Whether a value that stands for members has text for all their keys. -/
def hasNames : Json → Bool
  | arr pairs => pairs.all isNamedPair
  | _ => true

@[simp] theorem entries_obj (ms : Members) : entries (obj ms) = .ok ms := rfl

end SchemaGraph.Json
