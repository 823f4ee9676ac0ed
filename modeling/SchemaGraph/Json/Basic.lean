/-!
# Documents

Schemas arrive and leave as JSON documents, and parts of them, such as the columns of a new table,
are kept as documents until they are checked. Integers are unbounded and distinct from floating
point numbers, and the members of an object keep the order in which they were written, because
error lists and saved files show it.
-/

namespace SchemaGraph

inductive Json where
  | null
  | bool (b : Bool)
  | int (n : Int)
  | float (x : Float)
  | str (s : String)
  | arr (items : List Json)
  | obj (members : List (String × Json))
  deriving Inhabited

/-- The members of an object, in order, each name once. -/
abbrev Members := List (String × Json)

namespace Members

def get? (ms : Members) (name : String) : Option Json :=
  ms.lookup name

def has (ms : Members) (name : String) : Bool :=
  (ms.get? name).isSome

/-- Set a member. A name that is already there keeps its place. -/
def put : Members → String → Json → Members
  | [], name, v => [(name, v)]
  | (n, w) :: ms, name, v => if n == name then (n, v) :: ms else (n, w) :: put ms name v

/-- Add a member unless the name is already there. -/
def putNew (ms : Members) (name : String) (v : Json) : Members :=
  if ms.has name then ms else ms ++ [(name, v)]

/-- The first of several names that is there, with its value. -/
def find? (ms : Members) (names : List String) : Option (String × Json) :=
  names.findSome? fun n => (ms.get? n).map (n, ·)

@[simp] theorem get?_nil (name : String) : get? [] name = none := rfl

theorem get?_cons (n : String) (v : Json) (ms : Members) (name : String) :
    get? ((n, v) :: ms) name = if name = n then some v else get? ms name := by
  by_cases h : name = n
  · simp [get?, h]
  · have : (name == n) = false := by simp [h]
    simp [get?, List.lookup_cons, h, this]

/-- Reading a member back after setting one. -/
theorem get?_put (ms : Members) (name other : String) (v : Json) :
    (ms.put name v).get? other = if other = name then some v else ms.get? other := by
  induction ms with
  | nil => simp [put, get?_cons]
  | cons m ms ih =>
    obtain ⟨n, w⟩ := m
    by_cases hn : n = name
    · subst hn
      by_cases ho : other = n <;> simp [put, get?_cons, ho]
    · by_cases ho : other = n
      · subst ho
        simp [put, get?_cons, hn]
      · simp [put, get?_cons, hn, ho, ih]

end Members

namespace Json

/-- Whether a value counts as given: everything but null, false, zero and the empty ones. -/
def isGiven : Json → Bool
  | null => false
  | bool b => b
  | int n => n != 0
  | float x => x != 0.0
  | str s => s != ""
  | arr items => !items.isEmpty
  | obj ms => !ms.isEmpty

/-- The kind of a value, in the words of the messages that name it. -/
def kindName : Json → String
  | null => "NoneType"
  | bool _ => "bool"
  | int _ => "int"
  | float _ => "float"
  | str _ => "str"
  | arr _ => "list"
  | obj _ => "dict"

def ofOption (f : α → Json) : Option α → Json
  | none => null
  | some a => f a

def ofText? : Option String → Json := ofOption str

def ofNat (n : Nat) : Json := int n

def asText? : Json → Option String
  | str s => some s
  | _ => none

mutual

/-- The number of values on the longest way into a value. -/
def levels : Json → Nat
  | arr items => itemLevels items + 1
  | obj ms => memberLevels ms + 1
  | _ => 1

def itemLevels : List Json → Nat
  | [] => 0
  | v :: rest => max (levels v) (itemLevels rest)

def memberLevels : List (String × Json) → Nat
  | [] => 0
  | (_, v) :: rest => max (levels v) (memberLevels rest)

end

@[simp] theorem isGiven_null : isGiven null = false := rfl
@[simp] theorem isGiven_str (s : String) : isGiven (str s) = (s != "") := rfl
@[simp] theorem asText?_str (s : String) : asText? (str s) = some s := rfl

end Json
end SchemaGraph
