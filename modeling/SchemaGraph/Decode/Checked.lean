import SchemaGraph.Decode.Fault
import SchemaGraph.Json.Basic

/-!
# Checked values

The outcome of a check is a value or what was found instead. Checks of independent parts are
combined so that the findings of all of them are kept, in the order of the parts: this is an
applicative structure and not a monad, as no part waits for another one.

A check may also be cut short, by a value that is nested too deep to be gone into. Nothing is then
known of the whole, whatever its other parts are.
-/

namespace SchemaGraph.Decode

inductive Checked (α : Type) where
  | valid (a : α)
  | invalid (found : Findings)
  | tooDeep
  deriving Inhabited

namespace Checked

def map (f : α → β) : Checked α → Checked β
  | valid a => valid (f a)
  | invalid found => invalid found
  | tooDeep => tooDeep

def app : Checked (α → β) → Checked α → Checked β
  | valid f, valid a => valid (f a)
  | valid _, invalid g => invalid g
  | invalid f, valid _ => invalid f
  | invalid f, invalid g => invalid (f.append g)
  | tooDeep, _ => tooDeep
  | _, tooDeep => tooDeep

instance : Applicative Checked where
  pure := valid
  map := map
  seq f a := app f (a ())

def fault (f : Fault) : Checked α := invalid (.ofFault f)

def below (s : Step) : Checked α → Checked α
  | valid a => valid a
  | invalid found => invalid (found.below s)
  | tooDeep => tooDeep

/-- Go on from a valid value; a step that needs the one before it. -/
def bind (c : Checked α) (f : α → Checked β) : Checked β :=
  match c with
  | valid a => f a
  | invalid found => invalid found
  | tooDeep => tooDeep

end Checked

/-- Check every item of a list, from the item with a given number on. -/
def checkFrom (check : α → Checked β) : Nat → List α → Checked (List β)
  | _, [] => .valid []
  | n, v :: rest => List.cons <$> (check v).below (.index n) <*> checkFrom check (n + 1) rest

/-- A member that has to be there, under the first of its names that is. -/
def required (names : List String) (check : Json → Checked α) (ms : Members) : Checked α :=
  match ms.find? names with
  | some (name, v) => (check v).below (.name name)
  | none => (Checked.fault .missing).below (.name (names.headD ""))

/-- A member that may be missing. -/
def sent (names : List String) (check : Json → Checked α) (ms : Members) : Checked (Option α) :=
  match ms.find? names with
  | some (name, v) => ((check v).map some).below (.name name)
  | none => .valid none

def optional (names : List String) (default : α) (check : Json → Checked α) (ms : Members) :
    Checked α :=
  (sent names check ms).map (·.getD default)

/-- Refuse the members that no field took, in the order in which they were written. -/
def closed (used : List String) (ms : Members) (c : Checked α) : Checked α :=
  (ms.filter fun m => !used.contains m.1).foldl
    (fun c m => (fun a (_ : Unit) => a) <$> c <*> (Checked.fault .unexpected).below (.name m.1)) c

/-- The names under which the given fields were found. -/
def namesFound (fields : List (List String)) (ms : Members) : List String :=
  fields.filterMap fun names => (ms.find? names).map (·.1)

end SchemaGraph.Decode
