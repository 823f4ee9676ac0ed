import SchemaGraph.Json.Reader
import SchemaGraph.Text.Encoding

/-!
# Where requests go

The target of a request is taken apart, and leads to a route.

## Targets of requests

The target of a request is a path and, after a question mark, parameters; what follows a number sign
is not sent. A scheme and a host may stand in front, and whatever host is named, it is this one. A
step of a path that is one dot is left out, and one that is two dots takes back the step before it.

A percent sign and two hexadecimal digits stand for a byte of a text. In a path they are read twice,
by the client and by the server; in parameters they are read once, and a plus sign stands for a
blank.
-/

namespace SchemaGraph.Service

structure Target where
  path : String
  query : String

namespace Target

def percent : UInt8 := 0x25

def hexDigit? (b : UInt8) : Option Nat := Decimal.digit? 16 (Char.ofNat b.toNat)

/-- The bytes that bytes stand for. -/
def unescaped : List UInt8 → List UInt8
  | p :: a :: b :: rest =>
    match p == percent, hexDigit? a, hexDigit? b with
    | true, some x, some y => UInt8.ofNat (16 * x + y) :: unescaped rest
    | _, _, _ => p :: unescaped (a :: b :: rest)
  | bytes => bytes

/-- The text that a text stands for. -/
def decoded (s : String) : String := Text.shownBytes (unescaped (Text.bytesOf s))

/-- Leave out the dots among the steps of a path; `done` are the steps before, last first. -/
def withoutDots (done : List String) : List String → List String
  | [] => done.reverse
  | "." :: rest => withoutDots done rest
  | ".." :: rest => withoutDots (if done == [""] then done else done.drop 1) rest
  | s :: rest => withoutDots (s :: done) rest

/-- The part before the first of a mark, and the part after it. -/
def cut (mark : Char) (cs : List Char) : List Char × List Char :=
  (cs.takeWhile (· != mark), (cs.dropWhile (· != mark)).drop 1)

/-- A target from its path on. -/
def ofPath (cs : List Char) : Target :=
  let (path, query) := cut '?' (cut '#' cs).1
  let steps := withoutDots [] ((String.ofList path).splitOn "/")
  ⟨decoded (decoded ("/".intercalate steps)), String.ofList query⟩

def isSchemeMark (c : Char) : Bool := c.isAlphanum || c == '+' || c == '.' || c == '-'

/-- The scheme in front, which may be empty but for its colon, and the rest. -/
def cutScheme (cs : List Char) : List Char × List Char :=
  let scheme := cs.takeWhile isSchemeMark
  match cs.dropWhile isSchemeMark with
  | ':' :: rest => if scheme.head?.all Char.isAlpha then (scheme, rest) else ([], cs)
  | _ => ([], cs)

/-- The host in front, and the rest. -/
def cutHost (cs : List Char) : List Char × List Char :=
  let ends (c : Char) : Bool := c == '/' || c == '?' || c == '#'
  match cs with
  | '/' :: '/' :: rest => (rest.takeWhile (!ends ·), rest.dropWhile (!ends ·))
  | _ => ([], cs)

/-- A target as written. Its path starts with one slash, unless it follows a scheme and a host. -/
def ofText (s : String) : Target :=
  let (scheme, rest) := cutScheme s.toList
  let (host, rest) := cutHost rest
  let isAbsolute := !scheme.isEmpty && !host.isEmpty && rest.head? == some '/'
  ofPath (if isAbsolute then rest else '/' :: rest.dropWhile (· == '/'))

def blanks (s : String) : String :=
  String.ofList (s.toList.map fun c => if c == '+' then ' ' else c)

/-- The parameters of a target, with the last of several of one name last. -/
def parameters (t : Target) : List (String × String) :=
  ((t.query.splitOn "&").filter (· != "")).map fun part =>
    let (name, value) := cut '=' part.toList
    (decoded (blanks (String.ofList name)), decoded (blanks (String.ofList value)))

/-- The target that has a path without the slashes at its end. -/
def withoutFinalSlashes (t : Target) : Target :=
  { t with path := String.ofList (t.path.toList.reverse.dropWhile (· == '/')).reverse }

/-- The target that a client is led to by the name of another one, which it reads anew. -/
def led (t : Target) : Target := ofPath (t.path ++ "?" ++ t.query).toList

end Target
end SchemaGraph.Service

/-!
## Routes

The paths that are served, each with the one method that it takes. A path may end in a line end,
which is then part of the id of a project if it ends in one. A path with slashes at its end leads
the client to the same path without them.
-/

namespace SchemaGraph.Service

inductive Route where
  | health
  | templates
  | dialects
  | compile
  | projects
  | project (id : String)
  | commands (id : String)
  | layout (id : String)
  | exportSql (id : String)
  | diagram (id : String)
  deriving Repr, DecidableEq

namespace Route

def method : Route → String
  | health | templates | dialects | project _ | diagram _ => "GET"
  | compile | projects | commands _ | layout _ | exportSql _ => "POST"

/-- The part of a project that the last step of a path names. -/
def ofPart? (id : String) : String → Option Route
  | "commands" => some (commands id)
  | "layout" => some (layout id)
  | "export" => some (exportSql id)
  | "diagram" => some (diagram id)
  | _ => none

def ofSteps? : List String → Option Route
  | ["health"] => some health
  | ["api", "schema", "templates"] => some templates
  | ["api", "schema", "dialects"] => some dialects
  | ["api", "schema", "compile"] => some compile
  | ["api", "schema", "projects"] => some projects
  | ["api", "schema", "projects", id, part] => if id == "" then none else ofPart? id part
  | _ => none

def withoutFinalBreak (path : String) : String :=
  match path.toList.reverse with
  | '\n' :: rest => String.ofList rest.reverse
  | _ => path

def ofPath? (path : String) : Option Route :=
  match path.splitOn "/" with
  | ["", "api", "schema", "projects", id] => if id == "" then none else some (project id)
  | _ => ofSteps? (((withoutFinalBreak path).splitOn "/").drop 1)

/-- The route that a client gets to in a number of steps, and the target by which it does. -/
def reached? : Nat → Target → Option (Route × Target)
  | 0, _ => none
  | steps + 1, t =>
    match ofPath? t.path with
    | some route => some (route, t)
    | none =>
      let shorter := t.withoutFinalSlashes
      if (ofPath? shorter.path).isSome then reached? steps shorter.led else none

end Route
end SchemaGraph.Service
