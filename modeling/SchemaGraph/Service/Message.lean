import SchemaGraph.Failure
import SchemaGraph.Json.Shown
import SchemaGraph.Json.Writer
import SchemaGraph.Service.Route

/-!
# Requests and responses

A request names a method and a path and may have a body. A response has a status and a body, which
is a document or a plain text. A body is sent as bytes, which cannot hold half of a surrogate pair,
so a response with one turns into that of something unforeseen. So does a refusal with details that
cannot be told: they are logged as well, and so must be such that they can be shown.
-/

namespace SchemaGraph.Service

open Decode

structure Request where
  method : String
  /-- The path, perhaps with parameters after a question mark. -/
  target : String
  /-- Parameters that replace those of the target. -/
  params : Option Members := none
  body : Option String := none

namespace Request

/-- The method, which may be written in any case. -/
def verb (r : Request) : String := r.method.toUpper

def valueText : Json → String
  | .null => ""
  | .bool b => if b then "true" else "false"
  | v => v.text

/-- A parameter that is given with several values is there several times. -/
def valuesOf (name : String) : Json → List (String × String)
  | .arr items => items.map fun v => (name, valueText v)
  | v => [(name, valueText v)]

/-- The parameters: those given, or those that the target carries. -/
def parameters (r : Request) (t : Target) : List (String × String) :=
  match r.params with
  | some ms => ms.flatMap fun (name, v) => valuesOf name v
  | none => t.parameters

/-- A parameter; the last of several of one name counts. -/
def parameter? (r : Request) (t : Target) (name : String) : Option String :=
  (r.parameters t).reverse.lookup name

end Request

inductive Body where
  | document (v : Json)
  | text (s : String)

structure Response where
  status : Nat
  contentType : String
  body : Body

namespace Response

def internalError : Response :=
  ⟨500, "text/plain; charset=utf-8", .text "Internal Server Error"⟩

def document (status : Nat) (v : Json) : Response :=
  if v.isWhole then ⟨status, "application/json", .document v.withFiniteNumbers⟩
  else internalError

/-- A plain text of some type. -/
def text (contentType s : String) : Response :=
  if Text.isWhole s then ⟨200, contentType, .text s⟩ else internalError

/-- Whether a refusal can tell of a value: its numbers are finite, its texts whole, and it can be
shown. -/
def canTell (v : Json) : Bool := v.isFinite && v.isWhole && v.isShowable

/-- A refusal with details. -/
def refusal (status : Nat) (detail : Json) : Response :=
  if canTell detail then document status (.obj [("detail", detail)]) else internalError

def notFound : Response := refusal 404 (.str "Not Found")

def methodNotAllowed : Response := refusal 405 (.str "Method Not Allowed")

/-- The refusal of a body that is no document at all. -/
def badBody : Response := refusal 400 (.str "There was an error parsing the body")

def noProject : Response := refusal 404 (.str "Project not found")

/-- The refusal of a body, with everything that was found in it. -/
def unprocessable (found : Findings) : Response :=
  refusal 422 (.arr ((found.below (.name "body")).toList.map Finding.toJson))

/-- The part of a body that a finding is about: for a missing member, the whole body. -/
def subject (body : Json) (f : Finding) : Json :=
  if f.fault == .missing then body else (body.at? f.path).getD .null

/-- The refusal of a body that was read. It tells what is refused. -/
def unfit (body : Json) (found : Findings) : Response :=
  if found.toList.all fun f => canTell (subject body f) then unprocessable found else internalError

/-- The response to a request that asks for no body. -/
def withoutBody (r : Response) : Response := { r with body := .text "" }

/-- What the report of a failed request is about: what the operation itself says, with more. -/
def contextOf (operation : String) (more : Members) : Failure → ErrorContext
  | .operation e =>
    { e.context with more := more.foldl (fun ms (n, v) => ms.put n v) e.context.more }
  | _ => { operation, more }

/-- The refusal of a request whose operation failed. -/
def badRequest (operation : String) (more : Members) (f : Failure) : Response :=
  refusal 400 (f.report (contextOf operation more f))

end Response
end SchemaGraph.Service
