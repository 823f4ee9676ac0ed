import SchemaGraph.Ddl.Export
import SchemaGraph.Diagram
import SchemaGraph.Project
import SchemaGraph.Service.Message
import SchemaGraph.Snapshot.Reader
import SchemaGraph.Template

/-!
# Serving requests

A request is answered from the registry, once its body is read.

## Bodies of requests

What the body of each kind of request has to hold. Members that are not known are ignored.
-/

namespace SchemaGraph.Service

open Decode

/-- The members of a body. -/
def ofBody (check : Members → Checked α) : Json → Checked α
  | .obj ms => check ms
  | _ => .fault .noFields

def nonEmptyText (v : Json) : Checked String :=
  (text v).bind (readable fun s => if s == "" then .fault .tooShort else .valid s)

def styleText (v : Json) : Checked Config.StatementStyle :=
  (text v).bind <| readable fun s =>
    if s == "pretty" || s == "compact" then .valid (.ofText s)
    else .fault (.patternMismatch "^(pretty|compact)$")

structure CreateForm where
  name : Option String
  template : Option String
  snapshot : Option Members
  dialect : Option Dialect

def CreateForm.check : Json → Checked CreateForm := ofBody fun ms =>
  CreateForm.mk <$> sent ["name"] nonEmptyText ms
    <*> optional ["template"] none (nullable text) ms
    <*> optional ["snapshot"] none (nullable mapping) ms
    <*> optional ["dialect"] none (nullable Dialect.check) ms

def commandForm : Json → Checked Members := ofBody (required ["command"] mapping)

structure ExportForm where
  selection : Option (List String)
  options : Ddl.ExportOptions

namespace ExportForm

def ofMembers (ms : Members) : Checked ExportForm :=
  (fun selection dialect onDelete onUpdate style header =>
      { selection, options := { dialect, onDelete, onUpdate, style, header } : ExportForm })
    <$> optional ["selected_table_ids"] none (nullable (list text)) ms
    <*> optional ["dialect"] none (nullable Dialect.check) ms
    <*> optional ["on_delete"] none (nullable ReferentialAction.check) ms
    <*> optional ["on_update"] none (nullable ReferentialAction.check) ms
    <*> optional ["statement_style"] none (nullable styleText) ms
    <*> optional ["include_header"] none (nullable flag) ms

def check : Json → Checked ExportForm := ofBody ofMembers

end ExportForm

structure CompileForm where
  exported : ExportForm
  snapshot : Members

def CompileForm.check : Json → Checked CompileForm := ofBody fun ms =>
  CompileForm.mk <$> ExportForm.ofMembers ms <*> required ["snapshot"] mapping ms

end SchemaGraph.Service

/-!
## The server

A server answers requests on a registry of projects. A body is read and checked before the project
is looked up. What an operation refuses is answered as a bad request, and a failure that nobody
foresaw as an internal error.
-/

namespace SchemaGraph.Service

open Decode

/-- A step of an answer; it may end the answer early with a response. -/
abbrev Handler (α : Type) := ExceptT Response (StateM Registry) α

namespace Handler

def settings : Handler Config.Settings := return (← get).settings

/-- Take a step of the registry, and go on also if it fails. -/
def attempt (step : Registry.Step α) : Handler (Except Failure α) := ExceptT.lift step.run

/-- Go on with an outcome, or end with the response that its failure gets. -/
def orRespond (answer : ε → Response) : Except ε α → Handler α
  | .ok a => pure a
  | .error f => throw (answer f)

def orInternal (r : Except Failure α) : Handler α := orRespond (fun _ => .internalError) r

/-- Snapshots and operations are refused with a report, and other failures are unforeseen. -/
def reported (operation : String) (more : Members) (f : Failure) : Response :=
  match f with
  | .snapshot _ | .operation _ => .badRequest operation more f
  | _ => .internalError

/-- The response to a body that cannot be read. -/
def unreadable (e : Json.ReadError) : Response :=
  if e.problem.isOfForm then
    .unprocessable ((Findings.ofFault .unreadable).below (.index e.offset))
  else .badBody

/-- The document of a body; a body that is empty is none. -/
def document (r : Request) : Handler Json :=
  let bytes := Text.bytesOf (r.body.getD "")
  if bytes.isEmpty then throw (.unprocessable (.ofFault .missing))
  else
    match Text.decode? bytes with
    | none => throw .badBody
    | some xs => orRespond id ((Json.readChars (xs.flatMap (·.kept))).mapError unreadable)

/-- The body of a request. -/
def body (check : Json → Checked α) (r : Request) : Handler α := do
  let v ← document r
  match check v with
  | .valid a => pure a
  | .invalid found => throw (.unfit v found)
  | .tooDeep => throw .internalError

def requireProject (id : String) : Handler Project := do
  match (← get).store.get? id with
  | some p => return p
  | none => throw .noProject

/-- Replace the schema of a project. -/
def update (id : String) (state : State Float) : Handler Project := do
  match ← orInternal (← attempt (Registry.update id state)) with
  | some p => return p
  | none => throw .noProject

def stateOfTemplate (key : String) (dialect : Option Dialect) : Handler (State Float) := do
  let refuse (f : Failure) : Response :=
    if f.isOfValue then .refusal 404 (.str s!"Template '{key}' not found") else .internalError
  let t ← orRespond refuse (Template.find Template.all key)
  let dialect := (dialect.getD .postgresql).name
  orRespond refuse
    (← attempt (Registry.edit (t.load (← settings).layoutSettings (.str dialect))))

def stateOfSnapshot (ms : Members) (dialect : Option Dialect) : Handler (State Float) := do
  let s ← orRespond (reported "create_project" []) (Snapshot.ofJson (.obj ms))
  return { s with dialect := dialect.getD s.dialect }

/-- The schema of a new project: from a template, from a snapshot, or empty. -/
def startOf (form : CreateForm) : Handler (State Float) :=
  match form.template.filter (· != ""), form.snapshot with
  | some _, some _ =>
    throw (.refusal 400 (.str "Provide either 'template' or 'snapshot', not both"))
  | some key, none => stateOfTemplate key form.dialect
  | none, some ms => stateOfSnapshot ms form.dialect
  | none, none => pure { dialect := form.dialect.getD .postgresql }

def createProject (r : Request) : Handler Response := do
  let form ← body CreateForm.check r
  let state ← startOf form
  let p ← orInternal
    (← attempt (Registry.create none (form.name.getD Project.defaultName) state))
  return .document 201 p.toJson

def runCommand (id : String) (r : Request) : Handler Response := do
  let payload ← body commandForm r
  let _ ← requireProject id
  let kind := (payload.get? "type").getD .null
  let more := [("project_id", .str id), ("command_type", kind)]
  let p ← orRespond (reported "apply_command" more)
    (← attempt (Registry.applyCommand id (.obj payload)))
  return .document 200 p.toJson

def layoutProject (id : String) : Handler Response := do
  let p ← requireProject id
  let state ← orInternal (Editing.autoLayout (← settings).layoutSettings p.state)
  return .document 200 (← update id state).toJson

def exported (form : ExportForm) (s : State Float) : Handler Response := do
  let e ← orInternal
    (Ddl.exportSchema (← settings).compilation form.options form.selection s)
  return .document 200 e.toJson

def exportProject (id : String) (r : Request) : Handler Response := do
  let form ← body ExportForm.check r
  exported form (← requireProject id).state

def compileSnapshot (r : Request) : Handler Response := do
  let form ← body CompileForm.check r
  let s ← orRespond (reported "compile_snapshot" []) (Snapshot.ofJson (.obj form.snapshot))
  exported form.exported s

def diagramFormats : List String := ["dot", "svg", "png"]

/-- The diagram of a project. Only its source can be had, as there is no program that draws it. -/
def projectDiagram (id : String) (r : Request) (t : Target) : Handler Response := do
  let p ← requireProject id
  let format := (r.parameter? t "format").getD "svg"
  if format == "dot" then
    return .text "text/vnd.graphviz; charset=utf-8" (Diagram.ofState none p.state).text
  else if diagramFormats.contains format then throw .internalError
  else
    throw <| .badRequest "generate_diagram" [("project_id", .str id), ("format", .str format)]
      (.value (.unsupportedFormat format diagramFormats))

def templateList : Response :=
  .document 200 (.obj [("templates", .arr (Template.all.map Template.summary))])

def dialectList : Handler Response := do
  let c ← orInternal (← settings).compilation
  return .document 200 <| .obj [("dialects", .arr (Dialect.all.map (.str ·.name))),
    ("referential_actions", .arr (ReferentialAction.all.map (.str ·.name))),
    ("default_dialect", .str c.dialect)]

def atRoute (r : Request) (t : Target) : Route → Handler Response
  | .health => pure (.document 200 (.obj [("status", .str "healthy")]))
  | .templates => pure templateList
  | .dialects => dialectList
  | .compile => compileSnapshot r
  | .projects => createProject r
  | .project id => do return .document 200 (← requireProject id).toJson
  | .commands id => runCommand id r
  | .layout id => layoutProject id
  | .exportSql id => exportProject id r
  | .diagram id => projectDiagram id r t

/-- How often a client lets itself be led on. -/
def stepLimit : Nat := 20

def handle (r : Request) : Handler Response :=
  match Route.reached? stepLimit (.ofText r.target) with
  | none => throw .notFound
  | some (route, t) =>
    if r.verb == route.method then atRoute r t route else throw .methodNotAllowed

end Handler

/-- Answer a request. -/
def respond (r : Request) (registry : Registry) : Response × Registry :=
  let (outcome, registry) := (Handler.handle r).run registry
  let response := match outcome with
    | .ok response => response
    | .error response => response
  (if r.verb == "HEAD" then response.withoutBody else response, registry)

end SchemaGraph.Service
