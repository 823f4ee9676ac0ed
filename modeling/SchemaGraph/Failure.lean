import SchemaGraph.Decode.Checked
import SchemaGraph.Json.Reader
import SchemaGraph.Json.Shown
import SchemaGraph.Schema.Basic
import SchemaGraph.Text.Symbol

/-!
# Failures

Everything that can go wrong, by cause. An operation fails with the name of the operation and the
ids it was about. Documents fail with the findings of their check, settings with the section they
stand in. A malformed argument that no check foresees is a crash: it names no cause a caller
could act on, and only its kind is reported.
-/

namespace SchemaGraph

open Decode

/-- What an operation was about. The ids are kept as the caller gave them; null stands for none. -/
structure ErrorContext where
  operation : String
  tableId : Json := .null
  columnId : Json := .null
  relationshipId : Json := .null
  more : Members := []

inductive OperationFault where
  | missingTable (id : String)
  | missingColumn (id table : String)
  | missingRelationship (id : String)
  | tableIdTaken (id : String)
  | columnIdTaken (id : String)
  | relationshipIdTaken (id : String)
  | unsupportedFields (names : List String)
  | invalidValue (found : Findings)
  | invalidCommand (found : Findings)
  | unknownDialect (name : String)
  | missingProject (id : String)
  | stated (message : String)
  | wrapped (kind message : String)

namespace OperationFault

def message : OperationFault → String
  | missingTable id => s!"Table '{id}' does not exist"
  | missingColumn id table => s!"Column '{id}' does not exist on table '{table}'"
  | missingRelationship id => s!"Relationship '{id}' does not exist"
  | tableIdTaken id => s!"Table id '{id}' is already in use"
  | columnIdTaken id => s!"Column id '{id}' is already in use"
  | relationshipIdTaken id => s!"Relationship id '{id}' is already in use"
  | unsupportedFields names => "Unsupported field(s): " ++ ", ".intercalate names
  | invalidValue found => s!"Invalid value: {found.message}"
  | invalidCommand found => s!"Invalid command: {found.message}"
  | unknownDialect name => s!"Unknown dialect '{name}'"
  | missingProject id => s!"Project {id} not found"
  | stated message => message
  | wrapped _ message => message

/-- The kind of the failure underneath, where there is one. -/
def cause? : OperationFault → Option String
  | invalidValue _ | invalidCommand _ => some "ValidationError"
  | wrapped kind _ => some kind
  | _ => none

def category : OperationFault → String
  | missingProject _ => "not_found"
  | wrapped kind _ => kind
  | _ => "operation_error"

end OperationFault

structure OperationError where
  context : ErrorContext
  fault : OperationFault

namespace OperationError

def message (e : OperationError) : String := e.fault.message

def text (e : OperationError) : String := s!"[{e.context.operation}] {e.message}"

end OperationError

/-- A value that is text or the like, but not one of those allowed. -/
inductive ValueFault where
  | unknownTemplate (key : String) (known : List String)
  | notOneOf (shown family : String)
  | unsupportedFormat (format : String) (known : List String)
  | pairLength (index length : Nat)
  | tooManyDigits (count : Nat)
  | tooManyDigitsToShow
  | tooDeepToShow
  | unknownLevel (text : String)
  /-- A scalar of a settings file that its form allows and its meaning does not. -/
  | unreadable (message : String)

def ValueFault.message : ValueFault → String
  | unknownTemplate key known =>
    s!"Unknown template '{key}'. Available: " ++ ", ".intercalate known
  | notOneOf shown family => s!"{shown} is not a valid {family}"
  | unsupportedFormat format known =>
    s!"Unsupported diagram format '{format}'. Use one of: " ++ ", ".intercalate known
  | pairLength index length =>
    s!"dictionary update sequence element #{index} has length {length}; 2 is required"
  | tooManyDigits count => Decimal.tooManyDigits count
  | tooManyDigitsToShow => Decimal.tooManyDigitsToShow
  | tooDeepToShow => "Maximum serialization depth exceeded"
  | unknownLevel text => s!"Unknown level: {Text.quoted text}"
  | unreadable message => message

inductive SnapshotFault where
  | notJson (e : Json.ReadError)
  | notObject (kind : String)
  | edgeNotObject (kind : String)
  | invalid (found : Findings)
  | invalidValue (fault : ValueFault)

def SnapshotFault.message : SnapshotFault → String
  | notJson e => s!"Snapshot is not valid JSON: {e.message}"
  | notObject kind => s!"Snapshot must be an object, got {kind}"
  | edgeNotObject kind => s!"Relationship entry must be an object, got {kind}"
  | invalid found => s!"Invalid snapshot: {found.message}"
  | invalidValue fault => s!"Invalid snapshot: {fault.message}"

inductive ConfigFault where
  | notYaml
  | notMapping (kind : String)
  | sectionNotMapping (kind : String)
  | badSetting (finding : Finding)

/-- The path of a finding as a key of the configuration. -/
def Decode.Finding.key (f : Finding) : String :=
  let key := ".".intercalate (f.path.map fun
    | .name s => s
    | .index n => toString n)
  if key == "" then "<section>" else key

def ConfigFault.message : ConfigFault → String
  | notYaml => "not valid YAML"
  | notMapping kind => s!"top level must be a mapping, got {kind}"
  | sectionNotMapping kind => s!"section must be a mapping, got {kind}"
  | badSetting finding => s!"{finding.key}: {finding.fault.message}"

structure ConfigError where
  file : String
  part : Option String
  fault : ConfigFault

def ConfigError.message (e : ConfigError) : String :=
  let part := match e.part with
    | some p => s!" [{p}]"
    | none => ""
  s!"Invalid configuration{part} in {e.file}: {e.fault.message}"

/-- The kinds of crash. -/
inductive Crash where
  /-- A value of a kind that the step cannot take apart. -/
  | wrongKind
  /-- A value without the part that the step asks it for. -/
  | noPart
  | noKey
  | noIndex
  | noItem
  /-- An integer beyond all numbers. -/
  | overflow
  /-- A value nested too deep. -/
  | tooDeep
  deriving Repr, DecidableEq

inductive Failure where
  | operation (e : OperationError)
  | invalid (found : Findings)
  | blocked (issues : List Issue)
  | config (e : ConfigError)
  | missingConfig (file : String)
  | snapshot (fault : SnapshotFault)
  | value (fault : ValueFault)
  | crash (c : Crash)
  /-- A failure from elsewhere, of which only the kind and the text are known. -/
  | foreign (kind message : String)

namespace Failure

/-- The name of the kind of a failure, as error payloads give it. -/
def kind : Failure → String
  | operation _ => "SchemaOperationError"
  | invalid _ => "ValidationError"
  | blocked _ => "CompilationBlockedError"
  | config _ => "ConfigError"
  | missingConfig _ => "FileNotFoundError"
  | snapshot _ => "SnapshotError"
  | value _ => "ValueError"
  | crash .wrongKind => "TypeError"
  | crash .noPart => "AttributeError"
  | crash .noKey => "KeyError"
  | crash .noIndex => "IndexError"
  | crash .noItem => "StopIteration"
  | crash .overflow => "OverflowError"
  | crash .tooDeep => "RecursionError"
  | foreign kind _ => kind

def blockingIssues (issues : List Issue) : List Issue := issues.filter (·.severity == .error)

/-- The text of a failure. -/
def message : Failure → String
  | operation e => e.message
  | invalid found => found.message
  | blocked issues =>
    "Schema has blocking errors; fix them before exporting SQL. " ++
      s!"({(blockingIssues issues).length} error(s))"
  | config e => e.message
  | missingConfig file =>
    s!"config.yaml not found at {file} (from SCHEMAFORGE_CONFIG={file})."
  | snapshot fault => fault.message
  | value fault => fault.message
  | crash _ => ""
  | foreign _ message => message

/-- Whether the failure is one of a value: it then stands for an unknown template as well. -/
def isOfValue : Failure → Bool
  | value _ | snapshot _ | config _ | invalid _ => true
  | _ => false

end Failure

/-- A check that has to pass, with its findings as the failure. -/
def Decode.Checked.orFail (c : Checked α) : Except Failure α :=
  match c with
  | .valid a => .ok a
  | .invalid found => .error (.invalid found)
  | .tooDeep => .error (.crash .tooDeep)

namespace Json

/-- The failure that a value which cannot be shown leads to. -/
def ShowFault.failure : ShowFault → Failure
  | .tooDeep => .crash .tooDeep
  | .tooManyDigits => .value .tooManyDigitsToShow

/-- The form of a value inside a text, for a step that cannot go on without it. -/
def shownOrFail (v : Json) : Except Failure String := v.shown.mapError ShowFault.failure

/-- The text of a value, for a step that cannot go on without it. -/
def printedOrFail (v : Json) : Except Failure String := v.printed.mapError ShowFault.failure

end Json

theorem Decode.Checked.orFail_eq_ok_iff {c : Checked α} {a : α} :
    c.orFail = .ok a ↔ c = .valid a := by
  cases c <;> simp [orFail]

end SchemaGraph

/-!
## Reports of failures

A failure is reported to callers as an object that says what failed, in which operation, and which
ids it was about, as far as there are any. A failure of another kind can be taken on as that of an
operation, which then names its kind.
-/

namespace SchemaGraph

open Decode

def Decode.Step.toJson : Step → Json
  | .name s => .str s
  | .index n => .ofNat n

def Decode.Finding.toJson (f : Finding) : Json :=
  .obj [("loc", .arr (f.path.map Step.toJson)), ("msg", .str f.fault.message),
    ("type", .str f.fault.code)]

/-- The value that a path leads to. -/
def Json.at? : Json → List Step → Option Json
  | v, [] => some v
  | .obj ms, .name s :: rest => (Members.get? ms s).bind (·.at? rest)
  | .arr items, .index n :: rest => items[n]?.bind (·.at? rest)
  | _, _ => none

namespace Failure

/-- A member that is there only if its value is given. -/
def ifGiven (name : String) (v : Json) : Members := if v.isGiven then [(name, v)] else []

/-- The report of a failure in a context. -/
def report (context : ErrorContext) (f : Failure) : Json :=
  .obj [("success", .bool false),
    ("error", .obj <|
      [("type", .str f.kind), ("message", .str f.message), ("operation", .str context.operation)] ++
        ifGiven "table_id" context.tableId ++ ifGiven "column_id" context.columnId ++
        ifGiven "relationship_id" context.relationshipId ++
        ifGiven "additional_context" (.obj context.more))]

/-- The failure as one of an operation. -/
def asOperation (context : ErrorContext) : Failure → OperationError
  | operation e => e
  | f => ⟨context, .wrapped f.kind f.message⟩

/-- A failure that is known by its kind and what was said of it. A missing key is quoted. -/
def ofKind (kind message : String) : Failure :=
  foreign kind (if kind == "KeyError" then Text.quoted message else message)

end Failure
end SchemaGraph
