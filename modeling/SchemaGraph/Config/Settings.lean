import SchemaGraph.Config.File
import SchemaGraph.Layout.Wire

/-!
# Settings

The settings of each section with their defaults. They are read when they are first needed: a
section with a fault in it troubles only those who need that section, so the settings of a program
are a record of outcomes.
-/

namespace SchemaGraph.Config

open Decode

inductive StatementStyle where
  | pretty | compact
  deriving Repr, DecidableEq, Inhabited

namespace StatementStyle

def name : StatementStyle → String
  | pretty => "pretty" | compact => "compact"

/-- Everything that is not compact is pretty. -/
def ofText (s : String) : StatementStyle := if s == "compact" then compact else pretty

def check (v : Json) : Checked StatementStyle := (literal ["pretty", "compact"] v).map ofText

end StatementStyle

structure Logging where
  level : String
  format : String
  toFile : Bool
  file : String
  clearExisting : Bool
  deriving Repr, DecidableEq

namespace Logging

def check : Json → Checked Logging := record "LoggingSettings" fun ms =>
  Logging.mk <$> optional ["level"] "INFO" text ms
    <*> optional ["format_type"] "detailed" (literal ["simple", "detailed"]) ms
    <*> optional ["log_to_file"] false flag ms
    <*> optional ["log_file"] "logs/schemaforge.log" text ms
    <*> optional ["clear_existing"] false flag ms

def toJson (s : Logging) : Json :=
  .obj [("level", .str s.level), ("format_type", .str s.format), ("log_to_file", .bool s.toFile),
    ("log_file", .str s.file), ("clear_existing", .bool s.clearExisting)]

end Logging

structure Editing where
  tableName : String
  columnName : String
  columnType : String
  spawn : List (String × Float)

namespace Editing

/-- The name of a coordinate, which has to be text. -/
def checkName (key : Yaml.Value) : Checked String :=
  match key with
  | .text s => .valid s
  | .bytes bs => readable .valid (Yaml.Value.textOfBytes bs)
  | _ => .fault .notText

/-- A mapping with numbers. The findings on a key come before those on its value. -/
def checkSpawn : Yaml.Value → Checked (List (String × Float))
  | .map entries =>
    let entry (e : Yaml.Value × Yaml.Value) : Checked (String × Float) :=
      (Prod.mk <$> (checkName e.1).below (.name "[key]") <*> number e.2.toJson).below
        (.name e.1.stepName)
    entries.foldr (fun e c => List.cons <$> entry e <*> c) (.valid [])
  | _ => .fault .notMapping

def check (v : Yaml.Value) : Checked Editing :=
  let spawn : Checked (List (String × Float)) :=
    match v.named? "spawn_position" with
    | some w => (checkSpawn w).below (.name "spawn_position")
    | none => .valid [("x", 100.0), ("y", 100.0)]
  record "EditingSettings" (fun ms =>
    Editing.mk <$> optional ["default_table_name"] "new_table" text ms
      <*> optional ["default_column_name"] "new_column" text ms
      <*> optional ["default_column_type"] DataType.fallback text ms
      <*> spawn) v.toJson

/-- Where a table without a position appears. -/
def spawnPosition (s : Editing) : Position Float :=
  ⟨(s.spawn.lookup "x").getD 0.0, (s.spawn.lookup "y").getD 0.0⟩

def toJson (s : Editing) : Json :=
  .obj [("default_table_name", .str s.tableName), ("default_column_name", .str s.columnName),
    ("default_column_type", .str s.columnType),
    ("spawn_position", .obj (s.spawn.map fun (name, x) => (name, .float x)))]

end Editing

structure Compilation where
  dialect : String
  onDelete : String
  onUpdate : String
  style : StatementStyle
  includeHeader : Bool
  indent : String
  deriving Repr, DecidableEq

namespace Compilation

def check : Json → Checked Compilation := record "CompilationSettings" fun ms =>
  Compilation.mk <$> optional ["dialect"] Dialect.postgresql.name text ms
    <*> optional ["on_delete"] ReferentialAction.noAction.name text ms
    <*> optional ["on_update"] ReferentialAction.noAction.name text ms
    <*> optional ["statement_style"] .pretty StatementStyle.check ms
    <*> optional ["include_header"] true flag ms
    <*> optional ["indent"] "  " text ms

def toJson (s : Compilation) : Json :=
  .obj [("dialect", .str s.dialect), ("on_delete", .str s.onDelete), ("on_update", .str s.onUpdate),
    ("statement_style", .str s.style.name), ("include_header", .bool s.includeHeader),
    ("indent", .str s.indent)]

end Compilation

/-- The settings of a program, each section with its outcome. -/
structure Settings where
  logging : Except Failure Logging
  editing : Except Failure Editing
  compilation : Except Failure Compilation
  layout : Except Failure Layout.Form

namespace Settings

def ofFile (f : File) : Settings :=
  { logging := f.settings "logging" fun v => Logging.check v.toJson
    editing := f.settings "editing" Editing.check
    compilation := f.settings "compilation" fun v => Compilation.check v.toJson
    layout := f.settings "layout" fun v => Layout.Form.check v.toJson }

/-- The layout settings in force. -/
def layoutSettings (s : Settings) : Except Failure (Layout.Settings Float) :=
  s.layout.map Layout.Form.settings

/-- The settings of a section as shown. -/
def toJson (s : Settings) (name : String) : Except Failure Json :=
  match name with
  | "logging" => s.logging.map Logging.toJson
  | "editing" => s.editing.map Editing.toJson
  | "compilation" => s.compilation.map Compilation.toJson
  | "layout" => s.layout.map Layout.Form.toJson
  | _ => .error (.crash .noKey)

end Settings
end SchemaGraph.Config
