import SchemaGraph.Failure
import SchemaGraph.Yaml.Meaning

/-!
# The settings file

The settings come from one file, either the one shipped or one that replaces it as a whole. Each
member of its top level is a section. The sections that are read have to be mappings, and a section
left empty counts as one without members.
-/

namespace SchemaGraph.Config

inductive Content where
  | absent
  | document (v : Json)
  | text (s : String)

structure File where
  path : String
  content : Content

def knownSections : List String := ["logging", "editing", "compilation", "layout"]

/-- The settings that are in force unless a file replaces them. -/
def shipped : Json := .obj [
  ("logging", .obj [("level", .str "INFO"), ("format_type", .str "detailed"),
    ("log_to_file", .bool false), ("log_file", .str "logs/schemaforge.log"),
    ("clear_existing", .bool false)]),
  ("editing", .obj [("default_table_name", .str "new_table"),
    ("default_column_name", .str "new_column"), ("default_column_type", .str "VARCHAR"),
    ("spawn_position", .obj [("x", .int 100), ("y", .int 100)])]),
  ("compilation", .obj [("dialect", .str "PostgreSQL"), ("on_delete", .str "NO ACTION"),
    ("on_update", .str "NO ACTION"), ("statement_style", .str "pretty"),
    ("include_header", .bool true), ("indent", .str "  ")]),
  ("layout", .obj [("node_width", .int 260), ("header_height", .int 45), ("row_height", .int 36),
    ("padding", .int 20), ("rank_sep", .int 120), ("node_sep", .int 80), ("margin", .int 0),
    ("edge_detour", .int 40)])]

namespace File

def fail (f : File) (part : Option String) (fault : ConfigFault) : Except Failure α :=
  .error (.config ⟨f.path, part, fault⟩)

/-- A text of the wrong form is a fault of the file; every other fault stands for itself. -/
def unread (f : File) : Yaml.Fault → Except Failure α
  | .malformed => f.fail none .notYaml
  | .unreadable message => .error (.value (.unreadable message))
  | .noPart => .error (.crash .noPart)
  | .noKey => .error (.crash .noKey)
  | .noIndex => .error (.crash .noIndex)
  | .overflow => .error (.crash .overflow)
  | .tooDeep => .error (.crash .tooDeep)

/-- The value in the file. -/
def value (f : File) : Except Failure Yaml.Value :=
  match f.content with
  | .absent => .error (.missingConfig f.path)
  | .document v => .ok (.ofJson v)
  | .text s =>
    match Yaml.read s with
    | .ok v => .ok v
    | .error fault => f.unread fault

/-- Refuse the first known section that is not a mapping. -/
def checkSections (f : File) (all : Yaml.Value) : List String → Except Failure Yaml.Value
  | [] => .ok all
  | name :: rest =>
    match all.named? name with
    | none => f.checkSections all rest
    | some .null => f.checkSections all rest
    | some (.map _) => f.checkSections all rest
    | some v => f.fail (some name) (.sectionNotMapping v.kindName)

/-- All sections. An empty file has none. -/
def sections (f : File) : Except Failure Yaml.Value := do
  match ← f.value with
  | .null => .ok (.map [])
  | .map entries => f.checkSections (.map entries) knownSections
  | v => f.fail none (.notMapping v.kindName)

/-- One section, without members if it is missing or empty. -/
def part (f : File) (name : String) : Except Failure Yaml.Value := do
  match (← f.sections).named? name with
  | some v => return if v.isGiven then v else .map []
  | none => return .map []

/-- The settings of a section. -/
def settings (f : File) (name : String) (check : Yaml.Value → Decode.Checked α) :
    Except Failure α := do
  match check (← f.part name) with
  | .valid a => .ok a
  | .invalid found => f.fail (some name) (.badSetting found.first)
  | .tooDeep => .error (.crash .tooDeep)

end File
end SchemaGraph.Config
