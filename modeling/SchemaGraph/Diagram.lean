import SchemaGraph.Failure
import SchemaGraph.Relationship
import SchemaGraph.Schema.Basic
import SchemaGraph.Validation

/-!
# Diagrams of schemas

A diagram is a text that drawing programs read. What comes from the schema is escaped or quoted in
it, in one way inside the label of a table and in another around the label of an edge.

## Quoting in diagrams

The label of an edge is any text. It is written as it is if it is markup between angle brackets, or
a name or number that is no keyword. Any other text is put between double quotes, where a double
quote has to follow an odd number of backslashes.
-/

namespace SchemaGraph.Diagram

/-- Cut off one line feed at the end. -/
def withoutFinalBreak (cs : List Char) : List Char :=
  match cs.reverse with
  | '\n' :: rest => rest.reverse
  | _ => cs

def isBracketed (cs : List Char) : Bool :=
  match cs with
  | '<' :: rest => rest.getLast? == some '>'
  | _ => false

def isMarkup (cs : List Char) : Bool := isBracketed cs || isBracketed (withoutFinalBreak cs)

def isName (cs : List Char) : Bool :=
  match cs with
  | c :: rest => (c.isAlpha || c == '_') && rest.all fun c => c.isAlphanum || c == '_'
  | [] => false

/-- An optional minus, and digits with at most one point in or before them. -/
def isNumber (cs : List Char) : Bool :=
  let body := if cs.head? == some '-' then cs.drop 1 else cs
  let places (cs : List Char) : Bool := cs.all Char.isDigit
  match body.takeWhile Char.isDigit, body.dropWhile Char.isDigit with
  | [], '.' :: rest => !rest.isEmpty && places rest
  | [], _ => false
  | _, [] => true
  | _, '.' :: rest => places rest
  | _, _ => false

def isId (cs : List Char) : Bool := isName cs || isNumber cs

def keywords : List String := ["node", "edge", "graph", "digraph", "subgraph", "strict"]

def isKeyword (cs : List Char) : Bool := keywords.contains (String.ofList (cs.map Char.toLower))

/-- Put a backslash before every double quote that follows an even number of them. -/
def escapeQuotes (odd : Bool) : List Char → List Char
  | [] => []
  | '\\' :: rest => '\\' :: escapeQuotes (!odd) rest
  | '"' :: rest => (if odd then ['"'] else ['\\', '"']) ++ escapeQuotes false rest
  | c :: rest => c :: escapeQuotes false rest

def quote (s : String) : String :=
  let cs := s.toList
  if isMarkup cs then s
  else if (isId cs || isId (withoutFinalBreak cs)) && !isKeyword cs then s
  else "\"" ++ String.ofList (escapeQuotes false cs) ++ "\""

end SchemaGraph.Diagram

/-!
## The label of a table

In a diagram a table is drawn from a label in a markup language: a header in the color of the table,
and a row for each column with its key markers, its name and its type. Text from the schema is
escaped, so that it stays text. Ids turn into the names of nodes and ports.
-/

namespace SchemaGraph.Diagram

variable {α : Type}

def escapeChar (c : Char) : List Char :=
  match c with
  | '&' => "&amp;".toList
  | '<' => "&lt;".toList
  | '>' => "&gt;".toList
  | '"' => "&quot;".toList
  | '\'' => "&#x27;".toList
  | c => [c]

def escape (s : String) : String := String.ofList (s.toList.flatMap escapeChar)

/-- Characters that names in a diagram may have. -/
def isNameChar (c : Char) : Bool := c.isAlphanum || c == '_'

def nameOf (id : String) : String :=
  String.ofList (id.toList.map fun c => if isNameChar c then c else '_')

def nodeName (table : String) : String := "T_" ++ nameOf table

def portName (column : String) : String := "P_" ++ nameOf column

def headerColors : List (String × String) :=
  [("blue", "#DBEAFE"), ("white", "#F8FAFC"), ("yellow", "#FEF9C3"), ("red", "#FEE2E2"),
    ("green", "#DCFCE7"), ("purple", "#F3E8FF"), ("pink", "#FCE7F3")]

def defaultHeaderColor : String := "#E2E8F0"

def headerColor (color : Option String) : String :=
  (headerColors.lookup (Text.lower (color.getD ""))).getD defaultHeaderColor

def keyMarker (c : Column) : String :=
  " ".intercalate <|
    (if c.isPrimaryKey then ["PK"] else []) ++ if c.actsAsForeignKey then ["FK"] else []

def headerRow (t : Table α) : String :=
  let name := escape (if t.name == "" then "Unnamed" else t.name)
  s!"<TR><TD COLSPAN=\"3\" BGCOLOR=\"{headerColor t.color}\"><B>{name}</B></TD></TR>"

/-- The row of a column. The name of a primary key is underlined. -/
def columnRow (c : Column) : String :=
  let name := if c.isPrimaryKey then s!"<U>{escape c.name}</U>" else escape c.name
  s!"<TR><TD ALIGN=\"LEFT\">{keyMarker c}</TD>" ++
    s!"<TD ALIGN=\"LEFT\" PORT=\"{portName c.id}\">{name}</TD>" ++
    s!"<TD ALIGN=\"LEFT\"><FONT COLOR=\"#64748B\">{escape c.dataType}</FONT></TD></TR>"

def tableMarkup (t : Table α) : String :=
  "<TABLE BORDER=\"0\" CELLBORDER=\"1\" CELLSPACING=\"0\" CELLPADDING=\"4\">" ++
    headerRow t ++ String.join (t.columns.map columnRow) ++ "</TABLE>"

end SchemaGraph.Diagram

/-!
## Diagrams

A diagram shows the selected tables, and an edge from the cell of the child column to that of the
parent column for each relationship between them that resolves. It is written as a directed graph
in the text form that drawing programs read.
-/

namespace SchemaGraph

variable {α : Type}

structure Diagram.Node where
  name : String
  markup : String
  deriving Repr, DecidableEq

structure Diagram.Edge where
  tail : String
  head : String
  label : Option String := none
  deriving Repr, DecidableEq

structure Diagram where
  nodes : List Diagram.Node
  edges : List Diagram.Edge
  deriving Repr, DecidableEq

namespace Diagram

def nodeOf (t : Table α) : Node := ⟨nodeName t.id, tableMarkup t⟩

/-- The cell of a column. -/
def cell (table column : String) : String := nodeName table ++ ":" ++ portName column

/-- The label of the last relationship with an id, if it is not empty. -/
def labelOf (rs : List Relationship) (id : String) : Option String :=
  ((rs.reverse.find? (·.id == id)).bind (·.label)).filter (· != "")

def edgeOf (rs : List Relationship) (r : Resolved) : Edge :=
  { tail := cell r.childTableId r.childColumnId
    head := cell r.parentTableId r.parentColumnId
    label := labelOf rs r.relationshipId }

def ofState (selection : Option (List String)) (s : State α) : Diagram :=
  let tables := Table.select selection s.tables
  let ids := tables.map (·.id)
  let shown := s.relationships.filter fun r => ids.contains r.source && ids.contains r.target
  { nodes := tables.map nodeOf
    edges := (Relationship.resolveAll tables shown).map (edgeOf shown) }

def Node.line (n : Node) : String := s!"\t{n.name} [label=<{n.markup}>]\n"

def Edge.line (e : Edge) : String :=
  let attributes := match e.label with
    | some label => s!" [label={quote label}]"
    | none => ""
  s!"\t{e.tail} -> {e.head}{attributes}\n"

def head : String :=
  "digraph Schema \x7b\n" ++
    "\tgraph [nodesep=0.6 pad=0.25 rankdir=LR ranksep=0.9 splines=ortho]\n" ++
    "\tnode [fontname=Helvetica fontsize=11 shape=plaintext]\n" ++
    "\tedge [arrowhead=crow arrowtail=none fontname=Helvetica fontsize=10]\n"

def text (d : Diagram) : String :=
  head ++ String.join (d.nodes.map Node.line) ++ String.join (d.edges.map Edge.line) ++ "\x7d\n"

/-- The picture formats that a drawing program offers. -/
def formats : List String := ["svg", "png", "pdf", "jpg"]

/-- Refuse a picture format that is not offered. -/
def checkFormat (format : String) : Except Failure Unit :=
  if formats.contains format then .ok () else .error (.value (.unsupportedFormat format formats))

end Diagram
end SchemaGraph
