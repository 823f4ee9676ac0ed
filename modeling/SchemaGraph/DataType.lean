import SchemaGraph.Json.Shown
import SchemaGraph.Text.Normal

/-!
# Column types

A column type is stored as the text it was given as. A catalogue of keywords tells known types
from others without rewriting the text: a known type is a keyword in any case, with blanks around
it and at most one parameter list after it, which may hold anything but a line feed.
-/

namespace SchemaGraph

inductive DataType where
  | int | integer | bigint | smallint | tinyint | serial | bigserial
  | decimal | numeric | float | double | real | money
  | varchar | char | text | mediumtext | longtext
  | date | datetime | timestamp | time | year | interval
  | boolean | blob | binary | varbinary | bytea
  | json | jsonb | uuid | xml | enum | inet | cidr | macaddr | bit | geometry
  | unknown
  deriving Repr, DecidableEq, Inhabited

namespace DataType

def name : DataType → String
  | int => "INT" | integer => "INTEGER" | bigint => "BIGINT" | smallint => "SMALLINT"
  | tinyint => "TINYINT" | serial => "SERIAL" | bigserial => "BIGSERIAL"
  | decimal => "DECIMAL" | numeric => "NUMERIC" | float => "FLOAT" | double => "DOUBLE"
  | real => "REAL" | money => "MONEY"
  | varchar => "VARCHAR" | char => "CHAR" | text => "TEXT" | mediumtext => "MEDIUMTEXT"
  | longtext => "LONGTEXT"
  | date => "DATE" | datetime => "DATETIME" | timestamp => "TIMESTAMP" | time => "TIME"
  | year => "YEAR" | interval => "INTERVAL"
  | boolean => "BOOLEAN" | blob => "BLOB" | binary => "BINARY" | varbinary => "VARBINARY"
  | bytea => "BYTEA"
  | json => "JSON" | jsonb => "JSONB" | uuid => "UUID" | xml => "XML" | enum => "ENUM"
  | inet => "INET" | cidr => "CIDR" | macaddr => "MACADDR" | bit => "BIT"
  | geometry => "GEOMETRY"
  | unknown => "UNKNOWN"

def all : List DataType :=
  [int, integer, bigint, smallint, tinyint, serial, bigserial, decimal, numeric, float, double,
    real, money, varchar, char, text, mediumtext, longtext, date, datetime, timestamp, time, year,
    interval, boolean, blob, binary, varbinary, bytea, json, jsonb, uuid, xml, enum, inet, cidr,
    macaddr, bit, geometry, unknown]

/-- The type of a column for which none is given. -/
def fallback : String := varchar.name

def ofKeyword? (s : String) : Option DataType := all.find? fun t => t.name == s

/-- A parameter list: parentheses around anything but a line feed. -/
def isParameters (cs : List Char) : Bool :=
  match cs with
  | '(' :: rest =>
    match rest.reverse with
    | ')' :: inner => !inner.contains '\n'
    | _ => false
  | _ => false

/-- The keyword that a type starts with, if nothing but a parameter list follows it. -/
def keyword? (cs : List Char) : Option (List Char) :=
  let body := cs.dropWhile Text.isBlank
  let word := body.takeWhile Char.isAlpha
  let rest := Text.trimBy Text.isBlank (body.dropWhile Char.isAlpha)
  if !word.isEmpty && (rest.isEmpty || isParameters rest) then some word else none

/-- The catalogue entry of a stored type. -/
def classify (stored : String) : DataType :=
  match keyword? stored.toList with
  | some word => (ofKeyword? (String.ofList (word.map Char.toUpper))).getD unknown
  | none => unknown

def isKnown (stored : String) : Bool := classify stored != unknown

/-- The text to store for a type that can be printed: null and blank text give the default, and all
else is kept. -/
def store (v : Json) (default : String) : String :=
  match v with
  | .null => default
  | v => if Text.allBlank v.text then default else v.text

/-- Storing a text that is not blank keeps it. -/
theorem store_str {s : String} (h : Text.allBlank s = false) (default : String) :
    store (.str s) default = s := by
  simp [store, h]

end DataType
end SchemaGraph
