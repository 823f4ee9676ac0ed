import SchemaGraph.Config.Settings

/-!
# Logs

Records go to the console and, on demand, to a file that keeps what was in it before. A record is
written if it has a level and this is at least that of the log. Level names are read in any case.
Two names stand for a format and for a table of formats, and are refused; any other name that is
none of a level stands for the level of ordinary information.
-/

namespace SchemaGraph.Logging

inductive Level where
  | notset | debug | info | warning | error | critical
  deriving Repr, DecidableEq, Inhabited

namespace Level

def rank : Level → Nat
  | notset => 0 | debug => 10 | info => 20 | warning => 30 | error => 40 | critical => 50

def name : Level → String
  | notset => "NOTSET" | debug => "DEBUG" | info => "INFO" | warning => "WARNING"
  | error => "ERROR" | critical => "CRITICAL"

def names : List (String × Level) :=
  [("NOTSET", notset), ("DEBUG", debug), ("INFO", info), ("WARNING", warning), ("WARN", warning),
    ("ERROR", error), ("CRITICAL", critical), ("FATAL", critical)]

/-- The capital of a letter, as far as level names have it; two letters beyond ASCII have one. -/
def capital (c : Char) : Char :=
  if c == 'ı' then 'I' else if c == 'ſ' then 'S' else c.toUpper

def ofText (s : String) : Except Failure Level :=
  match String.ofList (s.toList.map capital) with
  | "BASIC_FORMAT" => .error (.value (.unknownLevel "%(levelname)s:%(name)s:%(message)s"))
  | "_STYLES" => .error (.crash .wrongKind)
  | name => .ok ((names.lookup name).getD info)

end Level

structure Record where
  logger : String
  level : Level
  message : String
  time : String
  function : String
  line : Nat

structure Setup where
  level : Level := .info
  isDetailed : Bool := true
  toFile : Bool := false
  clearsFile : Bool := false

namespace Setup

/-- The setup that settings ask for, with another level if one is given. -/
def ofSettings (level : Option String) (s : Config.Logging) : Except Failure Setup := do
  return { level := ← Level.ofText ((level.filter (· != "")).getD s.level)
           isDetailed := s.format == "detailed"
           toFile := s.toFile
           clearsFile := s.clearExisting }

def shows (s : Setup) (r : Record) : Bool :=
  r.level != .notset && s.level.rank ≤ r.level.rank

def padded (s : String) : String := s ++ String.ofList (List.replicate (8 - s.length) ' ')

def line (s : Setup) (r : Record) : String :=
  if s.isDetailed then
    s!"{r.time} | {padded r.level.name} | {r.logger} | {r.function}:{r.line} | {r.message}\n"
  else s!"{r.level.name} | {r.logger} | {r.message}\n"

/-- What is written to each of the places of a log. -/
def written (s : Setup) (records : List Record) : String :=
  String.join ((records.filter s.shows).map s.line)

/-- The file after logging, given the file before. A file is made even if nothing is written. -/
def fileAfter (s : Setup) (before : Option String) (records : List Record) : Option String :=
  if s.toFile then
    some ((if s.clearsFile then "" else before.getD "") ++ s.written records)
  else before

end Setup
end SchemaGraph.Logging
