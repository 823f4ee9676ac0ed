import SchemaGraph.Decimal.Numeral
import SchemaGraph.Yaml.Source

/-!
# Dates and times

A scalar may be a date, alone or with a time of day, a fraction of its second and the offset of its
time zone. Its form is one thing, and whether there is such a day another one: that is checked in a
fixed order, the offset first.
-/

namespace SchemaGraph.Yaml

structure Clock where
  hour : Nat
  minute : Nat
  second : Nat
  microsecond : Nat
  /-- The offset of the time zone in seconds, if one is given. -/
  offset : Option Int
  deriving Repr, DecidableEq

structure Time where
  year : Nat
  month : Nat
  day : Nat
  clock : Option Clock
  deriving Repr, DecidableEq

namespace Time

/-- A number of at least `least` and at most `most` digits at the front. -/
def digits? (least most : Nat) (cs : List Char) : Option (Nat × List Char) :=
  let ds := (cs.takeWhile Char.isDigit).take most
  if ds.length < least then none
  else (Decimal.natural? 10 ds).map (·, cs.drop ds.length)

def after? (mark : Char) : List Char → Option (List Char)
  | [] => none
  | c :: cs => if c == mark then some cs else none

/-- The offset of a time zone that fills the rest of the text. -/
def offset? (cs : List Char) : Option (Option Int) :=
  match cs.dropWhile isBlank with
  | [] => if cs.isEmpty then some none else none
  | 'Z' :: rest => if rest.isEmpty then some (some 0) else none
  | sign :: rest => do
    if sign != '-' && sign != '+' then none
    else
      let (hours, rest) ← digits? 1 2 rest
      let (minutes, rest) ←
        match rest with
        | ':' :: rest => digits? 2 2 rest
        | rest => some (0, rest)
      let seconds : Int := hours * 3600 + minutes * 60
      if rest.isEmpty then some (some (if sign == '-' then -seconds else seconds)) else none

/-- A fraction of a second, of which the first six digits count. -/
def fraction (cs : List Char) : Nat × List Char :=
  match cs with
  | '.' :: rest =>
    let ds := (rest.takeWhile Char.isDigit).take 6
    let ds := ds ++ List.replicate (6 - ds.length) '0'
    ((Decimal.natural? 10 ds).getD 0, rest.dropWhile Char.isDigit)
  | rest => (0, rest)

def clock? (cs : List Char) : Option Clock := do
  let (hour, rest) ← digits? 1 2 cs
  let (minute, rest) ← digits? 2 2 (← after? ':' rest)
  let (second, rest) ← digits? 2 2 (← after? ':' rest)
  let (microsecond, rest) := fraction rest
  return ⟨hour, minute, second, microsecond, ← offset? rest⟩

/-- What separates a time of day from its date. -/
def clockStart? : List Char → Option (List Char)
  | [] => none
  | c :: cs =>
    if c == 'T' || c == 't' then some cs
    else if isBlank c then some (cs.dropWhile isBlank)
    else none

/-- A text of the form of a date or a time. -/
def ofChars? (cs : List Char) : Option Time := do
  let (year, rest) ← digits? 4 4 cs
  let (month, rest) ← digits? 1 2 (← after? '-' rest)
  let (day, rest) ← digits? 1 2 (← after? '-' rest)
  if rest.isEmpty then some ⟨year, month, day, none⟩
  else
    let clock ← clock? (← clockStart? rest)
    some ⟨year, month, day, some clock⟩

def isLeap (year : Nat) : Bool := year % 4 == 0 && (year % 100 != 0 || year % 400 == 0)

def daysIn (year month : Nat) : Nat :=
  if month == 2 then (if isLeap year then 29 else 28)
  else if [4, 6, 9, 11].contains month then 30
  else 31

/-- A span of time as days and the seconds after them, each named unless it is zero. -/
def spanText (seconds : Int) : String :=
  let days := seconds.fdiv 86400
  let rest := seconds.fmod 86400
  let parts := (if days != 0 then [s!"days={days}"] else []) ++
    (if rest != 0 then [s!"seconds={rest}"] else [])
  "datetime.timedelta(" ++ (if parts.isEmpty then "0" else ", ".intercalate parts) ++ ")"

/-- Why there is no such time. -/
def problem? (t : Time) : Option String :=
  let offset := (t.clock.bind (·.offset)).getD 0
  let isBeyond (get : Clock → Nat) (bound : Nat) : Bool := t.clock.any fun c => bound ≤ get c
  if 86400 ≤ offset.natAbs then
    some <| "offset must be a timedelta strictly between -timedelta(hours=24) and " ++
      s!"timedelta(hours=24), not {spanText offset}."
  else if t.year == 0 then some "year 0 is out of range"
  else if t.month == 0 || 12 < t.month then some "month must be in 1..12"
  else if t.day == 0 || daysIn t.year t.month < t.day then some "day is out of range for month"
  else if isBeyond (·.hour) 24 then some "hour must be in 0..23"
  else if isBeyond (·.minute) 60 then some "minute must be in 0..59"
  else if isBeyond (·.second) 60 then some "second must be in 0..59"
  else none

/-- The parts of a time of day, without the zeros at the end behind the minute. -/
def clockParts (c : Clock) : List Nat :=
  if c.microsecond != 0 then [c.hour, c.minute, c.second, c.microsecond]
  else if c.second != 0 then [c.hour, c.minute, c.second]
  else [c.hour, c.minute]

def zoneText (offset : Int) : String :=
  if offset == 0 then "datetime.timezone.utc" else s!"datetime.timezone({spanText offset})"

/-- A time as messages show it. -/
def shown (t : Time) : String :=
  let date := [t.year, t.month, t.day]
  match t.clock with
  | none => "datetime.date(" ++ ", ".intercalate (date.map toString) ++ ")"
  | some c =>
    let zone := (c.offset.map fun o => s!"tzinfo={zoneText o}").toList
    "datetime.datetime(" ++ ", ".intercalate ((date ++ clockParts c).map toString ++ zone) ++ ")"

end Time
end SchemaGraph.Yaml
