import SchemaGraph.Decimal.Notation

/-!
# Faults in a document

A document that is to become a table, a command or a group of settings is checked field by field,
and every fault found is kept with the path that leads to it. A fault is a cause; its wording and
its short code belong to the answers that report it.
-/

namespace SchemaGraph.Decode

inductive Fault where
  | missing
  | unexpected
  | notText
  | brokenText
  | tooShort
  | patternMismatch (pattern : String)
  | notFlag
  | unreadableFlag
  | notNumber
  | unreadableNumber
  | notPositive
  | negative
  | notInteger
  | unreadableInteger
  | fractional
  | tooLong
  | notFinite
  | notList
  | notMapping
  | notRecord (name : String)
  | noFields
  | notMember (names : List String)
  | notLiteral (names : List String)
  | untagged (field : String)
  | unknownTag (field tag : String) (known : List String)
  | unreadable
  /-- A value that is to be kept as text, with too many digits for one. -/
  | tooManyDigits
  deriving Repr, DecidableEq

/-- Quoted names, the last one after an "or". -/
def alternatives : List String → String
  | [] => ""
  | [a] => s!"'{a}'"
  | [a, b] => s!"'{a}' or '{b}'"
  | a :: rest => s!"'{a}', {alternatives rest}"

namespace Fault

def message : Fault → String
  | missing => "Field required"
  | unexpected => "Extra inputs are not permitted"
  | notText => "Input should be a valid string"
  | brokenText =>
    "Input should be a valid string, unable to parse raw data as a unicode string"
  | tooShort => "String should have at least 1 character"
  | patternMismatch p => s!"String should match pattern '{p}'"
  | notFlag => "Input should be a valid boolean"
  | unreadableFlag => "Input should be a valid boolean, unable to interpret input"
  | notNumber => "Input should be a valid number"
  | unreadableNumber => "Input should be a valid number, unable to parse string as a number"
  | notPositive => "Input should be greater than 0"
  | negative => "Input should be greater than or equal to 0"
  | notInteger => "Input should be a valid integer"
  | unreadableInteger => "Input should be a valid integer, unable to parse string as an integer"
  | fractional => "Input should be a valid integer, got a number with a fractional part"
  | tooLong => "Unable to parse input string as an integer, exceeded maximum size"
  | notFinite => "Input should be a finite number"
  | notList => "Input should be a valid list"
  | notMapping => "Input should be a valid dictionary"
  | notRecord name => s!"Input should be a valid dictionary or instance of {name}"
  | noFields => "Input should be a valid dictionary or object to extract fields from"
  | notMember names => s!"Input should be {alternatives names}"
  | notLiteral names => s!"Input should be {alternatives names}"
  | untagged field => s!"Unable to extract tag using discriminator '{field}'"
  | unknownTag field tag known =>
    s!"Input tag '{tag}' found using '{field}' does not match any of the expected tags: " ++
      ", ".intercalate (known.map fun k => s!"'{k}'")
  | unreadable => "JSON decode error"
  | tooManyDigits => "Value error, " ++ Decimal.tooManyDigitsToShow

/-- The short code of a fault, by which programs tell faults apart. -/
def code : Fault → String
  | missing => "missing"
  | unexpected => "extra_forbidden"
  | notText => "string_type"
  | brokenText => "string_unicode"
  | tooShort => "string_too_short"
  | patternMismatch _ => "string_pattern_mismatch"
  | notFlag => "bool_type"
  | unreadableFlag => "bool_parsing"
  | notNumber => "float_type"
  | unreadableNumber => "float_parsing"
  | notPositive => "greater_than"
  | negative => "greater_than_equal"
  | notInteger => "int_type"
  | unreadableInteger => "int_parsing"
  | fractional => "int_from_float"
  | tooLong => "int_parsing_size"
  | notFinite => "finite_number"
  | notList => "list_type"
  | notMapping => "dict_type"
  | notRecord _ => "model_type"
  | noFields => "model_attributes_type"
  | notMember _ => "enum"
  | notLiteral _ => "literal_error"
  | untagged _ => "union_tag_not_found"
  | unknownTag .. => "union_tag_invalid"
  | unreadable => "json_invalid"
  | tooManyDigits => "value_error"

end Fault

/-- A step into a document: to a member or to an item. -/
inductive Step where
  | name (s : String)
  | index (n : Nat)
  deriving Repr, DecidableEq

structure Finding where
  path : List Step
  fault : Fault
  deriving Repr, DecidableEq

def Finding.below (s : Step) (f : Finding) : Finding := { f with path := s :: f.path }

/-- What a check found, in order; there is a first finding, which is the one most answers show. -/
structure Findings where
  first : Finding
  rest : List Finding
  deriving Repr, DecidableEq

namespace Findings

def toList (f : Findings) : List Finding := f.first :: f.rest

def ofFault (fault : Fault) : Findings := ⟨⟨[], fault⟩, []⟩

def append (f g : Findings) : Findings := ⟨f.first, f.rest ++ g.toList⟩

def below (s : Step) (f : Findings) : Findings := ⟨f.first.below s, f.rest.map (Finding.below s)⟩

/-- The message of the first finding. -/
def message (f : Findings) : String := f.first.fault.message

end Findings
end SchemaGraph.Decode
