-- SUMMARY: What can be wrong with a document, and where.

/-!
# Issues

An issue names a place in a document and what is wrong there. The place is the
path of field names and positions that leads to it.
-/

namespace ApiJourney.Schema

/-- One step of the path to a place. -/
inductive Place where
  | field (name : String)
  | item (position : Int)
  deriving DecidableEq

/-- What is wrong at a place. -/
inductive Cause where
  | missing
  | notText
  | notUnicode
  | notInteger
  | unparsableInteger
  | fractionalInteger
  | largeInteger
  | notFinite
  | notNumber
  | unparsableNumber
  | notBoolean
  | unclearBoolean
  | notDictionary
  | notList
  | notRecord (name : String)
  | notTagged
  | tagMissing (key : String)
  | tagUnknown (key tag : String) (known : List String)
  | shortText
  | shortList
  | notGreater (bound : Int)
  | notAtLeast (bound : Int)
  | notAtMost (bound : Int)
  | noLiteral (expected : List String)
  | noChoice (expected : List String)
  /-- A rule of the document's own, with its text. -/
  | rule (text : String)
  deriving DecidableEq

structure Issue where
  place : List Place
  cause : Cause
  deriving DecidableEq

/-! ## Texts -/

/-- Words with commas between them and `or` before the last. -/
def alternatives : List String → String
  | [] => ""
  | [a] => a
  | [a, b] => a ++ " or " ++ b
  | a :: rest => a ++ ", " ++ alternatives rest

/-- The word under which a cause is reported. -/
def Cause.kind : Cause → String
  | missing => "missing"
  | notText => "string_type"
  | notUnicode => "string_unicode"
  | notInteger => "int_type"
  | unparsableInteger => "int_parsing"
  | fractionalInteger => "int_from_float"
  | largeInteger => "int_parsing_size"
  | notFinite => "finite_number"
  | notNumber => "float_type"
  | unparsableNumber => "float_parsing"
  | notBoolean => "bool_type"
  | unclearBoolean => "bool_parsing"
  | notDictionary => "dict_type"
  | notList => "list_type"
  | notRecord _ => "model_type"
  | notTagged => "model_attributes_type"
  | tagMissing _ => "union_tag_not_found"
  | tagUnknown _ _ _ => "union_tag_invalid"
  | shortText => "string_too_short"
  | shortList => "too_short"
  | notGreater _ => "greater_than"
  | notAtLeast _ => "greater_than_equal"
  | notAtMost _ => "less_than_equal"
  | noLiteral _ => "literal_error"
  | noChoice _ => "enum"
  | rule _ => "value_error"

def Cause.message : Cause → String
  | missing => "Field required"
  | notText => "Input should be a valid string"
  | notUnicode => "Input should be a valid string, unable to parse raw data as a unicode string"
  | notInteger => "Input should be a valid integer"
  | unparsableInteger => "Input should be a valid integer, unable to parse string as an integer"
  | fractionalInteger => "Input should be a valid integer, got a number with a fractional part"
  | largeInteger => "Unable to parse input string as an integer, exceeded maximum size"
  | notFinite => "Input should be a finite number"
  | notNumber => "Input should be a valid number"
  | unparsableNumber => "Input should be a valid number, unable to parse string as a number"
  | notBoolean => "Input should be a valid boolean"
  | unclearBoolean => "Input should be a valid boolean, unable to interpret input"
  | notDictionary => "Input should be a valid dictionary"
  | notList => "Input should be a valid list"
  | notRecord name => s!"Input should be a valid dictionary or instance of {name}"
  | notTagged => "Input should be a valid dictionary or object to extract fields from"
  | tagMissing key => s!"Unable to extract tag using discriminator '{key}'"
  | tagUnknown key tag known =>
    let words := String.intercalate ", " (known.map fun k => s!"'{k}'")
    s!"Input tag '{tag}' found using '{key}' does not match any of the expected tags: {words}"
  | shortText => "String should have at least 1 character"
  | shortList => "List should have at least 1 item after validation, not 0"
  | notGreater bound => s!"Input should be greater than {bound}"
  | notAtLeast bound => s!"Input should be greater than or equal to {bound}"
  | notAtMost bound => s!"Input should be less than or equal to {bound}"
  | noLiteral expected => s!"Input should be {alternatives expected}"
  | noChoice expected => s!"Input should be {alternatives expected}"
  | rule text => s!"Value error, {text}"

end ApiJourney.Schema
