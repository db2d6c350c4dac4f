import ApiGraph.Issue
import ApiGraph.Text.Quoted

/-!
# What can be wrong with a description

Every fault is a defect of the document, never of the run, so it names the place the
author has to mend. Faults are kept as causes; their wording stands in the `message`
functions alone.
-/

namespace ApiGraph

/-- A keyword whose value does not have the shape its reader needs. -/
inductive ShapeFault where
  | wrongType (found : Json) (expected : String)
  | negativeCount (n : Int)
  | unknownName (name : String) (known : List String)
  | notOneKey
  | notABound
  | missingField (name : String)
  | tooFewItems (count : Nat)
  | tooManyItems (count : Nat)
  deriving Inhabited, Repr

/-- An input that is no description this library accepts. -/
inductive InputFault where
  | notAnObject
  | unsupportedOpenApi (version : Json)
  | unsupportedSwagger (version : String)
  | missingVersion
  | upgradeDisabled
  | issues (found : List Issue)
  | expectedObject (location : String)
  | expectedArray (location : String)
  | malformed (location : String) (shape : ShapeFault)
  | duplicateParameter (location name carrier : String)
  | invalidResponseKey (location key : String)
  deriving Inhabited, Repr

/-- A text that cannot be read as a document. -/
inductive TextFault where
  | notYaml
  | keyNotScalar (location : String)
  | notFinite (location number : String)
  deriving Inhabited, DecidableEq, Repr

inductive Fault where
  | invalidInput (cause : InputFault)
  | unreadable (cause : TextFault)
  | cyclicReference (pointer : String)
  | danglingReference (pointer : String)
  | undefinedSchema (location : String)
  deriving Inhabited, Repr

/-- How messages name a value of the wrong type. -/
def Json.shown : Json → String
  | .null => "null"
  | .bool b => "boolean `" ++ (if b then "true" else "false") ++ "`"
  | .num (.int n) => "integer `" ++ toString n ++ "`"
  | .num (.float x) => "floating point `" ++ x.text "+" ++ "`"
  | .str s => "string " ++ Text.quoted s
  | .arr _ => "sequence"
  | .obj _ => "map"

def backquoted (s : String) : String := "`" ++ s ++ "`"

def ShapeFault.message : ShapeFault → String
  | .wrongType found expected => "invalid type: " ++ found.shown ++ ", expected " ++ expected
  | .negativeCount n => "invalid value: integer `" ++ toString n ++ "`, expected u64"
  | .unknownName name known =>
    "unknown variant " ++ backquoted name ++ ", expected one of " ++
      ", ".intercalate (known.map backquoted)
  | .notOneKey => "invalid value: map, expected map with a single key"
  | .notABound => "data did not match any variant of untagged enum ExclusiveBound"
  | .missingField name => "missing field " ++ backquoted name
  | .tooFewItems count =>
    "invalid length " ++ toString count ++ ", expected struct RawParameter with 5 elements"
  | .tooManyItems count =>
    "invalid length " ++ toString count ++ ", expected fewer elements in array"

def InputFault.message : InputFault → String
  | .notAnObject => "document must be an object"
  | .unsupportedOpenApi version =>
    "Unsupported OpenAPI version: " ++ version.compact ++ ". Only 3.x is supported."
  | .unsupportedSwagger version =>
    "Unsupported Swagger version: " ++ version ++ ". Only 2.0 can be upgraded."
  | .missingVersion => "missing 'openapi' or 'swagger' version field"
  | .upgradeDisabled => "Swagger 2.0 input rejected: legacy upgrade is disabled"
  | .issues found =>
    "document failed validation with " ++ toString found.length ++ " issue(s): " ++
      "; ".intercalate (found.map Issue.text)
  | .expectedObject location => location ++ ": expected object"
  | .expectedArray location => location ++ ": expected array"
  | .malformed location shape => location ++ ": " ++ shape.message
  | .duplicateParameter location name carrier =>
    location ++ ": duplicate parameter '" ++ name ++ "' in '" ++ carrier ++ "'"
  | .invalidResponseKey location key =>
    location ++ ": invalid response key '" ++ key ++ "'"

def TextFault.message : TextFault → String
  | .notYaml => "not a YAML document"
  | .keyNotScalar location => location ++ ": mapping keys must be scalars"
  | .notFinite location number => location ++ ": non-finite number '" ++ number ++ "'"

def Fault.message : Fault → String
  | .invalidInput cause => "Invalid input: " ++ cause.message
  | .unreadable cause => "Parse error: " ++ cause.message
  | .cyclicReference pointer => "Cyclic reference detected at '" ++ pointer ++ "'"
  | .danglingReference pointer => "Dangling reference '" ++ pointer ++ "'"
  | .undefinedSchema location => "Schema at '" ++ location ++ "' is not defined"

end ApiGraph
