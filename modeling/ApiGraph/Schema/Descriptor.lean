import ApiGraph.Shape

/-!
# Schema descriptors

The descriptor is the part of a schema that holds no further schemas: its type, its
texts and its bounds. Flags that are absent are false, lower bounds zero and lists
empty.

Keywords are read in document order, so of several malformed ones the first is
reported. Keywords this library does not know are passed over.
-/

namespace ApiGraph

inductive Kind where
  | null
  | array
  | object
  | string
  | number
  | boolean
  | integer
  deriving DecidableEq, Repr

namespace Kind

def name : Kind → String
  | null => "null"
  | array => "array"
  | object => "object"
  | string => "string"
  | number => "number"
  | boolean => "boolean"
  | integer => "integer"

def all : List Kind := [null, array, object, string, number, boolean, integer]

def choices : List (String × Kind) := all.map fun k => (k.name, k)

end Kind

/-- An exclusive bound qualifies the inclusive one, or is a limit of its own. -/
inductive ExclusiveBound where
  | flag (on : Bool)
  | limit (x : Binary64)
  deriving DecidableEq, Repr

structure Descriptor where
  kind : Option Kind := none
  format : Option String := none
  description : Option String := none
  title : Option String := none
  defaultValue : Option Json := none
  sample : Option Json := none
  nullable : Bool := false
  deprecated : Bool := false
  readOnly : Bool := false
  writeOnly : Bool := false
  allowed : List Json := []
  multipleOf : Option Binary64 := none
  maximum : Option Binary64 := none
  exclusiveMaximum : Option ExclusiveBound := none
  minimum : Option Binary64 := none
  exclusiveMinimum : Option ExclusiveBound := none
  maxLength : Option Nat := none
  minLength : Nat := 0
  pattern : Option String := none
  maxItems : Option Nat := none
  minItems : Nat := 0
  uniqueItems : Bool := false
  maxProperties : Option Nat := none
  minProperties : Nat := 0
  required : List String := []
  deriving Inhabited, Repr

namespace ExclusiveBound

def read : Json → Except ShapeFault ExclusiveBound
  | .bool b => .ok (.flag b)
  | .num n => .ok (.limit n.toBinary64)
  | _ => .error .notABound

def toJson : ExclusiveBound → Json
  | .flag b => .bool b
  | .limit x => .num (.float x)

end ExclusiveBound

namespace Descriptor

open Shape

/-- Takes in one keyword. -/
def readKeyword (d : Descriptor) (key : String) (v : Json) : Except ShapeFault Descriptor :=
  match key with
  | "type" => do return { d with kind := ← optional (choice Kind.choices) v }
  | "format" => do return { d with format := ← optional string v }
  | "description" => do return { d with description := ← optional string v }
  | "title" => do return { d with title := ← optional string v }
  | "default" => do return { d with defaultValue := ← optional pure v }
  | "example" => do return { d with sample := ← optional pure v }
  | "nullable" => do return { d with nullable := ← boolean v }
  | "deprecated" => do return { d with deprecated := ← boolean v }
  | "readOnly" => do return { d with readOnly := ← boolean v }
  | "writeOnly" => do return { d with writeOnly := ← boolean v }
  | "enum" => do return { d with allowed := ← sequence v }
  | "multipleOf" => do return { d with multipleOf := ← optional real v }
  | "maximum" => do return { d with maximum := ← optional real v }
  | "exclusiveMaximum" => do
    return { d with exclusiveMaximum := ← optional ExclusiveBound.read v }
  | "minimum" => do return { d with minimum := ← optional real v }
  | "exclusiveMinimum" => do
    return { d with exclusiveMinimum := ← optional ExclusiveBound.read v }
  | "maxLength" => do return { d with maxLength := ← optional count v }
  | "minLength" => do return { d with minLength := ← count v }
  | "pattern" => do return { d with pattern := ← optional string v }
  | "maxItems" => do return { d with maxItems := ← optional count v }
  | "minItems" => do return { d with minItems := ← count v }
  | "uniqueItems" => do return { d with uniqueItems := ← boolean v }
  | "maxProperties" => do return { d with maxProperties := ← optional count v }
  | "minProperties" => do return { d with minProperties := ← count v }
  | "required" => do return { d with required := ← strings v }
  | _ => .ok d

/-- The descriptor of a schema object. -/
def read (fields : Fields) : Except ShapeFault Descriptor :=
  fields.foldlM (fun d (key, v) => d.readKeyword key v) {}

def optionalField {α : Type} (key : String) (write : α → Json) : Option α → Fields
  | none => []
  | some a => [(key, write a)]

def ofReal (x : Binary64) : Json := .num (.float x)

def ofCount (n : Nat) : Json := .num (.int n)

/-- The keywords of a descriptor in their fixed order; optional ones only if present. -/
def toFields (d : Descriptor) : Fields :=
  optionalField "type" (fun k => .str k.name) d.kind ++
  optionalField "format" .str d.format ++
  optionalField "description" .str d.description ++
  optionalField "title" .str d.title ++
  optionalField "default" id d.defaultValue ++
  optionalField "example" id d.sample ++
  [("nullable", .bool d.nullable),
   ("deprecated", .bool d.deprecated),
   ("readOnly", .bool d.readOnly),
   ("writeOnly", .bool d.writeOnly),
   ("enum", .arr d.allowed)] ++
  optionalField "multipleOf" ofReal d.multipleOf ++
  optionalField "maximum" ofReal d.maximum ++
  optionalField "exclusiveMaximum" ExclusiveBound.toJson d.exclusiveMaximum ++
  optionalField "minimum" ofReal d.minimum ++
  optionalField "exclusiveMinimum" ExclusiveBound.toJson d.exclusiveMinimum ++
  optionalField "maxLength" ofCount d.maxLength ++
  [("minLength", ofCount d.minLength)] ++
  optionalField "pattern" .str d.pattern ++
  optionalField "maxItems" ofCount d.maxItems ++
  [("minItems", ofCount d.minItems),
   ("uniqueItems", .bool d.uniqueItems)] ++
  optionalField "maxProperties" ofCount d.maxProperties ++
  [("minProperties", ofCount d.minProperties),
   ("required", .arr (d.required.map .str))]

end Descriptor

end ApiGraph
