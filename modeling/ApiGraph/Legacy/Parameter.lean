import ApiGraph.Reference

/-!
# Legacy parameters

A 2.0 parameter carries its type inline, and body and form parameters stand among the
others. Here a parameter list is sorted by where its entries go: plain parameters
keep their place and get a schema of their own, the last body parameter becomes the
request body, and form fields are gathered for one.

References to shared body and form parameters are recognised by their raw text.
-/

namespace ApiGraph.Legacy

/-- The inline keywords that belong to a schema. -/
def schemaKeywords : List String :=
  ["type", "format", "items", "enum", "default", "minimum", "maximum", "exclusiveMinimum",
   "exclusiveMaximum", "minLength", "maxLength", "pattern", "minItems", "maxItems", "uniqueItems",
   "multipleOf"]

/-- The inline schema of a parameter, its keywords in a fixed order. -/
def inlineSchema (fields : Fields) : Fields :=
  schemaKeywords.filterMap fun key => (fields.get? key).map fun v => (key, v)

/-- What a collection format says about repeating a parameter. -/
def explode? (format : Option Json) : Option Bool :=
  match format with
  | some (.str "multi") => some true
  | some (.str "csv") => some false
  | _ => none

def liftSchema (fields : Fields) : Fields :=
  let schema := inlineSchema fields
  let bare := (fields.erases schemaKeywords).erase "collectionFormat"
  let spread := match explode? (fields.get? "collectionFormat") with
    | some b => Fields.insert "explode" (.bool b) bare
    | none => bare
  if schema.isEmpty then spread else Fields.insert "schema" (.obj schema) spread

/-- Moves the inline type of a parameter or header under `schema`; references stay. -/
def convertParameter (v : Json) : Json :=
  match v with
  | .obj fields => if Fields.contains "$ref" fields then v else .obj (liftSchema fields)
  | v => v

/-- The shared parameters that 3.0 keeps elsewhere, and the content types of a document. -/
structure Surroundings where
  produces : List String
  consumes : List String
  bodies : List String
  forms : Fields

inductive BodySource where
  | shared (name : String)
  | inline (parameter : Json)

structure Sorted where
  plain : List Json := []
  body : Option BodySource := none
  form : List Json := []

/-- The name behind a reference to a shared parameter. -/
def sharedName? (v : Json) : Option String :=
  v.reference?.bind fun pointer =>
    (Text.after? "#/parameters/".toList pointer.toList).map String.ofList

/-- Where one entry of a parameter list goes. -/
inductive Destination where
  | plain (parameter : Json)
  | body (source : BodySource)
  | form (field : Json)

def destination (around : Surroundings) (v : Json) : Destination :=
  let inlined := match v.strAt? "in" with
    | some "body" => Destination.body (.inline v)
    | some "formData" => .form v
    | _ => .plain (convertParameter v)
  match sharedName? v with
  | none => inlined
  | some name =>
    if name ∈ around.bodies then .body (.shared name)
    else
      match around.forms.get? name with
      | some field => .form field
      | none => inlined

def Sorted.add (s : Sorted) : Destination → Sorted
  | .plain p => { s with plain := s.plain ++ [p] }
  | .body source => { s with body := some source }
  | .form field => { s with form := s.form ++ [field] }

def sortParameters (around : Surroundings) (entries : List Json) : Sorted :=
  entries.foldl (fun s v => s.add (destination around v)) {}

end ApiGraph.Legacy
