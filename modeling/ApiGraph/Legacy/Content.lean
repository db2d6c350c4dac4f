import ApiGraph.Legacy.Parameter

/-!
# Legacy bodies and responses

In 3.0 a body and a response hold their schema once for every content type. The
content types come from the lists an operation or its document declares, and JSON
stands in where there are none.

Form fields become the properties of one object schema, whose content type depends on
whether the operation accepts multipart forms.
-/

namespace ApiGraph.Legacy

/-- The content types of a list, or the one that is understood. -/
def effective (mimes : List String) : List String :=
  if mimes.isEmpty then ["application/json"] else mimes

/-- The strings of a declared list, if there are any. -/
def mimeList? (fields : Fields) (key : String) : Option (List String) :=
  match fields.get? key with
  | some v => if v.strings.isEmpty then none else some v.strings
  | none => none

def contentOf (mimes : List String) (media : String → Json) : Json :=
  .obj (Fields.ofList (mimes.map fun mime => (mime, media mime)))

def kept (fields : Fields) (key : String) : Fields :=
  ((fields.get? key).map fun v => (key, v)).toList

/-- A body parameter as a request body. -/
def requestBody (consumes : List String) (v : Json) : Json :=
  match v with
  | .obj fields =>
    let schema := (Fields.get? "schema" fields).getD (.obj [])
    let content := contentOf (effective consumes) fun _ => .obj [("schema", schema)]
    .obj (kept fields "description" ++ kept fields "required" ++ [("content", content)])
  | v => v

def BodySource.requestBody (consumes : List String) : BodySource → Json
  | .shared name => .obj [("$ref", .str ("#/components/requestBodies/" ++ name))]
  | .inline v => Legacy.requestBody consumes v

/-- Files are strings of bytes. -/
def withoutFileType (schema : Fields) : Fields :=
  match schema.get? "type" with
  | some (.str "file") =>
    Fields.insert "format" (.str "binary") (Fields.insert "type" (.str "string") schema)
  | _ => schema

structure FormField where
  name : String
  schema : Json
  required : Bool

/-- The property of a form field; entries without a name are passed over. -/
def formField? (v : Json) : Option FormField :=
  match v with
  | .obj fields =>
    (v.strAt? "name").map fun name =>
      let typed := withoutFileType (inlineSchema fields)
      { name
        schema := .obj (typed ++ kept fields "description")
        required := v.boolAt? "required" == some true }
  | _ => none

def multipart : String := "multipart/form-data"

def urlEncoded : String := "application/x-www-form-urlencoded"

def formBody (consumes : List String) (form : List Json) : Json :=
  let fields := form.filterMap formField?
  let properties := Fields.ofList (fields.map fun f => (f.name, f.schema))
  let required := (fields.filter (·.required)).map fun f => Json.str f.name
  let schema : Fields :=
    [("type", .str "object"), ("properties", .obj properties)] ++
      if required.isEmpty then [] else [("required", .arr required)]
  let mime := if multipart ∈ consumes then multipart else urlEncoded
  .obj [("content", .obj [(mime, .obj [("schema", .obj schema)])])]

/-- The media object of a response, with the example declared for its content type. -/
def responseMedia (schema : Json) (examples : Option Json) (mime : String) : Json :=
  let sample := match examples.bind (·.get? mime) with
    | some v => [("example", v)]
    | none => []
  .obj (("schema", schema) :: sample)

def convertHeaders (v : Json) : Json :=
  match v with
  | .obj headers => .obj (headers.map fun (name, header) => (name, convertParameter header))
  | v => v

def liftContent (produces : List String) (fields : Fields) : Fields :=
  let bare := fields.erase "examples"
  let filled := match bare.get? "schema" with
    | none => bare
    | some schema =>
      Fields.insert "content"
        (contentOf produces (responseMedia schema (fields.get? "examples"))) (bare.erase "schema")
  filled.modify "headers" convertHeaders

/-- Moves the schema of a response under its content types; references stay. -/
def convertResponse (produces : List String) (v : Json) : Json :=
  match v with
  | .obj fields => if Fields.contains "$ref" fields then v else .obj (liftContent produces fields)
  | v => v

end ApiGraph.Legacy
