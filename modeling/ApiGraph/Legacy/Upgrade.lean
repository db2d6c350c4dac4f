import ApiGraph.Graph.Method
import ApiGraph.Legacy.Content
import ApiGraph.Legacy.Keywords
import ApiGraph.Legacy.Server

/-!
# Upgrading 2.0 documents

The upgrade moves what 3.0 keeps elsewhere and leaves every other key as it is. Its
stages are the servers, the shared components, the paths and, over the whole result,
the legacy keywords.

Whatever is taken out of an object leaves a hole that the last field fills, so the
order of taking is part of the result.
-/

namespace ApiGraph.Legacy

/-- The top-level keys that the upgrade consumes, in the order in which it takes them. -/
def consumedKeys : List String :=
  ["swagger", "produces", "consumes", "host", "basePath", "schemes", "definitions", "parameters",
   "responses", "securityDefinitions"]

def ifAny (key : String) (entries : Fields) : Fields :=
  if entries.isEmpty then [] else [(key, .obj entries)]

def sharedEntries (doc : Fields) (key : String) : Fields :=
  ((doc.get? key).bind Json.fields?).getD []

def carrierOf (v : Json) : Option String := v.strAt? "in"

def surroundings (doc : Fields) : Surroundings :=
  let parameters := sharedEntries doc "parameters"
  { produces := (mimeList? doc "produces").getD []
    consumes := (mimeList? doc "consumes").getD []
    bodies := (parameters.filter fun (_, v) => carrierOf v == some "body").map Prod.fst
    forms := parameters.filter fun (_, v) => carrierOf v == some "formData" }

/-- The shared parts of the document, under the sections of 3.0. -/
def components (around : Surroundings) (doc : Fields) : Fields :=
  let parameters := sharedEntries doc "parameters"
  let bodies := parameters.filter fun (_, v) => carrierOf v == some "body"
  let plain := parameters.filter fun (_, v) =>
    !(carrierOf v == some "body") && !(carrierOf v == some "formData")
  let responses := match doc.get? "responses" with
    | some (.obj entries) =>
      [("responses", .obj (entries.map fun (name, v) =>
        (name, convertResponse (effective around.produces) v)))]
    | _ => []
  (((doc.get? "definitions").map fun v => ("schemas", v)).toList) ++
  ifAny "parameters" (plain.map fun (name, v) => (name, convertParameter v)) ++
  ifAny "requestBodies" (bodies.map fun (name, v) => (name, requestBody around.consumes v)) ++
  responses ++
  (((doc.get? "securityDefinitions").map fun v => ("securitySchemes", v)).toList)

def entriesAt (fields : Fields) (key : String) : List Json :=
  ((fields.get? key).bind Json.items?).getD []

/-- Puts sorted parameters back, if any are left. -/
def withPlain (plain : List Json) (fields : Fields) : Fields :=
  let bare := fields.erase "parameters"
  if plain.isEmpty then bare else Fields.insert "parameters" (.arr plain) bare

/-- Own form fields, then the shared ones whose name none before them has. -/
def mergeForms (own shared : List Json) : List Json :=
  shared.foldl (fun form field =>
    if form.any (sameName · field) then form else form ++ [field]) own
where
  sameName (a b : Json) : Bool :=
    match a.get? "name", b.get? "name" with
    | none, none => true
    | some v, some w => v.same w
    | _, _ => false

/-- The request body of an operation: its own body, else its form, else the body of its path. -/
def operationBody? (consumes : List String) (own shared : Sorted) : Option Json :=
  let form := mergeForms own.form shared.form
  match own.body with
  | some source => some (source.requestBody consumes)
  | none =>
    if form.isEmpty then shared.body.map (·.requestBody consumes)
    else some (formBody consumes form)

def convertResponses (produces : List String) (v : Json) : Json :=
  match v with
  | .obj entries =>
    .obj (entries.map fun (key, r) => (key, convertResponse (effective produces) r))
  | v => v

def upgradeOperation (around : Surroundings) (shared : Sorted) (op : Fields) : Fields :=
  let produces := (mimeList? op "produces").getD around.produces
  let consumes := (mimeList? op "consumes").getD around.consumes
  let own := sortParameters around (entriesAt op "parameters")
  let bare := (op.erase "produces").erase "consumes"
  let sorted := withPlain own.plain bare
  let bodied := match operationBody? consumes own shared with
    | some body => Fields.insert "requestBody" body sorted
    | none => sorted
  bodied.modify "responses" (convertResponses produces)

def upgradeMethod (around : Surroundings) (shared : Sorted) (v : Json) : Json :=
  match v with
  | .obj op => .obj (upgradeOperation around shared op)
  | v => v

def upgradePath (around : Surroundings) (v : Json) : Json :=
  match v with
  | .obj item =>
    let sorted := sortParameters around (entriesAt item "parameters")
    .obj (Method.all.foldl
      (fun (fields : Fields) method => fields.modify method.name (upgradeMethod around sorted))
      (withPlain sorted.plain item))
  | v => v

def upgradePaths (around : Surroundings) (v : Json) : Json :=
  match v with
  | .obj paths => .obj (paths.map fun (path, item) => (path, upgradePath around item))
  | v => v

def withValue (key : String) (value : Option Json) (fields : Fields) : Fields :=
  match value with
  | some v => Fields.insert key v fields
  | none => fields

/-- A 2.0 document in the shape of 3.0, declaring the given version. -/
def upgrade (version : String) (doc : Fields) : Json :=
  let around := surroundings doc
  let rest := (doc.erases consumedKeys).modify "paths" (upgradePaths around)
  let headed := Fields.ofList (("openapi", .str version) :: rest)
  let servers := servers doc
  let components := components around doc
  modernize (.obj
    (withValue "components" (if components.isEmpty then none else some (.obj components))
      (withValue "servers" (if servers.isEmpty then none else some (.arr servers)) headed)))

end ApiGraph.Legacy
