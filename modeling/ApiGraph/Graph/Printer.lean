import ApiGraph.Graph.Basic

/-!
# Entities as JSON

Every entity of a graph has a JSON form with its keys in a fixed order. Positions in
the tables are left out, and what is absent is written as `null`.
-/

namespace ApiGraph

namespace Json

def ofOption {α : Type} (write : α → Json) : Option α → Json
  | none => .null
  | some a => write a

def ofStrings (ss : List String) : Json := .arr (ss.map .str)

end Json

open Json

def Route.toJson (r : Route) : Json :=
  .obj [
    ("path", .str r.path),
    ("segments", .arr (r.segments.map fun s => .obj [("text", .str s.text)])),
    ("static_path", .str r.staticPath)]

def Operation.toJson (op : Operation) : Json :=
  .obj [
    ("method", .str op.method.name),
    ("operation_id", ofOption .str op.operationId),
    ("summary", ofOption .str op.summary),
    ("description", ofOption .str op.description),
    ("tags", ofStrings op.tags),
    ("deprecated", .bool op.deprecated)]

def ParameterDeclaration.toJson (p : ParameterDeclaration) : Json :=
  .obj [
    ("name", .str p.name),
    ("in", .str p.carrier.name),
    ("required", .bool p.required),
    ("deprecated", .bool p.deprecated),
    ("description", ofOption .str p.description),
    ("schema", ofOption TypeSchema.toJson p.schema)]

def BodyDeclaration.toJson (b : BodyDeclaration) : Json :=
  .obj [
    ("mime_type", .str b.mimeType),
    ("required", .bool b.required),
    ("description", ofOption .str b.description),
    ("schema", ofOption TypeSchema.toJson b.schema)]

def ResponseDeclaration.toJson (r : ResponseDeclaration) : Json :=
  .obj [
    ("status", r.status.toJson),
    ("mime_type", .str r.mimeType),
    ("description", ofOption .str r.description),
    ("schema", ofOption TypeSchema.toJson r.schema)]

end ApiGraph
