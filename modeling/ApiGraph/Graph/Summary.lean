import ApiGraph.Graph.Hierarchy
import ApiGraph.Graph.Naming
import ApiGraph.Graph.Printer

/-!
# Summaries

A summary lists routes with the handler, parameters and contents of each operation,
schemas being reduced to their labels. It is written as JSON or as indented text.
-/

namespace ApiGraph

structure ParameterSummary where
  name : String
  carrier : String
  required : Bool
  schema : Option String
  deriving DecidableEq, Repr

structure ContentSummary where
  mimeType : String
  schema : Option String
  deriving DecidableEq, Repr

structure ResponseSummary where
  status : String
  mimeType : String
  schema : Option String
  deriving DecidableEq, Repr

structure OperationSummary where
  method : Method
  handler : String
  operationId : Option String
  tags : List String
  parameters : List ParameterSummary
  bodies : List ContentSummary
  responses : List ResponseSummary
  deriving DecidableEq, Repr

structure RouteSummary where
  path : String
  staticPath : String
  level : Nat
  operations : List OperationSummary
  deriving DecidableEq, Repr

namespace Graph

def summarizeOperation (g : Graph) (op : Operation) : OperationSummary where
  method := op.method
  handler := g.handlerName op
  operationId := op.operationId
  tags := op.tags
  parameters := (g.parametersOf op).map fun p =>
    ⟨p.name, p.carrier.name, p.required, p.schema.map TypeSchema.summary⟩
  bodies := (g.bodiesOf op).map fun b => ⟨b.mimeType, b.schema.map TypeSchema.summary⟩
  responses := (g.responsesOf op).map fun r =>
    ⟨r.status.text, r.mimeType, r.schema.map TypeSchema.summary⟩

def summarizeRoute (g : Graph) (r : Route) : RouteSummary :=
  ⟨r.path, r.staticPath, r.level, (g.operationsOf r).map g.summarizeOperation⟩

/-- Summaries of all routes, or of those at one level. -/
def summaries (g : Graph) (level : Option Nat) : List RouteSummary :=
  let routes := match level with
    | some level => g.routesAtLevel level
    | none => g.routes
  routes.map g.summarizeRoute

end Graph

open Json

def unlessEmpty (key : String) (items : List Json) : Fields :=
  if items.isEmpty then [] else [(key, .arr items)]

def ParameterSummary.toJson (p : ParameterSummary) : Json :=
  .obj [
    ("name", .str p.name),
    ("in", .str p.carrier),
    ("required", .bool p.required),
    ("schema", ofOption .str p.schema)]

def ContentSummary.toJson (b : ContentSummary) : Json :=
  .obj [("mime_type", .str b.mimeType), ("schema", ofOption .str b.schema)]

def ResponseSummary.toJson (r : ResponseSummary) : Json :=
  .obj [
    ("status", .str r.status),
    ("mime_type", .str r.mimeType),
    ("schema", ofOption .str r.schema)]

def OperationSummary.toJson (op : OperationSummary) : Json :=
  .obj (
    [("method", .str op.method.name), ("handler", .str op.handler)] ++
    (op.operationId.map fun id => ("operation_id", Json.str id)).toList ++
    unlessEmpty "tags" (op.tags.map .str) ++
    [("params", .arr (op.parameters.map ParameterSummary.toJson))] ++
    unlessEmpty "request_bodies" (op.bodies.map ContentSummary.toJson) ++
    [("responses", .arr (op.responses.map ResponseSummary.toJson))])

def RouteSummary.toJson (r : RouteSummary) : Json :=
  .obj [
    ("path", .str r.path),
    ("static_path", .str r.staticPath),
    ("level", .num (.int r.level)),
    ("operations", .arr (r.operations.map OperationSummary.toJson))]

def RouteSummary.listToJson (routes : List RouteSummary) : Json :=
  .arr (routes.map RouteSummary.toJson)

def schemaText (schema : Option String) : String := schema.getD "-"

def OperationSummary.lines (path : String) (op : OperationSummary) : List String :=
  [op.method.upperName ++ " " ++ path ++ "  " ++ op.handler] ++
  (op.parameters.map fun p =>
    "    param " ++ p.carrier ++ " " ++ p.name ++ (if p.required then " (required)" else "") ++
      ": " ++ schemaText p.schema) ++
  (op.bodies.map fun b => "    body " ++ b.mimeType ++ ": " ++ schemaText b.schema) ++
  (op.responses.map fun r =>
    "    " ++ r.status ++ " " ++ r.mimeType ++ ": " ++ schemaText r.schema)

def RouteSummary.lines (r : RouteSummary) : List String :=
  if r.operations.isEmpty then [r.path ++ "  (no operations)"]
  else r.operations.flatMap (OperationSummary.lines r.path)

/-- The summaries as text, every line closed by a line break. -/
def RouteSummary.listText (routes : List RouteSummary) : String :=
  String.join ((routes.flatMap RouteSummary.lines).map (· ++ "\n"))

end ApiGraph
