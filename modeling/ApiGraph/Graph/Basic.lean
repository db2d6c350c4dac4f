import ApiGraph.Graph.Declaration
import ApiGraph.Graph.Route

/-!
# The document graph

Everything a document declares, laid out in flat tables. Entities name their owners
and their parts by position in these tables, so the graph is plain data.

Tables only grow: an entry is numbered by the length of its table when it is appended,
and an operation is appended after its parts, a route after its operations.
-/

namespace ApiGraph

structure Parameter extends ParameterDeclaration where
  operation : Nat
  deriving Inhabited, Repr

structure Response extends ResponseDeclaration where
  operation : Nat
  deriving Inhabited, Repr

structure Body extends BodyDeclaration where
  operation : Nat
  deriving Inhabited, Repr

structure Operation where
  id : Nat
  route : Nat
  method : Method
  operationId : Option String
  summary : Option String
  description : Option String
  tags : List String
  deprecated : Bool
  parameters : List Nat
  responses : List Nat
  bodies : List Nat
  deriving Repr

structure Graph where
  raw : Json
  routes : List Route := []
  operations : List Operation := []
  parameters : List Parameter := []
  responses : List Response := []
  bodies : List Body := []
  deriving Repr

namespace Graph

/-- Enters entries into a table one by one. The number of an entry is the length of the table
before it; the numbers are given back in order. -/
def enter {α : Type} (table entries : List α) : List α × List Nat :=
  entries.foldl (fun (table, ids) entry => (table ++ [entry], ids ++ [table.length])) (table, [])

/-- Appends an operation of a route and its parts. With the graph goes the list of the operations
that the route has so far. -/
def addOperation (route : Nat) (built : Graph × List Nat) (op : OperationDeclaration) :
    Graph × List Nat :=
  let (g, ids) := built
  let id := g.operations.length
  let parameters := enter g.parameters (op.parameters.map fun p => { p with operation := id })
  let responses := enter g.responses (op.responses.map fun r => { r with operation := id })
  let bodies := enter g.bodies (op.bodies.map fun b => { b with operation := id })
  ({ g with
    operations := g.operations ++ [{
      id, route
      method := op.method
      operationId := op.operationId
      summary := op.summary
      description := op.description
      tags := op.tags
      deprecated := op.deprecated
      parameters := parameters.2
      responses := responses.2
      bodies := bodies.2 }]
    parameters := parameters.1
    responses := responses.1
    bodies := bodies.1 }, ids ++ [id])

/-- Appends a path, which is entered when all its operations are. -/
def addRoute (g : Graph) (declared : PathDeclaration) : Graph :=
  let id := g.routes.length
  let (filled, operations) := declared.operations.foldl (addOperation id) (g, [])
  { filled with routes := filled.routes ++ [.ofPath id declared.path operations] }

def ofDeclarations (raw : Json) (declared : List PathDeclaration) : Graph :=
  declared.foldl addRoute { raw }

/-- The graph of a document that is taken as it is, without validation. -/
def ofDocument (raw : Json) : Except Fault Graph :=
  match raw with
  | .obj _ => (Declaration.paths raw).map (ofDeclarations raw)
  | _ => .error (.invalidInput .notAnObject)

def title? (g : Graph) : Option String := (g.raw.get? "info").bind (·.strAt? "title")

def version? (g : Graph) : Option String := g.raw.strAt? "openapi"

def route? (g : Graph) (id : Nat) : Option Route := g.routes[id]?

def operation? (g : Graph) (id : Nat) : Option Operation := g.operations[id]?

def operationsOf (g : Graph) (r : Route) : List Operation := r.operations.filterMap g.operation?

def operationFor? (g : Graph) (r : Route) (m : Method) : Option Operation :=
  (g.operationsOf r).find? (·.method == m)

def parametersOf (g : Graph) (op : Operation) : List Parameter :=
  op.parameters.filterMap (g.parameters[·]?)

def responsesOf (g : Graph) (op : Operation) : List Response :=
  op.responses.filterMap (g.responses[·]?)

def bodiesOf (g : Graph) (op : Operation) : List Body :=
  op.bodies.filterMap (g.bodies[·]?)

def routeOf? (g : Graph) (op : Operation) : Option Route := g.route? op.route

end Graph

/-- The first response under the exact code, else the first one under `default`. -/
def Response.select (responses : List Response) (status : Nat) : Option Response :=
  (responses.find? (·.status == .code status)).or (responses.find? (·.status == .default))

def Graph.responseFor? (g : Graph) (op : Operation) (status : Nat) : Option Response :=
  Response.select (g.responsesOf op) status

/-- A fragment of the document, or a value beside it, with references followed. -/
def Graph.resolve (g : Graph) (value : Fragment) : Except Fault Fragment :=
  Reference.resolve g.raw value

def Graph.resolvePointer (g : Graph) (pointer : String) : Except Fault Fragment :=
  Reference.resolvePointer g.raw pointer

end ApiGraph
