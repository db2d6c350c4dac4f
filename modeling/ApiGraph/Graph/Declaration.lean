import ApiGraph.Graph.Method
import ApiGraph.Graph.Status
import ApiGraph.Schema.Resolution

/-!
# Declarations

What a document declares, path by path, before anything is numbered: each path with
its operations, each operation with its parameters, responses and request bodies, and
every schema resolved. The first fault ends the reading.

An operation has its own parameters first and then those of its path that it does not
override. Responses and request bodies are fanned out, one entry for each content
type of each key.
-/

namespace ApiGraph

/-- Where a parameter travels. -/
inductive Carrier where
  | query
  | header
  | path
  | cookie
  deriving DecidableEq, Repr, Inhabited

namespace Carrier

def name : Carrier → String
  | query => "query"
  | header => "header"
  | path => "path"
  | cookie => "cookie"

def all : List Carrier := [query, header, path, cookie]

def choices : List (String × Carrier) := all.map fun c => (c.name, c)

end Carrier

structure ParameterDeclaration where
  name : String
  carrier : Carrier
  required : Bool
  deprecated : Bool
  description : Option String
  schema : Option TypeSchema
  deriving Inhabited, Repr

structure ResponseDeclaration where
  status : StatusKey
  mimeType : String
  description : Option String
  schema : Option TypeSchema
  deriving Inhabited, Repr

structure BodyDeclaration where
  mimeType : String
  required : Bool
  description : Option String
  schema : Option TypeSchema
  deriving Inhabited, Repr

structure OperationDeclaration where
  method : Method
  operationId : Option String
  summary : Option String
  description : Option String
  tags : List String
  deprecated : Bool
  parameters : List ParameterDeclaration
  responses : List ResponseDeclaration
  bodies : List BodyDeclaration
  deriving Repr

structure PathDeclaration where
  path : String
  operations : List OperationDeclaration
  deriving Repr

/-- The descriptive part of a parameter, without its schema. -/
structure ParameterHead where
  name : String
  carrier : Carrier
  required : Bool := false
  deprecated : Bool := false
  description : Option String := none
  deriving Repr

namespace ParameterHead

open Shape

/-- The keywords of a parameter that have been read so far. -/
structure Partial where
  name : Option String := none
  carrier : Option Carrier := none
  required : Bool := false
  deprecated : Bool := false
  description : Option String := none

def readKeyword (p : Partial) (key : String) (v : Json) : Except ShapeFault Partial :=
  match key with
  | "name" => do return { p with name := some (← string v) }
  | "in" => do return { p with carrier := some (← choice Carrier.choices v) }
  | "required" => do return { p with required := ← boolean v }
  | "deprecated" => do return { p with deprecated := ← boolean v }
  | "description" => do return { p with description := ← optional string v }
  | _ => .ok p

/-- The keywords in the order in which a parameter written as a list gives them. -/
def positions : List String := ["name", "in", "required", "deprecated", "description"]

def finish (p : Partial) (missing : String → ShapeFault) : Except ShapeFault ParameterHead :=
  match p.name, p.carrier with
  | none, _ => .error (missing "name")
  | _, none => .error (missing "in")
  | some name, some carrier =>
    .ok ⟨name, carrier, p.required, p.deprecated, p.description⟩

def readKeywords (fields : Fields) : Except ShapeFault Partial :=
  fields.foldlM (fun p (key, v) => readKeyword p key v) {}

/-- Reads a parameter from an object or from a list of its keyword values. -/
def read : Json → Except ShapeFault ParameterHead
  | .obj fields => do finish (← readKeywords fields) .missingField
  | .arr items => do
    let p ← readKeywords (positions.zip items)
    let head ← finish p fun _ => .tooFewItems items.length
    if positions.length < items.length then throw (.tooManyItems items.length)
    return head
  | v => .error (.wrongType v "struct RawParameter")

end ParameterHead

/-- A parameter of a list, its schema still raw. -/
structure PendingParameter where
  head : ParameterHead
  schema : Option Fragment
  location : String

def PendingParameter.key (p : PendingParameter) : String × Carrier := (p.head.name, p.head.carrier)

namespace Declaration

def fieldsOf (f : Fragment) (location : String) : Except Fault (List (String × Fragment)) :=
  match f.value with
  | .obj _ => .ok f.fields
  | _ => .error (.invalidInput (.expectedObject location))

/-- Reads the entries of a parameter list, none of which may repeat an earlier name in the same
carrier. -/
def readEntries (root : Json) (location : String) (seen : List (String × Carrier)) (index : Nat) :
    List Fragment → Except Fault (List PendingParameter)
  | [] => .ok []
  | raw :: rest => do
    let here := Pointer.item location index
    let entry ← Reference.resolve root raw
    let head ← (ParameterHead.read entry.value).mapError fun shape =>
      Fault.invalidInput (.malformed here shape)
    if (head.name, head.carrier) ∈ seen then
      throw (.invalidInput (.duplicateParameter here head.name head.carrier.name))
    let pending : PendingParameter := ⟨head, entry.field? "schema", here⟩
    return pending :: (← readEntries root location (pending.key :: seen) (index + 1) rest)

def readParameters (root : Json) (owner : Fragment) (ownerLocation : String) :
    Except Fault (List PendingParameter) :=
  let location := Pointer.child ownerLocation "parameters"
  match owner.field? "parameters" with
  | none => .ok []
  | some list =>
    match list.value with
    | .arr _ => readEntries root location [] 0 list.items
    | _ => .error (.invalidInput (.expectedArray location))

/-- Own parameters, then the shared ones that none of them overrides. -/
def inherit (own shared : List PendingParameter) : List PendingParameter :=
  own ++ shared.filter fun p => p.key ∉ own.map PendingParameter.key

def parameter (root : Json) (p : PendingParameter) : Except Fault ParameterDeclaration := do
  let schema ← p.schema.mapM fun raw =>
    TypeSchema.resolve root raw (Pointer.child p.location "schema")
  return { p.head with schema }

/-- The schema under a content type. Absent schemas, empty ones and scalars mean that there is
none. -/
def mediaSchema (root : Json) (owner : Fragment) (mimeType location : String) :
    Except Fault (Option TypeSchema) := do
  match owner.walk? ["content", mimeType, "schema"] with
  | none => return none
  | some raw =>
    let node ← Reference.resolve root raw
    match node.value with
    | .obj (_ :: _) =>
      let here := Pointer.child (Pointer.child (Pointer.child location "content") mimeType) "schema"
      some <$> TypeSchema.resolve root node here
    | _ => return none

/-- The content types a response or request body declares. -/
def contentTypes (owner : Json) : List String :=
  (((owner.get? "content").bind Json.fields?).getD []).map Prod.fst

def response (root : Json) (location key : String) (raw : Fragment) :
    Except Fault (List ResponseDeclaration) := do
  match StatusKey.parse? key with
  | none => throw (.invalidInput (.invalidResponseKey location key))
  | some status =>
    let entry ← Reference.resolve root raw
    (contentTypes entry.value).mapM fun mimeType => do
      let schema ← mediaSchema root entry mimeType (Pointer.child location key)
      return ⟨status, mimeType, entry.value.strAt? "description", schema⟩

def responses (root : Json) (op : Fragment) (opLocation : String) :
    Except Fault (List ResponseDeclaration) := do
  match op.field? "responses" with
  | none => return []
  | some map =>
    let location := Pointer.child opLocation "responses"
    let entries ← fieldsOf map location
    let declared ← entries.mapM fun (key, raw) => response root location key raw
    return declared.flatten

def bodies (root : Json) (op : Fragment) (opLocation : String) :
    Except Fault (List BodyDeclaration) := do
  match op.field? "requestBody" with
  | none => return []
  | some raw =>
    let entry ← Reference.resolve root raw
    (contentTypes entry.value).mapM fun mimeType => do
      let schema ← mediaSchema root entry mimeType (Pointer.child opLocation "requestBody")
      return ⟨mimeType, (entry.value.boolAt? "required").getD false,
        entry.value.strAt? "description", schema⟩

def operation (root : Json) (shared : List PendingParameter) (location : String) (method : Method)
    (raw : Fragment) : Except Fault OperationDeclaration := do
  let op ← Reference.resolve root raw
  let _ ← fieldsOf op location
  let own ← readParameters root op location
  let parameters ← (inherit own shared).mapM (parameter root)
  let responses ← responses root op location
  let bodies ← bodies root op location
  return {
    method
    operationId := op.value.strAt? "operationId"
    summary := op.value.strAt? "summary"
    description := op.value.strAt? "description"
    tags := ((op.value.get? "tags").map Json.strings).getD []
    deprecated := (op.value.boolAt? "deprecated").getD false
    parameters, responses, bodies }

def path (root : Json) (path : String) (raw : Fragment) : Except Fault PathDeclaration := do
  let location := Pointer.child "#/paths" path
  let item ← Reference.resolve root raw
  let _ ← fieldsOf item location
  let shared ← readParameters root item location
  let declared := Method.all.filterMap fun method =>
    (item.field? method.name).map fun raw => (method, raw)
  let operations ← declared.mapM fun (method, raw) =>
    operation root shared (Pointer.child location method.name) method raw
  return ⟨path, operations⟩

/-- Everything the document declares under `paths`. -/
def paths (root : Json) : Except Fault (List PathDeclaration) := do
  match (Fragment.ofDocument root).field? "paths" with
  | none => return []
  | some map =>
    let entries ← fieldsOf map "#/paths"
    entries.mapM fun (name, raw) => path root name raw

end Declaration

end ApiGraph
