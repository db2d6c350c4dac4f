import ApiGraph.Fault
import ApiGraph.Graph.Declaration
import ApiGraph.Validation.Schema

/-!
# Document issues

A document is checked from the root down: its version, its title, every path and
every shared component. Nothing stops the check before the end, so one run reports
all issues in document order.

Under a media type a schema is checked only if it is an object; scalars there mean
that there is no schema.
-/

namespace ApiGraph.Validation

variable [Pattern.Checker]

def requiredString (fields : Fields) (location key : String) : List Issue :=
  match fields.get? key with
  | some (.str _) => []
  | _ => [⟨Pointer.child location key, .missing "string"⟩]

def mediaIssues (location : String) (mime : String) (media : Json) : List Issue :=
  let at_ := Pointer.child location mime
  match media with
  | .obj fields =>
    match Fields.get? "schema" fields with
    | some (.obj schema) => schemaIssues (.obj schema) (Pointer.child at_ "schema")
    | _ => []
  | _ => [⟨at_, .notAnObject "media type"⟩]

def contentIssues (owner : Fields) (location : String) : List Issue :=
  let at_ := Pointer.child location "content"
  match owner.get? "content" with
  | none => []
  | some (.obj content) => content.flatMap fun (mime, media) => mediaIssues at_ mime media
  | some _ => [⟨at_, .mustBe "an object"⟩]

/-- Checks an object that may be a reference instead. -/
def objectIssues (subject : String) (check : Fields → String → List Issue) (v : Json)
    (location : String) : List Issue :=
  match v with
  | .obj fields => (referenceIssues? fields location).getD (check fields location)
  | _ => [⟨location, .notAnObject subject⟩]

def carrierIssues (fields : Fields) (location : String) : List Issue :=
  match fields.get? "in" with
  | some (.str name) =>
    if name ∉ Carrier.all.map Carrier.name then
      [⟨Pointer.child location "in", .unknownCarrier name⟩]
    else
      match decide (name = "path"), fields.get? "required" with
      | true, some (.bool true) => []
      | true, _ => [⟨Pointer.child location "required", .optionalInPath⟩]
      | false, _ => []
  | _ => [⟨Pointer.child location "in", .missing "string"⟩]

def parameterFieldIssues (fields : Fields) (location : String) : List Issue :=
  requiredString fields location "name" ++
  carrierIssues fields location ++
  (match fields.get? "schema" with
   | some schema => schemaIssues schema (Pointer.child location "schema")
   | none => []) ++
  contentIssues fields location

def parameterIssues : Json → String → List Issue := objectIssues "parameter" parameterFieldIssues

def bodyFieldIssues (fields : Fields) (location : String) : List Issue :=
  (match fields.get? "content" with
   | some (.obj _) => []
   | _ => [⟨Pointer.child location "content", .missing "object"⟩]) ++
  contentIssues fields location

def bodyIssues : Json → String → List Issue := objectIssues "request body" bodyFieldIssues

def responseFieldIssues (fields : Fields) (location : String) : List Issue :=
  requiredString fields location "description" ++ contentIssues fields location

def responseIssues : Json → String → List Issue := objectIssues "response" responseFieldIssues

def parametersIssues (owner : Fields) (location : String) : List Issue :=
  let at_ := Pointer.child location "parameters"
  match owner.get? "parameters" with
  | none => []
  | some (.arr parameters) =>
    (parameters.mapIdx fun i p => parameterIssues p (Pointer.item at_ i)).flatten
  | some _ => [⟨at_, .mustBe "an array"⟩]

def responseEntryIssues (location key : String) (response : Json) : List Issue :=
  let at_ := Pointer.child location key
  (if (StatusKey.parse? key).isNone then [⟨at_, .invalidResponseKey key⟩] else []) ++
  responseIssues response at_

def responsesIssues (op : Fields) (location : String) : List Issue :=
  let at_ := Pointer.child location "responses"
  match op.get? "responses" with
  | some (.obj responses) => responses.flatMap fun (key, r) => responseEntryIssues at_ key r
  | some _ => [⟨at_, .mustBe "an object"⟩]
  | none => [⟨at_, .missing "object"⟩]

def operationIssues (op : Json) (location : String) : List Issue :=
  match op with
  | .obj fields =>
    parametersIssues fields location ++
    (match Fields.get? "requestBody" fields with
     | some body => bodyIssues body (Pointer.child location "requestBody")
     | none => []) ++
    responsesIssues fields location
  | _ => [⟨location, .notAnObject "operation"⟩]

def pathFieldIssues (item : Fields) (location : String) : List Issue :=
  parametersIssues item location ++
  Method.all.flatMap fun method =>
    match item.get? method.name with
    | some op => operationIssues op (Pointer.child location method.name)
    | none => []

def pathIssues : Json → String → List Issue := objectIssues "path item" pathFieldIssues

/-- Checks every entry of one section of the components, if it is an object. -/
def sectionIssues (components : Fields) (name : String) (check : Json → String → List Issue) :
    List Issue :=
  match components.get? name with
  | some (.obj entries) =>
    let at_ := Pointer.child "#/components" name
    entries.flatMap fun (key, v) => check v (Pointer.child at_ key)
  | _ => []

def componentsIssues (root : Fields) : List Issue :=
  match root.get? "components" with
  | none => []
  | some (.obj components) =>
    sectionIssues components "schemas" schemaIssues ++
    sectionIssues components "parameters" parameterIssues ++
    sectionIssues components "responses" responseIssues ++
    sectionIssues components "requestBodies" bodyIssues
  | some _ => [⟨"#/components", .mustBe "an object"⟩]

/-- Whether a version string names a version this library reads. -/
def isSupported (version : String) : Bool :=
  (Text.after? ['3', '.'] version.toList).isSome

def versionIssues (root : Fields) : List Issue :=
  match root.get? "openapi" with
  | some (.str v) => if isSupported v then [] else [⟨"#/openapi", .unsupportedVersion v⟩]
  | _ => [⟨"#/openapi", .missing "string"⟩]

def infoIssues (root : Fields) : List Issue :=
  match root.get? "info" with
  | some (.obj info) =>
    requiredString info "#/info" "title" ++ requiredString info "#/info" "version"
  | some _ => [⟨"#/info", .mustBe "an object"⟩]
  | none => [⟨"#/info", .missing "object"⟩]

def pathsIssues (root : Fields) : List Issue :=
  match root.get? "paths" with
  | some (.obj paths) =>
    paths.flatMap fun (path, item) => pathIssues item (Pointer.child "#/paths" path)
  | some _ => [⟨"#/paths", .mustBe "an object"⟩]
  | none => [⟨"#/paths", .missing "object"⟩]

/-- All issues of a document; a valid document has none. -/
def issues (doc : Json) : List Issue :=
  match doc with
  | .obj root => versionIssues root ++ infoIssues root ++ pathsIssues root ++ componentsIssues root
  | _ => [⟨"#", .notAnObject "document"⟩]

/-- Accepts a document without issues. -/
def validate (doc : Json) : Except Fault Unit :=
  match issues doc with
  | [] => .ok ()
  | found => .error (.invalidInput (.issues found))

end ApiGraph.Validation
