import ApiGraph.Reference
import ApiGraph.Schema.Basic

/-!
# Schema resolution

A raw schema becomes a type schema by following references and resolving every
position that holds a schema, in a fixed order, the first fault ending the work.

A fragment that would contain itself is a fault. Fragments are told apart by place,
not by value: `unopened` holds the places of all objects that are not ancestors of
the current position, and a fragment missing from it is its own ancestor.
-/

namespace ApiGraph

namespace TypeSchema

/-- A position that holds a schema, with its location in messages. -/
abbrev Position := Fragment × String

/-- The schemas under a composition keyword: the items of a list, or one lone schema. -/
def members (node : Fragment) (location keyword : String) : List Position :=
  let base := Pointer.child location keyword
  match node.field? keyword with
  | none => []
  | some list =>
    match list.value with
    | .arr _ => list.items.mapIdx fun i member => (member, Pointer.item base i)
    | _ => [(list, base)]

/-- The schema at a keyword, if there is one. -/
def member? (node : Fragment) (location keyword : String) : Option Position :=
  (node.field? keyword).map fun f => (f, Pointer.child location keyword)

/-- The property schemas with their locations; anything but an object of them is a fault. -/
def properties? (node : Fragment) (location : String) :
    Except Fault (Option (List (String × Position))) :=
  match node.field? "properties" with
  | none => .ok none
  | some f =>
    let base := Pointer.child location "properties"
    match f.value with
    | .obj _ => .ok (some (f.fields.map fun (name, g) => (name, g, Pointer.child base name)))
    | _ => .error (.invalidInput (.expectedObject base))

def readDescriptor (fields : Fields) (location : String) : Except Fault Descriptor :=
  (Descriptor.read fields).mapError fun shape => .invalidInput (.malformed location shape)

/-- The property schemas of an object, every one resolved by `child` and kept under its name. -/
def buildProperties (child : Position → Except Fault TypeSchema) (node : Fragment)
    (location : String) : Except Fault (Option (List (String × TypeSchema))) := do
  (← properties? node location).mapM fun raws =>
    raws.mapM fun (name, at_) => return (name, ← child at_)

/-- What stands under `additionalProperties`; a boolean is no schema. -/
def buildAdditional (child : Position → Except Fault TypeSchema) (at_ : Position) :
    Except Fault (Additional TypeSchema) :=
  match at_.1.value with
  | .bool yes => return .allowed yes
  | _ => return .schema (← child at_)

/-- The schema of an object, every position below it being resolved by `child`. -/
def build (child : Position → Except Fault TypeSchema) (node : Fragment) (fields : Fields)
    (location : String) : Except Fault TypeSchema := do
  let descriptor ← readDescriptor fields location
  let allOf ← (members node location "allOf").mapM child
  let oneOf ← (members node location "oneOf").mapM child
  let anyOf ← (members node location "anyOf").mapM child
  let negated ← (member? node location "not").mapM child
  let items ← (member? node location "items").mapM child
  let properties ← buildProperties child node location
  let additional ← (member? node location "additionalProperties").mapM (buildAdditional child)
  return { descriptor, allOf, oneOf, anyOf, negated, items, properties, additional }

/-- Opens the object that a position stands for. The positions below it are left to `below`, which
is told the place of the object and that it was still unopened. -/
def openWith (root : Json) (unopened : List Place)
    (below : (place : Place) → place ∈ unopened → Position → Except Fault TypeSchema)
    (at_ : Position) : Except Fault TypeSchema := do
  let node ← Reference.resolve root at_.1
  match node.value with
  | .obj fields =>
    if h : node.place ∈ unopened then build (below node.place h) node fields at_.2
    else throw (.cyclicReference at_.2)
  | _ => throw (.undefinedSchema at_.2)

/-- Resolves the schema at a position below the ancestors that are no longer in `unopened`. -/
def resolveBelow (root : Json) (unopened : List Place) (at_ : Position) :
    Except Fault TypeSchema :=
  openWith root unopened
    (fun place _ child => resolveBelow root (afterVisit place unopened) child) at_
termination_by unopened.length
decreasing_by exact length_afterVisit_lt ‹_›

/-- Resolves a raw schema completely; `location` names its position in messages. -/
def resolve (root : Json) (raw : Fragment) (location : String) : Except Fault TypeSchema :=
  resolveBelow root (raw.objects ++ (Fragment.ofDocument root).objects) (raw, location)

end TypeSchema

end ApiGraph
