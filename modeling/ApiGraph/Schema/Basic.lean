import ApiGraph.Schema.Descriptor

/-!
# Type schemas

A type schema is a tree: a descriptor, and a schema at every position that held one
in the document. No position holds a reference any more, and members of a
composition are kept apart in the order they were declared.
-/

namespace ApiGraph

/-- What an object may hold beside its declared properties. -/
inductive Additional (α : Type) where
  | allowed (yes : Bool)
  | schema (s : α)
  deriving Inhabited, Repr

structure TypeSchema where
  descriptor : Descriptor
  allOf : List TypeSchema
  oneOf : List TypeSchema
  anyOf : List TypeSchema
  negated : Option TypeSchema
  items : Option TypeSchema
  properties : Option (List (String × TypeSchema))
  additional : Option (Additional TypeSchema)
  deriving Inhabited, Repr

namespace TypeSchema

def isRequired (s : TypeSchema) (name : String) : Bool := s.descriptor.required.contains name

/-- Whether the schema is built from others by a composition keyword. -/
def isComposite (s : TypeSchema) : Bool :=
  !s.allOf.isEmpty || !s.oneOf.isEmpty || !s.anyOf.isEmpty || s.negated.isSome

def counted (keyword : String) (members : List TypeSchema) : String :=
  keyword ++ "(" ++ toString members.length ++ ")"

/-- The label of a schema that declares no item schema of its own. -/
def label (s : TypeSchema) : String :=
  match s.descriptor.kind with
  | some kind =>
    match s.descriptor.format with
    | some format => kind.name ++ "(" ++ format ++ ")"
    | none => kind.name
  | none =>
    if !s.allOf.isEmpty then counted "allOf" s.allOf
    else if !s.oneOf.isEmpty then counted "oneOf" s.oneOf
    else if !s.anyOf.isEmpty then counted "anyOf" s.anyOf
    else if s.negated.isSome then "not"
    else "any"

/-- A short label; arrays show what they hold. -/
def summary (s : TypeSchema) : String :=
  match s with
  | ⟨d, allOf, oneOf, anyOf, negated, some items, properties, additional⟩ =>
    if d.kind = some .array then "array<" ++ items.summary ++ ">"
    else label ⟨d, allOf, oneOf, anyOf, negated, some items, properties, additional⟩
  | s => label s

def listField (key : String) (items : List Json) : Fields :=
  if items.isEmpty then [] else [(key, .arr items)]

mutual

/-- The keyword form of a schema. -/
def toJson : TypeSchema → Json
  | ⟨d, allOf, oneOf, anyOf, negated, items, properties, additional⟩ =>
    .obj (d.toFields ++
      listField "allOf" (toJsonList allOf) ++
      listField "oneOf" (toJsonList oneOf) ++
      listField "anyOf" (toJsonList anyOf) ++
      toJsonOption "not" negated ++
      toJsonOption "items" items ++
      (match properties with
       | none => []
       | some fields => [("properties", .obj (toJsonFields fields))]) ++
      (match additional with
       | none => []
       | some (.allowed yes) => [("additionalProperties", .bool yes)]
       | some (.schema s) => [("additionalProperties", toJson s)]))

def toJsonList : List TypeSchema → List Json
  | [] => []
  | s :: rest => toJson s :: toJsonList rest

def toJsonFields : List (String × TypeSchema) → List (String × Json)
  | [] => []
  | (name, s) :: rest => (name, toJson s) :: toJsonFields rest

def toJsonOption (key : String) : Option TypeSchema → List (String × Json)
  | none => []
  | some s => [(key, toJson s)]

end

end TypeSchema

end ApiGraph
