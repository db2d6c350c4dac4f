import ApiGraph.Json.Basic
import ApiGraph.Text.Split

/-!
# Legacy keywords

Version 2.0 keeps shared definitions in other places than 3.0 and marks nullable
schemas by an extension. Both are mended at every depth of a value: the beginnings of
pointers are replaced, and the extension gives its value to the keyword that took its
place, unless that keyword is there already.
-/

namespace ApiGraph.Legacy

/-- Where 2.0 keeps shared definitions, and where 3.0 does. -/
def sections : List (String × String) :=
  [("#/definitions/", "#/components/schemas/"),
   ("#/parameters/", "#/components/parameters/"),
   ("#/responses/", "#/components/responses/")]

def retarget (pointer : String) : String :=
  let moved := sections.findSome? fun (old, new) =>
    (Text.after? old.toList pointer.toList).map fun rest => new ++ String.ofList rest
  moved.getD pointer

def retargetField (key : String) (v : Json) : Json :=
  match v with
  | .str pointer => if key = "$ref" then .str (retarget pointer) else v
  | v => v

/-- Turns the extension into the keyword. -/
def promoteNullable (fields : Fields) : Fields :=
  match fields.get? "x-nullable" with
  | none => fields
  | some flag => Fields.insertNew "nullable" flag (fields.erase "x-nullable")

mutual

def modernize : Json → Json
  | .arr items => .arr (modernizeItems items)
  | .obj fields => .obj (promoteNullable (modernizeFields fields))
  | v => v

def modernizeItems : List Json → List Json
  | [] => []
  | v :: rest => modernize v :: modernizeItems rest

def modernizeFields : List (String × Json) → List (String × Json)
  | [] => []
  | (k, v) :: rest => (k, retargetField k (modernize v)) :: modernizeFields rest

end

end ApiGraph.Legacy
