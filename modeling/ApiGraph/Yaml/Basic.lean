import ApiGraph.Fault
import ApiGraph.Json.Basic
import ApiGraph.Pointer

/-!
# YAML values and their JSON form

A YAML value has keys of any kind, may carry tags, and its numbers may be infinite or
no numbers at all. As JSON it loses its tags, its keys become texts, and a later key
with the text of an earlier one takes over that one's place.

Collections cannot be keys, and only finite numbers can be values. The first offender
in document order is reported, keys being looked at before their values.
-/

namespace ApiGraph

inductive Yaml where
  | null
  | bool (b : Bool)
  | num (n : Json.Number)
  | str (s : String)
  | seq (items : List Yaml)
  | map (entries : List (Yaml × Yaml))
  | tagged (tag : String) (value : Yaml)
  deriving Inhabited, Repr

namespace Yaml

def sameNumber (m n : Json.Number) : Bool :=
  match m, n with
  | .float x, .float y => (x.isNan && y.isNan) || x.sameNumber y
  | m, n => m.same n

mutual

/-- Equality of values. Entries of mappings may be in any order, and all NaNs are equal. -/
def same : Yaml → Yaml → Bool
  | .null, .null => true
  | .bool a, .bool b => a == b
  | .num m, .num n => sameNumber m n
  | .str s, .str t => s == t
  | .seq xs, .seq ys => sameItems xs ys
  | .map xs, .map ys => xs.length == ys.length && sameEntries xs ys
  | .tagged s v, .tagged t w => s == t && same v w
  | _, _ => false

def sameItems : List Yaml → List Yaml → Bool
  | [], [] => true
  | x :: xs, y :: ys => same x y && sameItems xs ys
  | _, _ => false

def sameEntries : List (Yaml × Yaml) → List (Yaml × Yaml) → Bool
  | [], _ => true
  | (k, v) :: xs, ys => ys.any (fun (l, w) => same k l && same v w) && sameEntries xs ys

end

/-- The text of a number, for keys and messages. -/
def numberText : Json.Number → String
  | .int n => toString n
  | .float x =>
    if x.isNan then ".nan"
    else if x.isFinite then x.text ""
    else if x.negative then "-.inf"
    else ".inf"

def isFinite : Json.Number → Bool
  | .int _ => true
  | .float x => x.isFinite

/-- The text of a key, if it has one. -/
def keyText? : Yaml → Option String
  | .null => some "null"
  | .bool b => some (if b then "true" else "false")
  | .num n => some (numberText n)
  | .str s => some s
  | _ => none

mutual

/-- The JSON form of the value at a location. -/
def toJsonAt (location : String) : Yaml → Except TextFault Json
  | .null => .ok .null
  | .bool b => .ok (.bool b)
  | .num n => if isFinite n then .ok (.num n) else .error (.notFinite location (numberText n))
  | .str s => .ok (.str s)
  | .seq items => (itemsToJson location 0 items).map .arr
  | .map entries => (entriesToJson location [] entries).map .obj
  | .tagged _ value => toJsonAt location value

def itemsToJson (location : String) (index : Nat) : List Yaml → Except TextFault (List Json)
  | [] => .ok []
  | v :: rest => do
    let item ← toJsonAt (location ++ "/" ++ toString index) v
    return item :: (← itemsToJson location (index + 1) rest)

def entriesToJson (location : String) (read : Fields) :
    List (Yaml × Yaml) → Except TextFault Fields
  | [] => .ok read
  | (k, v) :: rest =>
    match keyText? k with
    | none => .error (.keyNotScalar location)
    | some key => do
      let value ← toJsonAt (Pointer.child location key) v
      entriesToJson location (read.insert key value) rest

end

/-- The JSON form of a document. -/
def toJson (y : Yaml) : Except TextFault Json := toJsonAt "#" y

end Yaml

mutual

/-- A JSON value as YAML. -/
def Json.toYaml : Json → Yaml
  | .null => .null
  | .bool b => .bool b
  | .num n => .num n
  | .str s => .str s
  | .arr items => .seq (Json.itemsToYaml items)
  | .obj fields => .map (Json.fieldsToYaml fields)

def Json.itemsToYaml : List Json → List Yaml
  | [] => []
  | v :: rest => Json.toYaml v :: Json.itemsToYaml rest

def Json.fieldsToYaml : List (String × Json) → List (Yaml × Yaml)
  | [] => []
  | (k, v) :: rest => (.str k, Json.toYaml v) :: Json.fieldsToYaml rest

end

end ApiGraph
