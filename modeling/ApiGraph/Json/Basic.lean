import ApiGraph.Numeric.Shortest

/-!
# JSON values with ordered fields

Objects are lists of fields in document order. Nothing in the type forbids a
repeated key, so `Json.WellFormed` states separately that no object repeats one;
every operation here keeps it.

Removing a field fills the hole with the last field. The order that results is
visible in every document this library changes.
-/

namespace ApiGraph

/-- Whole numbers stay whole; every other number is a finite floating-point word. -/
inductive Json.Number where
  | int (n : Int)
  | float (x : Binary64)
  deriving DecidableEq, Repr, Inhabited

inductive Json where
  | null
  | bool (b : Bool)
  | num (n : Json.Number)
  | str (s : String)
  | arr (items : List Json)
  | obj (fields : List (String × Json))
  deriving Inhabited, Repr

/-- The fields of an object, in document order. -/
abbrev Fields := List (String × Json)

namespace Fields

def get? (key : String) : Fields → Option Json
  | [] => none
  | (k, v) :: rest => if k = key then some v else get? key rest

def keys (fields : Fields) : List String := fields.map Prod.fst

def contains (key : String) (fields : Fields) : Bool := (fields.get? key).isSome

/-- A known key keeps its place, a new one goes to the end. -/
def insert (key : String) (value : Json) : Fields → Fields
  | [] => [(key, value)]
  | (k, v) :: rest => if k = key then (k, value) :: rest else (k, v) :: insert key value rest

def insertNew (key : String) (value : Json) (fields : Fields) : Fields :=
  if fields.contains key then fields else fields ++ [(key, value)]

/-- The last field moves into the place of the removed one. -/
def erase (key : String) : Fields → Fields
  | [] => []
  | (k, v) :: rest =>
    if k = key then
      match rest.getLast? with
      | none => []
      | some last => last :: rest.dropLast
    else (k, v) :: erase key rest

def erases (keys : List String) (fields : Fields) : Fields :=
  keys.foldl (fun fields key => erase key fields) fields

/-- Changes the value at a key, if there is one. -/
def modify (key : String) (f : Json → Json) (fields : Fields) : Fields :=
  fields.map fun (k, v) => (k, if k = key then f v else v)

def ofList (entries : List (String × Json)) : Fields :=
  entries.foldl (fun fields (k, v) => insert k v fields) []

end Fields

namespace Json.Number

/-- Whole numbers are compared as such, floats as numbers, and the two kinds never agree. -/
def same : Json.Number → Json.Number → Bool
  | .int m, .int n => m == n
  | .float x, .float y => x.sameNumber y
  | _, _ => false

def toBinary64 : Json.Number → Binary64
  | .int n => .ofInt n
  | .float x => x

/-- The number as a 64-bit count. -/
def toCount? : Json.Number → Option Nat
  | .int n => if 0 ≤ n && n < Nat.pow 2 64 then some n.toNat else none
  | .float _ => none

def text : Json.Number → String
  | .int n => toString n
  | .float x => x.text "+"

end Json.Number

namespace Json

def fields? : Json → Option Fields
  | .obj fields => some fields
  | _ => none

def items? : Json → Option (List Json)
  | .arr items => some items
  | _ => none

def str? : Json → Option String
  | .str s => some s
  | _ => none

def bool? : Json → Option Bool
  | .bool b => some b
  | _ => none

def num? : Json → Option Json.Number
  | .num n => some n
  | _ => none

def isStr (v : Json) : Bool := v.str?.isSome

def isObj (v : Json) : Bool := v.fields?.isSome

/-- The value at a key of an object; other values have no keys. -/
def get? (v : Json) (key : String) : Option Json :=
  match v with
  | .obj fields => Fields.get? key fields
  | _ => none

def strAt? (v : Json) (key : String) : Option String := (v.get? key).bind str?

def boolAt? (v : Json) (key : String) : Option Bool := (v.get? key).bind bool?

/-- The strings of an array, other items being passed over. -/
def strings (v : Json) : List String := (v.items?.getD []).filterMap str?

mutual

/-- No object at any depth repeats a key. -/
def WellFormed : Json → Prop
  | .arr items => AllWellFormed items
  | .obj fields => (fields.map Prod.fst).Nodup ∧ FieldsWellFormed fields
  | _ => True

def AllWellFormed : List Json → Prop
  | [] => True
  | v :: rest => WellFormed v ∧ AllWellFormed rest

def FieldsWellFormed : List (String × Json) → Prop
  | [] => True
  | (_, v) :: rest => WellFormed v ∧ FieldsWellFormed rest

end

mutual

/-- Equality that ignores the order of fields. -/
def same : Json → Json → Bool
  | .null, .null => true
  | .bool a, .bool b => a == b
  | .num m, .num n => m.same n
  | .str s, .str t => s == t
  | .arr xs, .arr ys => sameItems xs ys
  | .obj fs, .obj gs => fs.length == gs.length && sameFields fs gs
  | _, _ => false

def sameItems : List Json → List Json → Bool
  | [], [] => true
  | x :: xs, y :: ys => same x y && sameItems xs ys
  | _, _ => false

/-- Every field of the first list is held by the second. -/
def sameFields : List (String × Json) → List (String × Json) → Bool
  | [], _ => true
  | (k, v) :: fs, gs =>
    (match Fields.get? k gs with
     | some w => same v w
     | none => false) && sameFields fs gs

end

end Json

end ApiGraph
