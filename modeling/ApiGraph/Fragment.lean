import ApiGraph.Json.Basic
import ApiGraph.Text.Split

/-!
# Fragments

A fragment is a value together with the place where it stands, so two equal values
at different places stay apart. A place is either in the document itself or in a
value handed in beside it, and the steps that lead there are kept in canonical form:
an array index is a number, however it was spelled.

`walk?` follows a list of keys and fails at the first one that leads nowhere.
-/

namespace ApiGraph

inductive Step where
  | key (name : String)
  | index (i : Nat)
  deriving DecidableEq, Repr

inductive Origin where
  | document
  | supplied
  deriving DecidableEq, Repr

structure Place where
  origin : Origin
  steps : List Step
  deriving DecidableEq, Repr

def Place.child (place : Place) (step : Step) : Place :=
  { place with steps := place.steps ++ [step] }

structure Fragment where
  place : Place
  value : Json
  deriving Repr

namespace Fragment

def ofDocument (root : Json) : Fragment := ⟨⟨.document, []⟩, root⟩

def ofSupplied (value : Json) : Fragment := ⟨⟨.supplied, []⟩, value⟩

/-- The field of an object. -/
def field? (f : Fragment) (key : String) : Option Fragment :=
  (f.value.get? key).map fun v => ⟨f.place.child (.key key), v⟩

/-- The fields of an object in order, each as a fragment. -/
def fields (f : Fragment) : List (String × Fragment) :=
  (f.value.fields?.getD []).map fun (k, v) => (k, ⟨f.place.child (.key k), v⟩)

def itemsFrom (place : Place) (start : Nat) : List Json → List Fragment
  | [] => []
  | v :: rest => ⟨place.child (.index start), v⟩ :: itemsFrom place (start + 1) rest

/-- The items of an array in order, each as a fragment. -/
def items (f : Fragment) : List Fragment := itemsFrom f.place 0 (f.value.items?.getD [])

/-- One key leads to a field of an object or, as a decimal index, to an item of an array. -/
def step? (f : Fragment) (key : String) : Option Fragment :=
  match f.value with
  | .obj _ => f.field? key
  | .arr items => do
    let i ← Text.natural? key
    let v ← items[i]?
    return ⟨f.place.child (.index i), v⟩
  | _ => none

def walk? (f : Fragment) : List String → Option Fragment
  | [] => some f
  | key :: rest => (f.step? key).bind (·.walk? rest)

theorem walk?_append (f : Fragment) (ks ls : List String) :
    f.walk? (ks ++ ls) = (f.walk? ks).bind (·.walk? ls) := by
  induction ks generalizing f with
  | nil => rfl
  | cons k ks ih =>
    simp only [List.cons_append, walk?]
    cases f.step? k with
    | none => rfl
    | some g => exact ih g

mutual

/-- The places of all objects at and below a value. -/
def objectPlaces (place : Place) : Json → List Place
  | .arr items => objectPlacesOfItems place 0 items
  | .obj fields => place :: objectPlacesOfFields place fields
  | _ => []

def objectPlacesOfItems (place : Place) (start : Nat) : List Json → List Place
  | [] => []
  | v :: rest =>
    objectPlaces (place.child (.index start)) v ++ objectPlacesOfItems place (start + 1) rest

def objectPlacesOfFields (place : Place) : List (String × Json) → List Place
  | [] => []
  | (k, v) :: rest => objectPlaces (place.child (.key k)) v ++ objectPlacesOfFields place rest

end

/-- The places of all objects inside a fragment. -/
def objects (f : Fragment) : List Place := objectPlaces f.place f.value

end Fragment

end ApiGraph
