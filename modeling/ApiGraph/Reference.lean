import ApiGraph.Exploration
import ApiGraph.Fault
import ApiGraph.Fragment
import ApiGraph.Pointer

/-!
# References

An object with a string under `$ref` is a reference, and stands for the fragment that
its pointer walks to from the root of the document. A reference may lead to another
one; `resolve` follows the chain to its end.

The chain visits no key list twice. `unseen` holds the key lists not followed so far,
which at the start are those of all references that can occur, so a key list missing
from it has been followed before and the chain goes round.
-/

namespace ApiGraph

namespace Json

/-- The pointer of a reference. -/
def reference? (v : Json) : Option String := v.strAt? "$ref"

mutual

/-- The key lists of all references at and below a value. -/
def referenceKeys : Json → List (List String)
  | .arr items => referenceKeysOfItems items
  | .obj fields =>
    match (Fields.get? "$ref" fields).bind str? with
    | some pointer => Pointer.keys pointer :: referenceKeysOfFields fields
    | none => referenceKeysOfFields fields
  | _ => []

def referenceKeysOfItems : List Json → List (List String)
  | [] => []
  | v :: rest => referenceKeys v ++ referenceKeysOfItems rest

def referenceKeysOfFields : List (String × Json) → List (List String)
  | [] => []
  | (_, v) :: rest => referenceKeys v ++ referenceKeysOfFields rest

end

end Json

namespace Reference

/-- Follows a chain of references to the first fragment that is none. -/
def follow (root : Json) (unseen : List (List String)) (current : Fragment) :
    Except Fault Fragment :=
  match current.value.reference? with
  | none => .ok current
  | some pointer =>
    if Pointer.isLocal pointer then
      let keys := Pointer.keys pointer
      if _ : keys ∈ unseen then
        match (Fragment.ofDocument root).walk? keys with
        | some target => follow root (afterVisit keys unseen) target
        | none => .error (.danglingReference pointer)
      else .error (.cyclicReference pointer)
    else .error (.danglingReference pointer)
termination_by unseen.length
decreasing_by exact length_afterVisit_lt ‹_›

/-- The fragment that a value stands for, which is the value itself unless it is a reference. -/
def resolve (root : Json) (value : Fragment) : Except Fault Fragment :=
  match value.value.reference? with
  | none => .ok value
  | some pointer => follow root (Pointer.keys pointer :: root.referenceKeys) value

/-- The fragment that a bare pointer stands for. -/
def resolvePointer (root : Json) (pointer : String) : Except Fault Fragment :=
  if Pointer.isLocal pointer then
    match (Fragment.ofDocument root).walk? (Pointer.keys pointer) with
    | some target => resolve root target
    | none => .error (.danglingReference pointer)
  else .error (.danglingReference pointer)

end Reference

end ApiGraph
