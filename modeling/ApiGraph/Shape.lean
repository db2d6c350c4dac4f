import ApiGraph.Fault

/-!
# Reading keyword values

Every reader takes a raw value and either returns what it stands for or the reason
why it has the wrong shape. A whole number is accepted where a real number is needed,
but a real number is never accepted as a count.

An optional keyword treats `null` as absent.
-/

namespace ApiGraph.Shape

def string : Json → Except ShapeFault String
  | .str s => .ok s
  | v => .error (.wrongType v "a string")

def boolean : Json → Except ShapeFault Bool
  | .bool b => .ok b
  | v => .error (.wrongType v "a boolean")

def real : Json → Except ShapeFault Binary64
  | .num n => .ok n.toBinary64
  | v => .error (.wrongType v "f64")

def count : Json → Except ShapeFault Nat
  | .num (.int n) => if n < 0 then .error (.negativeCount n) else .ok n.toNat
  | v => .error (.wrongType v "u64")

def sequence : Json → Except ShapeFault (List Json)
  | .arr items => .ok items
  | v => .error (.wrongType v "a sequence")

def strings (v : Json) : Except ShapeFault (List String) := do
  (← sequence v).mapM string

def optional {α : Type} (read : Json → Except ShapeFault α) :
    Json → Except ShapeFault (Option α)
  | .null => .ok none
  | v => (read v).map some

/-- One of a closed list of names: the name alone, or an object whose only key is the name and
whose value is `null`. -/
def choice {α : Type} (choices : List (String × α)) : Json → Except ShapeFault α
  | .str name => pick name
  | .obj [(name, v)] => do
    let a ← pick name
    match v with
    | .null => .ok a
    | v => .error (.wrongType v "unit")
  | .obj _ => .error .notOneKey
  | v => .error (.wrongType v "string or map")
where
  pick (name : String) : Except ShapeFault α :=
    match choices.lookup name with
    | some a => .ok a
    | none => .error (.unknownName name (choices.map Prod.fst))

end ApiGraph.Shape
