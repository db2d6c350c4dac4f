import ApiGraph.Json.Basic

/-!
# Response keys

Responses are declared under a status code, under a class of codes such as `4XX`, or
under `default`. A code has three digits and lies from 100 to 599.

Selecting a response for a code looks at exact codes and `default` only; a class is
matched by `matchesClass` alone.
-/

namespace ApiGraph

inductive StatusKey where
  | code (n : Nat)
  | range (hundreds : Nat)
  | default
  deriving DecidableEq, Repr, Inhabited

namespace StatusKey

def digit? (c : Char) : Option Nat :=
  if '0' ≤ c ∧ c ≤ '9' then some (c.toNat - 48) else none

/-- Reads the key of a responses map. -/
def parse? (key : String) : Option StatusKey :=
  if key = "default" then some .default
  else
    match key.toList with
    | [a, b, c] =>
      match digit? a with
      | none => none
      | some hundreds =>
        if hundreds = 0 ∨ 5 < hundreds then none
        else if (b = 'X' ∨ b = 'x') ∧ (c = 'X' ∨ c = 'x') then some (.range hundreds)
        else
          match digit? b, digit? c with
          | some tens, some ones => some (.code (100 * hundreds + 10 * tens + ones))
          | _, _ => none
    | _ => none

def text : StatusKey → String
  | .code n => toString n
  | .range hundreds => toString hundreds ++ "XX"
  | .default => "default"

def toJson : StatusKey → Json
  | .code n => .obj [("code", .num (.int n))]
  | .range hundreds => .obj [("range", .num (.int hundreds))]
  | .default => .str "default"

def matchesClass (key : StatusKey) (status : Nat) : Bool := key == .range (status / 100)

/-- The code, or zero where the key is none. -/
def number : StatusKey → Nat
  | .code n => n
  | _ => 0

end StatusKey

end ApiGraph
