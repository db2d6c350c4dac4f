import ApiGraph.Legacy.Upgrade
import ApiGraph.Validation.Document

/-!
# Normalization

A document is normal if it declares a supported version and validation finds nothing
in it. Documents of version 2.0 are upgraded first, if that is allowed; every other
document is passed on as it is.
-/

namespace ApiGraph

structure NormalizeOptions where
  targetVersion : String := "3.0.0"
  upgradeLegacy : Bool := true
  deriving DecidableEq, Repr

inductive DeclaredVersion where
  | legacy
  | current
  deriving DecidableEq, Repr

/-- The version a document declares. An `openapi` key decides alone. -/
def declaredVersion (doc : Fields) : Except InputFault DeclaredVersion :=
  match doc.get? "openapi" with
  | some (.str v) =>
    if Validation.isSupported v then .ok .current else .error (.unsupportedOpenApi (.str v))
  | some v => .error (.unsupportedOpenApi v)
  | none =>
    match (doc.get? "swagger").bind Json.str? with
    | some v => if v = "2.0" then .ok .legacy else .error (.unsupportedSwagger v)
    | none => .error .missingVersion

/-- The document in the current shape, not validated yet. -/
def upgraded (options : NormalizeOptions) (doc : Fields) : Except InputFault Json := do
  match ← declaredVersion doc with
  | .current => return .obj doc
  | .legacy =>
    if options.upgradeLegacy then return Legacy.upgrade options.targetVersion doc
    else throw .upgradeDisabled

def normalize [Pattern.Checker] (options : NormalizeOptions) (input : Json) : Except Fault Json :=
  match input with
  | .obj doc => do
    let normal ← (upgraded options doc).mapError Fault.invalidInput
    Validation.validate normal
    return normal
  | _ => .error (.invalidInput .notAnObject)

end ApiGraph
