import Mathlib
import ApiGraph.Pattern.Validity
import ApiGraph.Normalization
import ApiGraph.Proofs.Validation.Acceptance

/-!
# Normal documents

What normalization accepts declares a supported version itself, so it is passed on as it is by
every further normalization, whatever version that one aims at and whether it upgrades or not.
-/

namespace ApiGraph

open Outcome Validation

variable {doc : Fields} {input out : Json} {options : NormalizeOptions}

theorem validate_eq_ok_iff [Pattern.Checker] {v : Json} {u : Unit} :
    validate v = .ok u ↔ issues v = [] := by
  rw [validate]
  cases issues v with
  | nil => exact iff_of_true rfl rfl
  | cons issue rest => exact iff_of_false (fun h => by cases h) (List.cons_ne_nil _ _)

/-- Normalization succeeds exactly on objects whose current shape is valid. -/
theorem normalize_eq_ok_iff [Pattern.Checker] : normalize options input = .ok out ↔
    ∃ doc, input = .obj doc ∧ upgraded options doc = .ok out ∧ issues out = [] := by
  cases input with
  | obj doc =>
    rw [normalize]
    simp only [bind_eq_ok_iff, mapError_eq_ok_iff, validate_eq_ok_iff]
    constructor
    · rintro ⟨normal, hnormal, _, hvalid, hreturn⟩
      cases hreturn
      exact ⟨doc, rfl, hnormal, hvalid⟩
    · rintro ⟨_, heq, hnormal, hvalid⟩
      cases heq
      exact ⟨out, hnormal, (), hvalid, rfl⟩
  | _ =>
    refine iff_of_false (fun h => by cases h) ?_
    rintro ⟨_, heq, _⟩
    cases heq

/-- A document is of the current version exactly if its `openapi` key says so. -/
theorem declaredVersion_eq_current_iff : declaredVersion doc = .ok .current ↔
    ∃ v, doc.get? "openapi" = some (.str v) ∧ isSupported v = true := by
  constructor
  · intro h
    unfold declaredVersion at h
    split at h
    · next v hv =>
      split at h
      · next hsupported => exact ⟨v, hv, hsupported⟩
      · cases h
    · cases h
    · split at h
      · split at h <;> cases h
      · cases h
  · rintro ⟨v, hv, hsupported⟩
    simp only [declaredVersion, hv, if_pos hsupported]

/-- A document without an `openapi` key is the only one that can be of the legacy version. -/
theorem get?_openapi_of_legacy (h : declaredVersion doc = .ok .legacy) :
    doc.get? "openapi" = none := by
  unfold declaredVersion at h
  split at h
  · split at h <;> cases h
  · cases h
  · next hnone => exact hnone

/-- What the current shape of a document can be. -/
theorem upgraded_eq_ok_iff : upgraded options doc = .ok out ↔
    (declaredVersion doc = .ok .current ∧ out = .obj doc) ∨
    (declaredVersion doc = .ok .legacy ∧ options.upgradeLegacy = true ∧
      out = Legacy.upgrade options.targetVersion doc) := by
  rw [upgraded, bind_eq_ok_iff]
  constructor
  · rintro ⟨version, hversion, hout⟩
    cases version with
    | current =>
      cases hout
      exact .inl ⟨hversion, rfl⟩
    | legacy =>
      dsimp only at hout
      split at hout
      · next hallowed =>
        cases hout
        exact .inr ⟨hversion, hallowed, rfl⟩
      · cases hout
  · rintro (⟨hversion, rfl⟩ | ⟨hversion, hallowed, rfl⟩)
    · exact ⟨.current, hversion, rfl⟩
    · refine ⟨.legacy, hversion, ?_⟩
      dsimp only
      rw [if_pos hallowed]
      rfl

/-- Where the `openapi` key is present, nothing is upgraded. -/
theorem eq_of_upgraded (hkey : (doc.get? "openapi").isSome = true)
    (h : upgraded options doc = .ok out) : out = .obj doc := by
  rcases upgraded_eq_ok_iff.mp h with ⟨_, hout⟩ | ⟨hlegacy, _⟩
  · exact hout
  · rw [get?_openapi_of_legacy hlegacy] at hkey
    cases hkey

/-- A valid document is normal: every normalization passes it on as it is. -/
theorem normalize_of_no_issues [Pattern.Checker] (h : issues input = []) :
    normalize options input = .ok input := by
  cases input with
  | obj doc =>
    have hcurrent := declaredVersion_eq_current_iff.mpr (issues_eq_nil_iff.mp h).version
    exact normalize_eq_ok_iff.mpr ⟨doc, rfl, upgraded_eq_ok_iff.mpr (.inl ⟨hcurrent, rfl⟩), h⟩
  | _ => cases h

/-- **Normalization is idempotent, and across options.** What one normalization returns, every other
returns unchanged, and it is the input itself where the input has an `openapi` key. -/
theorem normalize_normalized [Pattern.Checker] (o₁ o₂ : NormalizeOptions)
    (h : normalize o₁ input = .ok out) :
    normalize o₂ out = .ok out ∧ ((input.get? "openapi").isSome = true → out = input) := by
  obtain ⟨doc, rfl, hupgraded, hvalid⟩ := normalize_eq_ok_iff.mp h
  exact ⟨normalize_of_no_issues hvalid, fun hkey => eq_of_upgraded hkey hupgraded⟩

/-- A document with a definition that may be null. -/
def nullableDocument : Fields := [
  ("swagger", .str "2.0"),
  ("info", .obj [("title", .str "notes"), ("version", .str "1")]),
  ("definitions", .obj [("Note", .obj [("type", .str "string"), ("x-nullable", .bool true)])]),
  ("paths", .obj [("/notes", .obj [("get", .obj [("produces", .arr [.str "text/plain"]),
    ("responses", .obj [("200", .obj [("description", .str "all"),
      ("schema", .obj [("$ref", .str "#/definitions/Note")])])])])])])]

/-- The upgraded document is passed on by options that aim at no supported version and that forbid
every upgrade. -/
theorem normalize_normalized_of_nullableDocument :
    ∃ out, normalize {} (.obj nullableDocument) = .ok out ∧ out ≠ .obj nullableDocument ∧
      normalize ⟨"4.0", false⟩ out = .ok out ∧ (out.get? "openapi").isSome = true := by
  have hupgrade : Legacy.upgrade "3.0.0" nullableDocument = .obj
      [("openapi", .str "3.0.0"),
       ("paths", .obj [("/notes", .obj [("get", .obj [("responses", .obj [("200", .obj [
         ("description", .str "all"), ("content", .obj [("text/plain", .obj [
           ("schema", .obj [("$ref", .str "#/components/schemas/Note")])])])])])])])]),
       ("info", .obj [("title", .str "notes"), ("version", .str "1")]),
       ("components", .obj [("schemas", .obj [("Note", .obj [("type", .str "string"),
         ("nullable", .bool true)])])])] := rfl
  have hupgraded : upgraded {} nullableDocument = .ok (Legacy.upgrade "3.0.0" nullableDocument) :=
    upgraded_eq_ok_iff.mpr (.inr ⟨rfl, rfl, rfl⟩)
  rw [hupgrade] at hupgraded
  have hnormal := normalize_eq_ok_iff.mpr ⟨_, rfl, hupgraded, by cbv⟩
  refine ⟨_, hnormal, ?_, (normalize_normalized {} ⟨"4.0", false⟩ hnormal).1, rfl⟩
  simp [nullableDocument]

end ApiGraph
