import Mathlib
import ApiGraph.Pattern.Validity
import ApiGraph.Proofs.Graph.Faults
import ApiGraph.Proofs.Validation.Positions

/-!
# Structural faults

The builder checks the outer structure of a document again while it reads it: that the paths, each
path item, each operation and each map of responses is an object, that a list of parameters is one,
and that the keys of responses are status keys. Validation has checked the same at every position
at which it stands, so in a document without issues these checks of the builder never fail, as long
as path items and operations are not taken from elsewhere by reference. Then the builder fails only
at references, at parameters and at schemas.

Schemas are refused for the same kind of reason. Their faults are told apart by location, which is
deeper in the document than any part of its structure.
-/

namespace ApiGraph.Validation

open Outcome

/-- A fault of the outer structure of a document. -/
inductive Structural : Fault → Prop
  | paths : Structural (.invalidInput (.expectedObject "#/paths"))
  | item (path : String) :
      Structural (.invalidInput (.expectedObject (Pointer.child "#/paths" path)))
  | operation (path : String) (method : Method) : Structural (.invalidInput (.expectedObject
      (Pointer.child (Pointer.child "#/paths" path) method.name)))
  | responses (path : String) (method : Method) : Structural (.invalidInput (.expectedObject
      (Pointer.child (Pointer.child (Pointer.child "#/paths" path) method.name) "responses")))
  | parameters (location : String) : Structural (.invalidInput (.expectedArray location))
  | responseKey (location key : String) :
      Structural (.invalidInput (.invalidResponseKey location key))

/-- The deepest object of the structure is a map of responses. -/
theorem Structural.depth_le {l : String} (h : Structural (.invalidInput (.expectedObject l))) :
    Pointer.depth l ≤ 4 := by
  have hpaths : Pointer.depth "#/paths" = 1 := rfl
  cases h <;> simp only [Pointer.depth_child, hpaths] <;> omega

section Stages

variable {doc : Json} {e : Fault} {location : String}

theorem not_structural_of_reference {f : Fragment} (h : Reference.resolve doc f = .error e) :
    ¬ Structural e := by
  intro hstructural
  obtain ⟨_, rfl | rfl⟩ := Reference.fault_of_resolve h <;> cases hstructural

/-- The faults of a schema lie deeper than the structure, if the schema does not stand above its
deepest object. -/
theorem not_structural_of_schema {f : Fragment} (hdepth : 4 ≤ Pointer.depth location)
    (h : TypeSchema.resolve doc f location = .error e) : ¬ Structural e := by
  intro hstructural
  obtain ⟨cause, rfl⟩ : ∃ cause, e = .invalidInput cause := by
    cases hstructural <;> exact ⟨_, rfl⟩
  obtain ⟨l, hbelow, hown⟩ := TypeSchema.cause_of_resolveBelow h
  dsimp only at hbelow
  cases hown with
  | keyword shape => cases hstructural
  | properties =>
    have hle := hstructural.depth_le
    rw [Pointer.depth_child] at hle
    omega

theorem not_structural_of_parameter {p : PendingParameter} (hdepth : 3 ≤ Pointer.depth p.location)
    (h : Declaration.parameter doc p = .error e) : ¬ Structural e := by
  obtain ⟨_, _, hschema⟩ := Declaration.fault_of_parameter h
  refine not_structural_of_schema ?_ hschema
  rw [Pointer.depth_child]
  omega

theorem not_structural_of_content {raw : Fragment} (hdepth : 1 ≤ Pointer.depth location)
    (h : Declaration.ContentFails doc raw location e) : ¬ Structural e := by
  rcases h with href | ⟨_, _, _, hmedia⟩
  · exact not_structural_of_reference href
  · rcases Declaration.fault_of_mediaSchema hmedia with ⟨_, _, href⟩ | ⟨_, _, hschema⟩
    · exact not_structural_of_reference href
    · refine not_structural_of_schema ?_ hschema
      simp only [Pointer.depth_child]
      omega

variable [Pattern.Checker] (hissues : issues doc = [])
include hissues

theorem not_structural_of_readParameters {owner : Fragment} (howner : HoldsParameters doc owner)
    (h : Declaration.readParameters doc owner location = .error e) : ¬ Structural e := by
  intro hstructural
  rcases Declaration.fault_of_readParameters h with ⟨_, _, href⟩ | ⟨_, _, rfl⟩ | ⟨_, _, _, rfl⟩ |
    ⟨list, hlist, hitems, _⟩
  · exact not_structural_of_reference href hstructural
  · cases hstructural
  · cases hstructural
  · obtain ⟨fields, _, hfields, hparameters⟩ := howner.parametersIssues_eq_nil hissues
    obtain ⟨_, hobj, hget⟩ := Fragment.exists_obj_of_field? hlist
    cases hfields.symm.trans hobj
    obtain ⟨items, harray, _⟩ := parametersIssues_eq_nil hparameters hget
    rw [harray] at hitems
    cases hitems

theorem not_structural_of_responses {op : Fragment} (hop : IsOperation doc op)
    (h : Declaration.responses doc op location = .error e) : ¬ Structural e := by
  obtain ⟨_, hchecked⟩ := hop.operationIssues_eq_nil hissues
  obtain ⟨fields, hfields, _, _, hresponses⟩ := operationIssues_eq_nil hchecked
  obtain ⟨entries, hentries, hall⟩ := responsesIssues_eq_nil hresponses
  obtain ⟨map, hmap, hcase⟩ := Declaration.fault_of_responses h
  obtain ⟨_, hobj, hget⟩ := Fragment.exists_obj_of_field? hmap
  cases hfields.symm.trans hobj
  have hvalue : map.value = .obj entries := Option.some.inj (hget.symm.trans hentries)
  rcases hcase with ⟨hnot, _⟩ | ⟨key, raw, hmem, hresponse⟩
  · rw [hvalue] at hnot
    cases hnot
  · rcases Declaration.fault_of_response hresponse with ⟨hkey, _⟩ | hcontent
    · obtain ⟨_, v, hv, hin, rfl⟩ := Fragment.mem_fields_iff.mp hmem
      cases hvalue.symm.trans hv
      have hsome := (hall key v hin).1
      rw [hkey] at hsome
      cases hsome
    · exact not_structural_of_content (by simp) hcontent

/-- An operation that stands for itself is read without a structural fault. -/
theorem not_structural_of_operation {shared : List PendingParameter} {method : Method}
    {raw : Fragment} (hop : IsOperation doc raw) (hinline : raw.value.reference? = none)
    (hdepth : 1 ≤ Pointer.depth location) (hshared : ∀ p ∈ shared, 3 ≤ Pointer.depth p.location)
    (h : Declaration.operation doc shared location method raw = .error e) : ¬ Structural e := by
  rcases Declaration.fault_of_operation h with href | ⟨op, hresolved, hcase⟩
  · exact not_structural_of_reference href
  rw [Reference.resolve_of_not_reference hinline] at hresolved
  cases hresolved
  rcases hcase with ⟨hnot, _⟩ | hown | ⟨own, p, hown, hp, hparameter⟩ | hresponses | hbodies
  · obtain ⟨_, hchecked⟩ := hop.operationIssues_eq_nil hissues
    obtain ⟨fields, hfields, _⟩ := operationIssues_eq_nil hchecked
    rw [hfields] at hnot
    cases hnot
  · exact not_structural_of_readParameters hissues (Or.inr hop) hown
  · refine not_structural_of_parameter ?_ hparameter
    rcases List.mem_append.mp hp with hmem | hmem
    · obtain ⟨i, hlocation⟩ := Declaration.location_of_mem_readParameters hown hmem
      rw [hlocation, Pointer.depth_item, Pointer.depth_child]
      omega
    · exact hshared p (List.mem_of_mem_filter hmem)
  · exact not_structural_of_responses hissues hop hresponses
  · obtain ⟨_, _, hcontent⟩ := Declaration.fault_of_bodies hbodies
    exact not_structural_of_content (by simp) hcontent

/-- **Validation covers the structure that the builder checks.** A document without issues, in which
neither a path item nor an operation is a reference, fails to be built only for other reasons. -/
theorem not_structural_of_no_issues
    (hitems : ∀ item, IsPathItem doc item → item.value.reference? = none)
    (hoperations : ∀ op, IsOperation doc op → op.value.reference? = none)
    (h : Graph.ofDocument doc = .error e) : ¬ Structural e := by
  obtain ⟨map, hmap, hobj⟩ := exists_paths hissues
  obtain ⟨root, rfl, _⟩ := exists_root hissues
  obtain ⟨_, hmap', ⟨hnot, _⟩ | ⟨name, raw, hmem, hpath⟩⟩ :=
    Declaration.fault_of_paths (map_eq_error_iff.mp h)
  all_goals cases hmap.symm.trans hmap'
  · rw [hobj] at hnot
    cases hnot
  have hitem : IsPathItem (.obj root) raw := ⟨map, name, hmap, hmem⟩
  have hinline := hitems raw hitem
  rcases Declaration.fault_of_path hpath with href | ⟨item, hresolved, hcase⟩
  · exact not_structural_of_reference href
  rw [Reference.resolve_of_not_reference hinline] at hresolved
  cases hresolved
  obtain ⟨fields, hfields, hplain⟩ := hitem.fields hissues
  have hplain : Plain raw := by
    rcases hplain with ⟨pointer, href⟩ | ⟨hplain, _⟩
    · rw [Json.reference?, hfields, Json.strAt?, Json.get?, href] at hinline
      cases hinline
    · exact hplain
  rcases hcase with ⟨hnot, _⟩ | hshared | ⟨shared, method, declared, hshared, hdeclared, hoperation⟩
  · rw [hfields] at hnot
    cases hnot
  · exact not_structural_of_readParameters hissues (Or.inl ⟨hitem, hplain⟩) hshared
  · have hop : IsOperation (.obj root) declared := ⟨raw, method, hitem, hplain, hdeclared⟩
    refine not_structural_of_operation hissues hop (hoperations declared hop) (by simp) ?_
      hoperation
    intro p hp
    obtain ⟨i, hlocation⟩ := Declaration.location_of_mem_readParameters hshared hp
    simp only [hlocation, Pointer.depth_item, Pointer.depth_child]
    omega

end Stages

/-- A valid document with a parameter whose schema stands where validation does not look. The
properties there are no object. -/
def outlyingDocument : Json := .obj [
  ("openapi", .str "3.0.0"),
  ("info", .obj [("title", .str "Outlying"), ("version", .str "1")]),
  ("paths", .obj [("/a", .obj [("get", .obj [
    ("parameters", .arr [.obj [("name", .str "n"), ("in", .str "query"),
      ("schema", .obj [("$ref", .str "#/x-shared")])]]),
    ("responses", .obj [])])])]),
  ("x-shared", .obj [("properties", .str "none")])]

/-- The one fault of that document is a missing object too, but in a schema. -/
theorem not_structural_of_outlyingDocument :
    issues outlyingDocument = [] ∧ ∃ e, Graph.ofDocument outlyingDocument = .error e ∧
      e = .invalidInput (.expectedObject "#/paths/~1a/get/parameters/0/schema/properties") ∧
      ¬ Structural e := by
  have hissues : issues outlyingDocument = [] := by cbv
  have hitem : ∀ item, IsPathItem outlyingDocument item →
      (Fragment.ofDocument outlyingDocument).walk? ["paths", "/a"] = some item := by
    rintro item ⟨paths, name, hpaths, hmem⟩
    cases hpaths
    cases hmem with
    | head => rfl
    | tail _ h => cases h
  have hfault : Graph.ofDocument outlyingDocument = .error (.invalidInput
      (.expectedObject "#/paths/~1a/get/parameters/0/schema/properties")) := by
    cbv
  refine ⟨hissues, _, hfault, rfl, not_structural_of_no_issues hissues ?items ?operations hfault⟩
  case items =>
    intro item h
    cases hitem item h
    rfl
  case operations =>
    rintro op ⟨item, method, h, _, hop⟩
    cases hitem item h
    cases method <;> cases hop
    rfl

end ApiGraph.Validation
