import ApiGraph.Pattern.Validity
import ApiGraph.Proofs.Fragment.Objects
import ApiGraph.Proofs.Graph.Faults
import ApiGraph.Proofs.Validation.Acceptance
import ApiGraph.Proofs.Validation.Sufficiency

/-!
# Validated schemas are objects

Validation and the builder list the schemas below a schema separately. In a document without
references they come to the same positions, and what validation finds nothing in is an object, so
the builder does not come to a schema that is undefined.

They part at one keyword. Under `additionalProperties` validation looks at objects only, while the
builder takes everything for a schema that is no boolean. A text there, say, is passed over by the
one and undefined for the other, and nothing else ever is.
-/

namespace ApiGraph.Validation

theorem everyObject_of_schemaPosition {doc : Json} {P : Fields → Prop} (hdoc : doc.EveryObject P)
    {f : Fragment} (h : Declaration.SchemaPosition doc f) : f.value.EveryObject P :=
  h.keeps (P := fun f => f.value.EveryObject P) (fun _ _ hpart => hpart.everyObject) hdoc

/-! ### Documents without references -/

/-- An object without the key of references. -/
def ReferenceFree (fields : Fields) : Prop := "$ref" ∉ fields.map Prod.fst

section ReferenceFree

variable {doc : Json} {f g : Fragment}

theorem plain_of_referenceFree (h : f.value.EveryObject ReferenceFree) : Plain f := by
  rw [Plain]
  cases hv : f.value with
  | obj fields =>
    rw [hv] at h
    exact Fields.get?_eq_none_iff.mpr h.1
  | _ => rfl

/-- Without references, everything stands for itself. -/
theorem eq_of_referenceFree (h : f.value.EveryObject ReferenceFree)
    (hg : Reference.resolve doc f = .ok g) : g = f := by
  have hself : Reference.resolve doc f = .ok f := Reference.resolve_of_not_reference
    (Fragment.reference?_of_get?_eq_none (plain_of_referenceFree h))
  exact Except.ok.inj (hg.symm.trans hself)

variable (hdoc : doc.EveryObject ReferenceFree)
include hdoc

theorem isPathItem_of_isItem (h : Declaration.IsItem doc f) :
    IsPathItem doc f ∧ f.value.EveryObject ReferenceFree := by
  have hfree : f.value.EveryObject ReferenceFree :=
    h.keeps (P := fun f => f.value.EveryObject ReferenceFree) (fun _ _ hpart => hpart.everyObject)
      hdoc
  obtain ⟨map, name, raw, hmap, hmem, hitem⟩ := h
  have hraw : raw.value.EveryObject ReferenceFree := (Fragment.part_of_mem_fields hmem).everyObject
    ((Fragment.part_of_field? hmap).everyObject hdoc)
  cases eq_of_referenceFree hraw hitem
  exact ⟨⟨map, name, hmap, hmem⟩, hfree⟩

theorem isOperation_of_isOperation (h : Declaration.IsOperation doc f) :
    IsOperation doc f ∧ f.value.EveryObject ReferenceFree := by
  obtain ⟨item, method, raw, hitem, hraw, hop⟩ := h
  obtain ⟨hitem, hfree⟩ := isPathItem_of_isItem hdoc hitem
  have hrawFree := (Fragment.part_of_field? hraw).everyObject hfree
  cases eq_of_referenceFree hrawFree hop
  exact ⟨⟨item, method, hitem, plain_of_referenceFree hfree, hraw⟩, hrawFree⟩

omit hdoc in
theorem accepted_of_media [Pattern.Checker] (hissues : issues doc = []) {role : Role}
    (hrole : role ≠ .schema) {owner node : Fragment} (howner : Validated doc role owner)
    (hfree : owner.value.EveryObject ReferenceFree)
    (h : Declaration.HasMediaSchema doc owner node) : Accepted .schema node.value := by
  obtain ⟨mimeType, raw, field, rest, hraw, hnode, hfields⟩ := h
  have hplain := plain_of_referenceFree hfree
  obtain ⟨content, media, hcontent, hmedia, hschema⟩ := howner.content hissues hrole hplain hraw
  have hrawFree : raw.value.EveryObject ReferenceFree :=
    (Fragment.part_of_field? hschema).everyObject ((Fragment.part_of_mem_fields hmedia).everyObject
      ((Fragment.part_of_field? hcontent).everyObject hfree))
  cases eq_of_referenceFree hrawFree hnode
  exact howner.accepted_media hissues hrole hplain hcontent hmedia hschema (by rw [hfields]; rfl)

/-- The raw schemas of parameters, responses and request bodies have been found in order. -/
theorem accepted_of_schemaSource [Pattern.Checker] (hissues : issues doc = [])
    (h : Declaration.SchemaSource doc f) : Accepted .schema f.value := by
  cases h with
  | @parameter owner raw entry _ howner hraw hentry hschema =>
    obtain ⟨hholds, hfree⟩ : HoldsParameters doc owner ∧ owner.value.EveryObject ReferenceFree := by
      rcases howner with hitem | hop
      · obtain ⟨hitem, hfree⟩ := isPathItem_of_isItem hdoc hitem
        exact ⟨Or.inl ⟨hitem, plain_of_referenceFree hfree⟩, hfree⟩
      · obtain ⟨hop, hfree⟩ := isOperation_of_isOperation hdoc hop
        exact ⟨Or.inr hop, hfree⟩
    have hrawFree : raw.value.EveryObject ReferenceFree :=
      Declaration.keeps_of_mem_parameterEntries (P := fun f => f.value.EveryObject ReferenceFree)
        (fun _ _ hpart => hpart.everyObject) hraw hfree
    cases eq_of_referenceFree hrawFree hentry
    exact ((hholds.validated hissues).2 raw hraw).accepted_typed hissues
      (plain_of_referenceFree hrawFree) hschema
  | @response op map raw entry _ key hop hmap hmem hentry hmedia =>
    obtain ⟨hop, hfree⟩ := isOperation_of_isOperation hdoc hop
    have hrawFree := (Fragment.part_of_mem_fields hmem).everyObject
      ((Fragment.part_of_field? hmap).everyObject hfree)
    cases eq_of_referenceFree hrawFree hentry
    exact accepted_of_media hissues (by decide) (.answered hop hmap hmem) hrawFree hmedia
  | @body op raw entry _ hop hbody hentry hmedia =>
    obtain ⟨hop, hfree⟩ := isOperation_of_isOperation hdoc hop
    have hrawFree := (Fragment.part_of_field? hbody).everyObject hfree
    cases eq_of_referenceFree hrawFree hentry
    exact accepted_of_media hissues (by decide) (.requested hop hbody) hrawFree hmedia

/-- By induction on the way down from a raw schema: an object that has been found in order hands
this on to the schemas that it holds, with the one exception. -/
theorem accepted_or_stray_of_schemaPosition [Pattern.Checker] (hissues : issues doc = [])
    (h : Declaration.SchemaPosition doc f) :
    Accepted .schema f.value ∨
      ∃ owner, Declaration.SchemaPosition doc owner ∧ IsStray owner f := by
  obtain ⟨source, hsource, hreached⟩ := h
  induction hreached with
  | start => exact Or.inl (accepted_of_schemaSource hdoc hissues hsource)
  | @down position node child hposition hopens hchild ih =>
    have hat : Declaration.SchemaPosition doc position := ⟨source, hsource, hposition⟩
    have hfree := everyObject_of_schemaPosition hdoc hat
    obtain ⟨hnode, fields, hfields⟩ := hopens
    cases eq_of_referenceFree hfree hnode
    rcases ih with haccepted | ⟨_, _, _, _, hobj⟩
    · obtain ⟨fields, location, hfields, hnil⟩ :=
        haccepted.fieldIssues_eq_nil (plain_of_referenceFree hfree)
      have hholds := holdsSchemas_of_schemaFieldIssues hnil
      exact (hholds.of_mem_positions hfields hchild).imp_right
        fun hstray => ⟨position, hat, hstray⟩
    · rw [hfields] at hobj
      cases hobj

end ReferenceFree

/-! ### What is reported as undefined -/

/-- **Validated schemas are objects.**  In a document without references in which validation finds
nothing, every position that the builder takes for a schema holds an object, unless it stands under
`additionalProperties` of another one as neither an object nor a boolean. If nothing does so, no
schema is reported as undefined. -/
theorem schemas_defined_of_no_issues [Pattern.Checker] {doc : Json}
    (hdoc : doc.EveryObject ReferenceFree) (hissues : issues doc = []) :
    (∀ f, Declaration.SchemaPosition doc f → f.value.isObj = true ∨
      ∃ owner, Declaration.SchemaPosition doc owner ∧ IsStray owner f) ∧
    ((∀ owner f, Declaration.SchemaPosition doc owner → ¬ IsStray owner f) →
      ∀ l, Graph.ofDocument doc ≠ .error (.undefinedSchema l)) := by
  have hobject : ∀ f, Declaration.SchemaPosition doc f → f.value.isObj = true ∨
      ∃ owner, Declaration.SchemaPosition doc owner ∧ IsStray owner f :=
    fun f hf => (accepted_or_stray_of_schemaPosition hdoc hissues hf).imp_left Accepted.isObj
  refine ⟨hobject, fun hnone l hundefined => ?_⟩
  obtain ⟨position, node, hposition, hnode, hobj⟩ := Graph.position_of_undefined hundefined
  have hfree := everyObject_of_schemaPosition hdoc hposition
  cases eq_of_referenceFree hfree hnode
  rcases hobject position hposition with htrue | ⟨owner, howner, hstray⟩
  · rw [hobj] at htrue
    cases htrue
  · exact hnone owner position howner hstray

/-- A document in which `additionalProperties` is an object once and a boolean once, and in which a
content type has a text for a schema. -/
theorem schemas_defined_of_mapDocument :
    let labels : Json := .obj [("additionalProperties", .obj [("type", .str "string")]),
      ("properties", .obj [("tags", .obj [("additionalProperties", .bool false)])])]
    let op : Json := .obj [
      ("parameters", .arr [.obj
        [("name", .str "labels"), ("in", .str "query"), ("schema", labels)]]),
      ("responses", .obj [("200", .obj [("description", .str "found"),
        ("content", .obj [("text/plain", .obj [("schema", .str "text")])])])])]
    let doc : Json := .obj [("openapi", .str "3.0.0"),
      ("info", .obj [("title", .str "maps"), ("version", .str "1")]),
      ("paths", .obj [("/maps", .obj [("get", op)])])]
    issues doc = [] ∧ (∀ f, Declaration.SchemaPosition doc f → f.value.isObj = true) ∧
      ∀ l, Graph.ofDocument doc ≠ .error (.undefinedSchema l) := by
  intro labels op doc
  have hfree : doc.EveryObject ReferenceFree := by
    simp [doc, op, labels, Json.EveryObject, Json.EveryObjectOfFields, Json.EveryObjectOfItems,
      ReferenceFree]
  have hissues : issues doc = [] := by
    subst doc op labels
    cbv
  have hclosed : doc.EveryObject fun fields => (Fields.get? "additionalProperties" fields).all
      (fun v => v.bool?.isSome || v.isObj) = true := by
    simp [doc, op, labels, Json.EveryObject, Json.EveryObjectOfFields, Json.EveryObjectOfItems,
      Fields.get?, Json.isObj, Json.bool?, Json.fields?]
  have hnone : ∀ owner f, Declaration.SchemaPosition doc owner → ¬ IsStray owner f := by
    rintro owner f howner ⟨hfield, hbool, hobj⟩
    have howner := everyObject_of_schemaPosition hclosed howner
    obtain ⟨fields, hfields, hget⟩ := Fragment.exists_obj_of_field? hfield
    rw [hfields] at howner
    have hall := howner.1
    simp [hget, hbool, hobj] at hall
  obtain ⟨hobject, hdefined⟩ := schemas_defined_of_no_issues hfree hissues
  refine ⟨hissues, fun f hf => (hobject f hf).resolve_right ?_, hdefined hnone⟩
  rintro ⟨owner, howner, hstray⟩
  exact hnone owner f howner hstray

/-- The exception is real: a schema below which something is passed over does not resolve. -/
theorem not_resolved_of_stray {doc : Json} {raw position owner f : Fragment}
    (hposition : TypeSchema.Reached doc raw position) (hopens : TypeSchema.Opens doc position owner)
    (hstray : IsStray owner f) (location : String) (s : TypeSchema) :
    TypeSchema.resolve doc raw location ≠ .ok s := by
  intro h
  obtain ⟨hfield, hbool, hobj⟩ := hstray
  have hmem : f ∈ TypeSchema.positions owner :=
    TypeSchema.mem_positions_iff.mpr (Or.inr (Or.inr (Or.inr ⟨hfield, hbool⟩)))
  obtain ⟨node, hnode, fields, hfields⟩ :=
    TypeSchema.opens_of_reached (hposition.down hopens hmem) h
  have href : f.value.reference? = none := by
    cases hv : f.value with
    | obj fields =>
      rw [hv] at hobj
      cases hobj
    | _ => rfl
  rw [Reference.resolve_of_not_reference href] at hnode
  cases hnode
  rw [hfields] at hobj
  cases hobj

end ApiGraph.Validation
