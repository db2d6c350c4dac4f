import ApiGraph.Proofs.Legacy.Content
import ApiGraph.Proofs.Legacy.Sorting
import ApiGraph.Proofs.Reference.Chain
import ApiGraph.Proofs.Reference.Pointer
import ApiGraph.Proofs.Validation.Positions

/-!
# Moved parts

The shared parts of a 2.0 document stand, converted, in the sections of the components. A form
parameter is moved nowhere, since its operations take it into their bodies.

A text that leads to the name of a part leads there in the new document too, behind the new
beginning of its pointer, so the part may be found by any spelling of its name. Only a name that
is the extension is lost when the keywords are rewritten.
-/

namespace ApiGraph.Legacy

open Json Validation

/-! ### Sections -/

theorem get?_sharedEntries_iff {doc : Fields} {key name : String} {v : Json} :
    (sharedEntries doc key).get? name = some v ↔
      ∃ entries : Fields, doc.get? key = some (.obj entries) ∧ entries.get? name = some v := by
  rw [sharedEntries]
  cases doc.get? key with
  | none => simp [Fields.get?]
  | some w => cases w <;> simp [Json.fields?, Fields.get?]

theorem sharedEntries_ifAny (key : String) (entries : Fields) :
    sharedEntries (ifAny key entries) key = entries := by
  cases entries with
  | nil => rfl
  | cons entry rest =>
    rw [sharedEntries, show ifAny key (entry :: rest) = [(key, .obj (entry :: rest))] from rfl]
    simp [Fields.get?, Json.fields?]

theorem sharedEntries_components {around : Surroundings} {doc : Fields} {name : String}
    {part : Fields} (hpart : (name, part) ∈ componentSections around doc) :
    sharedEntries (components around doc) name = sharedEntries part name := by
  rw [sharedEntries, get?_components hpart, sharedEntries]

theorem sharedEntries_sharedResponses (around : Surroundings) (doc : Fields) :
    sharedEntries (sharedResponses around doc) "responses" =
      (sharedEntries doc "responses").map fun (name, v) =>
        (name, convertResponse (effective around.produces) v) := by
  rw [sharedResponses, sharedEntries, sharedEntries]
  cases doc.get? "responses" with
  | none => rfl
  | some v => cases v <;> rfl

/-! ### Parts -/

/-- What stands under a name in the section of a role, once it has been moved there. -/
inductive Moved (doc : Fields) : Role → String → Json → Prop
  | definition {name : String} {v : Json}
      (hv : (sharedEntries doc "definitions").get? name = some v) : Moved doc .schema name v
  | parameter {name : String} {v : Json}
      (hv : (sharedEntries doc "parameters").get? name = some v) (hplain : isPlain v = true) :
      Moved doc .parameter name (convertParameter v)
  | body {name : String} {v : Json} (hv : (sharedEntries doc "parameters").get? name = some v)
      (hbody : carrierOf v = some "body") :
      Moved doc .body name (requestBody (surroundings doc).consumes v)
  | response {name : String} {v : Json}
      (hv : (sharedEntries doc "responses").get? name = some v) :
      Moved doc .response name (convertResponse (effective (surroundings doc).produces) v)

section Parts

variable {doc : Fields} {role : Role} {name : String} {w : Json}

/-- The sections of the components hold the moved parts and nothing else. -/
theorem moved_iff (hdoc : (obj doc).WellFormed) : Moved doc role name w ↔
    (sharedEntries (components (surroundings doc) doc) role.sectionName).get? name = some w := by
  have hnodup := (wellFormed_sharedEntries hdoc "parameters").1
  cases role with
  | schema =>
    rw [sharedEntries, Role.sectionName, get?_components_schemas]
    constructor
    · intro h
      cases h with
      | definition hv => exact hv
    · exact .definition
  | parameter =>
    have hsection : sharedEntries (components (surroundings doc) doc) "parameters" =
        (plainParameters doc).map fun (name, v) => (name, convertParameter v) :=
      (sharedEntries_components (by simp [componentSections])).trans (sharedEntries_ifAny _ _)
    have hfilter : (plainParameters doc).get? name =
        ((sharedEntries doc "parameters").get? name).filter isPlain :=
      Fields.get?_filter (p := isPlain) hnodup
    rw [Role.sectionName, hsection, Fields.get?_map fun _ => convertParameter, hfilter,
      Option.map_eq_some_iff]
    constructor
    · intro h
      cases h with
      | parameter hv hplain => exact ⟨_, Option.filter_eq_some_iff.mpr ⟨hv, hplain⟩, rfl⟩
    · rintro ⟨v, hv, rfl⟩
      obtain ⟨hv, hplain⟩ := Option.filter_eq_some_iff.mp hv
      exact .parameter hv hplain
  | body =>
    have hsection : sharedEntries (components (surroundings doc) doc) "requestBodies" =
        (sharedBodies doc).map fun (name, v) =>
          (name, requestBody (surroundings doc).consumes v) :=
      (sharedEntries_components (by simp [componentSections])).trans (sharedEntries_ifAny _ _)
    have hfilter : (sharedBodies doc).get? name =
        ((sharedEntries doc "parameters").get? name).filter fun v => carrierOf v == some "body" :=
      Fields.get?_filter (p := fun v => carrierOf v == some "body") hnodup
    rw [Role.sectionName, hsection,
      Fields.get?_map fun _ => requestBody (surroundings doc).consumes, hfilter,
      Option.map_eq_some_iff]
    constructor
    · intro h
      cases h with
      | body hv hbody =>
        exact ⟨_, Option.filter_eq_some_iff.mpr ⟨hv, beq_iff_eq.mpr hbody⟩, rfl⟩
    · rintro ⟨v, hv, rfl⟩
      obtain ⟨hv, hbody⟩ := Option.filter_eq_some_iff.mp hv
      exact .body hv (beq_iff_eq.mp hbody)
  | response =>
    have hsection : sharedEntries (components (surroundings doc) doc) "responses" =
        (sharedEntries doc "responses").map fun (name, v) =>
          (name, convertResponse (effective (surroundings doc).produces) v) :=
      (sharedEntries_components (by simp [componentSections])).trans
        (sharedEntries_sharedResponses _ _)
    rw [Role.sectionName, hsection,
      Fields.get?_map fun _ => convertResponse (effective (surroundings doc).produces),
      Option.map_eq_some_iff]
    constructor
    · intro h
      cases h with
      | response hv => exact ⟨_, hv, rfl⟩
    · rintro ⟨v, hv, rfl⟩
      exact .response hv

theorem moved_of_mem_components (hdoc : (obj doc).WellFormed) {entries : Fields}
    (hentries : Fields.get? role.sectionName (components (surroundings doc) doc) =
      some (.obj entries)) (hw : (name, w) ∈ entries) : Moved doc role name w := by
  have hwf := (wellFormed_components hdoc).get?
    (v := .obj (components (surroundings doc) doc)) hentries
  exact (moved_iff hdoc).mpr (get?_sharedEntries_iff.mpr
    ⟨entries, hentries, (Fields.get?_eq_some_iff hwf.1).mpr hw⟩)

/-! ### Pointers to parts -/

theorem retarget_component (name key : String) :
    retarget (Pointer.component name key) = Pointer.component name key := by
  have hchars : (Pointer.component name key).toList =
      "#/components/".toList ++ (name ++ "/" ++ key).toList := by
    simp [Pointer.component]
  rw [retarget, hchars]
  rfl

/-- A moved part stands where the new pointer leads. -/
theorem Moved.walk? (version : String) (hdoc : (obj doc).WellFormed) (h : Moved doc role name w)
    (hname : name ≠ "x-nullable") : ∃ place, (Fragment.ofDocument (upgrade version doc)).walk?
      ["components", role.sectionName, name] = some ⟨place, retargetField name (modernize w)⟩ := by
  obtain ⟨entries, hsection, hw⟩ := get?_sharedEntries_iff.mp ((moved_iff hdoc).mp h)
  have hcomponents : Fields.get? "components" (assembled version doc) =
      some (.obj (components (surroundings doc) doc)) := by
    have hany : (components (surroundings doc) doc).isEmpty = false := by
      cases hcomponents : components (surroundings doc) doc with
      | nil =>
        rw [hcomponents] at hsection
        cases hsection
      | cons _ _ => rfl
    rw [assembled, get?_withValue_self]
    simp only [hany]
    rfl
  have hrole : role.sectionName ≠ "x-nullable" := by
    cases role <;> decide
  have hwf : (obj (components (surroundings doc) doc)).WellFormed := wellFormed_components hdoc
  have hwfSection := hwf.get? (v := .obj (components (surroundings doc) doc)) hsection
  have hfirst := get?_modernize_of_get? (wellFormed_assembled hdoc).1 (by decide) hcomponents
  have hsecond := get?_modernize_of_get? hwf.1 hrole hsection
  have hthird := get?_modernize_of_get? hwfSection.1 hname hw
  refine ⟨⟨.document, [.key "components", .key role.sectionName, .key name]⟩, ?_⟩
  rw [Fragment.walk?_of_get? hfirst, Fragment.walk?_of_get? hsecond, Fragment.walk?_of_get? hthird]
  rfl

theorem Moved.wellFormed (hdoc : (obj doc).WellFormed) (h : Moved doc role name w) :
    w.WellFormed := by
  obtain ⟨entries, hsection, hw⟩ := get?_sharedEntries_iff.mp ((moved_iff hdoc).mp h)
  have hwf := (wellFormed_components hdoc).get?
    (v := .obj (components (surroundings doc) doc)) hsection
  exact hwf.get? (v := .obj entries) hw

/-- A new pointer leads to the part that its text names, unless this is a reference itself. -/
theorem Moved.leads (version : String) (hdoc : (obj doc).WellFormed) (h : Moved doc role name w)
    (hname : name ≠ "x-nullable") {text : String} (htext : Pointer.segments text = [name])
    (hend : w.reference? = none) : ∃ place, Reference.Leads (upgrade version doc)
      (Pointer.component role.sectionName text) ⟨place, retargetField name (modernize w)⟩ := by
  obtain ⟨place, hwalk⟩ := h.walk? version hdoc hname
  have hrole : Pointer.IsLiteral role.sectionName := by
    cases role <;> simp [Role.sectionName, Pointer.IsLiteral]
  refine ⟨place, Pointer.isLocal_component _ _, ?_, ?_⟩
  · rw [Pointer.keys_component hrole text, htext]
    exact hwalk
  · show (retargetField name (modernize w)).reference? = none
    rw [Fragment.reference?_of_get?_eq (get?_retargetField name (modernize w) "$ref"),
      reference?_modernize (h.wellFormed hdoc), hend]
    rfl

end Parts

end ApiGraph.Legacy
