import ApiGraph.Proofs.Legacy.Paths

/-!
# Converted bodies and responses

What can be looked up in a body or a response when it has been converted, and where the
conversions stand in an operation. A content object has one entry for each content type,
in the order in which they came first, however often they came.
-/

namespace ApiGraph.Legacy

open Json

/-! ### Content -/

theorem mem_contentOf {mimes : List String} {media : String → Json} {content : Fields}
    (h : contentOf mimes media = .obj content) {mime : String} {v : Json}
    (hv : (mime, v) ∈ content) : v = media mime := by
  cases h
  obtain ⟨_, _, heq⟩ := List.mem_map.mp (Fields.mem_ofList hv)
  cases heq
  rfl

theorem keys_contentOf {mimes : List String} {media : String → Json} {content : Fields}
    (h : contentOf mimes media = .obj content) : content.map Prod.fst = mimes.eraseDups := by
  cases h
  rw [Fields.keys_ofList, List.map_map]
  congr 1
  exact List.map_id mimes

theorem contentOf_ne_nil {mimes : List String} {media : String → Json} {content : Fields}
    (h : contentOf mimes media = .obj content) (hsome : mimes ≠ []) : content ≠ [] := by
  rintro rfl
  obtain ⟨mime, rest, rfl⟩ := List.exists_cons_of_ne_nil hsome
  have hkeys := keys_contentOf h
  rw [List.eraseDups_cons] at hkeys
  cases hkeys

theorem effective_ne_nil (mimes : List String) : effective mimes ≠ [] := by
  rw [effective]
  split
  · exact List.cons_ne_nil _ _
  · next hsome => exact mt List.isEmpty_iff.mpr hsome

theorem get?_kept_of_ne {fields : Fields} {key other : String} (h : other ≠ key) :
    Fields.get? other (kept fields key) = none :=
  get?_section_of_ne (keys_kept_sublist fields key) h

theorem get?_kept_self (fields : Fields) (key : String) :
    Fields.get? key (kept fields key) = fields.get? key := by
  rw [kept]
  cases hget : Fields.get? key fields with
  | none => rfl
  | some v => exact if_pos rfl

/-! ### Form fields -/

theorem get?_inlineSchema {fields : Fields} (key : String) : Fields.get? key (inlineSchema fields) =
    if key ∈ schemaKeywords then fields.get? key else none := by
  have hnodup : ((inlineSchema fields).map Prod.fst).Nodup :=
    .sublist (keys_inlineSchema_sublist fields) (by decide)
  apply Option.ext
  intro v
  rw [Fields.get?_eq_some_iff hnodup, mem_inlineSchema_iff]
  by_cases hk : key ∈ schemaKeywords <;> simp [hk]

/-- What the conversion puts into the schema of a form field is under three keys. -/
theorem get?_fieldSchema {fields : Fields} {key : String}
    (hkey : key ∉ ["type", "format", "description"]) :
    Fields.get? key (withoutFileType (inlineSchema fields) ++ kept fields "description") =
      Fields.get? key (inlineSchema fields) := by
  simp only [List.mem_cons, List.not_mem_nil, or_false, not_or] at hkey
  obtain ⟨htype, hformat, hdescription⟩ := hkey
  rw [Fields.get?_append, get?_kept_of_ne hdescription, Option.or_none, withoutFileType]
  split
  · rw [Fields.get?_insert_of_ne (Ne.symm hformat), Fields.get?_insert_of_ne (Ne.symm htype)]
  · rfl

/-- The object schema of a form. -/
def formSchema (properties : Fields) (required : List Json) : Fields :=
  [("type", .str "object"), ("properties", .obj properties)] ++
    if required.isEmpty then [] else [("required", .arr required)]

theorem get?_formSchema_of_not_mem {properties : Fields} {required : List Json} {key : String}
    (hkey : key ∉ ["type", "properties", "required"]) :
    Fields.get? key (formSchema properties required) = none := by
  refine Fields.get?_eq_none_iff.mpr fun hmem => hkey ?_
  cases required with
  | nil => exact List.mem_append_left ["required"] hmem
  | cons name rest => exact hmem

theorem get?_properties_formSchema (properties : Fields) (required : List Json) :
    Fields.get? "properties" (formSchema properties required) = some (.obj properties) := rfl

/-- The content type of a form. -/
def formMime (consumes : List String) : String :=
  if multipart ∈ consumes then multipart else urlEncoded

theorem formMime_ne (consumes : List String) : formMime consumes ≠ "x-nullable" := by
  rw [formMime]
  split <;> decide

/-- The properties of a form, one for each name that a field has. -/
def formProperties (form : List Json) : Fields :=
  Fields.ofList ((form.filterMap formField?).map fun f => (f.name, f.schema))

/-- The names of the required fields of a form. -/
def formRequired (form : List Json) : List Json :=
  ((form.filterMap formField?).filter (·.required)).map fun f => .str f.name

/-- A form is a body with one content type, whose schema has the form fields as properties. -/
theorem formBody_eq (consumes : List String) (form : List Json) :
    formBody consumes form = .obj [("content", .obj [(formMime consumes,
      .obj [("schema", .obj (formSchema (formProperties form) (formRequired form)))])])] := rfl

theorem exists_of_mem_formProperties {form : List Json} {name : String} {w : Json}
    (h : (name, w) ∈ formProperties form) :
    ∃ v ∈ form, ∃ field, formField? v = some field ∧ field.name = name ∧ field.schema = w := by
  obtain ⟨field, hfield, heq⟩ := List.mem_map.mp (Fields.mem_ofList h)
  obtain ⟨v, hv, hsome⟩ := List.mem_filterMap.mp hfield
  cases heq
  exact ⟨v, hv, field, hsome, rfl, rfl⟩

theorem isStr_of_mem_formRequired {form : List Json} {v : Json} (h : v ∈ formRequired form) :
    v.isStr = true := by
  obtain ⟨field, _, rfl⟩ := List.mem_map.mp h
  rfl

/-! ### Bodies and responses -/

/-- The schema of a body parameter, which may be left out. -/
def bodySchema (fields : Fields) : Json := (fields.get? "schema").getD (.obj [])

theorem get?_requestBody (consumes : List String) (fields : Fields) (key : String) :
    (requestBody consumes (.obj fields)).get? key =
      if key = "content" then
        some (contentOf (effective consumes) fun _ => .obj [("schema", bodySchema fields)])
      else if key ∈ ["description", "required"] then fields.get? key else none := by
  simp only [requestBody, Json.get?]
  rw [Fields.get?_append, Fields.get?_append]
  by_cases hcontent : key = "content"
  · subst hcontent
    rw [get?_kept_of_ne (by decide), get?_kept_of_ne (by decide), if_pos rfl]
    rfl
  rw [if_neg hcontent, Fields.get?, if_neg (Ne.symm hcontent), Fields.get?, Option.or_none]
  by_cases hdescription : key = "description"
  · subst hdescription
    rw [get?_kept_self, get?_kept_of_ne (by decide), Option.or_none, if_pos (by decide)]
  by_cases hrequired : key = "required"
  · subst hrequired
    rw [get?_kept_self, get?_kept_of_ne (by decide), Option.none_or, if_pos (by decide)]
  · rw [get?_kept_of_ne hdescription, get?_kept_of_ne hrequired,
      if_neg (by simp [hdescription, hrequired])]
    rfl

theorem get?_content_requestBody (consumes : List String) (fields : Fields) :
    (requestBody consumes (.obj fields)).get? "content" =
      some (contentOf (effective consumes) fun _ => .obj [("schema", bodySchema fields)]) := by
  rw [get?_requestBody, if_pos rfl]

theorem get?_ref_requestBody (consumes : List String) (fields : Fields) :
    (requestBody consumes (.obj fields)).get? "$ref" = none := by
  rw [get?_requestBody, if_neg (by decide), if_neg (by decide)]

theorem reference?_requestBody (consumes : List String) (fields : Fields) :
    (requestBody consumes (.obj fields)).reference? = none :=
  Fragment.reference?_of_get?_eq_none (get?_ref_requestBody consumes fields)

section Responses

variable {produces : List String} {fields : Fields}

/-- The fields of a response without the examples and with the schema under its content types. -/
def filledResponse (produces : List String) (fields : Fields) : Fields :=
  match (fields.erase "examples").get? "schema" with
  | none => fields.erase "examples"
  | some schema =>
    Fields.insert "content" (contentOf produces (responseMedia schema (fields.get? "examples")))
      ((fields.erase "examples").erase "schema")

theorem liftContent_eq (produces : List String) (fields : Fields) :
    liftContent produces fields =
      (filledResponse produces fields).modify "headers" convertHeaders := rfl

theorem get?_liftContent (hnodup : (fields.map Prod.fst).Nodup) {key : String}
    (hkey : key ∉ ["examples", "schema", "content", "headers"]) :
    Fields.get? key (liftContent produces fields) = fields.get? key := by
  simp only [List.mem_cons, List.not_mem_nil, or_false, not_or] at hkey
  obtain ⟨hexamples, hschema, hcontent, hheaders⟩ := hkey
  have hbare : Fields.get? key (fields.erase "examples") = fields.get? key :=
    Fields.get?_erase_of_ne hnodup (Ne.symm hexamples)
  rw [liftContent_eq, Fields.get?_modify]
  simp only [if_neg hheaders, Option.map_id']
  rw [filledResponse]
  split
  · exact hbare
  · rw [Fields.get?_insert_of_ne (Ne.symm hcontent),
      Fields.get?_erase_of_ne (Fields.nodup_erase hnodup) (Ne.symm hschema)]
    exact hbare

theorem get?_content_liftContent (hnodup : (fields.map Prod.fst).Nodup) :
    Fields.get? "content" (liftContent produces fields) =
      match fields.get? "schema" with
      | none => fields.get? "content"
      | some schema =>
        some (contentOf produces (responseMedia schema (fields.get? "examples"))) := by
  have hschema : Fields.get? "schema" (fields.erase "examples") = fields.get? "schema" :=
    Fields.get?_erase_of_ne hnodup (by decide)
  rw [liftContent_eq, Fields.get?_modify]
  simp only [if_neg (show "content" ≠ "headers" by decide), Option.map_id']
  rw [filledResponse, hschema]
  cases fields.get? "schema" with
  | none => exact Fields.get?_erase_of_ne hnodup (by decide)
  | some schema => exact Fields.get?_insert_self _ _ _

theorem convertResponse_of_plain (h : fields.get? "$ref" = none) :
    convertResponse produces (.obj fields) = .obj (liftContent produces fields) := by
  rw [convertResponse, Fields.contains, h]
  rfl

theorem convertResponse_of_reference {pointer : Json} (h : fields.get? "$ref" = some pointer) :
    convertResponse produces (.obj fields) = .obj fields := by
  rw [convertResponse, Fields.contains, h]
  rfl

/-- A response is a reference exactly if it was one. -/
theorem reference?_convertResponse {v : Json} (hwf : v.WellFormed) :
    (convertResponse produces v).reference? = v.reference? := by
  cases v with
  | obj fields =>
    cases href : Fields.get? "$ref" fields with
    | none =>
      rw [convertResponse_of_plain href]
      exact Fragment.reference?_of_get?_eq (get?_liftContent hwf.1 (by decide))
    | some pointer => rw [convertResponse_of_reference href]
  | _ => rfl

end Responses

/-! ### Operations -/

section Operations

variable {around : Surroundings} {shared : Sorted} {op : Fields}

/-- The content types an operation declares in a list of its own, or those of its document. -/
def declaredMimes (op : Fields) (key : String) (document : List String) : List String :=
  (mimeList? op key).getD document

theorem get?_requestBody_upgradeOperation (hnodup : (op.map Prod.fst).Nodup) :
    Fields.get? "requestBody" (upgradeOperation around shared op) =
      (operationBody? (declaredMimes op "consumes" around.consumes)
        (sortParameters around (entriesAt op "parameters")) shared).or (op.get? "requestBody") := by
  have hbare : ∀ plain, Fields.get? "requestBody"
      (withPlain plain ((op.erase "produces").erase "consumes")) = op.get? "requestBody" := by
    intro plain
    rw [get?_withPlain_of_ne (Fields.nodup_erase (Fields.nodup_erase hnodup)) (by decide),
      Fields.get?_erase_of_ne (Fields.nodup_erase hnodup) (by decide),
      Fields.get?_erase_of_ne hnodup (by decide)]
  simp only [upgradeOperation]
  rw [Fields.get?_modify]
  simp only [if_neg (show "requestBody" ≠ "responses" by decide), Option.map_id']
  rw [declaredMimes]
  split
  · next body hbody =>
    rw [hbody]
    exact Fields.get?_insert_self _ _ _
  · next hnone =>
    rw [hnone]
    exact hbare _

theorem get?_responses_upgradeOperation (hnodup : (op.map Prod.fst).Nodup) :
    Fields.get? "responses" (upgradeOperation around shared op) =
      (op.get? "responses").map
        (convertResponses (declaredMimes op "produces" around.produces)) := by
  have hbare : ∀ plain, Fields.get? "responses"
      (withPlain plain ((op.erase "produces").erase "consumes")) = op.get? "responses" := by
    intro plain
    rw [get?_withPlain_of_ne (Fields.nodup_erase (Fields.nodup_erase hnodup)) (by decide),
      Fields.get?_erase_of_ne (Fields.nodup_erase hnodup) (by decide),
      Fields.get?_erase_of_ne hnodup (by decide)]
  simp only [upgradeOperation]
  rw [Fields.get?_modify]
  simp only [if_true, declaredMimes]
  congr 1
  split
  · exact (Fields.get?_insert_of_ne (by decide) _ _).trans (hbare _)
  · exact hbare _

end Operations

end ApiGraph.Legacy
