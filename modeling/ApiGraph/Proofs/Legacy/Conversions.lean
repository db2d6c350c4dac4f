import ApiGraph.Proofs.Legacy.Content
import ApiGraph.Proofs.Legacy.Sorting
import ApiGraph.Proofs.Legacy.Validity
import ApiGraph.Proofs.Validation.References

/-!
# References of converted parts

What all references of a part have, all references of the converted part have: a conversion moves
the schemas of a part to other places, makes none that holds a reference of its own, and changes
no pointer. Rewriting the legacy keywords does nothing but that: it keeps the places of schemas
and replaces the pointers.
-/

namespace ApiGraph.Legacy

open Json Validation

/-! ### Conversions -/

section Conversions

variable {Q : Role → String → Prop} {fields : Fields}

/-- The type of a parameter is held under `schema`. -/
theorem allReferences_convertParameter {v : Json} (hwf : v.WellFormed)
    (hmet : AllReferences Q .parameter v) (htype : ∀ fields, v = .obj fields →
      v.reference? = none → AllReferences Q .schema (.obj (inlineSchema fields))) :
    AllReferences Q .parameter (convertParameter v) := by
  cases v with
  | obj fields =>
    cases href : Fields.get? "$ref" fields with
    | some pointer =>
      rw [convertParameter_of_reference href]
      exact hmet
    | none =>
      have hnone : (obj fields).reference? = none := Fragment.reference?_of_get?_eq_none href
      have hlifted : (obj (liftSchema fields)).reference? = none := by
        rw [← convertParameter_of_plain href, reference?_convertParameter hwf]
        exact hnone
      rw [convertParameter_of_plain href]
      refine allReferences_of_plain hlifted fun w hw => ?_
      cases hw with
      | typed hschema =>
        rw [liftSchema_eq] at hschema
        split at hschema
        · rw [get?_bareParameter hwf.1 (by decide) (by decide) (by decide)] at hschema
          exact hmet.held hnone (.typed hschema)
        · rw [Fields.get?_insert_self] at hschema
          cases hschema
          exact htype fields rfl hnone
      | media hrole hcontent hmedia hschema =>
        rw [get?_liftSchema hwf.1 (by decide) (by decide) (by decide) (by decide)] at hcontent
        exact hmet.held hnone (.media hrole hcontent hmedia hschema)
  | _ => exact hmet

theorem allReferences_requestBody (consumes : List String)
    (hschema : ∀ w, fields.get? "schema" = some w → AllReferences Q .schema w) :
    AllReferences Q .body (requestBody consumes (.obj fields)) := by
  refine allReferences_of_plain (reference?_requestBody consumes fields) fun w hw => ?_
  cases hw with
  | media _ hcontent hmedia hw =>
    have hmade := get?_content_requestBody consumes fields
    have heq := mem_contentOf (Option.some.inj (hmade.symm.trans hcontent)) hmedia
    rw [heq] at hw
    have hw : bodySchema fields = w := Option.some.inj hw
    rw [← hw, bodySchema]
    cases hget : fields.get? "schema" with
    | none => exact allReferences_of_get?_eq_none rfl fun _ _ => rfl
    | some schema => exact hschema schema hget

/-- The schema of a form field holds what the type of the field holds. -/
theorem allReferences_formField? {v : Json} (h : ∀ fields, v = .obj fields →
      AllReferences Q .schema (.obj (inlineSchema fields))) {field : FormField}
    (hfield : formField? v = some field) : AllReferences Q .schema field.schema := by
  cases v with
  | obj fields =>
    obtain ⟨name, _, rfl⟩ := Option.map_eq_some_iff.mp hfield
    have hinline : (obj (inlineSchema fields)).reference? = none := by
      refine Fragment.reference?_of_get?_eq_none ?_
      rw [Json.get?, get?_inlineSchema, if_neg (by decide)]
    refine allReferences_of_plain ?_ fun w hw => ?_
    · have hkept : "$ref" ∉ ["type", "format", "description"] := by decide
      refine (Fragment.reference?_of_get?_eq ?_).trans hinline
      exact get?_fieldSchema hkept
    · have hapart : ∀ key ∈ Role.schema.holders, key ∉ ["type", "format", "description"] := by
        decide
      exact (h fields rfl).held hinline
        (hw.of_get?_eq fun key hkey => get?_fieldSchema (hapart key hkey))
  | _ => cases hfield

/-- The fields of a form are the properties of its schema. -/
theorem allReferences_formBody (consumes : List String) {form : List Json}
    (h : ∀ v ∈ form, ∀ fields, v = .obj fields →
      AllReferences Q .schema (.obj (inlineSchema fields))) :
    AllReferences Q .body (formBody consumes form) := by
  have hschema : ∀ required,
      AllReferences Q .schema (.obj (formSchema (formProperties form) required)) := by
    intro required
    have hnone : (obj (formSchema (formProperties form) required)).reference? = none :=
      Fragment.reference?_of_get?_eq_none (get?_formSchema_of_not_mem (by decide))
    refine allReferences_of_plain hnone fun w hw => ?_
    cases hw with
    | media hrole => exact absurd rfl hrole
    | nested hw =>
      have habsent : ∀ {key u}, key ∉ ["type", "properties", "required"] →
          Fields.get? key (formSchema (formProperties form) required) = some u → False := by
        intro key u hkey hu
        cases (get?_formSchema_of_not_mem hkey).symm.trans hu
      have hapart : ∀ key ∈ ["allOf", "oneOf", "anyOf", "not", "items"],
          key ∉ ["type", "properties", "required"] := by decide
      cases hw with
      | member hkey hlist =>
        exact (habsent (hapart _ (List.mem_append_left ["not", "items"] hkey)) hlist).elim
      | single hkey hw => exact (habsent (hapart _ hkey) hw).elim
      | additional hw => exact (habsent (by decide) hw).elim
      | property hmap hw =>
        cases (get?_properties_formSchema _ required).symm.trans hmap
        obtain ⟨v, hv, field, hfield, _, rfl⟩ := exists_of_mem_formProperties hw
        exact allReferences_formField? (h v hv) hfield
  rw [formBody_eq]
  refine allReferences_of_plain rfl fun w hw => ?_
  cases hw with
  | media _ hcontent hmedia hw =>
    cases hcontent
    cases List.mem_singleton.mp hmedia
    cases hw
    exact hschema _

theorem allReferences_convertResponse (produces : List String) {v : Json} (hwf : v.WellFormed)
    (hmet : AllReferences Q .response v) (hschema : ∀ fields w, v = .obj fields →
      v.reference? = none → Fields.get? "schema" fields = some w → AllReferences Q .schema w) :
    AllReferences Q .response (convertResponse produces v) := by
  cases v with
  | obj fields =>
    cases href : Fields.get? "$ref" fields with
    | some pointer =>
      rw [convertResponse_of_reference href]
      exact hmet
    | none =>
      have hnone : (obj fields).reference? = none := Fragment.reference?_of_get?_eq_none href
      have hlifted : (obj (liftContent produces fields)).reference? = none := by
        rw [← convertResponse_of_plain href, reference?_convertResponse hwf]
        exact hnone
      rw [convertResponse_of_plain href]
      refine allReferences_of_plain hlifted fun w hw => ?_
      cases hw with
      | media hrole hcontent hmedia hw =>
        have hlift := @get?_content_liftContent produces _ hwf.1
        cases hget : Fields.get? "schema" fields with
        | none =>
          rw [hget] at hlift
          exact hmet.held hnone (.media hrole (hlift.symm.trans hcontent) hmedia hw)
        | some schema =>
          rw [hget] at hlift
          have heq := mem_contentOf (Option.some.inj (hlift.symm.trans hcontent)) hmedia
          rw [heq] at hw
          have hw : schema = w := Option.some.inj hw
          exact hw ▸ hschema fields schema rfl hnone hget
  | _ => exact hmet

end Conversions

/-! ### Rewriting -/

section Rewriting

variable {fields : Fields}

/-- An object among the schemas of a rewritten object is a rewritten schema of the object. -/
theorem holdsSchema_of_renewed (hwf : (obj fields).WellFormed) {w : Json}
    (h : HoldsSchema (renewed fields) w) (hobj : w.isObj = true) :
    ∃ u, HoldsSchema fields u ∧ u.WellFormed ∧ w = modernize u := by
  cases h with
  | member hkey hlist hw =>
    have hapart : ∀ k ∈ ["allOf", "oneOf", "anyOf"], k ∉ ["x-nullable", "nullable", "$ref"] := by
      decide
    obtain ⟨v, hv, hvwf, hmodern⟩ := exists_of_get?_renewed hwf (hapart _ hkey) hlist
    cases v with
    | arr items =>
      rw [modernize, modernizeItems_eq_map] at hmodern
      cases hmodern
      obtain ⟨u, hu, rfl⟩ := List.mem_map.mp hw
      exact ⟨u, .member hkey hv hu, wellFormed_of_mem_items hvwf hu, rfl⟩
    | _ => cases hmodern
  | single hkey hw =>
    have hapart : ∀ k ∈ ["allOf", "oneOf", "anyOf", "not", "items"],
        k ∉ ["x-nullable", "nullable", "$ref"] := by decide
    obtain ⟨v, hv, hvwf, rfl⟩ := exists_of_get?_renewed hwf (hapart _ hkey) hw
    exact ⟨v, .single hkey hv, hvwf, rfl⟩
  | property hmap hw =>
    obtain ⟨v, hv, hvwf, hmodern⟩ := exists_of_get?_renewed hwf (by decide) hmap
    cases v with
    | obj entries =>
      cases hmodern
      obtain ⟨k, u, hu, rfl, _⟩ := mem_renewed hw
      rw [isObj_retargetField] at hobj
      exact ⟨u, .property hv hu, wellFormed_of_mem_fields hvwf.2 hu,
        retargetField_of_isObj hobj k⟩
    | _ => cases hmodern
  | additional hw =>
    obtain ⟨v, hv, hvwf, rfl⟩ := exists_of_get?_renewed hwf (by decide) hw
    exact ⟨v, .additional hv, hvwf, rfl⟩

theorem holds_of_renewed (hwf : (obj fields).WellFormed) {role : Role} {w : Json}
    (h : Holds role (renewed fields) w) (hobj : w.isObj = true) :
    ∃ u, Holds role fields u ∧ u.WellFormed ∧ w = modernize u := by
  cases h with
  | typed hw =>
    obtain ⟨v, hv, hvwf, rfl⟩ := exists_of_get?_renewed hwf (by decide) hw
    exact ⟨v, .typed hv, hvwf, rfl⟩
  | @media _ _ content mime media _ hrole hcontent hmedia hw =>
    obtain ⟨v, hv, hvwf, hmodern⟩ := exists_of_get?_renewed hwf (by decide) hcontent
    cases v with
    | obj old =>
      cases hmodern
      obtain ⟨k, u, hu, rfl, _⟩ := mem_renewed hmedia
      have huwf := wellFormed_of_mem_fields hvwf.2 hu
      rw [get?_retargetField, get?_modernize huwf (by decide) (by decide),
        Option.map_eq_some_iff] at hw
      obtain ⟨schema, hschema, rfl⟩ := hw
      rw [retargetField_of_ne (by decide)]
      exact ⟨schema, .media hrole hv hu hschema, huwf.get? hschema, rfl⟩
    | _ => cases hmodern
  | nested hw =>
    obtain ⟨u, hu, huwf, hmodern⟩ := holdsSchema_of_renewed hwf hw hobj
    exact ⟨u, .nested hu, huwf, hmodern⟩

/-- Rewriting puts the new pointers in the place of the old ones. -/
theorem allReferences_modernize {Q : Role → String → Prop} {role : Role} {v : Json}
    (hwf : v.WellFormed)
    (h : AllReferences (fun role pointer => Q role (retarget pointer)) role v) :
    AllReferences Q role (modernize v) := by
  induction h with
  | @intro role v hself hbelow ih =>
    refine ⟨fun pointer href => ?_, fun fields' w hv hnone hw => ?_⟩
    · rw [reference?_modernize hwf, Option.map_eq_some_iff] at href
      obtain ⟨old, hold, rfl⟩ := href
      exact hself old hold
    · rw [reference?_modernize hwf, Option.map_eq_none_iff] at hnone
      cases v with
      | obj fields =>
        cases hv
        cases hobj : w.isObj with
        | false => exact allReferences_of_not_isObj hobj
        | true =>
          obtain ⟨u, hu, huwf, rfl⟩ := holds_of_renewed hwf hw hobj
          exact ih fields u rfl hnone hu huwf
      | _ => cases hv

/-- A property that only objects can lack holds of all entries of a rewritten map. -/
theorem forall_mem_renewed {p q : Json → Prop} (hwf : (obj fields).WellFormed)
    (h : ∀ key v, (key, v) ∈ fields → p v) (hq : ∀ w, w.isObj = false → q w)
    (hpq : ∀ v, v.WellFormed → p v → q (modernize v)) :
    ∀ key w, (key, w) ∈ renewed fields → q w := by
  intro key w hmem
  obtain ⟨k, v, hv, rfl, _⟩ := mem_renewed hmem
  cases hobj : (modernize v).isObj with
  | true =>
    rw [retargetField_of_isObj hobj]
    exact hpq v (wellFormed_of_mem_fields hwf.2 hv) (h k v hv)
  | false => exact hq _ (by rw [isObj_retargetField, hobj])

section Parts

variable {P P' : Role → Json → Prop}
  (hP : ∀ {role : Role} {v : Json}, v.WellFormed → P role v → P' role (modernize v))
include hP

theorem parameterParts_renewed (hwf : (obj fields).WellFormed) (h : ParameterParts P fields) :
    ParameterParts P' (renewed fields) := by
  intro items hitems p hp
  obtain ⟨v, hv, hvwf, hmodern⟩ := exists_of_get?_renewed hwf (by decide) hitems
  cases v with
  | arr old =>
    rw [modernize, modernizeItems_eq_map] at hmodern
    cases hmodern
    obtain ⟨u, hu, rfl⟩ := List.mem_map.mp hp
    exact hP (wellFormed_of_mem_items hvwf hu) (h old hv u hu)
  | _ => cases hmodern

theorem operationParts_renewed (hobj : ∀ {role w}, w.isObj = false → P' role w)
    (hwf : (obj fields).WellFormed) (h : OperationParts P fields) :
    OperationParts P' (renewed fields) := by
  refine ⟨parameterParts_renewed hP hwf h.parameters, fun w hw => ?_, fun entries hentries => ?_⟩
  · obtain ⟨v, hv, hvwf, rfl⟩ := exists_of_get?_renewed hwf (by decide) hw
    exact hP hvwf (h.body v hv)
  · obtain ⟨v, hv, hvwf, hmodern⟩ := exists_of_get?_renewed hwf (by decide) hentries
    cases v with
    | obj old =>
      cases hmodern
      exact forall_mem_renewed hvwf (h.responses old hv)
        (fun _ => hobj) fun _ => hP
    | _ => cases hmodern

theorem pathParts_renewed (hobj : ∀ {role w}, w.isObj = false → P' role w)
    (hwf : (obj fields).WellFormed) (h : PathParts P fields) : PathParts P' (renewed fields) := by
  refine ⟨parameterParts_renewed hP hwf h.parameters, fun method op hop => ?_⟩
  obtain ⟨v, hv, hvwf, hmodern⟩ := exists_of_get?_renewed hwf (name_not_mem method) hop
  cases v with
  | obj old =>
    cases hmodern
    exact operationParts_renewed hP hobj hvwf (h.operations method old hv)
  | _ => cases hmodern

theorem documentParts_renewed (hobj : ∀ {role w}, w.isObj = false → P' role w)
    (hwf : (obj fields).WellFormed) (h : DocumentParts P fields) :
    DocumentParts P' (renewed fields) := by
  refine ⟨?paths, ?components⟩
  case paths =>
    intro paths hpaths path item hmem href
    obtain ⟨v, hv, hvwf, hmodern⟩ := exists_of_get?_renewed hwf (by decide) hpaths
    cases v with
    | obj old =>
      cases hmodern
      obtain ⟨k, u, hu, hitem, _⟩ := mem_renewed hmem
      have huwf := wellFormed_of_mem_fields hvwf.2 hu
      have hisObj : (modernize u).isObj = true := by
        rw [← isObj_retargetField k, ← hitem]
        rfl
      rw [retargetField_of_isObj hisObj] at hitem
      cases u with
      | obj oldItem =>
        cases hitem
        have hplain : (modernize (.obj oldItem)).reference? = none := href
        rw [reference?_modernize huwf, Option.map_eq_none_iff] at hplain
        exact pathParts_renewed hP hobj huwf (h.paths old hv k oldItem hu hplain)
      | _ => cases hitem
    | _ => cases hmodern
  case components =>
    intro parts hparts role entries hentries
    obtain ⟨v, hv, hvwf, hmodern⟩ := exists_of_get?_renewed hwf (by decide) hparts
    cases v with
    | obj old =>
      cases hmodern
      obtain ⟨u, hu, huwf, hmodern⟩ :=
        exists_of_get?_renewed hvwf (sectionName_not_mem role) hentries
      cases u with
      | obj oldEntries =>
        cases hmodern
        exact forall_mem_renewed huwf (h.components old hv role oldEntries hu) (fun _ => hobj)
          fun _ => hP
      | _ => cases hmodern
    | _ => cases hmodern

end Parts

end Rewriting

end ApiGraph.Legacy
