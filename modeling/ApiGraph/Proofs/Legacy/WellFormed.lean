import ApiGraph.Proofs.Json.WellFormed
import ApiGraph.Proofs.Legacy.Destinations
import ApiGraph.Proofs.Legacy.Keywords

/-!
# The upgrade repeats no key

Whatever the upgrade takes out of a document, changes or puts in, no object of the result
has a key twice if none of the document has. Each stage of the upgrade keeps this, given
that the stages below it do.
-/

namespace ApiGraph.Legacy

open Json

/-! ### Legacy keywords -/

theorem wellFormed_retargetField {key : String} {v : Json} (h : v.WellFormed) :
    (retargetField key v).WellFormed := by
  cases v with
  | str pointer =>
    rw [retargetField]
    split <;> trivial
  | _ => exact h

theorem wellFormed_promoteNullable {fields : Fields} (h : (obj fields).WellFormed) :
    (obj (promoteNullable fields)).WellFormed := by
  rw [promoteNullable]
  split
  · exact h
  · next flag hflag => exact h.erase.insertNew (wellFormed_of_mem_fields h.2
      (Fields.mem_of_get?_eq_some hflag))

mutual

theorem wellFormed_modernize : ∀ {v : Json}, v.WellFormed → (modernize v).WellFormed
  | .arr _, h => wellFormed_modernizeItems h
  | .obj _, h => wellFormed_promoteNullable ⟨nodup_modernizeFields h.1, wellFormed_modernizeFields h.2⟩
  | .null, _ => trivial
  | .bool _, _ => trivial
  | .num _, _ => trivial
  | .str _, _ => trivial

theorem wellFormed_modernizeItems : ∀ {items : List Json},
    AllWellFormed items → AllWellFormed (modernizeItems items)
  | [], _ => trivial
  | _ :: _, h => ⟨wellFormed_modernize h.1, wellFormed_modernizeItems h.2⟩

theorem wellFormed_modernizeFields : ∀ {fields : Fields},
    FieldsWellFormed fields → FieldsWellFormed (modernizeFields fields)
  | [], _ => trivial
  | (_, _) :: _, h =>
    ⟨wellFormed_retargetField (wellFormed_modernize h.1), wellFormed_modernizeFields h.2⟩

end

/-! ### Parameters -/

theorem keys_inlineSchema_sublist (fields : Fields) :
    ((inlineSchema fields).map Prod.fst).Sublist schemaKeywords := by
  rw [inlineSchema]
  induction schemaKeywords with
  | nil => exact .slnil
  | cons key rest ih =>
    cases hget : fields.get? key with
    | none =>
      rw [List.filterMap_cons_none (by rw [hget]; rfl)]
      exact ih.cons key
    | some v =>
      rw [List.filterMap_cons_some (by rw [hget]; rfl), List.map_cons]
      exact ih.cons_cons key

theorem mem_inlineSchema_iff {fields : Fields} {key : String} {v : Json} :
    (key, v) ∈ inlineSchema fields ↔ key ∈ schemaKeywords ∧ fields.get? key = some v := by
  rw [inlineSchema, List.mem_filterMap]
  constructor
  · rintro ⟨k, hk, hfield⟩
    obtain ⟨w, hw, heq⟩ := Option.map_eq_some_iff.mp hfield
    cases heq
    exact ⟨hk, hw⟩
  · rintro ⟨hkey, hv⟩
    exact ⟨key, hkey, Option.map_eq_some_iff.mpr ⟨v, hv, rfl⟩⟩

theorem wellFormed_inlineSchema {fields : Fields} (h : (obj fields).WellFormed) :
    (obj (inlineSchema fields)).WellFormed := by
  refine wellFormed_obj_iff.mpr ⟨.sublist (keys_inlineSchema_sublist fields) (by decide), ?_⟩
  rintro ⟨key, v⟩ hfield
  exact h.get? (mem_inlineSchema_iff.mp hfield).2

/-- A parameter without its inline type. -/
def bareParameter (fields : Fields) : Fields :=
  let bare := (fields.erases schemaKeywords).erase "collectionFormat"
  match explode? (fields.get? "collectionFormat") with
  | some b => Fields.insert "explode" (.bool b) bare
  | none => bare

theorem liftSchema_eq (fields : Fields) :
    liftSchema fields = if (inlineSchema fields).isEmpty then bareParameter fields
      else Fields.insert "schema" (.obj (inlineSchema fields)) (bareParameter fields) := rfl

theorem wellFormed_bareParameter {fields : Fields} (h : (obj fields).WellFormed) :
    (obj (bareParameter fields)).WellFormed := by
  have hbare : (obj ((fields.erases schemaKeywords).erase "collectionFormat")).WellFormed :=
    h.erases.erase
  rw [bareParameter]
  split
  · exact hbare.insert trivial
  · exact hbare

theorem wellFormed_liftSchema {fields : Fields} (h : (obj fields).WellFormed) :
    (obj (liftSchema fields)).WellFormed := by
  rw [liftSchema_eq]
  split
  · exact wellFormed_bareParameter h
  · exact (wellFormed_bareParameter h).insert (wellFormed_inlineSchema h)

theorem wellFormed_convertParameter {v : Json} (h : v.WellFormed) :
    (convertParameter v).WellFormed := by
  cases v with
  | obj fields =>
    rw [convertParameter]
    split
    · exact h
    · exact wellFormed_liftSchema h
  | _ => exact h

/-! ### Bodies and responses -/

theorem wellFormed_contentOf {mimes : List String} {media : String → Json}
    (h : ∀ mime, (media mime).WellFormed) : (contentOf mimes media).WellFormed := by
  refine wellFormed_ofList fun entry hentry => ?_
  obtain ⟨mime, _, rfl⟩ := List.mem_map.mp hentry
  exact h mime

theorem keys_kept_sublist (fields : Fields) (key : String) :
    ((kept fields key).map Prod.fst).Sublist [key] := by
  rw [kept]
  cases fields.get? key with
  | none => exact List.nil_sublist _
  | some v => exact .refl _

theorem wellFormed_kept {fields : Fields} {key : String} (h : (obj fields).WellFormed) :
    ∀ field ∈ kept fields key, field.2.WellFormed := by
  intro field hfield
  rw [kept, Option.mem_toList, Option.map_eq_some_iff] at hfield
  obtain ⟨v, hv, rfl⟩ := hfield
  exact h.get? (v := .obj fields) hv

theorem wellFormed_requestBody {consumes : List String} {v : Json} (h : v.WellFormed) :
    (requestBody consumes v).WellFormed := by
  cases v with
  | obj fields =>
    have hschema : ((Fields.get? "schema" fields).getD (.obj [])).WellFormed := by
      cases hget : Fields.get? "schema" fields with
      | none => exact ⟨List.nodup_nil, trivial⟩
      | some schema => exact h.get? (v := .obj fields) hget
    refine wellFormed_obj_iff.mpr ⟨?_, ?_⟩
    · rw [List.map_append, List.map_append]
      exact .sublist (((keys_kept_sublist fields "description").append
        (keys_kept_sublist fields "required")).append (.refl _)) (by simp)
    · simp only [List.forall_mem_append, List.forall_mem_singleton]
      exact ⟨⟨wellFormed_kept h, wellFormed_kept h⟩,
        wellFormed_contentOf fun _ => wellFormed_singleton hschema⟩
  | _ => exact h

theorem keys_withoutFileType {schema : Fields} (h : schema.map Prod.fst ⊆ schemaKeywords) :
    (withoutFileType schema).map Prod.fst ⊆ schemaKeywords := by
  rw [withoutFileType]
  split
  · intro key hkey
    obtain ⟨field, hfield, rfl⟩ := List.mem_map.mp hkey
    rcases Fields.mem_insert hfield with rfl | hfield
    · decide
    · rcases Fields.mem_insert hfield with rfl | hfield
      · decide
      · exact h (List.mem_map.mpr ⟨field, hfield, rfl⟩)
  · exact h

theorem wellFormed_withoutFileType {schema : Fields} (h : (obj schema).WellFormed) :
    (obj (withoutFileType schema)).WellFormed := by
  rw [withoutFileType]
  split
  · exact WellFormed.insert (WellFormed.insert h trivial) trivial
  · exact h

theorem wellFormed_formField? {v : Json} {field : FormField} (h : v.WellFormed)
    (hfield : formField? v = some field) : field.schema.WellFormed := by
  cases v with
  | obj fields =>
    obtain ⟨name, _, rfl⟩ := Option.map_eq_some_iff.mp hfield
    refine (wellFormed_withoutFileType (wellFormed_inlineSchema h)).append
      (wellFormed_obj_iff.mpr ⟨.sublist (keys_kept_sublist _ _) (by simp), wellFormed_kept h⟩) ?_
    intro key hkey hkept
    have hschema : key ∈ schemaKeywords :=
      keys_withoutFileType (keys_inlineSchema_sublist fields).subset hkey
    have hdescription := (keys_kept_sublist fields "description").subset hkept
    rw [List.mem_singleton.mp hdescription] at hschema
    exact absurd hschema (by decide)
  | _ => cases hfield

theorem wellFormed_formBody {consumes : List String} {form : List Json}
    (h : ∀ v ∈ form, v.WellFormed) : (formBody consumes form).WellFormed := by
  have hproperties : (obj (Fields.ofList ((form.filterMap formField?).map fun f =>
      (f.name, f.schema)))).WellFormed := by
    refine wellFormed_ofList fun entry hentry => ?_
    obtain ⟨field, hfield, rfl⟩ := List.mem_map.mp hentry
    obtain ⟨v, hv, hread⟩ := List.mem_filterMap.mp hfield
    exact wellFormed_formField? (h v hv) hread
  have hrequired : ∀ names : List FormField,
      (arr (names.map fun f => Json.str f.name)).WellFormed := by
    intro names
    refine wellFormed_arr_iff.mpr fun v hv => ?_
    obtain ⟨_, _, rfl⟩ := List.mem_map.mp hv
    trivial
  refine wellFormed_singleton (wellFormed_singleton (wellFormed_singleton ?_))
  split
  · exact ⟨by simp, trivial, hproperties, trivial⟩
  · exact ⟨by simp, trivial, hproperties, hrequired _, trivial⟩

theorem wellFormed_responseMedia {schema : Json} {examples : Option Json} {mime : String}
    (hschema : schema.WellFormed) (h : ∀ v, examples = some v → v.WellFormed) :
    (responseMedia schema examples mime).WellFormed := by
  rw [responseMedia]
  split
  · next v hv =>
    obtain ⟨samples, hsamples, hv⟩ := Option.bind_eq_some_iff.mp hv
    exact ⟨by simp, hschema, (h samples hsamples).get? hv, trivial⟩
  · exact wellFormed_singleton hschema

theorem wellFormed_convertHeaders {v : Json} (h : v.WellFormed) : (convertHeaders v).WellFormed := by
  cases v with
  | obj headers =>
    exact h.mapFields (f := fun _ => convertParameter) fun _ _ => wellFormed_convertParameter
  | _ => exact h

theorem wellFormed_liftContent {produces : List String} {fields : Fields}
    (h : (obj fields).WellFormed) : (obj (liftContent produces fields)).WellFormed := by
  have hbare : (obj (fields.erase "examples")).WellFormed := h.erase
  rw [liftContent]
  refine WellFormed.modify ?_ fun _ => wellFormed_convertHeaders
  split
  · exact hbare
  · next schema hschema =>
    refine hbare.erase.insert (wellFormed_contentOf fun mime => ?_)
    exact wellFormed_responseMedia (hbare.get? (v := .obj (fields.erase "examples")) hschema)
      fun v hv => h.get? (v := .obj fields) hv

theorem wellFormed_convertResponse {produces : List String} {v : Json} (h : v.WellFormed) :
    (convertResponse produces v).WellFormed := by
  cases v with
  | obj fields =>
    rw [convertResponse]
    split
    · exact h
    · exact wellFormed_liftContent h
  | _ => exact h

theorem wellFormed_convertResponses {produces : List String} {v : Json} (h : v.WellFormed) :
    (convertResponses produces v).WellFormed := by
  cases v with
  | obj entries =>
    exact h.mapFields (f := fun _ => convertResponse (effective produces)) fun _ _ =>
      wellFormed_convertResponse
  | _ => exact h

/-! ### Operations and paths -/

/-- A body that stands in a parameter list is well-formed. -/
def BodySource.WellFormed (source : BodySource) : Prop := ∀ v, source = .inline v → v.WellFormed

/-- Everything that has been sorted is well-formed. -/
def Sorted.WellFormed (s : Sorted) : Prop :=
  s.All Json.WellFormed BodySource.WellFormed Json.WellFormed

theorem sharedEntries_eq_nil_or (doc : Fields) (key : String) :
    sharedEntries doc key = [] ∨ doc.get? key = some (.obj (sharedEntries doc key)) := by
  rw [sharedEntries]
  cases hget : doc.get? key with
  | none => exact Or.inl rfl
  | some v =>
    cases v with
    | obj entries => exact Or.inr rfl
    | _ => exact Or.inl rfl

theorem wellFormed_sharedEntries {doc : Fields} (h : (obj doc).WellFormed) (key : String) :
    (obj (sharedEntries doc key)).WellFormed := by
  rcases sharedEntries_eq_nil_or doc key with hnil | hget
  · rw [hnil]
    exact ⟨List.nodup_nil, trivial⟩
  · exact h.get? (v := .obj doc) hget

theorem wellFormed_entriesAt {fields : Fields} (h : (obj fields).WellFormed) (key : String) :
    ∀ v ∈ entriesAt fields key, v.WellFormed := by
  rw [entriesAt]
  cases hget : fields.get? key with
  | none =>
    intro v hv
    cases hv
  | some list =>
    have hlist := h.get? (v := .obj fields) hget
    cases list with
    | arr items => exact wellFormed_arr_iff.mp hlist
    | _ =>
      intro v hv
      cases hv

variable {around : Surroundings}

theorem wellFormed_destination (hforms : (obj around.forms).WellFormed) {v : Json}
    (hv : v.WellFormed) : (destination around v).All Json.WellFormed BodySource.WellFormed
      Json.WellFormed := by
  refine Destination.all_destination (fun name _ _ w hw => by cases hw)
    (fun name field hfield => hforms.get? (v := .obj around.forms) hfield) fun _ => ?_
  rw [inlined]
  split
  · intro w hw
    cases hw
    exact hv
  · exact hv
  · exact wellFormed_convertParameter hv

theorem wellFormed_sortParameters (hforms : (obj around.forms).WellFormed) {entries : List Json}
    (h : ∀ v ∈ entries, v.WellFormed) : (sortParameters around entries).WellFormed :=
  all_sortParameters fun v hv => wellFormed_destination hforms (h v hv)

theorem wellFormed_bodySource {consumes : List String} {source : BodySource}
    (h : source.WellFormed) : (source.requestBody consumes).WellFormed := by
  cases source with
  | shared name => exact wellFormed_singleton trivial
  | inline v => exact wellFormed_requestBody (h v rfl)

theorem wellFormed_operationBody? {consumes : List String} {own shared : Sorted} {body : Json}
    (hown : own.WellFormed) (hshared : shared.WellFormed)
    (h : operationBody? consumes own shared = some body) : body.WellFormed :=
  operationBody?_induction (fun _ => wellFormed_bodySource) (fun _ => wellFormed_formBody) hown
    hshared h

theorem wellFormed_withPlain {plain : List Json} {fields : Fields}
    (hplain : ∀ v ∈ plain, v.WellFormed) (h : (obj fields).WellFormed) :
    (obj (withPlain plain fields)).WellFormed := by
  rw [withPlain]
  split
  · exact h.erase
  · exact h.erase.insert (wellFormed_arr_iff.mpr hplain)

theorem wellFormed_upgradeOperation (hforms : (obj around.forms).WellFormed) {shared : Sorted}
    (hshared : shared.WellFormed) {op : Fields} (h : (obj op).WellFormed) :
    (obj (upgradeOperation around shared op)).WellFormed := by
  have hown := wellFormed_sortParameters hforms (wellFormed_entriesAt h "parameters")
  rw [upgradeOperation]
  refine WellFormed.modify ?_ fun _ => wellFormed_convertResponses
  split
  · next body hbody =>
    exact (wellFormed_withPlain hown.plain h.erase.erase).insert
      (wellFormed_operationBody? hown hshared hbody)
  · exact wellFormed_withPlain hown.plain h.erase.erase

theorem wellFormed_upgradeMethod (hforms : (obj around.forms).WellFormed) {shared : Sorted}
    (hshared : shared.WellFormed) {v : Json} (h : v.WellFormed) :
    (upgradeMethod around shared v).WellFormed := by
  cases v with
  | obj op => exact wellFormed_upgradeOperation hforms hshared h
  | _ => exact h

theorem wellFormed_upgradePath (hforms : (obj around.forms).WellFormed) {v : Json}
    (h : v.WellFormed) : (upgradePath around v).WellFormed := by
  cases v with
  | obj item =>
    have hsorted := wellFormed_sortParameters hforms (wellFormed_entriesAt h "parameters")
    have hfold : ∀ (methods : List Method) (fields : Fields), (obj fields).WellFormed →
        (obj (methods.foldl (fun fields method => Fields.modify method.name
          (upgradeMethod around (sortParameters around (entriesAt item "parameters"))) fields)
          fields)).WellFormed := by
      intro methods
      induction methods with
      | nil => exact fun _ hfields => hfields
      | cons method rest ih =>
        exact fun fields hfields =>
          ih _ (hfields.modify fun _ => wellFormed_upgradeMethod hforms hsorted)
    exact hfold Method.all _ (wellFormed_withPlain hsorted.plain h)
  | _ => exact h

theorem wellFormed_upgradePaths (hforms : (obj around.forms).WellFormed) {v : Json}
    (h : v.WellFormed) : (upgradePaths around v).WellFormed := by
  cases v with
  | obj paths =>
    exact h.mapFields (f := fun _ => upgradePath around) fun _ _ => wellFormed_upgradePath hforms
  | _ => exact h

/-! ### The document -/

/-- An optional section of an object. -/
theorem keys_section_sublist (key : String) (value : Option Json) :
    (((value.map fun v => (key, v)).toList).map Prod.fst).Sublist [key] := by
  cases value with
  | none => exact List.nil_sublist _
  | some v => exact .refl _

theorem keys_ifAny_sublist (key : String) (entries : Fields) :
    ((ifAny key entries).map Prod.fst).Sublist [key] := by
  rw [ifAny]
  split
  · exact List.nil_sublist _
  · exact .refl _

theorem wellFormed_ifAny {key : String} {entries : Fields} (h : (obj entries).WellFormed) :
    ∀ field ∈ ifAny key entries, field.2.WellFormed := by
  rw [ifAny]
  split
  · simp
  · simpa using h

theorem wellFormed_section {key : String} {value : Option Json}
    (h : ∀ v, value = some v → v.WellFormed) :
    ∀ field ∈ (value.map fun v => (key, v)).toList, field.2.WellFormed := by
  intro field hfield
  rw [Option.mem_toList, Option.map_eq_some_iff] at hfield
  obtain ⟨v, hv, rfl⟩ := hfield
  exact h v hv

/-- The converted responses of a document. -/
def sharedResponses (around : Surroundings) (doc : Fields) : Fields :=
  match doc.get? "responses" with
  | some (.obj entries) =>
    [("responses", .obj (entries.map fun (name, v) =>
      (name, convertResponse (effective around.produces) v)))]
  | _ => []

/-- The shared parameters that keep a list of their own. -/
def plainParameters (doc : Fields) : Fields :=
  (sharedEntries doc "parameters").filter fun (_, v) =>
    !(carrierOf v == some "body") && !(carrierOf v == some "formData")

/-- The shared parameters that are bodies. -/
def sharedBodies (doc : Fields) : Fields :=
  (sharedEntries doc "parameters").filter fun (_, v) => carrierOf v == some "body"

/-- The shared parts are five sections, each under a key of its own. -/
theorem components_eq (around : Surroundings) (doc : Fields) :
    components around doc =
      ((doc.get? "definitions").map fun v => ("schemas", v)).toList ++
      ifAny "parameters" ((plainParameters doc).map fun (name, v) => (name, convertParameter v)) ++
      ifAny "requestBodies" (((sharedEntries doc "parameters").filter fun (_, v) =>
        carrierOf v == some "body").map fun (name, v) => (name, requestBody around.consumes v)) ++
      sharedResponses around doc ++
      ((doc.get? "securityDefinitions").map fun v => ("securitySchemes", v)).toList := rfl

theorem keys_sharedResponses_sublist (around : Surroundings) (doc : Fields) :
    ((sharedResponses around doc).map Prod.fst).Sublist ["responses"] := by
  rw [sharedResponses]
  split
  · exact .refl _
  · exact List.nil_sublist _

theorem wellFormed_sharedResponses {doc : Fields} (h : (obj doc).WellFormed) :
    ∀ field ∈ sharedResponses around doc, field.2.WellFormed := by
  rw [sharedResponses]
  split
  · next entries hentries =>
    rw [List.forall_mem_singleton]
    exact (h.get? (v := .obj doc) hentries).mapFields
      (f := fun _ => convertResponse (effective around.produces)) fun _ _ =>
        wellFormed_convertResponse
  · simp

theorem wellFormed_components {doc : Fields} (h : (obj doc).WellFormed) :
    (obj (components around doc)).WellFormed := by
  have hparameters := wellFormed_sharedEntries h "parameters"
  refine wellFormed_obj_iff.mpr ⟨?_, ?_⟩
  · rw [components_eq]
    simp only [List.map_append]
    exact .sublist ((((((keys_section_sublist "schemas" _).append
      (keys_ifAny_sublist "parameters" _)).append
      (keys_ifAny_sublist "requestBodies" _)).append
      (keys_sharedResponses_sublist around doc)).append
      (keys_section_sublist "securitySchemes" _))) (by decide)
  · rw [components_eq]
    simp only [List.forall_mem_append]
    refine ⟨⟨⟨⟨wellFormed_section fun v hv => h.get? (v := .obj doc) hv, wellFormed_ifAny ?_⟩,
      wellFormed_ifAny ?_⟩, wellFormed_sharedResponses h⟩,
      wellFormed_section fun v hv => h.get? (v := .obj doc) hv⟩
    · exact hparameters.filter.mapFields (f := fun _ => convertParameter) fun _ _ =>
        wellFormed_convertParameter
    · exact hparameters.filter.mapFields (f := fun _ => requestBody around.consumes) fun _ _ =>
        wellFormed_requestBody

theorem wellFormed_servers (doc : Fields) : ∀ v ∈ servers doc, v.WellFormed := by
  have hserver : ∀ url, (server url).WellFormed := fun _ => wellFormed_singleton trivial
  rw [servers]
  split
  · split
    · simp
    · simpa using hserver _
  · intro v hv
    obtain ⟨_, _, hurl⟩ := List.mem_filterMap.mp hv
    obtain ⟨_, _, rfl⟩ := Option.map_eq_some_iff.mp hurl
    exact hserver _

theorem wellFormed_withValue {key : String} {value : Option Json} {fields : Fields}
    (hvalue : ∀ v, value = some v → v.WellFormed) (h : (obj fields).WellFormed) :
    (obj (withValue key value fields)).WellFormed := by
  cases value with
  | none => exact h
  | some v => exact h.insert (hvalue v rfl)

/-- What is left of a document besides the parts that move. -/
def remaining (doc : Fields) : Fields :=
  (doc.erases consumedKeys).modify "paths" (upgradePaths (surroundings doc))

/-- The upgraded document before its legacy keywords are rewritten. -/
def assembled (version : String) (doc : Fields) : Fields :=
  let shared := components (surroundings doc) doc
  let servers := servers doc
  withValue "components" (if shared.isEmpty then none else some (.obj shared))
    (withValue "servers" (if servers.isEmpty then none else some (.arr servers))
      (Fields.ofList (("openapi", .str version) :: remaining doc)))

theorem upgrade_eq (version : String) (doc : Fields) :
    upgrade version doc = modernize (.obj (assembled version doc)) := rfl

theorem wellFormed_forms {doc : Fields} (h : (obj doc).WellFormed) :
    (obj (surroundings doc).forms).WellFormed :=
  WellFormed.filter (wellFormed_sharedEntries h "parameters")

theorem wellFormed_remaining {doc : Fields} (h : (obj doc).WellFormed) :
    (obj (remaining doc)).WellFormed :=
  h.erases.modify fun _ => wellFormed_upgradePaths (wellFormed_forms h)

theorem wellFormed_assembled {version : String} {doc : Fields} (h : (obj doc).WellFormed) :
    (obj (assembled version doc)).WellFormed := by
  refine wellFormed_withValue ?_ (wellFormed_withValue ?_ ?_)
  · intro v hv
    split at hv
    · cases hv
    · cases hv
      exact wellFormed_components h
  · intro v hv
    split at hv
    · cases hv
    · cases hv
      exact wellFormed_arr_iff.mpr (wellFormed_servers doc)
  · exact wellFormed_ofList (List.forall_mem_cons.mpr
      ⟨trivial, (wellFormed_obj_iff.mp (wellFormed_remaining h)).2⟩)

/-- Upgrading a well-formed document gives a well-formed one. -/
theorem wellFormed_upgrade {version : String} {doc : Fields} (h : (obj doc).WellFormed) :
    (upgrade version doc).WellFormed :=
  wellFormed_modernize (wellFormed_assembled h)

/-! ### The parts of the upgraded document -/

theorem get?_withValue_self (key : String) (value : Option Json) (fields : Fields) :
    Fields.get? key (withValue key value fields) = value.or (fields.get? key) := by
  cases value with
  | none => rfl
  | some v => exact Fields.get?_insert_self key v fields

theorem get?_withValue_of_ne {key other : String} (h : key ≠ other) (value : Option Json)
    (fields : Fields) : Fields.get? other (withValue key value fields) = fields.get? other := by
  cases value with
  | none => rfl
  | some v => exact Fields.get?_insert_of_ne h v fields

/-- A key that the upgrade does not look at is kept with its value. -/
theorem get?_headed {version key : String} {doc : Fields} (h : (obj doc).WellFormed)
    (hconsumed : key ∉ consumedKeys) (hversion : key ≠ "openapi") :
    Fields.get? key (Fields.ofList (("openapi", .str version) :: remaining doc)) =
      (doc.get? key).map fun v =>
        if key = "paths" then upgradePaths (surroundings doc) v else v := by
  rw [Fields.ofList, List.foldl_cons]
  refine (Fields.get?_foldl_insert (wellFormed_remaining h).1 _).trans ?_
  have hother : Fields.get? key [("openapi", Json.str version)] = none := by
    rw [Fields.get?, if_neg (Ne.symm hversion), Fields.get?]
  show (Fields.get? key (remaining doc)).or (Fields.get? key [("openapi", Json.str version)]) = _
  rw [hother, Option.or_none, remaining, Fields.get?_modify, Fields.get?_erases hconsumed h.1]

/-- What the upgrade consumes is gone. -/
theorem get?_assembled_of_mem_consumedKeys {version key : String} {doc : Fields}
    (h : (obj doc).WellFormed) (hkey : key ∈ consumedKeys) :
    Fields.get? key (assembled version doc) = none := by
  have hapart : ∀ k ∈ consumedKeys, k ≠ "components" ∧ k ≠ "servers" ∧ k ≠ "openapi" := by decide
  obtain ⟨hcomponents, hservers, hversion⟩ := hapart key hkey
  rw [assembled, get?_withValue_of_ne (Ne.symm hcomponents),
    get?_withValue_of_ne (Ne.symm hservers), Fields.ofList, List.foldl_cons]
  refine (Fields.get?_foldl_insert (wellFormed_remaining h).1 _).trans ?_
  have hother : Fields.get? key (Fields.insert "openapi" (.str version) []) = none :=
    Fields.get?_insert_of_ne (Ne.symm hversion) _ _
  rw [hother, Option.or_none, remaining, Fields.get?_modify, Fields.get?_erases_of_mem hkey h.1]
  rfl

/-- The new version stands where no version stood. -/
theorem get?_assembled_openapi {version : String} {doc : Fields} (h : (obj doc).WellFormed)
    (hnew : doc.get? "openapi" = none) :
    Fields.get? "openapi" (assembled version doc) = some (.str version) := by
  rw [assembled, get?_withValue_of_ne (by decide), get?_withValue_of_ne (by decide), Fields.ofList,
    List.foldl_cons]
  refine (Fields.get?_foldl_insert (wellFormed_remaining h).1 _).trans ?_
  have hremaining : Fields.get? "openapi" (remaining doc) = none := by
    rw [remaining, Fields.get?_modify, Fields.get?_erases (by decide) h.1, hnew]
    rfl
  rw [hremaining, Option.none_or]
  exact Fields.get?_insert_self _ _ _

/-- The shared parts are all there is under `components`, if they are new. -/
theorem get?_assembled_components {version : String} {doc : Fields} (h : (obj doc).WellFormed)
    (hnew : doc.get? "components" = none) :
    Fields.get? "components" (assembled version doc) =
      if (components (surroundings doc) doc).isEmpty then none
      else some (.obj (components (surroundings doc) doc)) := by
  rw [assembled, get?_withValue_self, get?_withValue_of_ne (by decide),
    get?_headed h (by decide) (by decide), hnew]
  exact Option.or_none

theorem get?_assembled_paths {version : String} {doc : Fields} (h : (obj doc).WellFormed) :
    Fields.get? "paths" (assembled version doc) =
      (doc.get? "paths").map (upgradePaths (surroundings doc)) := by
  rw [assembled, get?_withValue_of_ne (by decide), get?_withValue_of_ne (by decide),
    get?_headed h (by decide) (by decide)]
  rfl

/-- A section is found under its own key only. -/
theorem get?_section_of_ne {key name : String} {fields : Fields}
    (h : (fields.map Prod.fst).Sublist [name]) (hne : key ≠ name) :
    Fields.get? key fields = none :=
  Fields.get?_eq_none_iff.mpr fun hmem => hne (List.mem_singleton.mp (h.subset hmem))

/-- Of sections with names of their own, each is found under its name. -/
theorem get?_flatMap_sections {parts : List (String × Fields)}
    (hkeys : ∀ part ∈ parts, (part.2.map Prod.fst).Sublist [part.1])
    (hnodup : (parts.map Prod.fst).Nodup) {part : String × Fields} (hpart : part ∈ parts) :
    Fields.get? part.1 (parts.flatMap Prod.snd) = Fields.get? part.1 part.2 := by
  induction parts with
  | nil => cases hpart
  | cons first rest ih =>
    obtain ⟨hfirst, hrest⟩ := List.forall_mem_cons.mp hkeys
    obtain ⟨hnew, hnodup⟩ := List.nodup_cons.mp hnodup
    rw [List.flatMap_cons, Fields.get?_append]
    rcases List.mem_cons.mp hpart with rfl | hmem
    · have hother : Fields.get? part.1 (rest.flatMap Prod.snd) = none := by
        refine Fields.get?_eq_none_iff.mpr fun hmem => hnew ?_
        obtain ⟨field, hfield, hname⟩ := List.mem_map.mp hmem
        obtain ⟨other, hother, hin⟩ := List.mem_flatMap.mp hfield
        have hkey := (hrest other hother).subset (List.mem_map_of_mem hin)
        rw [← hname, List.mem_singleton.mp hkey]
        exact List.mem_map_of_mem hother
      rw [hother, Option.or_none]
    · have hne : part.1 ≠ first.1 := fun heq => hnew (heq ▸ List.mem_map_of_mem hmem)
      rw [get?_section_of_ne hfirst hne, Option.none_or]
      exact ih hrest hnodup hmem

/-- The sections of the components, each with its name. -/
def componentSections (around : Surroundings) (doc : Fields) : List (String × Fields) :=
  [("schemas", ((doc.get? "definitions").map fun v => ("schemas", v)).toList),
   ("parameters",
    ifAny "parameters" ((plainParameters doc).map fun (name, v) => (name, convertParameter v))),
   ("requestBodies", ifAny "requestBodies"
      ((sharedBodies doc).map fun (name, v) => (name, requestBody around.consumes v))),
   ("responses", sharedResponses around doc),
   ("securitySchemes",
    ((doc.get? "securityDefinitions").map fun v => ("securitySchemes", v)).toList)]

theorem get?_components {around : Surroundings} {doc : Fields} {name : String} {part : Fields}
    (hpart : (name, part) ∈ componentSections around doc) :
    Fields.get? name (components around doc) = part.get? name := by
  have hflat : components around doc = (componentSections around doc).flatMap Prod.snd := by
    rw [components_eq]
    simp [componentSections, sharedBodies]
  rw [hflat]
  refine get?_flatMap_sections ?_ (by simp [componentSections]) hpart
  simp only [componentSections, List.forall_mem_cons, List.not_mem_nil, false_imp_iff,
    implies_true, and_true]
  exact ⟨keys_section_sublist _ _, keys_ifAny_sublist _ _, keys_ifAny_sublist _ _,
    keys_sharedResponses_sublist _ _, keys_section_sublist _ _⟩

theorem get?_components_schemas (around : Surroundings) (doc : Fields) :
    Fields.get? "schemas" (components around doc) = doc.get? "definitions" := by
  rw [get?_components List.mem_cons_self]
  cases doc.get? "definitions" <;> rfl

end ApiGraph.Legacy
