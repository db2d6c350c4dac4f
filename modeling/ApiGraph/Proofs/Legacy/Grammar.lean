import ApiGraph.Pattern.Validity
import ApiGraph.Proofs.Legacy.Components
import ApiGraph.Proofs.Legacy.Validity
import ApiGraph.Proofs.Normalization

/-!
# Grammatical documents

The grammar of a 2.0 document says of each object what it may be: a parameter is a reference
or has its type inline, a response has its schema beside its description, and an operation
has no request body of its own. The upgrade turns a grammatical document into a valid one.

Each conversion is seen to give what is valid in its new role, before the legacy keywords are
rewritten: plain parameters stay parameters, a body parameter becomes a request body and so
do form fields together, and a response takes its schema under content types. Rewriting then
keeps the document valid.
-/

namespace ApiGraph.Legacy

open Json Validation

/-! ### The grammar -/

namespace Grammar

/-- An object that is nothing but a local reference. -/
def IsReference (v : Json) : Prop :=
  ∃ pointer, v = .obj [("$ref", .str pointer)] ∧ Pointer.isLocal pointer = true

def carriers : List String := ["query", "header", "path", "formData", "body"]

variable [Pattern.Checker]

/-- The inline keywords of a parameter make up a schema. A form field may be a file. -/
def TypedWell (fields : Fields) : Prop :=
  Accepted .schema (.obj (inlineSchema fields)) ∨
    (fields.get? "in" = some (.str "formData") ∧ fields.get? "type" = some (.str "file") ∧
      Accepted .schema (.obj ((inlineSchema fields).erase "type")))

/-- The fields of a parameter that is no reference. -/
structure InlineParameter (fields : Fields) : Prop where
  plain : fields.get? "$ref" = none
  content : fields.get? "content" = none
  name : ∃ s, fields.get? "name" = some (.str s)
  carrier : ∃ c ∈ carriers, fields.get? "in" = some (.str c)
  required : fields.get? "in" = some (.str "path") → fields.get? "required" = some (.bool true)
  unlifted : fields.get? "in" ≠ some (.str "body") → fields.get? "schema" = none
  inline : fields.get? "in" ≠ some (.str "body") → TypedWell fields
  schema : ∀ v, fields.get? "schema" = some v → Accepted .schema v

def Parameter (v : Json) : Prop :=
  IsReference v ∨ ∃ fields, v = .obj fields ∧ InlineParameter fields

/-- The fields of a response that is no reference. -/
structure InlineResponse (fields : Fields) : Prop where
  content : fields.get? "content" = none
  description : ∃ s, fields.get? "description" = some (.str s)
  schema : ∀ v, fields.get? "schema" = some v → v.isObj = true → Accepted .schema v

def Response : Json → Prop := ReferenceOr InlineResponse

def Parameters (owner : Fields) : Prop :=
  ∀ v, owner.get? "parameters" = some v → ∃ items, v = .arr items ∧ ∀ p ∈ items, Parameter p

structure Operation (fields : Fields) : Prop where
  parameters : Parameters fields
  body : fields.get? "requestBody" = none
  responses : ∃ entries, fields.get? "responses" = some (.obj entries) ∧
    ∀ key r, (key, r) ∈ entries → (StatusKey.parse? key).isSome = true ∧ Response r

structure Item (fields : Fields) : Prop where
  parameters : Parameters fields
  operations : ∀ (method : Method) op, fields.get? method.name = some op →
    ∃ fields, op = .obj fields ∧ Operation fields

/-- What stands under a top-level key, if anything does, is an object of well-formed entries. -/
def Shares (doc : Fields) (key : String) (p : Json → Prop) : Prop :=
  ∀ v, doc.get? key = some v → ∃ entries, v = .obj entries ∧ ∀ name w, (name, w) ∈ entries → p w

structure Document (doc : Fields) : Prop where
  version : declaredVersion doc = .ok .legacy
  components : doc.get? "components" = none
  info : ∃ info, doc.get? "info" = some (.obj info) ∧
    (∃ s, Fields.get? "title" info = some (.str s)) ∧
    ∃ s, Fields.get? "version" info = some (.str s)
  paths : ∃ paths, doc.get? "paths" = some (.obj paths) ∧
    ∀ path item, (path, item) ∈ paths → ReferenceOr Item item
  parameters : Shares doc "parameters" Parameter
  responses : Shares doc "responses" Response
  definitions : Shares doc "definitions" (Accepted .schema)

end Grammar

open Grammar

/-! ### Schemas made of inline keywords -/

section Inline

variable [Pattern.Checker] {fields : Fields}

/-- An accepted object without a reference is in order. -/
theorem inOrder_of_accepted {role : Role} (h : Accepted role (.obj fields))
    (href : fields.get? "$ref" = none) : role.FieldsInOrder fields := by
  obtain ⟨_, heq, ⟨pointer, hpointer, _⟩ | ⟨_, hfields⟩⟩ := accepted_iff.mp h
  · cases heq
    rw [href] at hpointer
    cases hpointer
  · cases heq
    exact hfields

theorem accepted_of_inOrder {role : Role} (href : fields.get? "$ref" = none)
    (h : role.FieldsInOrder fields) : Accepted role (.obj fields) :=
  accepted_iff.mpr ⟨fields, rfl, Or.inr ⟨href, h⟩⟩

/-- Validation does not see the format and the description of a schema, and of its type only
whether there is such a type. -/
theorem inOrder_of_get?_eq {fields' : Fields} (h : Role.schema.FieldsInOrder fields)
    (hget : ∀ key, key ∉ ["type", "format", "description"] → fields'.get? key = fields.get? key)
    (htype : ∀ v, fields'.get? "type" = some v → typeComplaint v = none) :
    Role.schema.FieldsInOrder fields' := by
  obtain ⟨hinOrder, hholds⟩ := h
  refine ⟨⟨htype, ?_, ?_, ?_, ?_, ?_⟩, ⟨?_, ?_, ?_, ?_⟩⟩
  · rw [hget "required" (by decide)]
    exact hinOrder.required
  · rw [hget "enum" (by decide)]
    exact hinOrder.enum
  · rw [hget "multipleOf" (by decide)]
    exact hinOrder.multiple
  · intro key hk
    have hapart : ∀ k ∈ countKeywords, k ∉ ["type", "format", "description"] := by decide
    rw [hget key (hapart key hk)]
    exact hinOrder.counts key hk
  · rw [hget "pattern" (by decide)]
    exact hinOrder.pattern
  · intro key hk
    have hapart : ∀ k ∈ ["allOf", "oneOf", "anyOf"], k ∉ ["type", "format", "description"] := by
      decide
    rw [hget key (hapart key hk)]
    exact hholds.members key hk
  · intro key hk
    have hapart : ∀ k ∈ ["not", "items"], k ∉ ["type", "format", "description"] := by decide
    rw [hget key (hapart key hk)]
    exact hholds.single key hk
  · rw [hget "additionalProperties" (by decide)]
    exact hholds.additional
  · rw [hget "properties" (by decide)]
    exact hholds.properties

/-- The schema of a form field, which is a string of bytes where it is a file. -/
theorem accepted_fieldSchema (h : TypedWell fields) : Accepted .schema
    (.obj (withoutFileType (inlineSchema fields) ++ kept fields "description")) := by
  have hnodup : ((inlineSchema fields).map Prod.fst).Nodup :=
    .sublist (keys_inlineSchema_sublist fields) (by decide)
  have hinlineRef : Fields.get? "$ref" (inlineSchema fields) = none := by
    rw [get?_inlineSchema, if_neg (by decide)]
  have hgetType : Fields.get? "type" (withoutFileType (inlineSchema fields) ++
      kept fields "description") = Fields.get? "type" (withoutFileType (inlineSchema fields)) := by
    rw [Fields.get?_append, get?_kept_of_ne (by decide), Option.or_none]
  refine accepted_of_inOrder ((get?_fieldSchema (by decide)).trans hinlineRef) ?_
  rcases h with haccepted | ⟨_, hfile, haccepted⟩
  · have hinOrder := inOrder_of_accepted haccepted hinlineRef
    refine inOrder_of_get?_eq hinOrder (fun _ => get?_fieldSchema) fun v hv => ?_
    rw [hgetType, withoutFileType] at hv
    split at hv
    · next hfile => exact absurd (hinOrder.1.type _ hfile) (by decide)
    · exact hinOrder.1.type v hv
  · have hgone : Fields.get? "$ref" ((inlineSchema fields).erase "type") = none := by
      rw [Fields.get?_erase_of_ne hnodup (by decide), hinlineRef]
    refine inOrder_of_get?_eq (inOrder_of_accepted haccepted hgone) (fun key hkey => ?_)
      fun v hv => ?_
    · rw [get?_fieldSchema hkey]
      refine (Fields.get?_erase_of_ne hnodup ?_).symm
      rintro rfl
      exact hkey List.mem_cons_self
    · have hinline : Fields.get? "type" (inlineSchema fields) = some (.str "file") := by
        rw [get?_inlineSchema, if_pos (by decide), hfile]
      have hstring : withoutFileType (inlineSchema fields) = Fields.insert "format" (.str "binary")
          (Fields.insert "type" (.str "string") (inlineSchema fields)) := by
        rw [withoutFileType, hinline]
        rfl
      rw [hgetType, hstring, Fields.get?_insert_of_ne (by decide),
        Fields.get?_insert_self] at hv
      cases hv
      rfl

end Inline

/-! ### Conversions -/

section Conversions

variable [Pattern.Checker] {fields : Fields}

theorem accepted_of_isReference {role : Role} {v : Json} (h : IsReference v) : Accepted role v := by
  obtain ⟨pointer, rfl, hlocal⟩ := h
  exact accepted_iff.mpr ⟨_, rfl, Or.inl ⟨pointer, rfl, hlocal⟩⟩

/-- A parameter that goes neither into a body nor into a form stays a parameter. -/
theorem accepted_convertParameter (hwf : (Json.obj fields).WellFormed) (h : InlineParameter fields)
    (hbody : fields.get? "in" ≠ some (.str "body"))
    (hform : fields.get? "in" ≠ some (.str "formData")) :
    Accepted .parameter (convertParameter (.obj fields)) := by
  have hconverted : convertParameter (.obj fields) = .obj (liftSchema fields) := by
    rw [convertParameter, Fields.contains, h.plain]
    rfl
  have hget : ∀ key ∈ ["$ref", "name", "in", "required", "content"],
      Fields.get? key (liftSchema fields) = fields.get? key := by
    intro key hk
    have hapart : ∀ k ∈ ["$ref", "name", "in", "required", "content"], k ∉ schemaKeywords ∧
        k ≠ "collectionFormat" ∧ k ≠ "explode" ∧ k ≠ "schema" := by decide
    obtain ⟨hkeyword, hformat, hexplode, hschema⟩ := hapart key hk
    exact get?_liftSchema hwf.1 hkeyword hformat hexplode hschema
  have hinline : Accepted .schema (.obj (inlineSchema fields)) := by
    rcases h.inline hbody with haccepted | ⟨hin, _⟩
    · exact haccepted
    · exact absurd hin hform
  rw [hconverted]
  refine accepted_of_inOrder ((hget "$ref" (by decide)).trans h.plain) ⟨?_, ?_, ?_, ?_⟩
  · rw [hget "name" (by decide)]
    exact h.name
  · rw [hget "in" (by decide), hget "required" (by decide)]
    obtain ⟨c, hc, hin⟩ := h.carrier
    rw [hin] at hbody hform
    simp only [carriers, List.mem_cons, List.not_mem_nil, or_false] at hc
    rcases hc with rfl | rfl | rfl | rfl | rfl
    · exact ⟨.query, hin, fun hpath => by cases hpath⟩
    · exact ⟨.header, hin, fun hpath => by cases hpath⟩
    · exact ⟨.path, hin, fun _ => h.required hin⟩
    · exact absurd rfl hform
    · exact absurd rfl hbody
  · intro v hv
    rw [get?_schema_liftSchema hwf.1 (h.unlifted hbody)] at hv
    split at hv
    · cases hv
    · cases hv
      exact hinline
  · intro v hv
    rw [hget "content" (by decide), h.content] at hv
    cases hv

/-- Content made by a conversion is in order if the schema in it is. -/
theorem holdsContent_of_contentOf {mimes : List String} {media : String → Json}
    (hget : fields.get? "content" = some (contentOf mimes media))
    (hmedia : ∀ mime, ∃ entries, media mime = .obj entries ∧ ∀ schema,
      Fields.get? "schema" entries = some schema → schema.isObj = true →
        Accepted .schema schema) : HoldsContent fields := by
  intro v hv
  cases hget.symm.trans hv
  refine ⟨_, rfl, fun mime w hw => ?_⟩
  rw [mem_contentOf rfl hw]
  exact hmedia mime

theorem accepted_nil : Accepted .schema (.obj []) :=
  accepted_of_inOrder rfl ⟨⟨nofun, nofun, nofun, nofun, fun _ _ => nofun, nofun⟩,
    ⟨fun _ _ => nofun, fun _ _ => nofun, nofun, nofun⟩⟩

theorem accepted_requestBody (consumes : List String)
    (h : ∀ v, fields.get? "schema" = some v → Accepted .schema v) :
    Accepted .body (requestBody consumes (.obj fields)) := by
  have hcontent := get?_content_requestBody consumes fields
  refine accepted_of_inOrder (get?_ref_requestBody consumes fields)
    ⟨⟨_, hcontent⟩, holdsContent_of_contentOf hcontent fun mime => ⟨_, rfl, ?_⟩⟩
  intro schema hschema hobj
  have heq : bodySchema fields = schema := Option.some.inj hschema
  rw [← heq, bodySchema]
  cases hget : fields.get? "schema" with
  | none => exact accepted_nil
  | some v => exact h v hget

/-- An object with the type of a form field. -/
def IsFormField (v : Json) : Prop := ∃ fields, v = .obj fields ∧ TypedWell fields

theorem accepted_of_formField? {v : Json} (h : IsFormField v) {field : FormField}
    (hfield : formField? v = some field) : Accepted .schema field.schema := by
  obtain ⟨fields, rfl, htyped⟩ := h
  obtain ⟨name, _, rfl⟩ := Option.map_eq_some_iff.mp hfield
  exact accepted_fieldSchema htyped

/-- The object schema of a form. -/
theorem accepted_formSchema {properties : Fields} {required : List Json}
    (hproperties : ∀ name w, (name, w) ∈ properties → Accepted .schema w)
    (hrequired : ∀ v ∈ required, v.isStr = true) :
    Accepted .schema (.obj (formSchema properties required)) := by
  have habsent : ∀ {key v}, key ∉ ["type", "properties", "required"] →
      Fields.get? key (formSchema properties required) = some v → False := by
    intro key v hkey hv
    cases (get?_formSchema_of_not_mem hkey).symm.trans hv
  refine accepted_of_inOrder (get?_formSchema_of_not_mem (by decide))
    ⟨⟨?type, ?required, ?enum, ?multiple, ?counts, ?pattern⟩,
      ⟨?members, ?single, ?additional, ?properties⟩⟩
  case type =>
    intro v hv
    cases hv
    rfl
  case required =>
    intro v hv
    have hnames : v = .arr required := by
      cases required <;> cases hv
      rfl
    rw [hnames, requiredComplaint, if_pos (List.all_eq_true.mpr hrequired)]
  case enum => exact fun v hv => (habsent (by decide) hv).elim
  case multiple => exact fun v hv => (habsent (by decide) hv).elim
  case counts =>
    intro key hk v hv
    have hapart : ∀ k ∈ countKeywords, k ∉ ["type", "properties", "required"] := by decide
    exact (habsent (hapart key hk) hv).elim
  case pattern => exact fun v hv => (habsent (by decide) hv).elim
  case members =>
    intro key hk v hv
    have hapart : ∀ k ∈ ["allOf", "oneOf", "anyOf"], k ∉ ["type", "properties", "required"] := by
      decide
    exact (habsent (hapart key hk) hv).elim
  case single =>
    intro key hk v hv
    have hapart : ∀ k ∈ ["not", "items"], k ∉ ["type", "properties", "required"] := by decide
    exact (habsent (hapart key hk) hv).elim
  case additional => exact fun entries hentries => (habsent (by decide) hentries).elim
  case properties =>
    intro v hv
    cases (get?_properties_formSchema properties required).symm.trans hv
    exact ⟨properties, rfl, hproperties⟩

theorem accepted_formBody (consumes : List String) {form : List Json}
    (h : ∀ v ∈ form, IsFormField v) : Accepted .body (formBody consumes form) := by
  rw [formBody_eq]
  refine accepted_of_inOrder rfl ⟨⟨_, rfl⟩, ?_⟩
  intro v hv
  cases hv
  refine ⟨_, rfl, fun mime media hmem => ?_⟩
  cases List.mem_singleton.mp hmem
  refine ⟨_, rfl, fun schema hschema _ => ?_⟩
  cases hschema
  refine accepted_formSchema (fun name w hw => ?_) fun _ => isStr_of_mem_formRequired
  obtain ⟨v, hv, field, hfield, _, rfl⟩ := exists_of_mem_formProperties hw
  exact accepted_of_formField? (h v hv) hfield

theorem accepted_convertResponse (produces : List String) {v : Json} (hwf : v.WellFormed)
    (h : Grammar.Response v) : Accepted .response (convertResponse produces v) := by
  obtain ⟨fields, rfl, ⟨pointer, href, hlocal⟩ | ⟨href, hinline⟩⟩ := h
  · rw [convertResponse_of_reference href]
    exact accepted_iff.mpr ⟨fields, rfl, Or.inl ⟨pointer, href, hlocal⟩⟩
  · rw [convertResponse_of_plain href]
    refine accepted_of_inOrder ((get?_liftContent hwf.1 (by decide)).trans href) ⟨?_, ?_⟩
    · rw [get?_liftContent hwf.1 (by decide)]
      exact hinline.description
    · have hcontent := @get?_content_liftContent produces _ hwf.1
      cases hschema : Fields.get? "schema" fields with
      | none =>
        rw [hschema, hinline.content] at hcontent
        intro v hv
        cases hcontent.symm.trans hv
      | some schema =>
        rw [hschema] at hcontent
        refine holdsContent_of_contentOf hcontent fun mime => ⟨_, rfl, ?_⟩
        intro w hw hobj
        have heq : schema = w := Option.some.inj hw
        exact heq ▸ hinline.schema schema hschema (heq ▸ hobj)

end Conversions

/-! ### Sorted lists -/

section Lists

variable [Pattern.Checker]

/-- A body that is accepted whatever an operation consumes. -/
def BodySource.Valid (source : BodySource) : Prop :=
  ∀ consumes, Accepted .body (source.requestBody consumes)

/-- Whatever goes somewhere is valid in the role it has there. -/
def Destination.Valid (d : Destination) : Prop :=
  d.All (Accepted .parameter) BodySource.Valid IsFormField

/-- What a list of parameters has been sorted into is valid. -/
def Sorted.Valid (s : Sorted) : Prop := s.All (Accepted .parameter) BodySource.Valid IsFormField

theorem valid_inlined {v : Json} (hwf : v.WellFormed) (h : Grammar.Parameter v) :
    (inlined v).Valid := by
  rcases h with ⟨pointer, rfl, hlocal⟩ | ⟨fields, rfl, h⟩
  · exact accepted_of_isReference ⟨pointer, rfl, hlocal⟩
  · obtain ⟨c, _, hin⟩ := h.carrier
    have hcarrier : (Json.obj fields).strAt? "in" = some c := by
      rw [Json.strAt?, Json.get?, hin]
      rfl
    rw [inlined, hcarrier]
    split
    · exact fun consumes => accepted_requestBody consumes h.schema
    · next hform =>
      cases hform
      exact ⟨fields, rfl, h.inline (by simp [hin])⟩
    · next hbody hform =>
      refine accepted_convertParameter hwf h ?_ ?_
      · intro heq
        cases hin.symm.trans heq
        exact hbody rfl
      · intro heq
        cases hin.symm.trans heq
        exact hform rfl

variable {around : Surroundings} (hforms : ∀ name v, (name, v) ∈ around.forms → IsFormField v)
include hforms

theorem valid_destination {v : Json} (hwf : v.WellFormed) (h : Grammar.Parameter v) :
    (destination around v).Valid := by
  refine Destination.all_destination (fun name _ _ consumes => ?_)
    (fun name field hfield => hforms name field (Fields.mem_of_get?_eq_some hfield))
    fun _ => valid_inlined hwf h
  exact accepted_of_isReference ⟨_, rfl, Pointer.isLocal_append rfl name⟩

theorem valid_sortParameters {entries : List Json} (hwf : ∀ v ∈ entries, v.WellFormed)
    (h : ∀ v ∈ entries, Grammar.Parameter v) : (sortParameters around entries).Valid :=
  all_sortParameters fun v hv => valid_destination hforms (hwf v hv) (h v hv)

/-- The list of parameters of a grammatical owner is sorted into what is valid. -/
theorem valid_sortParameters_entriesAt {fields : Fields} (hwf : (Json.obj fields).WellFormed)
    (h : Grammar.Parameters fields) :
    (sortParameters around (entriesAt fields "parameters")).Valid := by
  refine valid_sortParameters hforms (wellFormed_entriesAt hwf "parameters") ?_
  rw [entriesAt]
  cases hlist : fields.get? "parameters" with
  | none => simp
  | some v =>
    obtain ⟨items, rfl, hitems⟩ := h v hlist
    exact hitems

theorem parametersInOrder_resorted {fields : Fields} (hwf : (Json.obj fields).WellFormed)
    (h : Grammar.Parameters fields) : ParametersInOrder (resorted around fields) := by
  intro v hv
  rw [resorted, get?_withPlain_self hwf.1] at hv
  split at hv
  · cases hv
  · cases hv
    exact ⟨_, rfl, (valid_sortParameters_entriesAt hforms hwf h).plain⟩

/-! ### Operations and path items -/

omit hforms in
theorem accepted_operationBody? {consumes : List String} {own shared : Sorted} {body : Json}
    (hown : own.Valid) (hshared : shared.Valid)
    (h : operationBody? consumes own shared = some body) : Accepted .body body :=
  operationBody?_induction (fun _ hsource => hsource consumes) (fun _ => accepted_formBody consumes)
    hown hshared h

theorem operationInOrder_upgradeOperation {shared : Sorted} (hshared : shared.Valid) {op : Fields}
    (hwf : (Json.obj op).WellFormed) (h : Grammar.Operation op) :
    OperationInOrder (upgradeOperation around shared op) := by
  refine ⟨?parameters, ?body, ?responses⟩
  case parameters =>
    intro v hv
    rw [get?_upgradeOperation hwf.1 (by decide)] at hv
    exact parametersInOrder_resorted hforms hwf h.parameters v hv
  case body =>
    intro v hv
    rw [get?_requestBody_upgradeOperation hwf.1, h.body, Option.or_none] at hv
    exact accepted_operationBody? (valid_sortParameters_entriesAt hforms hwf h.parameters)
      hshared hv
  case responses =>
    obtain ⟨entries, hentries, hall⟩ := h.responses
    have hmap : (Json.obj entries).WellFormed := hwf.get? (v := .obj op) hentries
    refine ⟨_, by rw [get?_responses_upgradeOperation hwf.1, hentries]; rfl, fun key r hr => ?_⟩
    obtain ⟨⟨_, v⟩, hv, heq⟩ := List.mem_map.mp hr
    cases heq
    obtain ⟨hkey, hresponse⟩ := hall key v hv
    exact ⟨hkey, accepted_convertResponse _ (wellFormed_of_mem_fields hmap.2 hv) hresponse⟩

theorem pathInOrder_upgradedItem {item : Fields} (hwf : (Json.obj item).WellFormed)
    (h : Grammar.Item item) :
    PathInOrder (upgradedItem around item) := by
  refine ⟨?_, fun method op hop => ?_⟩
  · intro v hv
    rw [get?_parameters_upgradedItem] at hv
    exact parametersInOrder_resorted hforms hwf h.parameters v hv
  · have hname : method.name ≠ "parameters" := by
      cases method <;> decide
    cases hget : item.get? method.name with
    | none =>
      rw [get?_upgradedItem, resorted, get?_withPlain_of_ne hwf.1 hname, hget] at hop
      cases hop
    | some v =>
      obtain ⟨fields, rfl, hfields⟩ := h.operations method v hget
      cases (get?_name_upgradedItem hwf.1 hget).symm.trans hop
      exact ⟨_, rfl, operationInOrder_upgradeOperation hforms
        (valid_sortParameters_entriesAt hforms hwf h.parameters)
        (hwf.get? (v := .obj item) hget) hfields⟩

theorem referenceOr_upgradePath {v : Json} (hwf : v.WellFormed) (h : ReferenceOr Grammar.Item v) :
    ReferenceOr PathInOrder (upgradePath around v) := by
  obtain ⟨item, rfl, h⟩ := h
  have href : Fields.get? "$ref" (upgradedItem around item) = Fields.get? "$ref" item := by
    rw [get?_upgradedItem, resorted, get?_withPlain_of_ne hwf.1 (by decide)]
    simp only [if_neg (show "$ref" ∉ Method.all.map Method.name by decide), Option.map_id']
  refine ⟨upgradedItem around item, rfl, ?_⟩
  rw [href]
  exact h.imp_right fun hinline => ⟨hinline.1, pathInOrder_upgradedItem hforms hwf hinline.2⟩

end Lists

/-! ### Documents -/

section Documents

variable [Pattern.Checker] {doc : Fields}

omit [Pattern.Checker] in
theorem forall_sharedEntries {key : String} {p : Json → Prop} (h : Shares doc key p) :
    ∀ name v, (name, v) ∈ sharedEntries doc key → p v := by
  intro name v hv
  rw [sharedEntries] at hv
  cases hget : doc.get? key with
  | none =>
    rw [hget] at hv
    cases hv
  | some w =>
    obtain ⟨entries, rfl, hall⟩ := h w hget
    rw [hget] at hv
    exact hall name v hv

theorem isFormField_of_mem_forms (hwf : (Json.obj doc).WellFormed) (h : Grammar.Document doc) :
    ∀ name v, (name, v) ∈ (surroundings doc).forms → IsFormField v := by
  intro name v hv
  obtain ⟨hmem, hcarrier⟩ := List.mem_filter.mp hv
  have hvalid := valid_inlined
    (wellFormed_of_mem_fields (wellFormed_sharedEntries hwf "parameters").2 hmem)
    (forall_sharedEntries h.parameters name v hmem)
  have hin : v.strAt? "in" = some "formData" := beq_iff_eq.mp hcarrier
  rw [inlined, hin] at hvalid
  exact hvalid

/-- The shared parts of a grammatical document are valid in the sections they are in. -/
theorem accepted_of_mem_components (hwf : (Json.obj doc).WellFormed) (h : Grammar.Document doc)
    {role : Role} {entries : Fields}
    (hentries : Fields.get? role.sectionName (components (surroundings doc) doc) =
      some (.obj entries)) {name : String} {w : Json} (hw : (name, w) ∈ entries) :
    Accepted role w := by
  have hvalid : ∀ {v}, (sharedEntries doc "parameters").get? name = some v → (inlined v).Valid :=
    fun hv => valid_inlined ((wellFormed_sharedEntries hwf "parameters").get?
      (v := .obj (sharedEntries doc "parameters")) hv)
      (forall_sharedEntries h.parameters _ _ (Fields.mem_of_get?_eq_some hv))
  cases moved_of_mem_components hwf hentries hw with
  | definition hv =>
    exact forall_sharedEntries h.definitions name w (Fields.mem_of_get?_eq_some hv)
  | parameter hv hplain =>
    have hparameter := hvalid hv
    rw [inlined_of_isPlain hplain] at hparameter
    exact hparameter
  | body hv hbody =>
    have hrequest := hvalid hv
    rw [inlined_of_body hbody] at hrequest
    exact hrequest _
  | response hv =>
    exact accepted_convertResponse _ ((wellFormed_sharedEntries hwf "responses").get?
      (v := .obj (sharedEntries doc "responses")) hv)
      (forall_sharedEntries h.responses _ _ (Fields.mem_of_get?_eq_some hv))

omit [Pattern.Checker] in
theorem openapi_of_legacy (h : declaredVersion doc = .ok .legacy) : doc.get? "openapi" = none := by
  rw [declaredVersion] at h
  split at h
  · split at h <;> cases h
  · cases h
  · next hnone => exact hnone

/-- A grammatical document, assembled anew, is in order. -/
theorem documentInOrder_assembled {version : String} (hwf : (Json.obj doc).WellFormed)
    (h : Grammar.Document doc) (hversion : isSupported version = true) :
    DocumentInOrder (assembled version doc) := by
  refine ⟨?version, ?info, ?paths, ?components⟩
  case version =>
    exact ⟨version, get?_assembled_openapi hwf (openapi_of_legacy h.version), hversion⟩
  case info =>
    obtain ⟨info, hinfo, htitle, hnumber⟩ := h.info
    refine ⟨info, ?_, htitle, hnumber⟩
    rw [assembled, get?_withValue_of_ne (by decide), get?_withValue_of_ne (by decide),
      get?_headed hwf (by decide) (by decide), hinfo]
    rfl
  case paths =>
    obtain ⟨paths, hpaths, hall⟩ := h.paths
    have hpathswf : (Json.obj paths).WellFormed := hwf.get? (v := .obj doc) hpaths
    refine ⟨_, by rw [get?_assembled_paths hwf, hpaths]; rfl, fun path item hmem => ?_⟩
    obtain ⟨⟨_, v⟩, hv, heq⟩ := List.mem_map.mp hmem
    cases heq
    exact referenceOr_upgradePath (isFormField_of_mem_forms hwf h)
      (wellFormed_of_mem_fields hpathswf.2 hv) (hall path v hv)
  case components =>
    intro v hv
    rw [get?_assembled_components hwf h.components] at hv
    split at hv
    · cases hv
    · cases hv
      exact ⟨_, rfl, fun role entries hentries name w => accepted_of_mem_components hwf h hentries⟩

/-- **A grammatical document is upgraded to a valid one**, which declares the version that is asked
for, so normalization succeeds with it. -/
theorem normalize_of_grammatical {options : NormalizeOptions} (hwf : (Json.obj doc).WellFormed)
    (h : Grammar.Document doc) (hallowed : options.upgradeLegacy = true)
    (hversion : isSupported options.targetVersion = true) :
    issues (upgrade options.targetVersion doc) = [] ∧
      normalize options (.obj doc) = .ok (upgrade options.targetVersion doc) := by
  have hvalid : issues (upgrade options.targetVersion doc) = [] := by
    rw [upgrade_eq]
    exact issues_modernize (wellFormed_assembled hwf)
      (issues_eq_nil_iff.mpr (documentInOrder_assembled hwf h hversion))
  have hupgraded := upgraded_eq_ok_iff.mpr (.inr ⟨h.version, hallowed, rfl⟩)
  exact ⟨hvalid, normalize_eq_ok_iff.mpr ⟨doc, rfl, hupgraded, hvalid⟩⟩

end Documents

/-- A document with a shared parameter, a file in a form, and a response with a shared schema. -/
def uploadDocument : Fields := [
  ("swagger", .str "2.0"),
  ("info", .obj [("title", .str "uploads"), ("version", .str "1")]),
  ("paths", .obj [("/a/\x7bid\x7d", .obj [
    ("parameters", .arr [.obj [("$ref", .str "#/parameters/id")]]),
    ("put", .obj [
      ("parameters", .arr [.obj [("name", .str "photo"), ("in", .str "formData"),
        ("type", .str "file")]]),
      ("responses", .obj [("200", .obj [("description", .str "stored"),
        ("schema", .obj [("$ref", .str "/definitions/Photo")])])])])])]),
  ("parameters", .obj [("id", .obj [("name", .str "id"), ("in", .str "path"),
    ("required", .bool true), ("type", .str "string")])]),
  ("definitions", .obj [("Photo", .obj [("type", .str "object")])])]

theorem normalize_of_uploadDocument :
    (Json.obj uploadDocument).WellFormed ∧ Grammar.Document uploadDocument ∧
      normalize {} (.obj uploadDocument) = .ok (upgrade "3.0.0" uploadDocument) := by
  have hwf : (Json.obj uploadDocument).WellFormed := by
    simp [uploadDocument, WellFormed, FieldsWellFormed, AllWellFormed]
  have htyped : ∀ name, typeComplaint (.str name) = none →
      Accepted .schema (.obj [("type", .str name)]) := by
    intro name hname
    refine accepted_of_inOrder rfl (inOrder_of_get?_eq (inOrder_of_accepted accepted_nil rfl)
      (fun key hkey => ?_) fun v hv => ?_)
    · exact get?_section_of_ne (.refl _) fun heq => hkey (heq ▸ List.mem_cons_self)
    · cases hv
      exact hname
  have hdocument : Grammar.Document uploadDocument := by
    refine ⟨by rfl, rfl, ⟨_, rfl, ⟨_, rfl⟩, _, rfl⟩, ⟨_, rfl, ?paths⟩, ?parameters, ?responses,
      ?definitions⟩
    case paths =>
      intro path item hmem
      cases List.mem_singleton.mp hmem
      refine ⟨_, rfl, Or.inr ⟨rfl, ?_, ?_⟩⟩
      · intro v hv
        cases hv
        refine ⟨_, rfl, fun p hp => ?_⟩
        rw [List.mem_singleton.mp hp]
        exact Or.inl ⟨_, rfl, rfl⟩
      · intro method op hop
        cases method with
        | put =>
          cases hop
          refine ⟨_, rfl, ?_, rfl, ⟨_, rfl, ?_⟩⟩
          · intro v hv
            cases hv
            refine ⟨_, rfl, fun p hp => ?_⟩
            rw [List.mem_singleton.mp hp]
            refine Or.inr ⟨_, rfl, rfl, rfl, ⟨_, rfl⟩, ⟨"formData", by decide, rfl⟩, ?_, ?_, ?_, ?_⟩
            · simp [Fields.get?]
            · exact fun _ => rfl
            · exact fun _ => Or.inr ⟨rfl, rfl, accepted_nil⟩
            · intro _ hschema
              cases hschema
          · intro key r hr
            cases List.mem_singleton.mp hr
            refine ⟨rfl, _, rfl, Or.inr ⟨rfl, rfl, ⟨_, rfl⟩, fun v hv _ => ?_⟩⟩
            cases hv
            exact accepted_of_isReference ⟨_, rfl, rfl⟩
        | _ => cases hop
    case parameters =>
      intro v hv
      cases hv
      refine ⟨_, rfl, fun name w hw => ?_⟩
      cases List.mem_singleton.mp hw
      refine Or.inr ⟨_, rfl, rfl, rfl, ⟨_, rfl⟩, ⟨"path", by decide, rfl⟩, fun _ => rfl,
        fun _ => rfl, fun _ => Or.inl (htyped "string" rfl), fun _ hschema => ?_⟩
      cases hschema
    case responses =>
      intro v hv
      cases hv
    case definitions =>
      intro v hv
      cases hv
      refine ⟨_, rfl, fun name w hw => ?_⟩
      cases List.mem_singleton.mp hw
      exact htyped "object" rfl
  exact ⟨hwf, hdocument, (normalize_of_grammatical hwf hdocument rfl (by decide)).2⟩

end ApiGraph.Legacy
