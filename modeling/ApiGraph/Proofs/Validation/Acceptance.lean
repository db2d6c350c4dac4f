import ApiGraph.Proofs.Validation.Keywords

/-!
# What is valid

Validation finds nothing in a document exactly if the document is in order: each object it
comes to is a local reference, or an object whose own fields are as its role demands and
whose parts are in order again. Order is told without locations, which only name what is
found, so a value that is in order at one place is in order at every other.

For schemas this takes an induction on the size of the schema. The other roles hold schemas
but not one another, and are settled one after the other from the inside out.
-/

namespace ApiGraph.Validation

/-- A local reference, or an object with a property that is not taken for a reference. -/
def ReferenceOr (p : Fields → Prop) (v : Json) : Prop :=
  ∃ fields, v = .obj fields ∧
    ((∃ pointer, Fields.get? "$ref" fields = some (.str pointer) ∧
      Pointer.isLocal pointer = true) ∨ (Fields.get? "$ref" fields = none ∧ p fields))

theorem ReferenceOr.isObj {p : Fields → Prop} {v : Json} (h : ReferenceOr p v) : v.isObj = true := by
  obtain ⟨fields, rfl, _⟩ := h
  rfl

theorem objectIssues_eq_nil_iff {subject : String} {check : Fields → String → List Issue}
    {p : Fields → Prop} {location : String}
    (hcheck : ∀ fields, check fields location = [] ↔ p fields) {v : Json} :
    objectIssues subject check v location = [] ↔ ReferenceOr p v := by
  constructor
  · intro h
    obtain ⟨fields, hv, hlocal | ⟨href, hfields⟩⟩ := objectIssues_eq_nil h
    · exact ⟨fields, hv, Or.inl hlocal⟩
    · exact ⟨fields, hv, Or.inr ⟨href, (hcheck fields).mp hfields⟩⟩
  · rintro ⟨fields, rfl, ⟨pointer, href, hlocal⟩ | ⟨href, hfields⟩⟩
    · simp only [objectIssues, referenceIssues?, href, Option.map_some, hlocal, if_true,
        Option.getD_some]
    · simp only [objectIssues, referenceIssues?, href, Option.map_none, Option.getD_none]
      exact (hcheck fields).mpr hfields

/-! ### Schemas -/

section Schemas

variable {p q : Json → Prop} {fields : Fields}

theorem HoldsSchemas.imp (h : HoldsSchemas p fields) (hpq : ∀ v, p v → q v) :
    HoldsSchemas q fields where
  members key hk v hv := by
    obtain ⟨items, rfl, hitems⟩ := h.members key hk v hv
    exact ⟨items, rfl, fun w hw => hpq w (hitems w hw)⟩
  single key hk v hv := hpq v (h.single key hk v hv)
  additional entries hentries := hpq _ (h.additional entries hentries)
  properties v hv := by
    obtain ⟨entries, rfl, hentries⟩ := h.properties v hv
    exact ⟨entries, rfl, fun name w hw => hpq w (hentries name w hw)⟩

/-- The schemas that an object holds are smaller than the object. -/
theorem HoldsSchemas.below (h : HoldsSchemas p fields) :
    HoldsSchemas (fun v => p v ∧ sizeOf v < sizeOf (Json.obj fields)) fields := by
  have hfield : ∀ {key v}, fields.get? key = some v → sizeOf v < sizeOf (Json.obj fields) :=
    fun hv => Json.sizeOf_lt_of_mem_fields (Fields.mem_of_get?_eq_some hv)
  refine ⟨?members, ?single, ?additional, ?properties⟩
  case members =>
    intro key hk v hv
    obtain ⟨items, rfl, hitems⟩ := h.members key hk v hv
    exact ⟨items, rfl, fun w hw =>
      ⟨hitems w hw, (Json.sizeOf_lt_of_mem_items hw).trans (hfield hv)⟩⟩
  case single =>
    exact fun key hk v hv => ⟨h.single key hk v hv, hfield hv⟩
  case additional =>
    exact fun entries hentries => ⟨h.additional entries hentries, hfield hentries⟩
  case properties =>
    intro v hv
    obtain ⟨entries, rfl, hentries⟩ := h.properties v hv
    exact ⟨entries, rfl, fun name w hw =>
      ⟨hentries name w hw, (Json.sizeOf_lt_of_mem_fields hw).trans (hfield hv)⟩⟩

theorem check_eq_nil_of {key location : String} {complaint : Json → Option Complaint}
    (h : ∀ v, fields.get? key = some v → complaint v = none) :
    check fields location key complaint = [] := by
  rw [check]
  cases hv : fields.get? key with
  | none => rfl
  | some v =>
    rw [Option.bind_some, h v hv]
    rfl

variable [Pattern.Checker]

theorem InOrder.keywordIssues_eq_nil (h : InOrder fields) (location : String) :
    keywordIssues fields location = [] := by
  simp only [keywordIssues, List.append_eq_nil_iff, List.flatMap_eq_nil_iff]
  exact ⟨⟨⟨⟨check_eq_nil_of h.required, check_eq_nil_of h.enum⟩, check_eq_nil_of h.multiple⟩,
    fun key hk => check_eq_nil_of (h.counts key hk)⟩, check_eq_nil_of h.pattern⟩

theorem HoldsSchemas.partIssues_eq_nil
    (h : HoldsSchemas (fun v => ∀ l, schemaIssues v l = []) fields) {location : String}
    {part : Part} (hpart : part ∈ parts fields location) : partIssues part = [] := by
  have hmembers : ∀ key ∈ ["allOf", "oneOf", "anyOf"],
      part ∈ memberParts fields location key → partIssues part = [] := by
    intro key hk hmem
    rw [memberParts] at hmem
    split at hmem
    · cases hmem
    · next items hv =>
      obtain ⟨_, hlist, hitems⟩ := h.members key hk _ hv
      cases hlist
      obtain ⟨i, hi, rfl⟩ := List.mem_mapIdx.mp hmem
      exact hitems _ (List.getElem_mem hi) _
    · next v hnot hv =>
      obtain ⟨items, rfl, _⟩ := h.members key hk _ hv
      exact absurd rfl (hnot items)
  have hsingle : ∀ key ∈ ["not", "items"],
      part ∈ childParts fields location key → partIssues part = [] := by
    intro key hk hmem
    rw [childParts, Option.mem_toList, Option.map_eq_some_iff] at hmem
    obtain ⟨v, hv, rfl⟩ := hmem
    exact h.single key hk v hv _
  have hadditional : part ∈ additionalParts fields location → partIssues part = [] := by
    intro hmem
    rw [additionalParts] at hmem
    split at hmem
    · next entries hv =>
      rw [List.mem_singleton.mp hmem]
      exact h.additional entries hv _
    · cases hmem
  have hproperties : part ∈ propertyParts fields location → partIssues part = [] := by
    intro hmem
    simp only [propertyParts] at hmem
    split at hmem
    · cases hmem
    · next entries hv =>
      obtain ⟨_, hmap, hentries⟩ := h.properties _ hv
      cases hmap
      obtain ⟨⟨name, v⟩, hentry, rfl⟩ := List.mem_map.mp hmem
      exact hentries name v hentry _
    · next v hnot hv =>
      obtain ⟨entries, rfl, _⟩ := h.properties _ hv
      exact absurd rfl (hnot entries)
  simp only [parts, List.mem_append] at hpart
  rcases hpart with (((((hpart | hpart) | hpart) | hpart) | hpart) | hpart) | hpart
  · exact hmembers "allOf" (by decide) hpart
  · exact hmembers "oneOf" (by decide) hpart
  · exact hmembers "anyOf" (by decide) hpart
  · exact hsingle "not" (by decide) hpart
  · exact hsingle "items" (by decide) hpart
  · exact hadditional hpart
  · exact hproperties hpart

theorem schemaFieldIssues_eq_nil_of (hinOrder : InOrder fields)
    (h : HoldsSchemas (fun v => ∀ l, schemaIssues v l = []) fields) (location : String) :
    schemaFieldIssues fields location = [] := by
  rw [schemaFieldIssues, check_eq_nil_of hinOrder.type, hinOrder.keywordIssues_eq_nil location,
    List.nil_append, List.append_nil, List.flatMap_eq_nil_iff]
  exact fun part hpart => h.partIssues_eq_nil hpart

/-- A schema that is accepted somewhere is accepted everywhere. -/
theorem schemaIssues_eq_nil {v : Json} (h : Accepted .schema v) (location : String) :
    schemaIssues v location = [] := by
  rw [schemaIssues_eq]
  refine (objectIssues_eq_nil_iff (p := fun fields => schemaFieldIssues fields location = [])
    fun _ => Iff.rfl).mpr ?_
  obtain ⟨fields, hv, hlocal | ⟨href, _, hfields⟩⟩ := h.cases
  · exact ⟨fields, hv, Or.inl hlocal⟩
  · refine ⟨fields, hv, Or.inr ⟨href, ?_⟩⟩
    have hbelow := (holdsSchemas_of_schemaFieldIssues hfields).below
    refine schemaFieldIssues_eq_nil_of (inOrder_of_schemaFieldIssues hfields) ?_ location
    exact hbelow.imp fun w hw => schemaIssues_eq_nil hw.1
termination_by sizeOf v
decreasing_by
  rw [hv]
  exact hw.2

theorem schemaFieldIssues_eq_nil_iff {location : String} : schemaFieldIssues fields location = [] ↔
    InOrder fields ∧ HoldsSchemas (Accepted .schema) fields := by
  constructor
  · exact fun h => ⟨inOrder_of_schemaFieldIssues h, holdsSchemas_of_schemaFieldIssues h⟩
  · rintro ⟨hinOrder, hholds⟩
    exact schemaFieldIssues_eq_nil_of hinOrder (hholds.imp fun v hv => schemaIssues_eq_nil hv)
      location

end Schemas

/-! ### Parameters, bodies and responses -/

variable [Pattern.Checker]

/-- The media types under `content` are objects, and a schema object in one is accepted. -/
def HoldsContent (fields : Fields) : Prop :=
  ∀ v, fields.get? "content" = some v → ∃ content, v = .obj content ∧
    ∀ mime media, (mime, media) ∈ content → ∃ entries, media = .obj entries ∧
      ∀ schema, Fields.get? "schema" entries = some schema → schema.isObj = true →
        Accepted .schema schema

/-- The fields of a parameter that validation finds nothing in. -/
structure ParameterInOrder (fields : Fields) : Prop where
  name : ∃ s, fields.get? "name" = some (.str s)
  carrier : ∃ c : Carrier, fields.get? "in" = some (.str c.name) ∧
    (c = .path → fields.get? "required" = some (.bool true))
  schema : ∀ v, fields.get? "schema" = some v → Accepted .schema v
  content : HoldsContent fields

/-- The fields of a role that validation finds nothing in. -/
def Role.FieldsInOrder : Role → Fields → Prop
  | parameter, fields => ParameterInOrder fields
  | response, fields => (∃ s, fields.get? "description" = some (.str s)) ∧ HoldsContent fields
  | body, fields => (∃ content, fields.get? "content" = some (.obj content)) ∧ HoldsContent fields
  | schema, fields => InOrder fields ∧ HoldsSchemas (Accepted .schema) fields

section Roles

variable {fields : Fields} {location : String}

theorem contentIssues_eq_nil_iff : contentIssues fields location = [] ↔ HoldsContent fields := by
  constructor
  · exact fun h v hv => contentIssues_eq_nil h hv
  · intro h
    rw [contentIssues]
    split
    · rfl
    · next content hcontent =>
      obtain ⟨_, heq, hmedia⟩ := h _ hcontent
      cases heq
      rw [List.flatMap_eq_nil_iff]
      rintro ⟨mime, media⟩ hmem
      obtain ⟨entries, rfl, hschema⟩ := hmedia mime media hmem
      simp only [mediaIssues]
      split
      · next schema hget => exact schemaIssues_eq_nil (hschema _ hget rfl) _
      · rfl
    · next v hnot hv =>
      obtain ⟨content, rfl, _⟩ := h _ hv
      exact absurd rfl (hnot content)

omit [Pattern.Checker] in
theorem requiredString_eq_nil_iff {key : String} :
    requiredString fields location key = [] ↔ ∃ s, fields.get? key = some (.str s) := by
  refine ⟨requiredString_eq_nil, ?_⟩
  rintro ⟨s, hs⟩
  rw [requiredString, hs]

omit [Pattern.Checker] in
theorem carrierIssues_eq_nil_iff : carrierIssues fields location = [] ↔
    ∃ c : Carrier, fields.get? "in" = some (.str c.name) ∧
      (c = .path → fields.get? "required" = some (.bool true)) := by
  constructor
  · intro h
    obtain ⟨c, hc⟩ := carrierIssues_eq_nil h
    refine ⟨c, hc, ?_⟩
    rintro rfl
    rw [carrierIssues, hc] at h
    have hknown : ¬ Carrier.path.name ∉ Carrier.all.map Carrier.name := by decide
    simp only [if_neg hknown] at h
    split at h
    · next hrequired => exact hrequired
    · cases h
    · next hother => exact absurd hother (by decide)
  · rintro ⟨c, hc, hpath⟩
    have hknown : ¬ c.name ∉ Carrier.all.map Carrier.name := by
      cases c <;> decide
    rw [carrierIssues, hc]
    simp only [if_neg hknown]
    by_cases hcarrier : c = .path
    · rw [hpath hcarrier, hcarrier]
      rfl
    · have hname : decide (c.name = "path") = false := by
        cases c <;> first | rfl | exact absurd rfl hcarrier
      rw [hname]

theorem parameterFieldIssues_eq_nil_iff :
    parameterFieldIssues fields location = [] ↔ ParameterInOrder fields := by
  constructor
  · intro h
    obtain ⟨hname, _, hschema, hcontent⟩ := parameterFieldIssues_eq_nil h
    simp only [parameterFieldIssues, List.append_eq_nil_iff] at h
    exact ⟨hname, carrierIssues_eq_nil_iff.mp h.1.1.2, hschema,
      contentIssues_eq_nil_iff.mp hcontent⟩
  · intro h
    rw [parameterFieldIssues, requiredString_eq_nil_iff.mpr h.name,
      carrierIssues_eq_nil_iff.mpr h.carrier, contentIssues_eq_nil_iff.mpr h.content]
    cases hv : fields.get? "schema" with
    | none => rfl
    | some v => simp only [schemaIssues_eq_nil (h.schema v hv), List.append_nil]

theorem bodyFieldIssues_eq_nil_iff : bodyFieldIssues fields location = [] ↔
    (∃ content, fields.get? "content" = some (.obj content)) ∧ HoldsContent fields := by
  rw [bodyFieldIssues, List.append_eq_nil_iff, contentIssues_eq_nil_iff]
  refine and_congr_left' ?_
  constructor
  · intro h
    split at h
    · next content hcontent => exact ⟨content, hcontent⟩
    · cases h
  · rintro ⟨content, hcontent⟩
    rw [hcontent]

theorem responseFieldIssues_eq_nil_iff : responseFieldIssues fields location = [] ↔
    (∃ s, fields.get? "description" = some (.str s)) ∧ HoldsContent fields := by
  rw [responseFieldIssues, List.append_eq_nil_iff, requiredString_eq_nil_iff,
    contentIssues_eq_nil_iff]

theorem Role.fieldIssues_eq_nil_iff (role : Role) :
    role.fieldIssues fields location = [] ↔ role.FieldsInOrder fields := by
  cases role with
  | parameter => exact parameterFieldIssues_eq_nil_iff
  | response => exact responseFieldIssues_eq_nil_iff
  | body => exact bodyFieldIssues_eq_nil_iff
  | schema => exact schemaFieldIssues_eq_nil_iff

theorem Role.issues_eq_nil_iff {role : Role} {v : Json} :
    role.issues v location = [] ↔ ReferenceOr role.FieldsInOrder v := by
  obtain ⟨subject, heq⟩ := role.issues_eq v location
  rw [heq]
  exact objectIssues_eq_nil_iff fun _ => role.fieldIssues_eq_nil_iff

theorem accepted_iff {role : Role} {v : Json} :
    Accepted role v ↔ ReferenceOr role.FieldsInOrder v := by
  constructor
  · rintro ⟨_, h⟩
    exact Role.issues_eq_nil_iff.mp h
  · exact fun h => ⟨"#", Role.issues_eq_nil_iff.mpr h⟩

theorem Role.issues_eq_nil_iff_accepted (role : Role) {v : Json} :
    role.issues v location = [] ↔ Accepted role v :=
  Role.issues_eq_nil_iff.trans accepted_iff.symm

theorem Accepted.isObj {role : Role} {v : Json} (h : Accepted role v) : v.isObj = true :=
  (accepted_iff.mp h).isObj

end Roles

/-! ### Operations, paths and documents -/

def ParametersInOrder (owner : Fields) : Prop :=
  ∀ v, owner.get? "parameters" = some v → ∃ items, v = .arr items ∧ ∀ p ∈ items, Accepted .parameter p

def ResponsesInOrder (op : Fields) : Prop :=
  ∃ entries, op.get? "responses" = some (.obj entries) ∧ ∀ key r, (key, r) ∈ entries →
    (StatusKey.parse? key).isSome = true ∧ Accepted .response r

structure OperationInOrder (fields : Fields) : Prop where
  parameters : ParametersInOrder fields
  body : ∀ v, fields.get? "requestBody" = some v → Accepted .body v
  responses : ResponsesInOrder fields

structure PathInOrder (item : Fields) : Prop where
  parameters : ParametersInOrder item
  operations : ∀ (method : Method) op, item.get? method.name = some op →
    ∃ fields, op = .obj fields ∧ OperationInOrder fields

/-- The fields of a document that validation finds nothing in. -/
structure DocumentInOrder (root : Fields) : Prop where
  version : ∃ v, root.get? "openapi" = some (.str v) ∧ isSupported v = true
  info : ∃ info, root.get? "info" = some (.obj info) ∧
    (∃ s, Fields.get? "title" info = some (.str s)) ∧
    ∃ s, Fields.get? "version" info = some (.str s)
  paths : ∃ paths, root.get? "paths" = some (.obj paths) ∧
    ∀ path item, (path, item) ∈ paths → ReferenceOr PathInOrder item
  components : ∀ v, root.get? "components" = some v → ∃ sections, v = .obj sections ∧
    ∀ (role : Role) entries, Fields.get? role.sectionName sections = some (.obj entries) →
      ∀ name w, (name, w) ∈ entries → Accepted role w

section Documents

variable {fields : Fields} {location : String}

theorem parametersIssues_eq_nil_iff :
    parametersIssues fields location = [] ↔ ParametersInOrder fields := by
  refine ⟨fun h v hv => parametersIssues_eq_nil h hv, fun h => ?_⟩
  rw [parametersIssues]
  split
  · rfl
  · next items hitems =>
    obtain ⟨_, heq, hall⟩ := h _ hitems
    cases heq
    rw [List.flatten_eq_nil_iff]
    intro found hfound
    obtain ⟨i, hi, rfl⟩ := List.mem_mapIdx.mp hfound
    exact (Role.issues_eq_nil_iff_accepted .parameter).mpr (hall _ (List.getElem_mem hi))
  · next v hnot hv =>
    obtain ⟨items, rfl, _⟩ := h _ hv
    exact absurd rfl (hnot items)

theorem responsesIssues_eq_nil_iff :
    responsesIssues fields location = [] ↔ ResponsesInOrder fields := by
  refine ⟨responsesIssues_eq_nil, ?_⟩
  rintro ⟨entries, hentries, hall⟩
  simp only [responsesIssues, hentries]
  rw [List.flatMap_eq_nil_iff]
  rintro ⟨key, r⟩ hmem
  obtain ⟨hkey, hr⟩ := hall key r hmem
  have hnone : ¬ (StatusKey.parse? key).isNone = true := by
    rw [Option.isNone_eq_false_iff.mpr hkey]
    exact Bool.false_ne_true
  simp only [responseEntryIssues, if_neg hnone, List.nil_append]
  exact (Role.issues_eq_nil_iff_accepted .response).mpr hr

theorem operationIssues_eq_nil_iff {op : Json} : operationIssues op location = [] ↔
    ∃ fields, op = .obj fields ∧ OperationInOrder fields := by
  constructor
  · intro h
    obtain ⟨fields, rfl, hparameters, hbody, hresponses⟩ := operationIssues_eq_nil h
    exact ⟨fields, rfl, parametersIssues_eq_nil_iff.mp hparameters, hbody,
      responsesIssues_eq_nil_iff.mp hresponses⟩
  · rintro ⟨fields, rfl, h⟩
    rw [operationIssues, parametersIssues_eq_nil_iff.mpr h.parameters,
      responsesIssues_eq_nil_iff.mpr h.responses]
    cases hbody : Fields.get? "requestBody" fields with
    | none => rfl
    | some v =>
      simp only [List.nil_append, List.append_nil]
      exact (Role.issues_eq_nil_iff_accepted .body).mpr (h.body v hbody)

theorem pathFieldIssues_eq_nil_iff :
    pathFieldIssues fields location = [] ↔ PathInOrder fields := by
  constructor
  · intro h
    obtain ⟨hparameters, hoperations⟩ := pathFieldIssues_eq_nil h
    refine ⟨parametersIssues_eq_nil_iff.mp hparameters, fun method op hop => ?_⟩
    obtain ⟨_, hissues⟩ := hoperations method op hop
    exact operationIssues_eq_nil_iff.mp hissues
  · intro h
    rw [pathFieldIssues, parametersIssues_eq_nil_iff.mpr h.parameters, List.nil_append,
      List.flatMap_eq_nil_iff]
    intro method _
    split
    · next op hop => exact operationIssues_eq_nil_iff.mpr (h.operations method op hop)
    · rfl

theorem sectionIssues_eq_nil_iff {role : Role} :
    sectionIssues fields role.sectionName role.issues = [] ↔
      ∀ entries, fields.get? role.sectionName = some (.obj entries) →
        ∀ name w, (name, w) ∈ entries → Accepted role w := by
  rw [sectionIssues]
  constructor
  · intro h entries hentries name w hmem
    rw [hentries] at h
    exact (Role.issues_eq_nil_iff_accepted _).mp (List.flatMap_eq_nil_iff.mp h (name, w) hmem)
  · intro h
    split
    · next entries hentries =>
      refine List.flatMap_eq_nil_iff.mpr ?_
      rintro ⟨name, w⟩ hmem
      exact (Role.issues_eq_nil_iff_accepted _).mpr (h entries hentries name w hmem)
    · rfl

theorem componentsIssues_eq_nil_iff : componentsIssues fields = [] ↔
    ∀ v, fields.get? "components" = some v → ∃ sections, v = .obj sections ∧
      ∀ (role : Role) entries, Fields.get? role.sectionName sections = some (.obj entries) →
        ∀ name w, (name, w) ∈ entries → Accepted role w := by
  rw [componentsIssues]
  split
  · next hnone => simp [hnone]
  · next sections hsections =>
    simp only [List.append_eq_nil_iff]
    constructor
    · rintro ⟨⟨⟨hschemas, hparameters⟩, hresponses⟩, hbodies⟩ v hv
      cases hsections.symm.trans hv
      refine ⟨sections, rfl, fun role => ?_⟩
      cases role with
      | schema => exact sectionIssues_eq_nil_iff.mp hschemas
      | parameter => exact sectionIssues_eq_nil_iff.mp hparameters
      | response => exact sectionIssues_eq_nil_iff.mp hresponses
      | body => exact sectionIssues_eq_nil_iff.mp hbodies
    · intro h
      obtain ⟨_, heq, hall⟩ := h _ hsections
      cases heq
      have hsection : ∀ role : Role, sectionIssues sections role.sectionName role.issues = [] :=
        fun role => sectionIssues_eq_nil_iff.mpr (hall role)
      exact ⟨⟨⟨hsection .schema, hsection .parameter⟩, hsection .response⟩, hsection .body⟩
  · next v hnot hv =>
    refine ⟨fun h => (by cases h), fun h => ?_⟩
    obtain ⟨sections, rfl, _⟩ := h _ hv
    exact absurd rfl (hnot sections)

theorem pathsIssues_eq_nil_iff : pathsIssues fields = [] ↔
    ∃ paths, fields.get? "paths" = some (.obj paths) ∧
      ∀ path item, (path, item) ∈ paths → ReferenceOr PathInOrder item := by
  have hpath : ∀ {item l}, pathIssues item l = [] ↔ ReferenceOr PathInOrder item :=
    objectIssues_eq_nil_iff fun _ => pathFieldIssues_eq_nil_iff
  rw [pathsIssues]
  constructor
  · intro h
    split at h
    · next paths hpaths =>
      refine ⟨paths, hpaths, fun path item hmem => ?_⟩
      exact hpath.mp (List.flatMap_eq_nil_iff.mp h (path, item) hmem)
    · cases h
    · cases h
  · rintro ⟨paths, hpaths, hall⟩
    rw [hpaths]
    refine List.flatMap_eq_nil_iff.mpr ?_
    rintro ⟨path, item⟩ hmem
    exact hpath.mpr (hall path item hmem)

omit [Pattern.Checker] in
theorem infoIssues_eq_nil_iff : infoIssues fields = [] ↔
    ∃ info, fields.get? "info" = some (.obj info) ∧
      (∃ s, Fields.get? "title" info = some (.str s)) ∧
      ∃ s, Fields.get? "version" info = some (.str s) := by
  rw [infoIssues]
  constructor
  · intro h
    split at h
    · next info hinfo =>
      obtain ⟨htitle, hversion⟩ := List.append_eq_nil_iff.mp h
      exact ⟨info, hinfo, requiredString_eq_nil htitle, requiredString_eq_nil hversion⟩
    · cases h
    · cases h
  · rintro ⟨info, hinfo, htitle, hversion⟩
    rw [hinfo]
    exact List.append_eq_nil_iff.mpr
      ⟨requiredString_eq_nil_iff.mpr htitle, requiredString_eq_nil_iff.mpr hversion⟩

omit [Pattern.Checker] in
theorem versionIssues_eq_nil_iff : versionIssues fields = [] ↔
    ∃ v, fields.get? "openapi" = some (.str v) ∧ isSupported v = true := by
  rw [versionIssues]
  constructor
  · intro h
    split at h
    · next v hv =>
      refine ⟨v, hv, ?_⟩
      by_contra hnot
      rw [if_neg hnot] at h
      cases h
    · cases h
  · rintro ⟨v, hv, hsupported⟩
    simp only [hv, if_pos hsupported]

/-- Validation finds nothing in a document exactly if the document is in order. -/
theorem issues_eq_nil_iff : issues (.obj fields) = [] ↔ DocumentInOrder fields := by
  rw [issues]
  simp only [List.append_eq_nil_iff, versionIssues_eq_nil_iff, infoIssues_eq_nil_iff,
    pathsIssues_eq_nil_iff, componentsIssues_eq_nil_iff]
  constructor
  · rintro ⟨⟨⟨hversion, hinfo⟩, hpaths⟩, hcomponents⟩
    exact ⟨hversion, hinfo, hpaths, hcomponents⟩
  · exact fun h => ⟨⟨⟨h.version, h.info⟩, h.paths⟩, h.components⟩

end Documents

end ApiGraph.Validation
