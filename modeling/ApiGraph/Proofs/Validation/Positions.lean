import ApiGraph.Proofs.Schema.Positions
import ApiGraph.Validation.Document

/-!
# Validated positions

Validation walks a document without following references. `Validated` lists the fragments
its walk comes to, each with the role it is checked in: the shared components, the entries
of parameter lists and response maps, the request bodies, and the schemas at and below
parameters and media types. In a document without issues the check of each of them has
found nothing, so each is either a local reference or an object whose own fields are in
order. The exception, `IsStray`, is a schema that is no object under `additionalProperties`.
-/

namespace ApiGraph.Validation

/-! ### The walk -/

/-- What a position is checked as. -/
inductive Role where
  | parameter
  | response
  | body
  | schema
  deriving DecidableEq, Repr

namespace Role

/-- The section of the components that shares objects of a role. -/
def sectionName : Role → String
  | parameter => "parameters"
  | response => "responses"
  | body => "requestBodies"
  | schema => "schemas"

/-- The check of a role. -/
def issues [Pattern.Checker] : Role → Json → String → List Issue
  | parameter => parameterIssues
  | response => responseIssues
  | body => bodyIssues
  | schema => schemaIssues

end Role

/-- An object that is not taken for a reference. -/
def Plain (f : Fragment) : Prop := f.value.get? "$ref" = none

def IsPathItem (doc : Json) (item : Fragment) : Prop :=
  ∃ paths name, (Fragment.ofDocument doc).field? "paths" = some paths ∧ (name, item) ∈ paths.fields

def IsOperation (doc : Json) (op : Fragment) : Prop :=
  ∃ item method, IsPathItem doc item ∧ Plain item ∧ item.field? (Method.name method) = some op

/-- The owners of the parameter lists that are checked. -/
def HoldsParameters (doc : Json) (owner : Fragment) : Prop :=
  (IsPathItem doc owner ∧ Plain owner) ∨ IsOperation doc owner

/-- The positions that validation checks. -/
inductive Validated (doc : Json) : Role → Fragment → Prop
  | shared {role : Role} {entries f : Fragment} {name : String} :
      (Fragment.ofDocument doc).walk? ["components", role.sectionName] = some entries →
      (name, f) ∈ entries.fields → Validated doc role f
  | listed {owner list f : Fragment} :
      HoldsParameters doc owner → owner.field? "parameters" = some list → f ∈ list.items →
      Validated doc .parameter f
  | answered {op entries f : Fragment} {key : String} :
      IsOperation doc op → op.field? "responses" = some entries → (key, f) ∈ entries.fields →
      Validated doc .response f
  | requested {op f : Fragment} :
      IsOperation doc op → op.field? "requestBody" = some f → Validated doc .body f
  | typed {parameter f : Fragment} :
      Validated doc .parameter parameter → Plain parameter → parameter.field? "schema" = some f →
      Validated doc .schema f
  | media {role : Role} {owner content media f : Fragment} {mime : String} :
      role ≠ .schema → Validated doc role owner → Plain owner →
      owner.field? "content" = some content → (mime, media) ∈ content.fields →
      media.field? "schema" = some f → f.value.isObj = true → Validated doc .schema f
  | nested {f g : Fragment} :
      Validated doc .schema f → Plain f → g ∈ TypeSchema.positions f → Validated doc .schema g

/-! ### Findings of the check of one object -/

variable [Pattern.Checker]

/-- What the check of a schema finds in one of its parts. -/
def partIssues : Part → List Issue
  | .schema v at_ => schemaIssues v at_
  | .issue i => [i]

/-- The check of the fields of a schema that is no reference. -/
def schemaFieldIssues (fields : Fields) (location : String) : List Issue :=
  check fields location "type" typeComplaint ++
  (parts fields location).flatMap partIssues ++
  keywordIssues fields location

/-- The check of the fields of an object of a role that is no reference. -/
def Role.fieldIssues : Role → Fields → String → List Issue
  | parameter => parameterFieldIssues
  | response => responseFieldIssues
  | body => bodyFieldIssues
  | schema => schemaFieldIssues

theorem schemaIssues_eq (v : Json) (location : String) :
    schemaIssues v location = objectIssues "schema" schemaFieldIssues v location := by
  cases v with
  | obj fields =>
    rw [schemaIssues]
    simp only [objectIssues]
    cases referenceIssues? fields location with
    | some found => rfl
    | none =>
      simp only [Option.getD_none, schemaFieldIssues]
      congr 2
      rw [List.flatMap_subtype (g := partIssues) (fun part _ => by cases part <;> rfl),
        List.unattach_attach]
  | _ => simp [schemaIssues, objectIssues]

/-- Some check of a value as an object of a role has found nothing. -/
def Accepted (role : Role) (v : Json) : Prop := ∃ location, role.issues v location = []

omit [Pattern.Checker] in
theorem objectIssues_eq_nil {subject : String} {check : Fields → String → List Issue} {v : Json}
    {location : String} (h : objectIssues subject check v location = []) :
    ∃ fields, v = .obj fields ∧
      ((∃ pointer, Fields.get? "$ref" fields = some (.str pointer) ∧
        Pointer.isLocal pointer = true) ∨
      (Fields.get? "$ref" fields = none ∧ check fields location = [])) := by
  cases v with
  | obj fields =>
    refine ⟨fields, rfl, ?_⟩
    simp only [objectIssues, referenceIssues?] at h
    cases href : Fields.get? "$ref" fields with
    | none =>
      rw [href] at h
      exact Or.inr ⟨rfl, h⟩
    | some target =>
      left
      rw [href] at h
      cases target with
      | str pointer =>
        refine ⟨pointer, rfl, ?_⟩
        by_contra hlocal
        simp [hlocal] at h
      | _ => simp at h
  | _ => simp [objectIssues] at h

theorem Role.issues_eq (role : Role) (v : Json) (location : String) :
    ∃ subject, role.issues v location = objectIssues subject role.fieldIssues v location := by
  cases role with
  | parameter => exact ⟨_, rfl⟩
  | response => exact ⟨_, rfl⟩
  | body => exact ⟨_, rfl⟩
  | schema => exact ⟨_, schemaIssues_eq v location⟩

/-- An accepted value is a local reference, or an object whose fields are in order. -/
theorem Accepted.cases {role : Role} {v : Json} (h : Accepted role v) :
    ∃ fields, v = .obj fields ∧
      ((∃ pointer, Fields.get? "$ref" fields = some (.str pointer) ∧
        Pointer.isLocal pointer = true) ∨
      (Fields.get? "$ref" fields = none ∧ ∃ location, role.fieldIssues fields location = [])) := by
  obtain ⟨location, hissues⟩ := h
  obtain ⟨subject, heq⟩ := role.issues_eq v location
  rw [heq] at hissues
  obtain ⟨fields, hv, hlocal | ⟨href, hfields⟩⟩ := objectIssues_eq_nil hissues
  · exact ⟨fields, hv, Or.inl hlocal⟩
  · exact ⟨fields, hv, Or.inr ⟨href, location, hfields⟩⟩

/-- Whatever stands where a schema object holds schemas has a property. -/
structure HoldsSchemas (p : Json → Prop) (fields : Fields) : Prop where
  members : ∀ key ∈ ["allOf", "oneOf", "anyOf"], ∀ v, fields.get? key = some v →
    ∃ items, v = .arr items ∧ ∀ w ∈ items, p w
  single : ∀ key ∈ ["not", "items"], ∀ v, fields.get? key = some v → p v
  additional : ∀ entries, fields.get? "additionalProperties" = some (.obj entries) → p (.obj entries)
  properties : ∀ v, fields.get? "properties" = some v →
    ∃ entries, v = .obj entries ∧ ∀ name w, (name, w) ∈ entries → p w

section Fields

variable {fields : Fields} {location : String}

theorem contentIssues_eq_nil (h : contentIssues fields location = []) {v : Json}
    (hv : fields.get? "content" = some v) :
    ∃ content, v = .obj content ∧ ∀ mime media, (mime, media) ∈ content →
      ∃ fs, media = .obj fs ∧ ∀ schema, Fields.get? "schema" fs = some schema →
        schema.isObj = true → Accepted .schema schema := by
  rw [contentIssues, hv] at h
  cases v with
  | obj content =>
    refine ⟨content, rfl, fun mime media hmem => ?_⟩
    have hmedia := List.flatMap_eq_nil_iff.mp h (mime, media) hmem
    simp only [mediaIssues] at hmedia
    cases media with
    | obj fs =>
      refine ⟨fs, rfl, fun schema hschema hobj => ?_⟩
      cases schema with
      | obj entries =>
        simp only [hschema] at hmedia
        exact ⟨_, hmedia⟩
      | _ => cases hobj
    | _ => cases hmedia
  | _ => cases h

omit [Pattern.Checker] in
theorem requiredString_eq_nil {key : String} (h : requiredString fields location key = []) :
    ∃ s, fields.get? key = some (.str s) := by
  rw [requiredString] at h
  split at h
  · next s hs => exact ⟨s, hs⟩
  · cases h

omit [Pattern.Checker] in
theorem carrierIssues_eq_nil (h : carrierIssues fields location = []) :
    ∃ carrier : Carrier, fields.get? "in" = some (.str carrier.name) := by
  rw [carrierIssues] at h
  split at h
  · next name hname =>
    by_cases hknown : name ∈ Carrier.all.map Carrier.name
    · obtain ⟨carrier, _, rfl⟩ := List.mem_map.mp hknown
      exact ⟨carrier, hname⟩
    · rw [if_pos hknown] at h
      cases h
  · cases h

theorem parameterFieldIssues_eq_nil (h : parameterFieldIssues fields location = []) :
    (∃ name, fields.get? "name" = some (.str name)) ∧
    (∃ carrier : Carrier, fields.get? "in" = some (.str carrier.name)) ∧
    (∀ schema, fields.get? "schema" = some schema → Accepted .schema schema) ∧
    contentIssues fields location = [] := by
  simp only [parameterFieldIssues, List.append_eq_nil_iff] at h
  obtain ⟨⟨⟨hname, hcarrier⟩, htyped⟩, hcontent⟩ := h
  refine ⟨requiredString_eq_nil hname, carrierIssues_eq_nil hcarrier, ?_, hcontent⟩
  intro schema hschema
  rw [hschema] at htyped
  exact ⟨_, htyped⟩

theorem bodyFieldIssues_eq_nil (h : bodyFieldIssues fields location = []) :
    contentIssues fields location = [] :=
  (List.append_eq_nil_iff.mp h).2

theorem responseFieldIssues_eq_nil (h : responseFieldIssues fields location = []) :
    contentIssues fields location = [] :=
  (List.append_eq_nil_iff.mp h).2

/-- Every role but that of a schema has its content checked. -/
theorem Role.contentIssues_eq_nil {role : Role} (hrole : role ≠ .schema)
    (h : role.fieldIssues fields location = []) : contentIssues fields location = [] := by
  cases role with
  | parameter => exact (parameterFieldIssues_eq_nil h).2.2.2
  | response => exact responseFieldIssues_eq_nil h
  | body => exact bodyFieldIssues_eq_nil h
  | schema => exact absurd rfl hrole

omit [Pattern.Checker] in
theorem check_eq_nil {key : String} {complaint : Json → Option Complaint}
    (h : check fields location key complaint = []) {v : Json} (hv : fields.get? key = some v) :
    complaint v = none := by
  rw [check, hv, Option.bind_some] at h
  cases hc : complaint v with
  | none => rfl
  | some c =>
    rw [hc] at h
    cases h

/-- No schema below an accepted one has been complained about, and no keyword that holds schemas
has. -/
theorem partIssues_eq_nil (h : schemaFieldIssues fields location = []) {part : Part}
    (hpart : part ∈ parts fields location) : partIssues part = [] := by
  simp only [schemaFieldIssues, List.append_eq_nil_iff] at h
  exact List.flatMap_eq_nil_iff.mp h.1.2 part hpart

theorem parametersIssues_eq_nil (h : parametersIssues fields location = []) {v : Json}
    (hv : fields.get? "parameters" = some v) :
    ∃ items, v = .arr items ∧ ∀ p ∈ items, Accepted .parameter p := by
  rw [parametersIssues, hv] at h
  cases v with
  | arr items =>
    refine ⟨items, rfl, fun p hp => ?_⟩
    obtain ⟨i, hi, rfl⟩ := List.getElem_of_mem hp
    exact ⟨_, List.flatten_eq_nil_iff.mp h _ (List.mem_mapIdx.mpr ⟨i, hi, rfl⟩)⟩
  | _ => cases h

theorem responsesIssues_eq_nil (h : responsesIssues fields location = []) :
    ∃ entries, fields.get? "responses" = some (.obj entries) ∧ ∀ key r, (key, r) ∈ entries →
      (StatusKey.parse? key).isSome = true ∧ Accepted .response r := by
  rw [responsesIssues] at h
  cases hget : fields.get? "responses" with
  | none =>
    rw [hget] at h
    cases h
  | some v =>
    rw [hget] at h
    cases v with
    | obj entries =>
      refine ⟨entries, rfl, fun key r hmem => ?_⟩
      have hentry := List.flatMap_eq_nil_iff.mp h (key, r) hmem
      simp only [responseEntryIssues, List.append_eq_nil_iff] at hentry
      refine ⟨?_, _, hentry.2⟩
      by_contra hnone
      simp [Option.isSome_iff_ne_none] at hnone
      simp [hnone] at hentry
    | _ => cases h

theorem operationIssues_eq_nil {op : Json} (h : operationIssues op location = []) :
    ∃ fields, op = .obj fields ∧ parametersIssues fields location = [] ∧
      (∀ body, Fields.get? "requestBody" fields = some body → Accepted .body body) ∧
      responsesIssues fields location = [] := by
  cases op with
  | obj fields =>
    simp only [operationIssues, List.append_eq_nil_iff] at h
    refine ⟨fields, rfl, h.1.1, fun body hbody => ?_, h.2⟩
    have hissues := h.1.2
    rw [hbody] at hissues
    exact ⟨_, hissues⟩
  | _ => cases h

theorem isObj_of_properties (h : schemaFieldIssues fields location = []) {v : Json}
    (hv : fields.get? "properties" = some v) : v.isObj = true := by
  by_contra hobj
  have hparts : propertyParts fields location ⊆ parts fields location := by
    intro part hmem
    simp only [parts, List.mem_append, hmem, or_true]
  have hissue : Part.issue ⟨Pointer.child location "properties", .mustBe "an object"⟩ ∈
      propertyParts fields location := by
    rw [propertyParts, hv]
    cases v with
    | obj entries => exact absurd rfl hobj
    | _ => exact List.mem_singleton_self _
  cases partIssues_eq_nil h (hparts hissue)

/-- The schemas that a schema object holds have been found in order with it. -/
theorem holdsSchemas_of_schemaFieldIssues (h : schemaFieldIssues fields location = []) :
    HoldsSchemas (Accepted .schema) fields := by
  have hschema : ∀ {v l}, Part.schema v l ∈ parts fields location → Accepted .schema v :=
    fun hmem => ⟨_, partIssues_eq_nil h hmem⟩
  have hissue : ∀ {i}, Part.issue i ∉ parts fields location := by
    intro i hmem
    cases partIssues_eq_nil h hmem
  refine ⟨?members, ?single, ?additional, ?properties⟩
  case members =>
    intro key hk v hv
    have hparts : memberParts fields location key ⊆ parts fields location := by
      intro part hmem
      simp only [List.mem_cons, List.not_mem_nil, or_false] at hk
      simp only [parts, List.mem_append]
      rcases hk with rfl | rfl | rfl <;> simp only [hmem, true_or, or_true]
    cases v with
    | arr items =>
      refine ⟨items, rfl, fun w hw => ?_⟩
      obtain ⟨i, hi, rfl⟩ := List.getElem_of_mem hw
      refine hschema (l := Pointer.item (Pointer.child location key) i) (hparts ?_)
      rw [memberParts, hv]
      exact List.mem_mapIdx.mpr ⟨i, hi, rfl⟩
    | _ =>
      refine absurd (hparts ?_) (hissue (i := ⟨Pointer.child location key, .mustBe "an array"⟩))
      rw [memberParts, hv]
      exact List.mem_singleton_self _
  case single =>
    intro key hk v hv
    have hmem : Part.schema v (Pointer.child location key) ∈ childParts fields location key := by
      rw [childParts, hv]
      exact List.mem_singleton_self _
    refine hschema (l := Pointer.child location key) ?_
    simp only [List.mem_cons, List.not_mem_nil, or_false] at hk
    simp only [parts, List.mem_append]
    rcases hk with rfl | rfl <;> simp only [hmem, true_or, or_true]
  case additional =>
    intro entries hentries
    have hmem : Part.schema (.obj entries) (Pointer.child location "additionalProperties") ∈
        additionalParts fields location := by
      rw [additionalParts, hentries]
      exact List.mem_singleton_self _
    refine hschema (l := Pointer.child location "additionalProperties") ?_
    simp only [parts, List.mem_append, hmem, true_or, or_true]
  case properties =>
    intro v hv
    have hobj := isObj_of_properties h hv
    cases v with
    | obj entries =>
      refine ⟨entries, rfl, fun name w hw => ?_⟩
      have hmem : Part.schema w (Pointer.child (Pointer.child location "properties") name) ∈
          propertyParts fields location := by
        rw [propertyParts, hv]
        exact List.mem_map.mpr ⟨(name, w), hw, rfl⟩
      refine hschema (l := Pointer.child (Pointer.child location "properties") name) ?_
      simp only [parts, List.mem_append, hmem, or_true]
    | _ => cases hobj

/-- What stands under `additionalProperties` of a schema and is taken for a schema, as it is no
boolean, without being an object. -/
def IsStray (owner f : Fragment) : Prop :=
  owner.field? "additionalProperties" = some f ∧ f.value.bool? = none ∧ f.value.isObj = false

omit [Pattern.Checker] in
/-- What holds of the schemas that an object holds holds of its positions. Validation passes over
what stands under `additionalProperties` unless that is an object. -/
theorem HoldsSchemas.of_mem_positions {p : Json → Prop} (h : HoldsSchemas p fields)
    {f g : Fragment} (hf : f.value = .obj fields) (hg : g ∈ TypeSchema.positions f) :
    p g.value ∨ IsStray f g := by
  have hfield : ∀ {key : String} {a : Fragment}, f.field? key = some a →
      fields.get? key = some a.value := by
    intro key a ha
    obtain ⟨v, hv, rfl⟩ := Fragment.field?_eq_some_iff.mp ha
    rw [hf] at hv
    exact hv
  rcases TypeSchema.mem_positions_iff.mp hg with ⟨keyword, hk, hheld⟩ | ⟨keyword, hk, hsingle⟩ |
    ⟨a, name, ha, hprop⟩ | ⟨ha, hbool⟩
  · left
    rw [TypeSchema.heldUnder] at hheld
    split at hheld
    · cases hheld
    · next list hlist =>
      obtain ⟨items, hitems, hall⟩ := h.members keyword hk list.value (hfield hlist)
      rw [TypeSchema.membersOf, hitems] at hheld
      obtain ⟨vs, i, v, hvs, hi, rfl⟩ := Fragment.mem_items_iff.mp hheld
      rw [hitems] at hvs
      cases hvs
      exact hall v (List.mem_of_getElem? hi)
  · exact Or.inl (h.single keyword hk _ (hfield hsingle))
  · left
    obtain ⟨properties, v, hv, hmem, rfl⟩ := Fragment.mem_fields_iff.mp hprop
    obtain ⟨entries, hentries, hall⟩ := h.properties _ (hfield ha)
    rw [hentries] at hv
    cases hv
    exact hall name v hmem
  · cases hv : g.value with
    | obj entries =>
      refine Or.inl (h.additional entries ?_)
      rw [hfield ha, hv]
    | _ =>
      refine Or.inr ⟨ha, hbool, ?_⟩
      rw [hv]
      rfl

end Fields

/-! ### Findings of the check of a document -/

theorem pathFieldIssues_eq_nil {item : Fields} {location : String}
    (h : pathFieldIssues item location = []) :
    parametersIssues item location = [] ∧ ∀ (method : Method) op,
      item.get? method.name = some op → ∃ location, operationIssues op location = [] := by
  rw [pathFieldIssues, List.append_eq_nil_iff] at h
  refine ⟨h.1, fun method op hop => ?_⟩
  have hmethod := List.flatMap_eq_nil_iff.mp h.2 method method.mem_all
  rw [hop] at hmethod
  exact ⟨_, hmethod⟩

section Document

variable {doc : Json} (h : issues doc = [])
include h

theorem exists_root : ∃ root, doc = .obj root ∧ pathsIssues root = [] ∧
    componentsIssues root = [] := by
  cases doc with
  | obj root =>
    simp only [issues, List.append_eq_nil_iff] at h
    exact ⟨root, rfl, h.1.2, h.2⟩
  | _ => cases h

theorem exists_paths : ∃ paths, (Fragment.ofDocument doc).field? "paths" = some paths ∧
    paths.value.isObj = true := by
  obtain ⟨root, rfl, hpaths, _⟩ := exists_root h
  rw [pathsIssues] at hpaths
  split at hpaths
  · next entries hentries =>
    exact ⟨_, Fragment.field?_eq_some_iff.mpr ⟨_, hentries, rfl⟩, rfl⟩
  · cases hpaths
  · cases hpaths

/-- A path item that is no reference has been checked with everything in it. -/
theorem IsPathItem.fields {item : Fragment} (hitem : IsPathItem doc item) :
    ∃ fields, item.value = .obj fields ∧
      ((∃ pointer, Fields.get? "$ref" fields = some (.str pointer)) ∨
        (Plain item ∧ ∃ location, pathFieldIssues fields location = [])) := by
  obtain ⟨root, rfl, hpaths, _⟩ := exists_root h
  obtain ⟨paths, name, hfield, hmem⟩ := hitem
  obtain ⟨v, hv, rfl⟩ := Fragment.field?_eq_some_iff.mp hfield
  obtain ⟨entries, item, hentries, hin, rfl⟩ := Fragment.mem_fields_iff.mp hmem
  cases hentries
  have hget : Fields.get? "paths" root = some (.obj entries) := hv
  rw [pathsIssues, hget] at hpaths
  have hissues := List.flatMap_eq_nil_iff.mp hpaths (name, item) hin
  obtain ⟨fields, rfl, ⟨pointer, href, _⟩ | ⟨href, hfields⟩⟩ := objectIssues_eq_nil hissues
  · exact ⟨fields, rfl, Or.inl ⟨pointer, href⟩⟩
  · exact ⟨fields, rfl, Or.inr ⟨href, _, hfields⟩⟩

theorem IsPathItem.pathFieldIssues_eq_nil {item : Fragment} (hitem : IsPathItem doc item)
    (hplain : Plain item) :
    ∃ fields location, item.value = .obj fields ∧ pathFieldIssues fields location = [] := by
  obtain ⟨fields, hfields, ⟨pointer, href⟩ | ⟨_, location, hissues⟩⟩ := hitem.fields h
  · rw [Plain, hfields] at hplain
    exact absurd (hplain.symm.trans href) (by simp)
  · exact ⟨fields, location, hfields, hissues⟩

theorem IsOperation.operationIssues_eq_nil {op : Fragment} (hop : IsOperation doc op) :
    ∃ location, operationIssues op.value location = [] := by
  obtain ⟨item, method, hitem, hplain, hfield⟩ := hop
  obtain ⟨fields, location, hfields, hissues⟩ := hitem.pathFieldIssues_eq_nil h hplain
  obtain ⟨v, hv, rfl⟩ := Fragment.field?_eq_some_iff.mp hfield
  rw [hfields] at hv
  exact (Validation.pathFieldIssues_eq_nil hissues).2 method v hv

theorem HoldsParameters.parametersIssues_eq_nil {owner : Fragment}
    (howner : HoldsParameters doc owner) :
    ∃ fields location, owner.value = .obj fields ∧ parametersIssues fields location = [] := by
  rcases howner with ⟨hitem, hplain⟩ | hop
  · obtain ⟨fields, location, hfields, hissues⟩ := hitem.pathFieldIssues_eq_nil h hplain
    exact ⟨fields, location, hfields, (Validation.pathFieldIssues_eq_nil hissues).1⟩
  · obtain ⟨location, hissues⟩ := hop.operationIssues_eq_nil h
    obtain ⟨fields, hfields, hparameters, _⟩ := operationIssues_eq_nil hissues
    exact ⟨fields, location, hfields, hparameters⟩

theorem accepted_of_shared {role : Role} {entries f : Fragment} {name : String}
    (hentries : (Fragment.ofDocument doc).walk? ["components", role.sectionName] = some entries)
    (hf : (name, f) ∈ entries.fields) : Accepted role f.value := by
  obtain ⟨root, rfl, _, hcomponents⟩ := exists_root h
  simp only [Fragment.walk?, Fragment.step?, Fragment.ofDocument] at hentries
  obtain ⟨components, hfield, hwalk⟩ := Option.bind_eq_some_iff.mp hentries
  obtain ⟨v, hv, rfl⟩ := Fragment.field?_eq_some_iff.mp hfield
  have hget : Fields.get? "components" root = some v := hv
  rw [componentsIssues, hget] at hcomponents
  cases v with
  | obj parts =>
    obtain ⟨found, hfound, hself⟩ := Option.bind_eq_some_iff.mp hwalk
    cases hself
    obtain ⟨w, hw, rfl⟩ := Fragment.field?_eq_some_iff.mp hfound
    obtain ⟨values, v, rfl, hmem, rfl⟩ := Fragment.mem_fields_iff.mp hf
    have hsection : sectionIssues parts role.sectionName role.issues = [] := by
      simp only [List.append_eq_nil_iff] at hcomponents
      cases role with
      | schema => exact hcomponents.1.1.1
      | parameter => exact hcomponents.1.1.2
      | response => exact hcomponents.1.2
      | body => exact hcomponents.2
    have hget : Fields.get? role.sectionName parts = some (.obj values) := hw
    rw [sectionIssues, hget] at hsection
    exact ⟨_, List.flatMap_eq_nil_iff.mp hsection (name, v) hmem⟩
  | _ => cases hcomponents

end Document

end ApiGraph.Validation
