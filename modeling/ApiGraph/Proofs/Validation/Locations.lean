import ApiGraph.Pattern.Validity
import ApiGraph.Proofs.Fragment.Objects
import ApiGraph.Proofs.Reference.Pointer
import ApiGraph.Proofs.Validation.Positions

/-!
# Where issues point

Validation writes a location for every value that it comes to, as text, beside its walk through
the document. Each location is that of a value which has been reached, or one step further: an
issue of a field stands under the key of the field, whether the field is there or not.

`Traces` is what a relation between locations and values must be closed under to follow the walk,
and what a property of locations needs to hold of all issues then. The checks are gone through
once for all such relations, from the inside out.
-/

namespace ApiGraph.Validation

/-- A relation between locations and values that goes along with the walk of validation, and a
property of the locations that issues are given. -/
structure Traces (At : String → Json → Prop) (Points : String → Prop) : Prop where
  field {location key : String} {fields : Fields} {v : Json} :
    At location (.obj fields) → (key, v) ∈ fields → At (Pointer.child location key) v
  item {location : String} {items : List Json} {i : Nat} {v : Json} :
    At location (.arr items) → items[i]? = some v → At (Pointer.item location i) v
  here {location : String} {v : Json} : At location v → Points location
  keyword {location key : String} {fields : Fields} :
    At location (.obj fields) → Pointer.IsLiteral key → Points (Pointer.child location key)

def AllPoint (Points : String → Prop) (found : List Issue) : Prop := ∀ i ∈ found, Points i.pointer

section AllPoint

variable {Points : String → Prop}

@[simp]
theorem allPoint_nil : AllPoint Points [] := List.forall_mem_nil _

@[simp]
theorem allPoint_singleton_iff {i : Issue} : AllPoint Points [i] ↔ Points i.pointer :=
  List.forall_mem_singleton

@[simp]
theorem allPoint_append_iff {found more : List Issue} :
    AllPoint Points (found ++ more) ↔ AllPoint Points found ∧ AllPoint Points more :=
  List.forall_mem_append

theorem allPoint_flatMap_iff {α : Type} {xs : List α} {f : α → List Issue} :
    AllPoint Points (xs.flatMap f) ↔ ∀ x ∈ xs, AllPoint Points (f x) :=
  List.forall_mem_flatMap

end AllPoint

namespace Traces

variable {At : String → Json → Prop} {Points : String → Prop} {fields : Fields} {location : String}
  {v : Json}

theorem get? (h : Traces At Points) (hat : At location (.obj fields)) {key : String}
    (hv : fields.get? key = some v) : At (Pointer.child location key) v :=
  h.field hat (Fields.mem_of_get?_eq_some hv)

/-! ### Schemas -/

theorem check (h : Traces At Points) (hat : At location (.obj fields)) {key : String}
    (hkey : Pointer.IsLiteral key) (complaint : Json → Option Complaint) :
    AllPoint Points (check fields location key complaint) := by
  intro i hi
  obtain ⟨c, _, rfl⟩ := Option.map_eq_some_iff.mp (Option.mem_toList.mp hi)
  exact h.keyword hat hkey

theorem references (h : Traces At Points) (hat : At location (.obj fields)) {found : List Issue}
    (hfound : referenceIssues? fields location = some found) : AllPoint Points found := by
  have href : Points (Pointer.child location "$ref") := h.keyword hat (by decide)
  obtain ⟨target, _, rfl⟩ := Option.map_eq_some_iff.mp hfound
  dsimp only
  split
  · split
    · exact allPoint_nil
    · exact allPoint_singleton_iff.mpr href
  · exact allPoint_singleton_iff.mpr href

/-- An object that may be a reference is followed if its own check is. -/
theorem object (h : Traces At Points) {subject : String} {check : Fields → String → List Issue}
    (hat : At location v) (hcheck : ∀ fields, v = .obj fields →
      AllPoint Points (check fields location)) :
    AllPoint Points (objectIssues subject check v location) := by
  cases v with
  | obj fields =>
    rw [objectIssues]
    cases hfound : referenceIssues? fields location with
    | none => exact hcheck fields rfl
    | some found => exact h.references hat hfound
  | _ => exact allPoint_singleton_iff.mpr (h.here hat)

/-- What stands at a keyword is at its location, or an issue of that location. -/
def Follows (At : String → Json → Prop) (Points : String → Prop) : Part → Prop
  | .schema v location => At location v
  | .issue i => Points i.pointer

theorem memberParts (h : Traces At Points) (hat : At location (.obj fields)) {key : String} :
    ∀ part ∈ memberParts fields location key, Follows At Points part := by
  intro part hpart
  rw [Validation.memberParts] at hpart
  split at hpart
  · cases hpart
  · next items hitems =>
    obtain ⟨i, hi, rfl⟩ := List.mem_mapIdx.mp hpart
    exact h.item (h.get? hat hitems) (List.getElem?_eq_getElem hi)
  · next hv =>
    rw [List.mem_singleton.mp hpart]
    exact h.here (h.get? hat hv)

theorem childParts (h : Traces At Points) (hat : At location (.obj fields)) {key : String} :
    ∀ part ∈ childParts fields location key, Follows At Points part := by
  intro part hpart
  obtain ⟨v, hv, rfl⟩ := Option.map_eq_some_iff.mp (Option.mem_toList.mp hpart)
  exact h.get? hat hv

theorem additionalParts (h : Traces At Points) (hat : At location (.obj fields)) :
    ∀ part ∈ additionalParts fields location, Follows At Points part := by
  intro part hpart
  rw [Validation.additionalParts] at hpart
  split at hpart
  · next hv =>
    rw [List.mem_singleton.mp hpart]
    exact h.get? hat hv
  · cases hpart

theorem propertyParts (h : Traces At Points) (hat : At location (.obj fields)) :
    ∀ part ∈ propertyParts fields location, Follows At Points part := by
  intro part hpart
  rw [Validation.propertyParts] at hpart
  split at hpart
  · cases hpart
  · next properties hproperties =>
    obtain ⟨⟨name, v⟩, hmem, rfl⟩ := List.mem_map.mp hpart
    exact h.field (h.get? hat hproperties) hmem
  · next hv =>
    rw [List.mem_singleton.mp hpart]
    exact h.here (h.get? hat hv)

theorem parts (h : Traces At Points) (hat : At location (.obj fields)) :
    ∀ part ∈ parts fields location, Follows At Points part := by
  simp only [Validation.parts, List.forall_mem_append]
  exact ⟨⟨⟨⟨⟨⟨h.memberParts hat, h.memberParts hat⟩, h.memberParts hat⟩, h.childParts hat⟩,
    h.childParts hat⟩, h.additionalParts hat⟩, h.propertyParts hat⟩

variable [Pattern.Checker]

theorem keywords (h : Traces At Points) (hat : At location (.obj fields)) :
    AllPoint Points (keywordIssues fields location) := by
  simp only [keywordIssues, allPoint_append_iff, allPoint_flatMap_iff]
  have hcount : ∀ key ∈ countKeywords, Pointer.IsLiteral key := by decide
  exact ⟨⟨⟨⟨h.check hat (by decide) _, h.check hat (by decide) _⟩, h.check hat (by decide) _⟩,
    fun key hkey => h.check hat (hcount key hkey) _⟩, h.check hat (by decide) _⟩

/-- The issues of a schema, by induction on its size: each schema below it is a part of it. -/
theorem schema (h : Traces At Points) {location : String} {v : Json} (hat : At location v) :
    AllPoint Points (schemaIssues v location) := by
  rw [schemaIssues_eq]
  refine h.object hat fun fields hv => ?_
  rw [hv] at hat
  simp only [schemaFieldIssues, allPoint_append_iff, allPoint_flatMap_iff]
  refine ⟨⟨h.check hat (by decide) _, fun part hpart => ?_⟩, h.keywords hat⟩
  have hfollows := h.parts hat part hpart
  cases part with
  | schema w inner => exact h.schema hfollows
  | issue i => exact allPoint_singleton_iff.mpr hfollows
termination_by sizeOf v
decreasing_by
  rw [hv]
  exact sizeOf_part hpart

/-! ### Parameters, bodies and responses -/

omit [Pattern.Checker] in
theorem requiredString (h : Traces At Points) (hat : At location (.obj fields)) {key : String}
    (hkey : Pointer.IsLiteral key) : AllPoint Points (requiredString fields location key) := by
  rw [Validation.requiredString]
  split
  · exact allPoint_nil
  · exact allPoint_singleton_iff.mpr (h.keyword hat hkey)

omit [Pattern.Checker] in
theorem carrier (h : Traces At Points) (hat : At location (.obj fields)) :
    AllPoint Points (carrierIssues fields location) := by
  have hin : Points (Pointer.child location "in") := h.keyword hat (by decide)
  have hrequired : Points (Pointer.child location "required") := h.keyword hat (by decide)
  rw [carrierIssues]
  split
  · split
    · exact allPoint_singleton_iff.mpr hin
    · split
      · exact allPoint_nil
      · exact allPoint_singleton_iff.mpr hrequired
      · exact allPoint_nil
  · exact allPoint_singleton_iff.mpr hin

theorem media (h : Traces At Points) {mime : String} (hat : At (Pointer.child location mime) v) :
    AllPoint Points (mediaIssues location mime v) := by
  simp only [mediaIssues]
  split
  · split
    · next hschema => exact h.schema (h.get? hat hschema)
    · exact allPoint_nil
  · exact allPoint_singleton_iff.mpr (h.here hat)

theorem content (h : Traces At Points) (hat : At location (.obj fields)) :
    AllPoint Points (contentIssues fields location) := by
  simp only [contentIssues]
  split
  · exact allPoint_nil
  · next content hcontent =>
    refine allPoint_flatMap_iff.mpr ?_
    rintro ⟨mime, media⟩ hmem
    exact h.media (h.field (h.get? hat hcontent) hmem)
  · next hv => exact allPoint_singleton_iff.mpr (h.here (h.get? hat hv))

theorem parameter (h : Traces At Points) (hat : At location v) :
    AllPoint Points (parameterIssues v location) := by
  refine h.object hat fun fields hv => ?_
  subst hv
  simp only [parameterFieldIssues, allPoint_append_iff]
  refine ⟨⟨⟨h.requiredString hat (by decide), h.carrier hat⟩, ?_⟩, h.content hat⟩
  split
  · next hschema => exact h.schema (h.get? hat hschema)
  · exact allPoint_nil

theorem body (h : Traces At Points) (hat : At location v) :
    AllPoint Points (bodyIssues v location) := by
  refine h.object hat fun fields hv => ?_
  subst hv
  rw [bodyFieldIssues, allPoint_append_iff]
  refine ⟨?_, h.content hat⟩
  split
  · exact allPoint_nil
  · exact allPoint_singleton_iff.mpr (h.keyword hat (by decide))

theorem response (h : Traces At Points) (hat : At location v) :
    AllPoint Points (responseIssues v location) := by
  refine h.object hat fun fields hv => ?_
  subst hv
  exact allPoint_append_iff.mpr ⟨h.requiredString hat (by decide), h.content hat⟩

/-! ### Operations and paths -/

theorem parameters (h : Traces At Points) (hat : At location (.obj fields)) :
    AllPoint Points (parametersIssues fields location) := by
  simp only [parametersIssues]
  split
  · exact allPoint_nil
  · next items hitems =>
    intro i hi
    obtain ⟨found, hfound, hmem⟩ := List.mem_flatten.mp hi
    obtain ⟨n, hn, rfl⟩ := List.mem_mapIdx.mp hfound
    exact h.parameter (h.item (h.get? hat hitems) (List.getElem?_eq_getElem hn)) i hmem
  · next hv => exact allPoint_singleton_iff.mpr (h.here (h.get? hat hv))

theorem responses (h : Traces At Points) (hat : At location (.obj fields)) :
    AllPoint Points (responsesIssues fields location) := by
  simp only [responsesIssues]
  split
  · next responses hresponses =>
    refine allPoint_flatMap_iff.mpr ?_
    rintro ⟨key, r⟩ hmem
    have hentry := h.field (h.get? hat hresponses) hmem
    refine allPoint_append_iff.mpr ⟨?_, h.response hentry⟩
    split
    · exact allPoint_singleton_iff.mpr (h.here hentry)
    · exact allPoint_nil
  · next hv => exact allPoint_singleton_iff.mpr (h.here (h.get? hat hv))
  · exact allPoint_singleton_iff.mpr (h.keyword hat (by decide))

theorem operation (h : Traces At Points) (hat : At location v) :
    AllPoint Points (operationIssues v location) := by
  cases v with
  | obj fields =>
    simp only [operationIssues, allPoint_append_iff]
    refine ⟨⟨h.parameters hat, ?_⟩, h.responses hat⟩
    split
    · next hbody => exact h.body (h.get? hat hbody)
    · exact allPoint_nil
  | _ => exact allPoint_singleton_iff.mpr (h.here hat)

theorem path (h : Traces At Points) (hat : At location v) :
    AllPoint Points (pathIssues v location) := by
  refine h.object hat fun fields hv => ?_
  subst hv
  refine allPoint_append_iff.mpr ⟨h.parameters hat, allPoint_flatMap_iff.mpr fun method _ => ?_⟩
  split
  · next hop => exact h.operation (h.get? hat hop)
  · exact allPoint_nil

/-! ### The document -/

omit [Pattern.Checker] in
/-- An entry of the components is at its location if the components are at theirs. -/
theorem entries (h : Traces At Points) (hat : At "#/components" (.obj fields)) {name : String}
    {check : Json → String → List Issue}
    (hcheck : ∀ {v location}, At location v → AllPoint Points (check v location)) :
    AllPoint Points (sectionIssues fields name check) := by
  simp only [sectionIssues]
  split
  · next entries hentries =>
    refine allPoint_flatMap_iff.mpr ?_
    rintro ⟨key, v⟩ hmem
    exact hcheck (h.field (h.get? hat hentries) hmem)
  · exact allPoint_nil

theorem components (h : Traces At Points)
    (hat : ∀ {v}, fields.get? "components" = some v → At "#/components" v) :
    AllPoint Points (componentsIssues fields) := by
  simp only [componentsIssues]
  split
  · exact allPoint_nil
  · next components hcomponents =>
    have hcomponents : At "#/components" (.obj components) := hat hcomponents
    simp only [allPoint_append_iff]
    exact ⟨⟨⟨h.entries hcomponents h.schema, h.entries hcomponents h.parameter⟩,
      h.entries hcomponents h.response⟩, h.entries hcomponents h.body⟩
  · next hv => exact allPoint_singleton_iff.mpr (h.here (hat hv))

omit [Pattern.Checker] in
theorem version (h : Traces At Points) (hat : At "#" (.obj fields)) :
    AllPoint Points (versionIssues fields) := by
  have hversion : Points (Pointer.child "#" "openapi") := h.keyword hat (by decide)
  rw [versionIssues]
  split
  · split
    · exact allPoint_nil
    · exact allPoint_singleton_iff.mpr hversion
  · exact allPoint_singleton_iff.mpr hversion

omit [Pattern.Checker] in
theorem info (h : Traces At Points) (hat : At "#" (.obj fields)) :
    AllPoint Points (infoIssues fields) := by
  have hinfo : Points (Pointer.child "#" "info") := h.keyword hat (by decide)
  rw [infoIssues]
  split
  · next info hfields =>
    have hat : At "#/info" (.obj info) := h.get? hat hfields
    exact allPoint_append_iff.mpr
      ⟨h.requiredString hat (by decide), h.requiredString hat (by decide)⟩
  · exact allPoint_singleton_iff.mpr hinfo
  · exact allPoint_singleton_iff.mpr hinfo

theorem paths (h : Traces At Points) (hat : At "#" (.obj fields)) :
    AllPoint Points (pathsIssues fields) := by
  have hpaths : Points (Pointer.child "#" "paths") := h.keyword hat (by decide)
  rw [pathsIssues]
  split
  · next paths hfields =>
    have hat : At "#/paths" (.obj paths) := h.get? hat hfields
    refine allPoint_flatMap_iff.mpr ?_
    rintro ⟨path, item⟩ hmem
    exact h.path (h.field hat hmem)
  · exact allPoint_singleton_iff.mpr hpaths
  · exact allPoint_singleton_iff.mpr hpaths

/-- Along the whole walk, all issues are given locations that have the property. -/
theorem issues (h : Traces At Points) (hat : At "#" v) : AllPoint Points (issues v) := by
  cases v with
  | obj fields =>
    simp only [Validation.issues, allPoint_append_iff]
    exact ⟨⟨⟨h.version hat, h.info hat⟩, h.paths hat⟩, h.components fun hv => h.get? hat hv⟩
  | _ => exact allPoint_singleton_iff.mpr (h.here hat)

end Traces

/-! ### Locations as pointers into the document -/

/-- No key of an object holds a percent escape. -/
def Unescaped (fields : Fields) : Prop :=
  ∀ key ∈ fields.map Prod.fst, ¬ Text.Percent.HasEscape key.toList

/-- The keys of a location lead to a value of the document. The conditions on the document are
kept on the way. -/
structure Locates (doc : Json) (location : String) (v : Json) : Prop where
  leads : ∃ f, (Fragment.ofDocument doc).walk? (Pointer.keys location) = some f ∧ f.value = v
  wellFormed : v.WellFormed
  unescaped : v.EveryObject Unescaped

/-- Keys lead to a value, or to an object that lacks the last of them. -/
def PointsInto (doc : Json) (keys : List String) : Prop :=
  (∃ f, (Fragment.ofDocument doc).walk? keys = some f) ∨
  ∃ front last owner fields, keys = front ++ [last] ∧
    (Fragment.ofDocument doc).walk? front = some owner ∧ owner.value = .obj fields ∧
    Fields.get? last fields = none

section Locates

variable {doc v : Json} {location key : String} {fields : Fields}

/-- One more step from where a location leads. -/
theorem Locates.walk?_child (h : Locates doc location (.obj fields))
    (hkey : ¬ Text.Percent.HasEscape key.toList) :
    ∃ owner, (Fragment.ofDocument doc).walk? (Pointer.keys location) = some owner ∧
      owner.value = .obj fields ∧
      (Fragment.ofDocument doc).walk? (Pointer.keys (Pointer.child location key)) =
        owner.field? key := by
  obtain ⟨owner, hwalk, hvalue⟩ := h.leads
  refine ⟨owner, hwalk, hvalue, ?_⟩
  rw [Pointer.keys_child hkey, Fragment.walk?_append, hwalk, Option.bind_some, Fragment.walk?,
    Fragment.step?_of_obj hvalue]
  cases owner.field? key <;> rfl

theorem Locates.field (h : Locates doc location (.obj fields)) (hmem : (key, v) ∈ fields) :
    Locates doc (Pointer.child location key) v := by
  have hkey := h.unescaped.1 key (List.mem_map_of_mem hmem)
  obtain ⟨owner, _, hvalue, hwalk⟩ := h.walk?_child hkey
  refine ⟨⟨_, hwalk.trans (Fragment.field?_eq_some_iff.mpr ⟨v, ?_, rfl⟩), rfl⟩,
    Json.wellFormed_of_mem_fields h.wellFormed.2 hmem,
    Json.everyObject_of_mem_fields h.unescaped.2 hmem⟩
  rw [hvalue]
  exact (Fields.get?_eq_some_iff h.wellFormed.1).mpr hmem

theorem Locates.item {items : List Json} {i : Nat} (h : Locates doc location (.arr items))
    (hi : items[i]? = some v) : Locates doc (Pointer.item location i) v := by
  obtain ⟨owner, hwalk, hvalue⟩ := h.leads
  have hmem := List.mem_of_getElem? hi
  refine ⟨⟨⟨owner.place.child (.index i), v⟩, ?_, rfl⟩,
    Json.wellFormed_of_mem_items h.wellFormed hmem,
    Json.everyObject_of_mem_items h.unescaped hmem⟩
  rw [Pointer.keys_item, Fragment.walk?_append, hwalk, Option.bind_some, Fragment.walk?,
    Fragment.step?, hvalue]
  simp only [Option.bind_eq_bind, Text.natural?_toString, hi, Option.bind_some]
  rfl

theorem Locates.pointsInto (h : Locates doc location v) :
    PointsInto doc (Pointer.keys location) := by
  obtain ⟨f, hwalk, _⟩ := h.leads
  exact Or.inl ⟨f, hwalk⟩

/-- Under a literal key of an object, there is a value or none. -/
theorem Locates.keyword (h : Locates doc location (.obj fields)) (hkey : Pointer.IsLiteral key) :
    PointsInto doc (Pointer.keys (Pointer.child location key)) := by
  obtain ⟨owner, howner, hvalue, hwalk⟩ := h.walk?_child hkey.not_hasEscape
  cases hfield : owner.field? key with
  | some f => exact Or.inl ⟨f, hwalk.trans hfield⟩
  | none =>
    refine Or.inr ⟨_, key, owner, fields, Pointer.keys_child hkey.not_hasEscape location, howner,
      hvalue, ?_⟩
    rw [Fragment.field?, Option.map_eq_none_iff, hvalue] at hfield
    exact hfield

theorem traces_locates (doc : Json) :
    Traces (Locates doc) fun location => PointsInto doc (Pointer.keys location) where
  field h hmem := h.field hmem
  item h hi := h.item hi
  here h := h.pointsInto
  keyword h hkey := h.keyword hkey

/-- **Every issue points into the document.**  The keys of its pointer lead to a value, or to an
object in which the last of them is missing. Keys with percent escapes are left out, because
locations do not escape the percent sign. -/
theorem issues_point_into_document [Pattern.Checker] (hwf : doc.WellFormed)
    (hkeys : doc.EveryObject Unescaped) :
    ∀ i ∈ issues doc, PointsInto doc (Pointer.keys i.pointer) :=
  (traces_locates doc).issues ⟨⟨.ofDocument doc, rfl, rfl⟩, hwf, hkeys⟩

/-- Keys with slashes, tildes, a percent sign and nothing at all; one of the issues stands under a
key that is missing. -/
theorem issues_point_into_document_of_odd_keys :
    let tagged : Json := .obj [("name", .str "q"), ("in", .str "query"),
      ("schema", .obj [("properties", .obj [("", .obj [("type", .str "text")])])])]
    let doc : Json := .obj [("openapi", .str "3.0.0"), ("info", .obj [("title", .str "t")]),
      ("paths", .obj [("/a~b", .obj [("parameters", .arr [tagged])])]),
      ("components", .obj [("schemas", .obj [("50%", .null)])])]
    (issues doc).map Issue.pointer = ["#/info/version",
      "#/paths/~1a~0b/parameters/0/schema/properties//type", "#/components/schemas/50%"] ∧
    ∀ i ∈ issues doc, PointsInto doc (Pointer.keys i.pointer) := by
  intro tagged doc
  have hwf : doc.WellFormed := by
    simp [doc, tagged, Json.WellFormed, Json.FieldsWellFormed, Json.AllWellFormed]
  have hkeys : doc.EveryObject Unescaped := by
    simp only [doc, tagged, Json.EveryObject, Json.EveryObjectOfFields, Json.EveryObjectOfItems,
      Unescaped]
    decide
  refine ⟨?_, issues_point_into_document hwf hkeys⟩
  subst doc tagged
  cbv

end Locates

end ApiGraph.Validation
