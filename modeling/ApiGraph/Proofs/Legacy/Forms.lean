import ApiGraph.Proofs.Legacy.MediaTypes

/-!
# Bodies of the upgraded operations

The request body of an operation has three sources. The last body parameter of its own list comes
first. Without one, the form fields of the operation and of its path item make one body together, a
field of the operation hiding the one of the path item that has the same name. Without those too,
the last body parameter of the path item is left.

Form fields become the properties of an object schema. Which properties there are and which of
them are required is collected apart, so both are compared here with the fields they come from.
-/

namespace ApiGraph.Legacy

open Outcome

/-! ### Merged forms -/

/-- The names of the fields are strings, and no two fields have the same one. -/
structure NamedApart (fields : List Json) : Prop where
  named : ∀ v ∈ fields, ∃ name, v.strAt? "name" = some name
  apart : (fields.map (·.strAt? "name")).Nodup

/-- The fields of one list, and then those of another whose names none of the first has. -/
def formFields (own shared : List Json) : List Json :=
  own ++ shared.filter fun v => decide (v.strAt? "name" ∉ own.map (·.strAt? "name"))

theorem sameName_iff {v w : Json} (hv : ∃ name, v.strAt? "name" = some name)
    (hw : ∃ name, w.strAt? "name" = some name) :
    mergeForms.sameName v w = true ↔ v.strAt? "name" = w.strAt? "name" := by
  obtain ⟨name, hv⟩ := hv
  obtain ⟨other, hw⟩ := hw
  rw [mergeForms.sameName, Json.strAt?_eq_some_iff.mp hv, Json.strAt?_eq_some_iff.mp hw, hv, hw]
  simp only [Json.same, beq_iff_eq, Option.some.injEq]

theorem any_sameName_iff {form : List Json}
    (hform : ∀ v ∈ form, ∃ name, v.strAt? "name" = some name) {field : Json}
    (hfield : ∃ name, field.strAt? "name" = some name) :
    form.any (mergeForms.sameName · field) = true ↔
      field.strAt? "name" ∈ form.map (·.strAt? "name") := by
  rw [List.any_eq_true, List.mem_map]
  exact exists_congr fun v => and_congr_right fun hv => sameName_iff (hform v hv) hfield

/-- Fields that have been added do not hide later ones, since the names of a list are apart. -/
theorem mergeForms_eq {own shared : List Json}
    (hown : ∀ v ∈ own, ∃ name, v.strAt? "name" = some name) (hshared : NamedApart shared) :
    mergeForms own shared = formFields own shared := by
  rw [mergeForms]
  induction shared generalizing own with
  | nil => simp [formFields]
  | cons field rest ih =>
    obtain ⟨hnamed, hapart⟩ := hshared
    rw [List.map_cons, List.nodup_cons] at hapart
    have hfield := hnamed field List.mem_cons_self
    have hrest : NamedApart rest := ⟨fun v hv => hnamed v (List.mem_cons_of_mem _ hv), hapart.2⟩
    rw [List.foldl_cons]
    by_cases hhidden : field.strAt? "name" ∈ own.map (·.strAt? "name")
    · rw [if_pos ((any_sameName_iff hown hfield).mpr hhidden), ih hown hrest, formFields,
        formFields, List.filter_cons_of_neg (by simpa using hhidden)]
    · have hmore : ∀ v ∈ own ++ [field], ∃ name, v.strAt? "name" = some name := by
        intro v hv
        rcases List.mem_append.mp hv with hv | hv
        · exact hown v hv
        · exact List.mem_singleton.mp hv ▸ hfield
      have hlater : (rest.filter fun v => decide (v.strAt? "name" ∉
          (own ++ [field]).map (·.strAt? "name"))) =
            rest.filter fun v => decide (v.strAt? "name" ∉ own.map (·.strAt? "name")) := by
        refine List.filter_congr fun v hv => ?_
        have hne : v.strAt? "name" ≠ field.strAt? "name" := fun heq =>
          hapart.1 (List.mem_map.mpr ⟨v, hv, heq⟩)
        simp only [List.map_append, List.map_singleton, List.mem_append, List.mem_singleton, hne,
          or_false]
      rw [if_neg (mt (any_sameName_iff hown hfield).mp hhidden), ih hmore hrest, formFields,
        formFields, hlater, List.filter_cons_of_pos (by simpa using hhidden),
        List.append_assoc, List.singleton_append]

theorem namedApart_formFields {own shared : List Json} (hown : NamedApart own)
    (hshared : NamedApart shared) : NamedApart (formFields own shared) := by
  rw [formFields]
  constructor
  · intro v hv
    rcases List.mem_append.mp hv with hv | hv
    · exact hown.named v hv
    · exact hshared.named v (List.mem_filter.mp hv).1
  · rw [List.map_append, List.nodup_append]
    refine ⟨hown.apart, .sublist (List.filter_sublist.map _) hshared.apart, ?_⟩
    rintro name hname _ hother rfl
    obtain ⟨v, hv, rfl⟩ := List.mem_map.mp hother
    exact of_decide_eq_true (List.mem_filter.mp hv).2 hname

/-! ### Properties of a form -/

/-- The keyword that the property of a form field has: the one of the field, if it belongs to a
schema or is the description, but files are strings of bytes. -/
def propertyKeyword? (field : Json) (key : String) : Option Json :=
  if field.strAt? "type" = some "file" ∧ key = "type" then some (.str "string")
  else if field.strAt? "type" = some "file" ∧ key = "format" then some (.str "binary")
  else if key ∈ schemaKeywords ∨ key = "description" then field.get? key
  else none

/-- A property has the name of a form field and exactly the keywords that it keeps of it. -/
structure IsProperty (field : Json) (property : String × Json) : Prop where
  name : field.strAt? "name" = some property.1
  schema : ∃ schema : Fields, property.2 = .obj schema ∧ (schema.map Prod.fst).Nodup ∧
    ∀ key, schema.get? key = propertyKeyword? field key

/-- The names of the fields that are required. -/
def requiredNames (fields : List Json) : List String :=
  (fields.filter fun v => v.boolAt? "required" == some true).filterMap (·.strAt? "name")

/-- A body that fields of a form make: an object schema under one content type, with a property for
each field in order, and with the names of the required ones, if there are any. -/
def IsForm (consumes : List String) (fields : List Json) (body : Json) : Prop :=
  ∃ properties, List.Forall₂ IsProperty fields properties ∧
    body = .obj [("content", .obj [(formMime consumes,
      .obj [("schema", .obj (formSchema properties ((requiredNames fields).map .str)))])])]

theorem get?_withoutFileType (schema : Fields) (key : String) :
    Fields.get? key (withoutFileType schema) =
      if (Json.obj schema).strAt? "type" = some "file" ∧ key = "type" then some (.str "string")
      else if (Json.obj schema).strAt? "type" = some "file" ∧ key = "format" then
        some (.str "binary")
      else schema.get? key := by
  rw [withoutFileType]
  split
  · next hfile =>
    have htype : (Json.obj schema).strAt? "type" = some "file" :=
      Json.strAt?_eq_some_iff.mpr hfile
    simp only [htype, true_and]
    by_cases hformat : key = "format"
    · subst hformat
      rw [Fields.get?_insert_self, if_neg (by decide), if_pos rfl]
    · rw [Fields.get?_insert_of_ne (Ne.symm hformat), if_neg hformat]
      by_cases htype : key = "type"
      · subst htype
        rw [Fields.get?_insert_self, if_pos rfl]
      · rw [Fields.get?_insert_of_ne (Ne.symm htype), if_neg htype]
  · next hother =>
    have htype : (Json.obj schema).strAt? "type" ≠ some "file" := fun h =>
      hother (Json.strAt?_eq_some_iff.mp h)
    rw [if_neg fun h => htype h.1, if_neg fun h => htype h.1]

theorem get?_propertySchema (fields : Fields) (key : String) :
    Fields.get? key (withoutFileType (inlineSchema fields) ++ kept fields "description") =
      propertyKeyword? (.obj fields) key := by
  have htype : (Json.obj (inlineSchema fields)).strAt? "type" =
      (Json.obj fields).strAt? "type" := by
    rw [Json.strAt?, Json.strAt?, Json.get?, Json.get?, get?_inlineSchema, if_pos (by decide)]
  rw [Fields.get?_append, get?_withoutFileType, htype, propertyKeyword?, Json.get?]
  split
  · rfl
  split
  · rfl
  rw [get?_inlineSchema]
  by_cases hdescription : key = "description"
  · subst hdescription
    rw [if_neg (by decide), if_pos (Or.inr rfl), Option.none_or, get?_kept_self]
  · rw [get?_kept_of_ne hdescription, Option.or_none]
    simp only [hdescription, or_false]

/-- A form field with a name has a property. -/
theorem exists_formField? {v : Json} (hwf : v.WellFormed)
    (hname : ∃ name, v.strAt? "name" = some name) :
    ∃ field, formField? v = some field ∧ IsProperty v (field.name, field.schema) ∧
      field.required = (v.boolAt? "required" == some true) := by
  obtain ⟨name, hname⟩ := hname
  cases v with
  | obj fields =>
    have hfield : formField? (.obj fields) = some {
        name
        schema := .obj (withoutFileType (inlineSchema fields) ++ kept fields "description")
        required := (Json.obj fields).boolAt? "required" == some true } := by
      rw [formField?, hname]
      rfl
    have hschema := wellFormed_formField? hwf hfield
    exact ⟨_, hfield, ⟨hname, _, rfl, hschema.1, get?_propertySchema fields⟩, rfl⟩
  | _ => cases hname

theorem isProperty_of_formField? {v : Json} (hwf : v.WellFormed) {field : FormField}
    (hfield : formField? v = some field) : IsProperty v (field.name, field.schema) := by
  have hname : ∃ name, v.strAt? "name" = some name := by
    cases v with
    | obj fields =>
      obtain ⟨name, hname, _⟩ := Option.map_eq_some_iff.mp hfield
      exact ⟨name, hname⟩
    | _ => cases hfield
  obtain ⟨_, hfield', hproperty, _⟩ := exists_formField? hwf hname
  cases hfield.symm.trans hfield'
  exact hproperty

/-- Fields whose names are apart make a body with all of them. -/
theorem isForm_formBody (consumes : List String) {form : List Json}
    (hwf : ∀ v ∈ form, v.WellFormed) (hnames : NamedApart form) :
    IsForm consumes form (formBody consumes form) := by
  obtain ⟨fields, hfields⟩ := exists_forall₂ fun v hv =>
    exists_formField? (hwf v hv) (hnames.named v hv)
  have hread : form.filterMap formField? = fields :=
    filterMap_eq_of_forall₂ (hfields.imp fun _ _ h => h.1)
  have hkeys : form.map (·.strAt? "name") = fields.map fun f => some f.name :=
    map_eq_map_iff_forall₂.mpr (hfields.imp fun _ _ h => h.2.1.name)
  have hnodup : ((fields.map fun f => (f.name, f.schema)).map Prod.fst).Nodup := by
    have hapart := hnames.apart
    rw [hkeys] at hapart
    rw [List.map_map]
    refine List.Nodup.of_map some ?_
    rw [List.map_map]
    exact hapart
  have hrequired : requiredNames form = (fields.filter (·.required)).map (·.name) := by
    have hkept := forall₂_filter (p := fun v => v.boolAt? "required" == some true)
      (q := fun f => f.required) hfields fun _ _ h => h.2.2.symm
    exact filterMap_eq_of_forall₂
      (List.forall₂_map_right_iff.mpr (hkept.imp fun _ _ h => h.2.1.name))
  refine ⟨fields.map fun f => (f.name, f.schema),
    List.forall₂_map_right_iff.mpr (hfields.imp fun _ _ h => h.2.1), ?_⟩
  rw [formBody_eq, formProperties, formRequired, hread, Fields.ofList_of_nodup hnodup, hrequired,
    List.map_map]
  rfl

/-! ### Bodies -/

section Bodies

variable {doc item op paths : Fields} {path : String} {method : Method}

/-- The request body that an entry makes: a reference to the shared body that it names, or else what
it says itself, with its schema under the content types. -/
inductive MakesBody (doc : Fields) (consumes : List String) : Json → Json → Prop
  | shared {entry w : Json} {name : String} (hname : sharedName? entry = some name)
      (hshared : (sharedEntries doc "parameters").get? name = some w)
      (hbody : carrierOf w = some "body") : MakesBody doc consumes entry
        (.obj [("$ref", .str ("#/components/requestBodies/" ++ name))])
  | inline {fields body : Fields} (hbody : carrierOf (.obj fields) = some "body")
      (hcontent : body.get? "content" =
        some (contentOf (effective consumes) fun _ => .obj [("schema", bodySchema fields)]))
      (hkept : ∀ key ∈ ["description", "required"], body.get? key = fields.get? key)
      (hothers : ∀ key ∉ ["content", "description", "required"], body.get? key = none) :
      MakesBody doc consumes (.obj fields) (.obj body)

theorem makesBody_of_body (hdoc : (Json.obj doc).WellFormed) (consumes : List String)
    {entry : Json} (hbody : carrierOf (sortedAs doc entry) = some "body") :
    MakesBody doc consumes entry ((bodySource doc entry).requestBody consumes) := by
  have hinline : carrierOf entry = some "body" → bodySource doc entry = .inline entry →
      MakesBody doc consumes entry ((bodySource doc entry).requestBody consumes) := by
    intro hself hsource
    rw [hsource]
    cases entry with
    | obj fields =>
      refine .inline hself (get?_content_requestBody consumes fields) (fun key hkey => ?_)
        fun key hkey => ?_
      · have hne : key ≠ "content" := by
          rintro rfl
          exact absurd hkey (by decide)
        exact (get?_requestBody consumes fields key).trans ((if_neg hne).trans (if_pos hkey))
      · rw [List.mem_cons, not_or] at hkey
        exact (get?_requestBody consumes fields key).trans
          ((if_neg hkey.1).trans (if_neg hkey.2))
    | _ => cases hself
  rcases destination_cases hdoc entry with
    ⟨hself, hsource, _⟩ | ⟨name, w, ⟨hname, hw⟩, hsource, _⟩
  · rw [sortedAs, hself, ite_self] at hbody
    exact hinline hbody hsource
  · by_cases hshared : carrierOf w = some "body"
    · rw [hsource, if_pos hshared]
      exact .shared hname hw hshared
    · rw [if_neg hshared] at hsource
      refine hinline ?_ hsource
      rw [sortedAs, target_of_shared hname hw] at hbody
      by_cases hplain : isPlain w = true
      · rwa [if_pos hplain] at hbody
      · rw [if_neg hplain] at hbody
        exact absurd hbody hshared

/-- The entry of a list of parameters that its body comes from. -/
def lastBody? (doc owner : Fields) : Option Json :=
  (bodiesAmong doc (entriesAt owner "parameters")).getLast?

/-- The form fields of an operation: those of its own list, and the ones of its path item that
these do not hide. -/
def formOf (doc item op : Fields) : List Json :=
  formFields (fieldsAmong doc (entriesAt op "parameters"))
    (fieldsAmong doc (entriesAt item "parameters"))

/-- The content types that an operation takes. -/
def consumesOf (doc op : Fields) : List String :=
  declaredMimes op "consumes" (documentMimes doc "consumes")

/-- The request body of an upgraded operation, by the three sources that it may have. -/
structure TakesFrom (doc item op : Fields) (body : Option Json) : Prop where
  own : ∀ entry, lastBody? doc op = some entry →
    ∃ made, body = some made ∧ MakesBody doc (consumesOf doc op) entry made
  form : lastBody? doc op = none → formOf doc item op ≠ [] →
    ∃ made, body = some made ∧ IsForm (consumesOf doc op) (formOf doc item op) made
  inherited : lastBody? doc op = none → formOf doc item op = [] →
    ∀ entry, lastBody? doc item = some entry →
      ∃ made, body = some made ∧ MakesBody doc (consumesOf doc op) entry made
  untouched : lastBody? doc op = none → formOf doc item op = [] → lastBody? doc item = none →
    body = op.get? "requestBody"

theorem carrierOf_of_lastBody? {owner : Fields} {entry : Json}
    (h : lastBody? doc owner = some entry) : carrierOf (sortedAs doc entry) = some "body" := by
  simpa using (List.mem_filter.mp (List.mem_of_getLast? h)).2

theorem wellFormed_of_lastBody? {owner : Fields} (howner : (Json.obj owner).WellFormed)
    {entry : Json} (h : lastBody? doc owner = some entry) : entry.WellFormed :=
  wellFormed_entriesAt howner "parameters" entry
    (List.mem_filter.mp (List.mem_of_getLast? h)).1

theorem wellFormed_fieldsAmong (hdoc : (Json.obj doc).WellFormed) {owner : Fields}
    (howner : (Json.obj owner).WellFormed) :
    ∀ v ∈ fieldsAmong doc (entriesAt owner "parameters"), v.WellFormed := by
  have hsorted := wellFormed_sortParameters (wellFormed_forms hdoc)
    (wellFormed_entriesAt howner "parameters")
  rw [sortParameters_eq_among hdoc] at hsorted
  exact hsorted.form

/-- The form of an operation as the upgrade puts it together. -/
def mergedForm (doc item op : Fields) : List Json :=
  mergeForms (fieldsAmong doc (entriesAt op "parameters"))
    (fieldsAmong doc (entriesAt item "parameters"))

theorem wellFormed_mergedForm (hdoc : (Json.obj doc).WellFormed)
    (hitem : (Json.obj item).WellFormed) (hop : (Json.obj op).WellFormed) :
    ∀ v ∈ mergedForm doc item op, v.WellFormed :=
  fun v hv => (mem_mergeForms hv).elim (wellFormed_fieldsAmong hdoc hop v)
    (wellFormed_fieldsAmong hdoc hitem v)

theorem mergedForm_eq_formOf (hown : NamedApart (fieldsAmong doc (entriesAt op "parameters")))
    (hshared : NamedApart (fieldsAmong doc (entriesAt item "parameters"))) :
    mergedForm doc item op = formOf doc item op :=
  mergeForms_eq hown.named hshared

/-- The body that the upgrade makes for an operation, by the three sources in turn. -/
theorem get?_requestBody_eq (hdoc : (Json.obj doc).WellFormed) (hop : (Json.obj op).WellFormed) :
    Fields.get? "requestBody" (upgradeOperation (surroundings doc)
      (sortParameters (surroundings doc) (entriesAt item "parameters")) op) =
        (match lastBody? doc op with
        | some entry => some ((bodySource doc entry).requestBody (consumesOf doc op))
        | none =>
          if (mergedForm doc item op).isEmpty then
            (lastBody? doc item).map fun entry =>
              (bodySource doc entry).requestBody (consumesOf doc op)
          else some (formBody (consumesOf doc op) (mergedForm doc item op))).or
            (op.get? "requestBody") := by
  rw [get?_requestBody_upgradeOperation hop.1, sortParameters_eq_among hdoc,
    sortParameters_eq_among hdoc, operationBody?]
  simp only [lastBody?, mergedForm]
  cases (bodiesAmong doc (entriesAt op "parameters")).getLast? with
  | some entry => rfl
  | none => rw [Option.map_map]; rfl

/-- The three sources have their turns in the operation that the upgrade makes. -/
theorem takesFrom_upgradeOperation (hdoc : (Json.obj doc).WellFormed)
    (hitem : (Json.obj item).WellFormed) (hop : (Json.obj op).WellFormed)
    (hown : NamedApart (fieldsAmong doc (entriesAt op "parameters")))
    (hshared : NamedApart (fieldsAmong doc (entriesAt item "parameters"))) :
    TakesFrom doc item op (Fields.get? "requestBody" (upgradeOperation (surroundings doc)
      (sortParameters (surroundings doc) (entriesAt item "parameters")) op)) := by
  have hsame := mergedForm_eq_formOf hown hshared
  have hform := wellFormed_mergedForm hdoc hitem hop
  rw [hsame] at hform
  rw [get?_requestBody_eq hdoc hop, hsame]
  constructor
  case own =>
    intro entry hentry
    rw [hentry]
    exact ⟨_, rfl, makesBody_of_body hdoc _ (carrierOf_of_lastBody? hentry)⟩
  case form =>
    intro hnone hsome
    rw [hnone]
    simp only [List.isEmpty_iff, if_neg hsome]
    exact ⟨_, rfl, isForm_formBody _ hform (namedApart_formFields hown hshared)⟩
  case inherited =>
    intro hnone hempty entry hentry
    rw [hnone, hempty, hentry]
    exact ⟨_, rfl, makesBody_of_body hdoc _ (carrierOf_of_lastBody? hentry)⟩
  case untouched =>
    intro hnone hempty hnone'
    rw [hnone, hempty, hnone']
    rfl

/-- **Request bodies of the upgraded operations.** Take an operation of a legacy document whose
form fields have names, different ones in each list. The upgrade leaves the operation in its place.
Its request body is then made by the last body parameter of the operation; without one, by the form
fields of the operation and of its path item together; without those, by the last body parameter of
the path item; and without that it is the one that was there. Entries count by what they refer to;
where that is a parameter for neither a body nor a form, they count by what they call themselves. -/
theorem requestBody_of_upgradePaths (hdoc : (Json.obj doc).WellFormed)
    (hpaths : doc.get? "paths" = some (.obj paths)) (hitem : paths.get? path = some (.obj item))
    (hop : item.get? method.name = some (.obj op))
    (hown : NamedApart (fieldsAmong doc (entriesAt op "parameters")))
    (hshared : NamedApart (fieldsAmong doc (entriesAt item "parameters"))) :
    ∃ newPaths newItem newOp : Fields,
      upgradePaths (surroundings doc) (.obj paths) = .obj newPaths ∧
      newPaths.get? path = some (.obj newItem) ∧ newItem.get? method.name = some (.obj newOp) ∧
      TakesFrom doc item op (newOp.get? "requestBody") := by
  have hitemWf : (Json.obj item).WellFormed :=
    (hdoc.get? (v := .obj doc) hpaths).get? (v := .obj paths) hitem
  have hopWf : (Json.obj op).WellFormed := hitemWf.get? (v := .obj item) hop
  refine ⟨_, upgradedItem (surroundings doc) item, _, rfl, ?_,
    get?_name_upgradedItem hitemWf.1 hop,
    takesFrom_upgradeOperation hdoc hitemWf hopWf hown hshared⟩
  rw [Fields.get?_map fun _ => upgradePath (surroundings doc), hitem]
  rfl

end Bodies

/-- A shared file of a form. -/
def scanField : Json := .obj [("name", .str "scan"), ("in", .str "formData"),
  ("type", .str "file"), ("required", .bool true), ("description", .str "one page")]

/-- A form field with a type. -/
def typedField (name type : String) (required : Bool) : Json :=
  .obj [("name", .str name), ("in", .str "formData"), ("type", .str type),
    ("required", .bool required)]

/-- An operation with a shared file in its form. -/
def scanPost : Fields := [
  ("consumes", .arr [.str "multipart/form-data"]),
  ("parameters", .arr [.obj [("$ref", .str "#/parameters/scan")],
    .obj [("name", .str "draft"), ("in", .str "query"), ("type", .str "boolean")]]),
  ("responses", .obj [])]

/-- An operation with a shared body and a form. -/
def scanPut : Fields := [
  ("parameters", .arr [.obj [("$ref", .str "#/parameters/note")],
    typedField "size" "integer" true]),
  ("responses", .obj [])]

def scanItem : Fields := [
  ("parameters", .arr [typedField "title" "string" true, typedField "scan" "string" false,
    typedField "pages" "integer" false]),
  ("post", .obj scanPost),
  ("put", .obj scanPut)]

def scansDocument : Fields := [
  ("swagger", .str "2.0"),
  ("info", .obj [("title", .str "scans"), ("version", .str "1")]),
  ("parameters", .obj [("scan", scanField),
    ("note", .obj [("name", .str "note"), ("in", .str "body"), ("schema", .obj [])])]),
  ("paths", .obj [("/scans", .obj scanItem)])]

theorem wellFormed_scansDocument : (Json.obj scansDocument).WellFormed := by
  simp [scansDocument, scanItem, scanPost, scanPut, scanField, typedField, Json.WellFormed,
    Json.FieldsWellFormed, Json.AllWellFormed]

/-- The one operation gets a form with the shared file and the fields of the path item that have
other names, two of them required, and the other one gets the shared body and no form. -/
theorem requestBody_of_upgradePaths_of_scansDocument :
    ∃ newPaths newItem post put : Fields,
      upgradePaths (surroundings scansDocument) (.obj [("/scans", .obj scanItem)]) =
        .obj newPaths ∧ newPaths.get? "/scans" = some (.obj newItem) ∧
      (newItem.get? "post" = some (.obj post) ∧ ∃ form, post.get? "requestBody" = some form ∧
        IsForm [multipart] [scanField, typedField "title" "string" true,
          typedField "pages" "integer" false] form) ∧
      requiredNames [scanField, typedField "title" "string" true,
        typedField "pages" "integer" false] = ["scan", "title"] ∧
      (newItem.get? "put" = some (.obj put) ∧ ∃ body, put.get? "requestBody" = some body ∧
        MakesBody scansDocument [] (.obj [("$ref", .str "#/parameters/note")]) body) := by
  have hdoc := wellFormed_scansDocument
  have hpaths : scansDocument.get? "paths" = some (.obj [("/scans", .obj scanItem)]) := rfl
  have hitem : Fields.get? "/scans" [("/scans", .obj scanItem)] = some (.obj scanItem) := rfl
  have hone : ∀ {v : Json} {name : String}, v.strAt? "name" = some name → NamedApart [v] :=
    fun h => ⟨by simp [h], by simp⟩
  have hpostForm : NamedApart (fieldsAmong scansDocument (entriesAt scanPost "parameters")) :=
    hone (v := scanField) rfl
  have hputForm : NamedApart (fieldsAmong scansDocument (entriesAt scanPut "parameters")) :=
    hone (v := typedField "size" "integer" true) rfl
  have hshared : NamedApart (fieldsAmong scansDocument (entriesAt scanItem "parameters")) := by
    have heq : fieldsAmong scansDocument (entriesAt scanItem "parameters") =
        [typedField "title" "string" true, typedField "scan" "string" false,
          typedField "pages" "integer" false] := rfl
    rw [heq]
    exact ⟨by simp [typedField, Json.strAt?, Json.get?, Fields.get?, Json.str?], by
      simp [typedField, Json.strAt?, Json.get?, Fields.get?, Json.str?]⟩
  have hpost : scanItem.get? Method.post.name = some (.obj scanPost) := rfl
  have hput : scanItem.get? Method.put.name = some (.obj scanPut) := rfl
  obtain ⟨newPaths, newItem, post, hnew, hnewItem, hpost, htakes⟩ :=
    requestBody_of_upgradePaths hdoc hpaths hitem hpost hpostForm hshared
  obtain ⟨_, _, put, hnew', hnewItem', hput, htakes'⟩ :=
    requestBody_of_upgradePaths hdoc hpaths hitem hput hputForm hshared
  cases hnew.symm.trans hnew'
  cases hnewItem.symm.trans hnewItem'
  exact ⟨newPaths, newItem, post, put, hnew, hnewItem,
    ⟨hpost, htakes.form rfl (List.cons_ne_nil scanField _)⟩, rfl, hput, htakes'.own _ rfl⟩

end ApiGraph.Legacy
