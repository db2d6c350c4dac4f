import ApiGraph.Proofs.Legacy.Entries
import ApiGraph.Proofs.Legacy.FileFree

/-!
# Files

Version 2.0 has a type for files, which form fields and the schemas of responses may have. In 3.0 a
file is a string of bytes. The upgrade says so of the form fields: if nothing else in a document is
a file, nothing in the upgraded document is one. The schema of a response it moves as it is.
-/

namespace ApiGraph.Legacy

open Json Outcome Validation

/-! ### Where version 2.0 may have files -/

/-- A value without files, or a form field that is one itself. -/
def MayBeFile (v : Json) : Prop :=
  FileFree v ∨ carrierOf v = some "formData" ∧ ∀ key w, v.get? key = some w → FileFree w

/-- A list of parameters without files but for form fields. -/
def ListsFiles (v : Json) : Prop := FileFree v ∨ ∃ items, v = .arr items ∧ ∀ u ∈ items, MayBeFile u

/-- An object that is no file, with parts that are as their keys ask for; other values have no
files. -/
def FilesUnder (part : String → Json → Prop) : Json → Prop
  | .obj fields => ∀ key v, (key, v) ∈ fields → (key = "type" → v ≠ .str "file") ∧ part key v
  | v => FileFree v

/-- In an operation the parameters alone may be files. -/
def OperationPart (key : String) (v : Json) : Prop :=
  if key = "parameters" then ListsFiles v else FileFree v

/-- In a path item the parameters alone may be files, its own and those of its operations. -/
def ItemPart (key : String) (v : Json) : Prop :=
  if key = "parameters" then ListsFiles v
  else if key ∈ Method.all.map Method.name then FilesUnder OperationPart v
  else FileFree v

/-- In a document the parameters alone may be files, in its paths or shared. -/
def DocumentPart (key : String) (v : Json) : Prop :=
  if key = "paths" then FilesUnder (fun _ => FilesUnder ItemPart) v
  else if key = "parameters" then FilesUnder (fun _ => MayBeFile) v
  else FileFree v

/-- Nothing in a document is a file but form fields, in lists of parameters or shared. -/
def FilesInForms (doc : Fields) : Prop := FilesUnder DocumentPart (.obj doc)

/-- What a list of parameters has been sorted into holds no files. -/
def Sorted.HoldNoFile (s : Sorted) : Prop :=
  s.All FileFree (fun source => ∀ consumes, FileFree (source.requestBody consumes)) HoldsNoFile

section Upgrade

variable {version : String} {doc item op : Fields} {v : Json}

theorem holdsNoFile_of_mayBeFile (hwf : v.WellFormed) (h : MayBeFile v) : HoldsNoFile v := by
  rcases h with hfree | ⟨_, hheld⟩
  · exact ⟨hwf, fun _ _ hw => hfree.get? hw⟩
  · exact ⟨hwf, hheld⟩

theorem part_of_mem_sharedEntries (h : FilesInForms doc) {name : String}
    (hv : (name, v) ∈ sharedEntries doc "parameters") :
    (name = "type" → v ≠ .str "file") ∧ MayBeFile v := by
  rcases sharedEntries_eq_nil_or doc "parameters" with hnil | hget
  · rw [hnil] at hv
    cases hv
  · have hpart := (h _ _ (Fields.mem_of_get?_eq_some hget)).2
    rw [DocumentPart, if_neg (by decide), if_pos rfl] at hpart
    exact hpart name v hv

theorem mayBeFile_of_mem_entriesAt (h : ∀ w, op.get? "parameters" = some w → ListsFiles w) :
    ∀ v ∈ entriesAt op "parameters", MayBeFile v := by
  intro v hv
  rw [entriesAt] at hv
  cases hget : op.get? "parameters" with
  | none =>
    rw [hget] at hv
    cases hv
  | some list =>
    rw [hget] at hv
    cases list with
    | arr items =>
      rcases h _ hget with hfree | ⟨_, heq, hall⟩
      · exact Or.inl (fileFree_arr_iff.mp hfree v hv)
      · cases heq
        exact hall v hv
    | _ => cases hv

/-- A file is a form field, so it goes into the form or, if it names a shared body, away. -/
theorem holdNoFile_destination (hdoc : (obj doc).WellFormed) (h : FilesInForms doc)
    (hwf : v.WellFormed) (hv : MayBeFile v) :
    (destination (surroundings doc) v).All FileFree
      (fun source => ∀ consumes, FileFree (source.requestBody consumes)) HoldsNoFile := by
  refine Destination.all_destination ?body ?form ?inlined
  case body =>
    exact fun _ _ _ _ => fileFree_singleton (harmless_of_ne (by decide) trivial)
  case form =>
    intro name field hfield
    have hmem := (List.mem_filter.mp (Fields.mem_of_get?_eq_some hfield)).1
    exact holdsNoFile_of_mayBeFile ((wellFormed_obj_iff.mp
      (wellFormed_sharedEntries hdoc "parameters")).2 _ hmem) (part_of_mem_sharedEntries h hmem).2
  case inlined =>
    intro _
    rw [inlined_eq]
    by_cases hform : carrierOf v = some "formData"
    · rw [if_neg (by simp [hform]), if_pos hform]
      exact holdsNoFile_of_mayBeFile hwf hv
    have hfree : FileFree v := hv.resolve_right fun hself => hform hself.1
    by_cases hbody : carrierOf v = some "body"
    · rw [if_pos hbody]
      exact fun consumes => fileFree_requestBody consumes hfree
    · rw [if_neg hbody, if_neg hform]
      exact fileFree_convertParameter hfree

theorem holdNoFile_sortParameters (hdoc : (obj doc).WellFormed) (h : FilesInForms doc)
    (hop : (obj op).WellFormed) (hlists : ∀ w, op.get? "parameters" = some w → ListsFiles w) :
    (sortParameters (surroundings doc) (entriesAt op "parameters")).HoldNoFile :=
  all_sortParameters fun v hv => holdNoFile_destination hdoc h
    (wellFormed_entriesAt hop "parameters" v hv) (mayBeFile_of_mem_entriesAt hlists v hv)

/-- With the list of parameters the files are gone. -/
theorem fileFree_withPlain {plain : List Json} (hnodup : (op.map Prod.fst).Nodup)
    (hplain : ∀ v ∈ plain, FileFree v)
    (hothers : ∀ key v, (key, v) ∈ op → key ≠ "parameters" → Harmless key v) :
    FileFree (.obj (withPlain plain op)) := by
  have hbare : FileFree (.obj (op.erase "parameters")) :=
    fileFree_obj_iff.mpr fun key v hv =>
      hothers key v (Fields.mem_of_mem_erase hv) (Fields.ne_of_mem_erase hnodup hv)
  rw [withPlain]
  split
  · exact hbare
  · exact hbare.insert (harmless_of_ne (by decide) (fileFree_arr_iff.mpr hplain))

theorem fileFree_upgradeOperation (hdoc : (obj doc).WellFormed) (h : FilesInForms doc)
    {shared : Sorted} (hshared : shared.HoldNoFile) (hwf : (obj op).WellFormed)
    (hop : FilesUnder OperationPart (.obj op)) :
    FileFree (.obj (upgradeOperation (surroundings doc) shared op)) := by
  have hlists : ∀ w, op.get? "parameters" = some w → ListsFiles w := by
    intro w hw
    have hpart := (hop _ _ (Fields.mem_of_get?_eq_some hw)).2
    rwa [OperationPart, if_pos rfl] at hpart
  have hown := holdNoFile_sortParameters hdoc h hwf hlists
  have hbare : (obj ((op.erase "produces").erase "consumes")).WellFormed := hwf.erase.erase
  have hsorted : FileFree (.obj (withPlain (sortParameters (surroundings doc)
      (entriesAt op "parameters")).plain ((op.erase "produces").erase "consumes"))) := by
    refine fileFree_withPlain hbare.1 hown.plain fun key v hv hkey => ?_
    obtain ⟨hother, hpart⟩ := hop key v (Fields.mem_of_mem_erase (Fields.mem_of_mem_erase hv))
    rw [OperationPart, if_neg hkey] at hpart
    exact ⟨hother, hpart⟩
  rw [upgradeOperation]
  refine FileFree.modify ?_ (by decide) fun _ => fileFree_convertResponses _
  split
  · next body hbody =>
    exact hsorted.insert (harmless_of_ne (by decide)
      (operationBody?_induction (fun _ hsource => hsource _) (fun _ => fileFree_formBody _) hown
        hshared hbody))
  · exact hsorted

theorem fileFree_upgradePath (hdoc : (obj doc).WellFormed) (h : FilesInForms doc)
    (hwf : v.WellFormed) (hv : FilesUnder ItemPart v) :
    FileFree (upgradePath (surroundings doc) v) := by
  cases v with
  | obj item =>
    have hlists : ∀ w, Fields.get? "parameters" item = some w → ListsFiles w := by
      intro w hw
      have hpart := (hv _ _ (Fields.mem_of_get?_eq_some hw)).2
      rwa [ItemPart, if_pos rfl] at hpart
    have hsorted := holdNoFile_sortParameters hdoc h hwf hlists
    have hnew : (obj (upgradedItem (surroundings doc) item)).WellFormed :=
      wellFormed_upgradedItem (wellFormed_forms hdoc) hwf
    refine fileFree_obj_iff.mpr fun key w hw => ?_
    have hget := (Fields.get?_eq_some_iff hnew.1).mpr hw
    rw [get?_upgradedItem, resorted, Option.map_eq_some_iff] at hget
    obtain ⟨u, hu, rfl⟩ := hget
    by_cases hparameters : key = "parameters"
    · subst hparameters
      rw [get?_withPlain_self hwf.1] at hu
      split at hu
      · cases hu
      · cases hu
        rw [if_neg (by decide)]
        exact harmless_of_ne (by decide) (fileFree_arr_iff.mpr hsorted.plain)
    · rw [get?_withPlain_of_ne hwf.1 hparameters] at hu
      obtain ⟨hother, hpart⟩ := hv key u (Fields.mem_of_get?_eq_some hu)
      rw [ItemPart, if_neg hparameters] at hpart
      by_cases hmethod : key ∈ Method.all.map Method.name
      · rw [if_pos hmethod] at hpart ⊢
        have htype : key ≠ "type" := by
          rintro rfl
          exact absurd hmethod (by decide)
        refine harmless_of_ne htype ?_
        cases u with
        | obj fields =>
          exact fileFree_upgradeOperation hdoc h hsorted
            (hwf.get? (v := .obj item) hu) hpart
        | _ => exact hpart
      · rw [if_neg hmethod] at hpart ⊢
        exact ⟨hother, hpart⟩
  | _ => exact hv

theorem fileFree_upgradePaths (hdoc : (obj doc).WellFormed) (h : FilesInForms doc)
    (hwf : v.WellFormed) (hv : FilesUnder (fun _ => FilesUnder ItemPart) v) :
    FileFree (upgradePaths (surroundings doc) v) := by
  cases v with
  | obj paths =>
    refine fileFree_obj_iff.mpr fun key w hw => ?_
    obtain ⟨⟨path, u⟩, hu, heq⟩ := List.mem_map.mp hw
    cases heq
    obtain ⟨hother, hitem⟩ := hv _ u hu
    have hfree := fileFree_upgradePath hdoc h ((wellFormed_obj_iff.mp hwf).2 _ hu) hitem
    refine ⟨fun hkey heq => hother hkey ?_, hfree⟩
    cases u <;> cases heq
    rfl
  | _ => exact hv

/-! ### The document -/

theorem fileFree_of_get? (h : FilesInForms doc) {key : String} {w : Json}
    (hw : doc.get? key = some w) (hpaths : key ≠ "paths") (hparameters : key ≠ "parameters") :
    FileFree w := by
  have hpart := (h key w (Fields.mem_of_get?_eq_some hw)).2
  rwa [DocumentPart, if_neg hpaths, if_neg hparameters] at hpart

/-- Among the shared parameters that are no form fields there are no files. -/
theorem fileFree_filter_shared (h : FilesInForms doc) {p : Json → Bool}
    (hp : ∀ v, p v = true → carrierOf v ≠ some "formData") :
    FileFree (.obj ((sharedEntries doc "parameters").filter fun field => p field.2)) := by
  refine fileFree_obj_iff.mpr fun name v hv => ?_
  obtain ⟨hmem, hkept⟩ := List.mem_filter.mp hv
  obtain ⟨hother, hfile⟩ := part_of_mem_sharedEntries h hmem
  exact ⟨hother, hfile.resolve_right fun hself => hp v hkept hself.1⟩

theorem fileFree_section {name : String} {value : Option Json} (hname : name ≠ "type")
    (h : ∀ v, value = some v → FileFree v) :
    FileFree (.obj ((value.map fun v => (name, v)).toList)) := by
  cases value with
  | none => exact fileFree_nil
  | some v => exact fileFree_singleton (harmless_of_ne hname (h v rfl))

theorem fileFree_ifAny {name : String} {entries : Fields} (h : FileFree (.obj entries)) :
    FileFree (.obj (ifAny name entries)) := by
  rw [ifAny]
  split
  · exact fileFree_nil
  · exact fileFree_singleton (harmless_obj h)

theorem fileFree_components (h : FilesInForms doc) :
    FileFree (.obj (components (surroundings doc) doc)) := by
  have hplain : FileFree (.obj ((plainParameters doc).map fun entry =>
      (entry.1, convertParameter entry.2))) := by
    refine FileFree.mapValues (fileFree_filter_shared (p := isPlain) h fun v hv =>
      (isPlain_iff.mp hv).2) (fun _ => fileFree_convertParameter) fun _ _ => convertParameter_eq_str
  have hbodies : FileFree (.obj ((sharedBodies doc).map fun entry =>
      (entry.1, requestBody (surroundings doc).consumes entry.2))) := by
    refine FileFree.mapValues (fileFree_filter_shared
      (p := fun v => carrierOf v == some "body") h fun v hv => ?_)
      (fun _ => fileFree_requestBody _) fun v s hs => ?_
    · simp [beq_iff_eq.mp hv]
    · cases v <;> cases hs
      rfl
  have hresponses : FileFree (.obj (sharedResponses (surroundings doc) doc)) := by
    rw [sharedResponses]
    split
    · next entries hentries =>
      have hfree := fileFree_of_get? h hentries (by decide) (by decide)
      exact fileFree_singleton (harmless_obj
        (hfree.mapValues (fun _ => fileFree_convertResponse _) fun _ _ => convertResponse_eq_str))
    · exact fileFree_nil
  rw [components_eq]
  exact ((((fileFree_section (by decide) fun v hv =>
    fileFree_of_get? h hv (by decide) (by decide)).append (fileFree_ifAny hplain)).append
    (fileFree_ifAny hbodies)).append hresponses).append (fileFree_section (by decide) fun v hv =>
      fileFree_of_get? h hv (by decide) (by decide))

theorem fileFree_servers (doc : Fields) : FileFree (.arr (servers doc)) := by
  have hserver : ∀ url, FileFree (server url) := fun _ =>
    fileFree_singleton (harmless_of_ne (by decide) trivial)
  refine fileFree_arr_iff.mpr ?_
  rw [servers]
  split
  · split
    · exact fun _ h => absurd h List.not_mem_nil
    · exact List.forall_mem_singleton.mpr (hserver _)
  · intro v hv
    obtain ⟨_, _, hurl⟩ := List.mem_filterMap.mp hv
    obtain ⟨_, _, rfl⟩ := Option.map_eq_some_iff.mp hurl
    exact hserver _

theorem fileFree_withValue {key : String} {value : Option Json} {fields : Fields}
    (hkey : key ≠ "type") (hvalue : ∀ v, value = some v → FileFree v)
    (h : FileFree (.obj fields)) : FileFree (.obj (withValue key value fields)) := by
  cases value with
  | none => exact h
  | some v => exact h.insert (harmless_of_ne hkey (hvalue v rfl))

theorem fileFree_remaining (hdoc : (obj doc).WellFormed) (h : FilesInForms doc) :
    ∀ key v, (key, v) ∈ remaining doc → Harmless key v := by
  intro key v hv
  obtain ⟨u, hu, rfl⟩ := Fields.mem_modify hv
  have hmem := Fields.mem_of_mem_erases hu
  obtain ⟨hother, hpart⟩ := h key u hmem
  by_cases hpaths : key = "paths"
  · subst hpaths
    rw [DocumentPart, if_pos rfl] at hpart
    rw [if_pos rfl]
    exact harmless_of_ne (by decide)
      (fileFree_upgradePaths hdoc h ((wellFormed_obj_iff.mp hdoc).2 _ hmem) hpart)
  · rw [if_neg hpaths]
    have hconsumed : key ≠ "parameters" := by
      rintro rfl
      have hgone : Fields.get? "parameters" (doc.erases consumedKeys) = none :=
        Fields.get?_erases_of_mem (by decide) hdoc.1
      exact Fields.get?_eq_none_iff.mp hgone (List.mem_map_of_mem hu)
    rw [DocumentPart, if_neg hpaths, if_neg hconsumed] at hpart
    exact ⟨hother, hpart⟩

/-- Where files are form fields only, nothing in the upgraded document is a file. -/
theorem fileFree_upgrade (version : String) (hdoc : (obj doc).WellFormed) (h : FilesInForms doc) :
    FileFree (upgrade version doc) := by
  rw [upgrade_eq]
  refine fileFree_modernize (fileFree_withValue (by decide) ?_
    (fileFree_withValue (by decide) ?_ (fileFree_ofList fun key v hv => ?_)))
  · intro v hv
    split at hv
    · cases hv
    · cases hv
      exact fileFree_components h
  · intro v hv
    split at hv
    · cases hv
    · cases hv
      exact fileFree_servers doc
  · rcases List.mem_cons.mp hv with heq | hv
    · cases heq
      exact harmless_of_ne (by decide) trivial
    · exact fileFree_remaining hdoc h key v hv

/-! ### Files of a form -/

/-- If all fields of a form with a name are files, its property of that name is a string of
bytes. -/
theorem exists_property_of_files {form : List Json} (hwf : ∀ v ∈ form, v.WellFormed) {name : String}
    (hname : ∃ v ∈ form, v.strAt? "name" = some name)
    (hfiles : ∀ v ∈ form, v.strAt? "name" = some name → v.strAt? "type" = some "file") :
    ∃ schema : Fields, (formProperties form).get? name = some (.obj schema) ∧
      (obj schema).WellFormed ∧ schema.get? "type" = some (.str "string") ∧
      schema.get? "format" = some (.str "binary") := by
  obtain ⟨v, hv, hvname⟩ := hname
  obtain ⟨field, hfield, hproperty, _⟩ := exists_formField? (hwf v hv) ⟨name, hvname⟩
  have hsame : field.name = name := Option.some.inj (hproperty.name.symm.trans hvname)
  have hkey : name ∈ (formProperties form).map Prod.fst := by
    rw [formProperties, Fields.keys_ofList, List.mem_eraseDups, List.map_map]
    exact List.mem_map.mpr ⟨field, List.mem_filterMap.mpr ⟨v, hv, hfield⟩, hsame⟩
  obtain ⟨w, hw⟩ := Fields.mem_keys_iff.mp hkey
  -- The property may come from another field of the name, which is a file too.
  obtain ⟨u, hu, other, hother, rfl, rfl⟩ :=
    exists_of_mem_formProperties (Fields.mem_of_get?_eq_some hw)
  have hproperty := isProperty_of_formField? (hwf u hu) hother
  obtain ⟨schema, (hobj : other.schema = .obj schema), _, hget⟩ := hproperty.schema
  have hfile := hfiles u hu hproperty.name
  have hschema := wellFormed_formField? (hwf u hu) hother
  rw [hobj] at hw hschema
  refine ⟨schema, hw, hschema, ?_, ?_⟩
  · rw [hget, propertyKeyword?, if_pos ⟨hfile, rfl⟩]
  · rw [hget, propertyKeyword?, if_neg (by simp), if_pos ⟨hfile, rfl⟩]

variable {paths : Fields} {path : String} {method : Method}

/-- Where the upgraded document has the properties of the form of an operation. -/
def propertyKeys (doc op : Fields) (path : String) (method : Method) (name : String) :
    List String :=
  ["paths", path, method.name, "requestBody", "content", formMime (consumesOf doc op), "schema",
    "properties", name]

/-- The files in the form of an operation are strings of bytes in the upgraded document. -/
theorem exists_property_of_upgrade (version : String) (hdoc : (obj doc).WellFormed)
    (hpaths : doc.get? "paths" = some (.obj paths)) (hpath : path ≠ "x-nullable")
    (hitem : paths.get? path = some (.obj item)) (hop : item.get? method.name = some (.obj op))
    (hbody : lastBody? doc op = none) {name : String} (hordinary : name ≠ "x-nullable")
    (hname : ∃ v ∈ mergedForm doc item op, v.strAt? "name" = some name)
    (hfiles : ∀ v ∈ mergedForm doc item op, v.strAt? "name" = some name →
      v.strAt? "type" = some "file") :
    ∃ f, (Fragment.ofDocument (upgrade version doc)).walk?
        (propertyKeys doc op path method name) = some f ∧
      f.value.strAt? "type" = some "string" ∧ f.value.strAt? "format" = some "binary" := by
  have hitemWf : (obj item).WellFormed :=
    (hdoc.get? (v := .obj doc) hpaths).get? (v := .obj paths) hitem
  have hopWf : (obj op).WellFormed := hitemWf.get? (v := .obj item) hop
  have hforms := wellFormed_mergedForm hdoc hitemWf hopWf
  obtain ⟨schema, hschema, hschemaWf, htype, hformat⟩ :=
    exists_property_of_files hforms hname hfiles
  have hnewPaths : (obj (assembled version doc)).get? "paths" =
      some (upgradePaths (surroundings doc) (.obj paths)) := by
    rw [Json.get?, get?_assembled_paths hdoc, hpaths]
    rfl
  have hnewItem : (upgradePaths (surroundings doc) (.obj paths)).get? path =
      some (.obj (upgradedItem (surroundings doc) item)) := by
    rw [upgradePaths, Json.get?, Fields.get?_map fun _ => upgradePath (surroundings doc), hitem]
    rfl
  have hnewOp : (obj (upgradedItem (surroundings doc) item)).get? method.name =
      some (.obj (upgradeOperation (surroundings doc)
        (sortParameters (surroundings doc) (entriesAt item "parameters")) op)) :=
    get?_name_upgradedItem hitemWf.1 hop
  have hnewBody : (obj (upgradeOperation (surroundings doc)
      (sortParameters (surroundings doc) (entriesAt item "parameters")) op)).get? "requestBody" =
        some (formBody (consumesOf doc op) (mergedForm doc item op)) := by
    obtain ⟨v, hv, _⟩ := hname
    rw [Json.get?, get?_requestBody_eq hdoc hopWf, hbody]
    simp [List.isEmpty_iff, List.ne_nil_of_mem hv]
  have hsingle : ∀ key v, (obj [(key, v)]).get? key = some v := fun _ _ => if_pos rfl
  have hnewProperties : (obj (formSchema (formProperties (mergedForm doc item op))
      (formRequired (mergedForm doc item op)))).get? "properties" =
        some (.obj (formProperties (mergedForm doc item op))) :=
    get?_properties_formSchema _ _
  have hnewSchema : (obj (formProperties (mergedForm doc item op))).get? name =
      some (.obj schema) := hschema
  have hfound : (propertyKeys doc op path method name).foldlM Json.get?
      (.obj (assembled version doc)) = some (.obj schema) := by
    simp only [propertyKeys, List.foldlM_cons, List.foldlM_nil, Option.bind_eq_bind,
      Option.bind_some, hnewPaths, hnewItem, hnewOp, hnewBody, formBody_eq, hsingle,
      hnewProperties, hnewSchema]
    rfl
  have hkeys : ∀ key ∈ propertyKeys doc op path method name, key ≠ "x-nullable" := by
    have hmethod := name_not_mem method
    simp only [List.mem_cons, List.not_mem_nil, or_false, not_or] at hmethod
    simp [propertyKeys, hpath, hmethod.1, formMime_ne, hordinary]
  obtain ⟨place, hwalk⟩ :=
    exists_walk?_modernize hkeys ⟨.document, []⟩ (wellFormed_assembled hdoc) hfound
  refine ⟨_, hwalk, ?_, ?_⟩
  · rw [strAt?_eq_some_iff, get?_modernize hschemaWf (by decide) (by decide), Json.get?, htype]
    rfl
  · rw [strAt?_eq_some_iff, get?_modernize hschemaWf (by decide) (by decide), Json.get?, hformat]
    rfl

/-! ### Files of a response -/

theorem not_accepted_of_file [Pattern.Checker] {schema : Fields} (href : schema.get? "$ref" = none)
    (hfile : schema.get? "type" = some (.str "file")) : ¬ Accepted .schema (.obj schema) := by
  intro h
  obtain ⟨_, heq, ⟨_, hpointer, _⟩ | ⟨_, horder, _⟩⟩ := accepted_iff.mp h
  · cases heq
    cases href.symm.trans hpointer
  · cases heq
    exact absurd (horder.type _ hfile) (by decide)

/-- The schema of a response is moved as it is, so it is refused if it is a file. -/
theorem not_accepted_of_file_response [Pattern.Checker] {produces : List String}
    {fields schema : Fields} (hwf : (obj fields).WellFormed) (hinline : fields.get? "$ref" = none)
    (hschema : fields.get? "schema" = some (.obj schema)) (href : schema.get? "$ref" = none)
    (hfile : schema.get? "type" = some (.str "file")) :
    ¬ Accepted .response (modernize (convertResponse (effective produces) (.obj fields))) := by
  intro h
  have hschemaWf : (obj schema).WellFormed := hwf.get? (v := .obj fields) hschema
  obtain ⟨content, hmade⟩ : ∃ content, contentOf (effective produces)
      (responseMedia (.obj schema) (fields.get? "examples")) = .obj content := ⟨_, rfl⟩
  have hsome : content ≠ [] := contentOf_ne_nil hmade (effective_ne_nil produces)
  have hcontent : (convertResponse (effective produces) (.obj fields)).get? "content" =
      some (.obj content) := by
    rw [convertResponse_of_plain hinline, Json.get?, get?_content_liftContent hwf.1, hschema]
    exact congrArg some hmade
  have hnew : (modernize (convertResponse (effective produces) (.obj fields))).get? "content" =
      some (.obj (renewed content)) := by
    rw [get?_modernize (wellFormed_convertResponse hwf) (by decide) (by decide), hcontent]
    rfl
  have hplain : (modernize (convertResponse (effective produces) (.obj fields))).get? "$ref" =
      none := by
    rw [get?_modernize (wellFormed_convertResponse hwf) (by decide) (by decide),
      convertResponse_of_plain hinline, Json.get?, get?_liftContent hwf.1 (by decide), hinline]
    rfl
  obtain ⟨_, heq, ⟨pointer, hpointer, _⟩ | ⟨_, _, hholds⟩⟩ := accepted_iff.mp h
  · rw [heq] at hplain
    cases hplain.symm.trans hpointer
  · rw [heq] at hnew
    obtain ⟨_, hobj, hmedia⟩ := hholds _ hnew
    cases hobj
    obtain ⟨⟨mime, media⟩, rest, hfirst⟩ := List.exists_cons_of_ne_nil (renewed_ne_nil hsome)
    have hmem : (mime, media) ∈ renewed content := hfirst ▸ List.mem_cons_self
    obtain ⟨k, v, hv, hvalue, _⟩ := mem_renewed hmem
    rw [mem_contentOf hmade hv] at hvalue
    have hmediaWf : (responseMedia (.obj schema) (fields.get? "examples") k).WellFormed :=
      wellFormed_responseMedia hschemaWf fun v hv => hwf.get? (v := .obj fields) hv
    have hmoved : media.get? "schema" = some (.obj (renewed schema)) := by
      rw [hvalue, get?_retargetField, get?_modernize hmediaWf (by decide) (by decide)]
      rfl
    obtain ⟨entries, rfl, haccepted⟩ := hmedia mime media hmem
    refine not_accepted_of_file ?_ ?_ (haccepted _ hmoved rfl)
    · rw [get?_ref_renewed hschemaWf, href]
      rfl
    · rw [get?_renewed hschemaWf (by decide) (by decide) (by decide), hfile]
      rfl

/-- No document is normalized that has a file for a response, so a download cannot be described. -/
theorem not_normalize_of_file_response [Pattern.Checker] {options : NormalizeOptions} {out : Json}
    (hdoc : (obj doc).WellFormed) (hversion : declaredVersion doc = .ok .legacy)
    (hstands : StandsAt doc path method item op) (hpath : path ≠ "x-nullable")
    {key : String} {fields schema : Fields}
    (hresponse : (sharedEntries op "responses").get? key = some (.obj fields))
    (hinline : fields.get? "$ref" = none) (hschema : fields.get? "schema" = some (.obj schema))
    (href : schema.get? "$ref" = none) (hfile : schema.get? "type" = some (.str "file")) :
    normalize options (.obj doc) ≠ .ok out := by
  intro h
  obtain ⟨_, heq, hupgraded, hvalid⟩ := normalize_eq_ok_iff.mp h
  cases heq
  rcases upgraded_eq_ok_iff.mp hupgraded with ⟨hcurrent, _⟩ | ⟨_, _, rfl⟩
  · cases hversion.symm.trans hcurrent
  obtain ⟨paths, hpaths, hitem⟩ := hstands.inPaths
  obtain ⟨hitemWf, hopWf⟩ := hstands.wellFormed hdoc
  have horder := operationInOrder_of_pathInOrder (wellFormed_forms hdoc) hitemWf
    (pathInOrder_of_no_issues hdoc hvalid hpaths hitem hstands.inlineItem fun heq =>
      absurd heq hpath) hstands.inItem
  obtain ⟨entries, hentries, hall⟩ := horder.responses
  obtain ⟨old, hold, hget⟩ := get?_sharedEntries_iff.mp hresponse
  have hfieldsWf : (obj fields).WellFormed :=
    (hopWf.get? (v := .obj op) hold).get? (v := .obj old) hget
  rw [get?_renewed (hstands.wellFormed_new hdoc).2 (by decide) (by decide) (by decide),
    get?_responses_upgradeOperation hopWf.1, hold] at hentries
  cases hentries
  generalize hmimes : declaredMimes op "produces" (surroundings doc).produces = mimes at hall
  have hnone : Fields.get? "x-nullable" (modernizeFields (old.map fun entry =>
      (entry.1, convertResponse (effective mimes) entry.2))) = none := by
    rw [Fields.get?_eq_none_iff]
    intro hmem
    obtain ⟨r, hr⟩ := Fields.mem_keys_iff.mp (nullable_mem_keys_promoteNullable hmem)
    have hparsed := (hall "nullable" r (Fields.mem_of_get?_eq_some hr)).1
    cases hparsed
  have hnew : Fields.get? key (renewed (old.map fun entry =>
      (entry.1, convertResponse (effective mimes) entry.2))) =
        some (modernize (convertResponse (effective mimes) (.obj fields))) := by
    rw [renewed, promoteNullable_of_none hnone, get?_modernizeFields,
      Fields.get?_map fun _ => convertResponse (effective mimes), hget, Option.map_some,
      Option.map_some, convertResponse_of_plain hinline]
    rfl
  exact not_accepted_of_file_response hfieldsWf hinline hschema href hfile
    (hall key _ (Fields.mem_of_get?_eq_some hnew)).2

/-! ### The upgraded document -/

/-- **Files after the upgrade.** Where nothing in a legacy document is a file but form fields,
nothing in the upgraded document is a file, at any depth. And in every document, an operation
without a body of its own has a string of bytes in its form for each name that all its fields of
that name are files, as long as neither the path nor the name is the extension for null. -/
theorem files_of_upgrade (version : String) (hdoc : (obj doc).WellFormed) :
    (FilesInForms doc → FileFree (upgrade version doc)) ∧
      ∀ (paths item op : Fields) (path : String) (method : Method),
        doc.get? "paths" = some (.obj paths) → path ≠ "x-nullable" →
        paths.get? path = some (.obj item) → item.get? method.name = some (.obj op) →
        lastBody? doc op = none → ∀ name ≠ "x-nullable",
          (∃ v ∈ mergedForm doc item op, v.strAt? "name" = some name) →
          (∀ v ∈ mergedForm doc item op, v.strAt? "name" = some name →
            v.strAt? "type" = some "file") →
          ∃ f, (Fragment.ofDocument (upgrade version doc)).walk?
              (propertyKeys doc op path method name) = some f ∧
            f.value.strAt? "type" = some "string" ∧ f.value.strAt? "format" = some "binary" :=
  ⟨fileFree_upgrade version hdoc, fun _ _ _ _ _ hpaths hpath hitem hop hbody _ hordinary =>
    exists_property_of_upgrade version hdoc hpaths hpath hitem hop hbody hordinary⟩

end Upgrade

/-- The only file of the document is the shared one. -/
theorem filesInForms_scansDocument : FilesInForms scansDocument := by
  have hscan : MayBeFile scanField := by
    refine Or.inr ⟨rfl, fun key w hw => ?_⟩
    have hmem := Fields.mem_of_get?_eq_some (show Fields.get? key _ = some w from hw)
    simp only [List.mem_cons, Prod.mk.injEq, List.not_mem_nil, or_false] at hmem
    rcases hmem with ⟨_, rfl⟩ | ⟨_, rfl⟩ | ⟨_, rfl⟩ | ⟨_, rfl⟩ | ⟨_, rfl⟩ <;> trivial
  have hnote : MayBeFile (.obj [("name", .str "note"), ("in", .str "body"), ("schema", .obj [])]) :=
    Or.inl (by simp [FileFree, EveryObject, EveryObjectOfFields])
  simp [FilesInForms, scansDocument, scanItem, scanPost, scanPut, typedField, FilesUnder,
    DocumentPart, ItemPart, OperationPart, ListsFiles, hscan, hnote, FileFree, EveryObject,
    EveryObjectOfFields, EveryObjectOfItems, or_imp, forall_and]

/-- The shared file is a string of bytes in the form of the operation that lists it. -/
theorem files_of_upgrade_of_scansDocument :
    FilesInForms scansDocument ∧ scanField.strAt? "type" = some "file" ∧
      FileFree (upgrade "3.0.0" scansDocument) ∧
      ∃ f, (Fragment.ofDocument (upgrade "3.0.0" scansDocument)).walk? ["paths", "/scans", "post",
          "requestBody", "content", "multipart/form-data", "schema", "properties", "scan"] =
            some f ∧
        f.value.strAt? "type" = some "string" ∧ f.value.strAt? "format" = some "binary" := by
  have hdoc : (obj scansDocument).WellFormed := wellFormed_scansDocument
  obtain ⟨hfree, hforms⟩ := files_of_upgrade "3.0.0" hdoc
  have hform : mergedForm scansDocument scanItem scanPost = [scanField,
      typedField "title" "string" true, typedField "pages" "integer" false] := rfl
  have hfiles := hforms [("/scans", .obj scanItem)] scanItem scanPost "/scans" .post rfl (by decide)
    rfl rfl rfl "scan" (by decide) ⟨scanField, hform ▸ List.mem_cons_self, rfl⟩
  refine ⟨filesInForms_scansDocument, rfl, hfree filesInForms_scansDocument, hfiles ?_⟩
  rw [hform]
  intro v hv hname
  simp only [List.mem_cons, List.not_mem_nil, or_false] at hv
  rcases hv with rfl | rfl | rfl
  · rfl
  · exact absurd hname (by decide)
  · exact absurd hname (by decide)

end ApiGraph.Legacy
