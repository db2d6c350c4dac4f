import ApiGraph.Proofs.Legacy.Components
import ApiGraph.Proofs.Legacy.Conversions

/-!
# References of the upgraded document

In a linked document every reference designates an inline shared entry of the matching kind. The
upgrade sees pointers as texts: it replaces their beginnings and takes the rest for the key of a
shared parameter, while the resolver reads the keys that the text stands for. So a linked document
spells the beginning of a pointer as the upgrade does, and the name of a body or of a form field
too; any other name may be spelled in any way that is read as it.

A reference lands if its new pointer leads to an inline entry. The references of the sorted lists
and of the moved parts land, so those of the assembled document do, and rewriting puts the new
pointers in place. A pointer whose text is not seen to lead into a moved section leads nowhere.
-/

namespace ApiGraph.Legacy

open Json Validation

/-! ### Linked documents -/

/-- A text that is read as the name of an inline shared entry. -/
structure Spells (doc : Fields) (key text name : String) (v : Json) : Prop where
  read : Pointer.segments text = [name]
  ordinary : name ≠ "x-nullable"
  entry : (sharedEntries doc key).get? name = some v
  inline : v.reference? = none

/-- A raw text is the key of a body or of a form field exactly if it is read as the name of one. -/
structure Recognized (doc : Fields) (text : String) (v : Json) : Prop where
  body : text ∈ (surroundings doc).bodies ↔ carrierOf v = some "body"
  form : (surroundings doc).forms.get? text ≠ none ↔ carrierOf v = some "formData"

/-- The pointers by which an object of a role may designate a shared entry. -/
inductive Designates (doc : Fields) : Role → String → Prop
  | definition {text name : String} {v : Json} (h : Spells doc "definitions" text name v) :
      Designates doc .schema ("#/definitions/" ++ text)
  | response {text name : String} {v : Json} (h : Spells doc "responses" text name v) :
      Designates doc .response ("#/responses/" ++ text)
  | parameter {text name : String} {v : Json} (h : Spells doc "parameters" text name v)
      (hkind : Recognized doc text v) : Designates doc .parameter ("#/parameters/" ++ text)

/-- The schemas that 2.0 keeps in a place of its own: the inline type of a parameter, and what
stands under `schema` in a body or a response. A reference has none of them, unless it says of
itself that it is a body or a form field. -/
inductive Declares : Role → Fields → Json → Prop
  | type {fields : Fields} (hown : (obj fields).reference? = none ∨ isPlain (obj fields) = false) :
      Declares .parameter fields (.obj (inlineSchema fields))
  | body {fields : Fields} {w : Json}
      (hown : (obj fields).reference? = none ∨ isPlain (obj fields) = false)
      (hw : fields.get? "schema" = some w) : Declares .parameter fields w
  | answer {fields : Fields} {w : Json} (hown : (obj fields).reference? = none)
      (hw : fields.get? "schema" = some w) : Declares .response fields w

/-- Every reference in a part of a 2.0 document designates a shared entry. -/
structure Linked (doc : Fields) (role : Role) (v : Json) : Prop where
  met : AllReferences (Designates doc) role v
  declared : ∀ fields w, v = .obj fields → Declares role fields w →
    AllReferences (Designates doc) .schema w

/-- Every reference in a document designates a shared entry; one that is a shared parameter itself
designates a plain parameter, as no other is moved to where it stays. -/
structure LinkedDocument (doc : Fields) : Prop where
  parts : DocumentParts (Linked doc) doc
  components : doc.get? "components" = none
  definitions : ∀ name v, (name, v) ∈ sharedEntries doc "definitions" → Linked doc .schema v
  parameters : ∀ name v, (name, v) ∈ sharedEntries doc "parameters" → Linked doc .parameter v
  responses : ∀ name v, (name, v) ∈ sharedEntries doc "responses" → Linked doc .response v
  chained : ∀ name v pointer, (name, v) ∈ sharedEntries doc "parameters" →
    v.reference? = some pointer → ∃ text other w, pointer = "#/parameters/" ++ text ∧
      Spells doc "parameters" text other w ∧ isPlain w = true

/-- A pointer leads to an inline entry of the upgraded document. -/
def Found (version : String) (doc : Fields) (_ : Role) (pointer : String) : Prop :=
  ∃ w, Reference.Leads (upgrade version doc) pointer w

/-- The new pointer in the place of a pointer leads to such an entry. -/
def Lands (version : String) (doc : Fields) (role : Role) (pointer : String) : Prop :=
  Found version doc role (retarget pointer)

section Landing

variable {version : String} {doc : Fields} {role : Role} {text name : String} {v w : Json}

/-- A key that is read as itself is recognized. -/
theorem recognized_of_get? (hdoc : (obj doc).WellFormed)
    (hv : (sharedEntries doc "parameters").get? name = some v) : Recognized doc name v := by
  refine ⟨mem_bodies_iff hdoc hv, ?_⟩
  rw [get?_forms hdoc, hv]
  by_cases hform : carrierOf v = some "formData"
  · rw [Option.filter_some_pos (by simpa using hform)]
    simp [hform]
  · rw [Option.filter_some_neg (by simpa using hform)]
    simp [hform]

theorem lands_of_moved (hdoc : (obj doc).WellFormed) (h : Moved doc role name w)
    (hname : name ≠ "x-nullable") (htext : Pointer.segments text = [name])
    (hend : w.reference? = none) {pointer : String}
    (hnew : retarget pointer = Pointer.component role.sectionName text) {other : Role} :
    Lands version doc other pointer := by
  obtain ⟨place, hleads⟩ := h.leads version hdoc hname htext hend
  rw [← hnew] at hleads
  exact ⟨_, hleads⟩

theorem Spells.wellFormed (hdoc : (obj doc).WellFormed) {key : String}
    (h : Spells doc key text name v) : v.WellFormed :=
  (wellFormed_sharedEntries hdoc key).get? (v := .obj (sharedEntries doc key)) h.entry

theorem lands_of_definition (hdoc : (obj doc).WellFormed)
    (h : Spells doc "definitions" text name v) :
    Lands version doc role ("#/definitions/" ++ text) :=
  lands_of_moved hdoc (.definition h.entry) h.ordinary h.read h.inline
    (retarget_append "#/definitions/" List.mem_cons_self text)

theorem lands_of_response (hdoc : (obj doc).WellFormed) (h : Spells doc "responses" text name v) :
    Lands version doc role ("#/responses/" ++ text) :=
  lands_of_moved hdoc (.response h.entry) h.ordinary h.read
    ((reference?_convertResponse (h.wellFormed hdoc)).trans h.inline)
    (retarget_append "#/responses/" (by decide) text)

theorem lands_of_isPlain (hdoc : (obj doc).WellFormed) (h : Spells doc "parameters" text name v)
    (hplain : isPlain v = true) : Lands version doc role ("#/parameters/" ++ text) :=
  lands_of_moved hdoc (.parameter h.entry hplain) h.ordinary h.read
    ((reference?_convertParameter (h.wellFormed hdoc)).trans h.inline)
    (retarget_append "#/parameters/" (by decide) text)

theorem lands_of_body (hdoc : (obj doc).WellFormed) (h : Spells doc "parameters" text name v)
    (hbody : carrierOf v = some "body") :
    Lands version doc role (Pointer.component "requestBodies" text) := by
  have hend : (requestBody (surroundings doc).consumes v).reference? = none := by
    cases v with
    | obj fields => exact reference?_requestBody _ fields
    | _ => rfl
  exact lands_of_moved hdoc (.body h.entry hbody) h.ordinary h.read hend
    (retarget_component "requestBodies" text)

/-- Schemas are moved whatever they are called. -/
theorem lands_of_designates (hdoc : (obj doc).WellFormed) {pointer : String}
    (h : Designates doc .schema pointer) : Lands version doc .schema pointer := by
  cases h with
  | definition hspells => exact lands_of_definition hdoc hspells

end Landing

/-! ### Sorted parameters -/

/-- All references of a body land, whatever an operation consumes. -/
def BodySource.Lands (version : String) (doc : Fields) (source : BodySource) : Prop :=
  ∀ consumes, AllReferences (Legacy.Lands version doc) .body (source.requestBody consumes)

/-- All references in the type of a form field land. -/
def FieldLands (version : String) (doc : Fields) (v : Json) : Prop :=
  ∀ fields, v = .obj fields → AllReferences (Lands version doc) .schema (.obj (inlineSchema fields))

/-- All references of what a list of parameters has been sorted into land. -/
def Sorted.Lands (version : String) (doc : Fields) (s : Sorted) : Prop :=
  s.All (AllReferences (Legacy.Lands version doc) .parameter) (BodySource.Lands version doc)
    (FieldLands version doc)

section Lists

variable {version : String} {doc : Fields} {v w : Json}

theorem allReferences_lands (hdoc : (obj doc).WellFormed)
    (h : AllReferences (Designates doc) .schema w) : AllReferences (Lands version doc) .schema w :=
  h.imp (fun _ => lands_of_designates hdoc) fun _ href => lands_of_designates hdoc (h.self href)

theorem Linked.convertParameter (hdoc : (obj doc).WellFormed) (hwf : v.WellFormed)
    (h : Linked doc .parameter v)
    (hself : ∀ pointer, v.reference? = some pointer → Lands version doc .parameter pointer) :
    AllReferences (Lands version doc) .parameter (convertParameter v) := by
  refine allReferences_convertParameter hwf
    (h.met.imp (fun _ => lands_of_designates hdoc) hself) fun fields hv hnone => ?_
  subst hv
  exact allReferences_lands hdoc (h.declared fields _ rfl (.type (Or.inl hnone)))

theorem Linked.requestBody (hdoc : (obj doc).WellFormed) (h : Linked doc .parameter v)
    (hbody : carrierOf v = some "body") (consumes : List String) :
    AllReferences (Lands version doc) .body (requestBody consumes v) := by
  cases v with
  | obj fields =>
    have hown : isPlain (obj fields) = false := by simp [isPlain, hbody]
    exact allReferences_requestBody consumes fun w hw =>
      allReferences_lands hdoc (h.declared fields w rfl (.body (Or.inr hown) hw))
  | _ => cases hbody

theorem Linked.fieldLands (hdoc : (obj doc).WellFormed) (h : Linked doc .parameter v)
    (hform : carrierOf v = some "formData") : FieldLands version doc v := by
  rintro fields rfl
  have hown : isPlain (obj fields) = false := by simp [isPlain, hform]
  exact allReferences_lands hdoc (h.declared fields _ rfl (.type (Or.inr hown)))

theorem Linked.convertResponse (hdoc : (obj doc).WellFormed) (hwf : v.WellFormed)
    (h : Linked doc .response v) (produces : List String) :
    AllReferences (Lands version doc) .response (convertResponse produces v) := by
  refine allReferences_convertResponse produces hwf
    (h.met.imp (fun _ => lands_of_designates hdoc) fun pointer href => ?_)
    fun fields w hv hnone hw => ?_
  · cases h.met.self href with
    | response hspells => exact lands_of_response hdoc hspells
  · subst hv
    exact allReferences_lands hdoc (h.declared fields w rfl (.answer hnone hw))

/-- A reference in a list names its parameter by the text that the upgrade sees. -/
theorem Linked.designated (h : Linked doc .parameter v) {pointer : String}
    (href : v.reference? = some pointer) : ∃ text name w, pointer = "#/parameters/" ++ text ∧
      sharedName? v = some text ∧ Spells doc "parameters" text name w ∧ Recognized doc text w := by
  cases h.met.self href with
  | parameter hspells hkind =>
    exact ⟨_, _, _, rfl, sharedName?_of_reference href, hspells, hkind⟩

/-- A reference that designates an entry, and does not call itself anything else, is linked. -/
theorem linked_of_reference {role : Role} {pointer : String} (href : v.reference? = some pointer)
    (h : Designates doc role pointer) (hplain : role = .parameter → isPlain v = true) :
    Linked doc role v := by
  refine ⟨allReferences_of_reference href h, fun fields w hv hw => ?_⟩
  subst hv
  cases hw with
  | type hown => simp [href, hplain rfl] at hown
  | body hown _ => simp [href, hplain rfl] at hown
  | answer hnone _ => cases href.symm.trans hnone

theorem all_destination_of_linked (hdoc : (obj doc).WellFormed) (hlinked : LinkedDocument doc)
    (hwf : v.WellFormed) (h : Linked doc .parameter v) :
    (destination (surroundings doc) v).All (AllReferences (Lands version doc) .parameter)
      (BodySource.Lands version doc) (FieldLands version doc) := by
  refine Destination.all_destination ?body ?form ?inlined
  case body =>
    intro text hmem hname consumes
    obtain ⟨pointer, href, _⟩ := Option.bind_eq_some_iff.mp hname
    obtain ⟨text', name, w, _, hname', hspells, hkind⟩ := h.designated href
    cases hname.symm.trans hname'
    exact allReferences_of_reference rfl (lands_of_body hdoc hspells (hkind.body.mp hmem))
  case form =>
    intro name field hfield
    obtain ⟨hmem, hform⟩ := List.mem_filter.mp (Fields.mem_of_get?_eq_some hfield)
    exact (hlinked.parameters name field hmem).fieldLands hdoc (beq_iff_eq.mp hform)
  case inlined =>
    intro hunknown
    by_cases hbody : carrierOf v = some "body"
    · rw [inlined_of_body hbody]
      exact h.requestBody hdoc hbody
    by_cases hform : carrierOf v = some "formData"
    · rw [inlined_of_form hform]
      exact h.fieldLands hdoc hform
    rw [inlined_of_isPlain (isPlain_iff.mpr ⟨hbody, hform⟩)]
    refine h.convertParameter hdoc hwf fun pointer href => ?_
    -- The raw text is no key of a body or a form field, so what it is read as is neither.
    obtain ⟨text, name, w, rfl, hname, hspells, hkind⟩ := h.designated href
    obtain ⟨hbodies, hforms⟩ := hunknown text hname
    refine lands_of_isPlain hdoc hspells (isPlain_iff.mpr ⟨?_, ?_⟩)
    · exact fun hcarrier => hbodies (hkind.body.mpr hcarrier)
    · exact fun hcarrier => hkind.form.mpr hcarrier hforms

theorem lands_sortParameters (hdoc : (obj doc).WellFormed) (hlinked : LinkedDocument doc)
    {fields : Fields} (hwf : (obj fields).WellFormed) (h : ParameterParts (Linked doc) fields) :
    (sortParameters (surroundings doc) (entriesAt fields "parameters")).Lands version doc := by
  refine all_sortParameters fun v hv => all_destination_of_linked hdoc hlinked
    (wellFormed_entriesAt hwf "parameters" v hv) ?_
  rw [entriesAt] at hv
  cases hlist : fields.get? "parameters" with
  | none =>
    rw [hlist] at hv
    cases hv
  | some list =>
    rw [hlist] at hv
    cases list with
    | arr items => exact h items hlist v hv
    | _ => cases hv

end Lists

/-! ### The assembled document -/

section Assembled

variable {version : String} {doc : Fields}

theorem parameterParts_resorted (hdoc : (obj doc).WellFormed) (hlinked : LinkedDocument doc)
    {fields : Fields} (hwf : (obj fields).WellFormed) (h : ParameterParts (Linked doc) fields) :
    ParameterParts (AllReferences (Lands version doc)) (resorted (surroundings doc) fields) := by
  intro items hitems p hp
  rw [resorted, get?_withPlain_self hwf.1] at hitems
  split at hitems
  · cases hitems
  · cases hitems
    exact (lands_sortParameters hdoc hlinked hwf h).plain p hp

theorem operationParts_upgradeOperation (hdoc : (obj doc).WellFormed)
    (hlinked : LinkedDocument doc) {shared : Sorted} (hshared : shared.Lands version doc)
    {op : Fields} (hwf : (obj op).WellFormed) (h : OperationParts (Linked doc) op) :
    OperationParts (AllReferences (Lands version doc))
      (upgradeOperation (surroundings doc) shared op) := by
  refine ⟨?parameters, ?body, ?responses⟩
  case parameters =>
    intro items hitems
    rw [get?_upgradeOperation hwf.1 (by decide)] at hitems
    exact parameterParts_resorted hdoc hlinked hwf h.parameters items hitems
  case body =>
    intro v hv
    rw [get?_requestBody_upgradeOperation hwf.1] at hv
    rcases Option.or_eq_some_iff.mp hv with hmade | ⟨_, hkept⟩
    · exact operationBody?_induction (fun _ hsource => hsource _)
        (fun _ => allReferences_formBody _)
        (lands_sortParameters hdoc hlinked hwf h.parameters) hshared hmade
    · have hmet := (h.body v hkept).met
      exact hmet.imp (fun _ => lands_of_designates hdoc) fun pointer href => by
        cases hmet.self href
  case responses =>
    intro entries hentries key r hr
    rw [get?_responses_upgradeOperation hwf.1, Option.map_eq_some_iff] at hentries
    obtain ⟨v, hv, hconverted⟩ := hentries
    have hvwf : v.WellFormed := hwf.get? (v := .obj op) hv
    cases v with
    | obj old =>
      cases hconverted
      obtain ⟨⟨_, r⟩, hmem, heq⟩ := List.mem_map.mp hr
      cases heq
      exact (h.responses old hv key r hmem).convertResponse hdoc
        (wellFormed_of_mem_fields hvwf.2 hmem) _
    | _ => cases hconverted

theorem pathParts_upgradedItem (hdoc : (obj doc).WellFormed) (hlinked : LinkedDocument doc)
    {item : Fields} (hwf : (obj item).WellFormed) (h : PathParts (Linked doc) item) :
    PathParts (AllReferences (Lands version doc)) (upgradedItem (surroundings doc) item) := by
  refine ⟨fun items hitems => ?_, fun method op hop => ?_⟩
  · rw [get?_parameters_upgradedItem] at hitems
    exact parameterParts_resorted hdoc hlinked hwf h.parameters items hitems
  · have hname : method.name ≠ "parameters" := by
      cases method <;> decide
    rw [get?_upgradedItem, resorted, get?_withPlain_of_ne hwf.1 hname,
      Option.map_eq_some_iff] at hop
    obtain ⟨v, hv, hupgraded⟩ := hop
    rw [if_pos (List.mem_map_of_mem method.mem_all)] at hupgraded
    cases v with
    | obj fields =>
      cases hupgraded
      exact operationParts_upgradeOperation hdoc hlinked
        (lands_sortParameters hdoc hlinked hwf h.parameters) (hwf.get? (v := .obj item) hv)
        (h.operations method fields hv)
    | _ => cases hupgraded

/-- A moved part holds only references that land. -/
theorem allReferences_of_moved (hdoc : (obj doc).WellFormed) (hlinked : LinkedDocument doc)
    {role : Role} {name : String} {w : Json} (h : Moved doc role name w) :
    AllReferences (Lands version doc) role w := by
  have hwf : ∀ {key v}, (sharedEntries doc key).get? name = some v → v.WellFormed :=
    fun hv => (wellFormed_sharedEntries hdoc _).get? (v := .obj (sharedEntries doc _)) hv
  cases h with
  | definition hv =>
    exact allReferences_lands hdoc
      (hlinked.definitions name w (Fields.mem_of_get?_eq_some hv)).met
  | parameter hv hplain =>
    have hmem := Fields.mem_of_get?_eq_some hv
    refine (hlinked.parameters name _ hmem).convertParameter hdoc (hwf hv) fun pointer href => ?_
    obtain ⟨text, other, w, rfl, hspells, hw⟩ := hlinked.chained name _ pointer hmem href
    exact lands_of_isPlain hdoc hspells hw
  | body hv hbody =>
    exact (hlinked.parameters name _ (Fields.mem_of_get?_eq_some hv)).requestBody hdoc hbody _
  | response hv =>
    exact (hlinked.responses name _ (Fields.mem_of_get?_eq_some hv)).convertResponse hdoc (hwf hv) _

/-- All references of a linked document, assembled anew, land. -/
theorem documentParts_assembled (hdoc : (obj doc).WellFormed) (hlinked : LinkedDocument doc) :
    DocumentParts (AllReferences (Lands version doc)) (assembled version doc) := by
  refine ⟨?paths, ?components⟩
  case paths =>
    intro paths hpaths path item hmem href
    rw [get?_assembled_paths hdoc, Option.map_eq_some_iff] at hpaths
    obtain ⟨v, hv, hupgraded⟩ := hpaths
    have hvwf : v.WellFormed := hdoc.get? (v := .obj doc) hv
    cases v with
    | obj old =>
      cases hupgraded
      obtain ⟨⟨_, w⟩, hw, heq⟩ := List.mem_map.mp hmem
      have hwf : w.WellFormed := wellFormed_of_mem_fields hvwf.2 hw
      cases w with
      | obj fields =>
        cases heq
        have hplain : (obj (upgradedItem (surroundings doc) fields)).reference? = none := href
        rw [reference?_upgradedItem hwf.1] at hplain
        exact pathParts_upgradedItem hdoc hlinked hwf
          (hlinked.parts.paths old hv path fields hw hplain)
      | _ => cases heq
    | _ => cases hupgraded
  case components =>
    intro parts hparts role entries hentries name w hw
    rw [get?_assembled_components hdoc hlinked.components] at hparts
    split at hparts
    · cases hparts
    · cases hparts
      exact allReferences_of_moved hdoc hlinked (moved_of_mem_components hdoc hentries hw)

end Assembled

/-! ### The upgraded document -/

/-- **The upgrade keeps the references of a linked document**: in the new document all references
at validated positions can be resolved. -/
theorem resolve_of_linked {version : String} {doc : Fields} (hdoc : (obj doc).WellFormed)
    (hlinked : LinkedDocument doc) {role : Role} {f : Fragment}
    (hf : Validated (upgrade version doc) role f) :
    ∃ w, Reference.resolve (upgrade version doc) f = .ok w := by
  have hparts : DocumentParts (AllReferences (Found version doc))
      (renewed (assembled version doc)) :=
    documentParts_renewed (P := AllReferences (Lands version doc)) allReferences_modernize
      allReferences_of_not_isObj (wellFormed_assembled hdoc) (documentParts_assembled hdoc hlinked)
  have hf' : Validated (.obj (renewed (assembled version doc))) role f := hf
  cases href : f.value.reference? with
  | none => exact ⟨f, Reference.resolve_of_not_reference href⟩
  | some pointer =>
    obtain ⟨w, hleads⟩ := (Validated.allReferences hparts hf').self href
    exact ⟨w, hleads.resolve href⟩

/-- A document with a reference of each kind, and a name that is escaped in its pointer. -/
def catsDocument : Fields := [
  ("swagger", .str "2.0"),
  ("paths", .obj [("/cats", .obj [("get", .obj [
    ("parameters", .arr [.obj [("$ref", .str "#/parameters/limit")]]),
    ("responses", .obj [("200", .obj [("$ref", .str "#/responses/found")])])])])]),
  ("definitions", .obj [("pet/cat", .obj [("type", .str "object")])]),
  ("parameters", .obj [("limit", .obj [("name", .str "limit"), ("in", .str "query"),
    ("type", .str "integer")])]),
  ("responses", .obj [("found", .obj [("description", .str "found"),
    ("schema", .obj [("$ref", .str "#/definitions/pet~1cat")])])])]

theorem wellFormed_catsDocument : (obj catsDocument).WellFormed := by
  simp [catsDocument, WellFormed, FieldsWellFormed, AllWellFormed]

theorem linkedDocument_catsDocument : LinkedDocument catsDocument := by
  have hcat : Spells catsDocument "definitions" "pet~1cat" "pet/cat"
      (.obj [("type", .str "object")]) := ⟨by decide, by decide, rfl, rfl⟩
  have hfound : Spells catsDocument "responses" "found" "found" (.obj [
      ("description", .str "found"), ("schema", .obj [("$ref", .str "#/definitions/pet~1cat")])]) :=
    ⟨by decide, by decide, rfl, rfl⟩
  have hlimit : Spells catsDocument "parameters" "limit" "limit" (.obj [("name", .str "limit"),
      ("in", .str "query"), ("type", .str "integer")]) := ⟨by decide, by decide, rfl, rfl⟩
  have hsingle : ∀ {p : Json → Prop} {key : String} {v : Json}, p v →
      ∀ name w, (name, w) ∈ [(key, v)] → p w := by
    intro p key v hp name w hmem
    cases List.mem_singleton.mp hmem
    exact hp
  refine ⟨⟨?paths, nofun⟩, rfl, ?definitions, ?parameters, ?responses, ?chained⟩
  case paths =>
    intro paths hpaths path item hmem _
    cases hpaths
    cases List.mem_singleton.mp hmem
    refine ⟨nofun, fun method op hop => ?_⟩
    cases method with
    | get =>
      cases hop
      refine ⟨fun items hitems p hp => ?_, nofun, fun entries hentries => ?_⟩
      · cases hitems
        rw [List.mem_singleton.mp hp]
        exact linked_of_reference rfl
          (.parameter hlimit (recognized_of_get? wellFormed_catsDocument hlimit.entry)) fun _ => rfl
      · cases hentries
        exact hsingle (linked_of_reference rfl (.response hfound) nofun)
    | _ => cases hop
  case definitions =>
    refine hsingle ⟨allReferences_of_get?_eq_none rfl ?_, fun fields w _ hw => by cases hw⟩
    decide
  case parameters =>
    refine hsingle ⟨allReferences_of_get?_eq_none rfl (by decide), fun fields w hv hw => ?_⟩
    cases hv
    cases hw with
    | type => exact allReferences_of_get?_eq_none rfl (by decide)
    | body _ hw => cases hw
  case responses =>
    refine hsingle ⟨allReferences_of_get?_eq_none rfl (by decide), fun fields w hv hw => ?_⟩
    cases hv
    cases hw with
    | answer _ hw =>
      cases hw
      exact allReferences_of_reference rfl (.definition hcat)
  case chained =>
    refine fun name v pointer hmem => ?_
    cases List.mem_singleton.mp hmem
    nofun

/-- The schema of the shared response, under its content type, stands for the definition. -/
theorem resolve_of_linked_of_catsDocument :
    (obj catsDocument).WellFormed ∧ LinkedDocument catsDocument ∧ ∃ f,
      Validated (upgrade "3.0.0" catsDocument) .schema f ∧
      f.value = .obj [("$ref", .str "#/components/schemas/pet~1cat")] ∧
      ∃ w, Reference.resolve (upgrade "3.0.0" catsDocument) f = .ok w := by
  have hfound : ∃ place, (Fragment.ofDocument (upgrade "3.0.0" catsDocument)).walk?
      ["components", "responses"] = some ⟨place, .obj [("found", .obj [
        ("description", .str "found"), ("content", .obj [("application/json", .obj [
          ("schema", .obj [("$ref", .str "#/components/schemas/pet~1cat")])])])])]⟩ := ⟨_, rfl⟩
  obtain ⟨place, hentries⟩ := hfound
  have hshared : Validated (upgrade "3.0.0" catsDocument) .response ⟨_, _⟩ :=
    .shared hentries List.mem_cons_self
  have hvalidated : Validated (upgrade "3.0.0" catsDocument) .schema
      ⟨_, .obj [("$ref", .str "#/components/schemas/pet~1cat")]⟩ :=
    .media (by decide) hshared rfl rfl List.mem_cons_self rfl rfl
  exact ⟨wellFormed_catsDocument, linkedDocument_catsDocument, _, hvalidated, rfl,
    resolve_of_linked wellFormed_catsDocument linkedDocument_catsDocument hvalidated⟩

/-- A pointer into a section that is moved leads nowhere if its text stays as it is. -/
theorem dangling_of_unmoved {version : String} {doc : Fields} (hdoc : (obj doc).WellFormed)
    {pointer key : String} {rest : List String} (hkeys : Pointer.keys pointer = key :: rest)
    (hkey : key ∈ consumedKeys) (hkept : retarget pointer = pointer) {v : Json} (hv : v.WellFormed)
    (href : v.reference? = some pointer) (place : Place) :
    Reference.resolve (upgrade version doc) ⟨place, modernize v⟩ =
      .error (.danglingReference pointer) := by
  have hpointer : (modernize v).reference? = some pointer := by
    rw [reference?_modernize hv, href, Option.map_some, hkept]
  have hgone : (upgrade version doc).get? key = none := by
    have hapart : ∀ k ∈ consumedKeys, k ≠ "x-nullable" ∧ k ≠ "nullable" := by decide
    obtain ⟨hold, hnew⟩ := hapart key hkey
    rw [upgrade_eq, get?_modernize (wellFormed_assembled hdoc) hold hnew]
    show (Fields.get? key (assembled version doc)).map _ = none
    rw [get?_assembled_of_mem_consumedKeys hdoc hkey]
    rfl
  have hwalk : (Fragment.ofDocument (upgrade version doc)).walk? (Pointer.keys pointer) = none := by
    have hfield : (Fragment.ofDocument (upgrade version doc)).field? key = none := by
      rw [Fragment.field?, Fragment.ofDocument, hgone]
      rfl
    rw [hkeys, Fragment.walk?]
    exact Option.bind_eq_none_iff.mpr fun _ h => by cases hfield.symm.trans h
  exact Reference.resolve_eq_dangling_iff.mpr ⟨0, _, rfl, hpointer, Or.inr hwalk⟩

/-- Such a pointer is every one that is anchored by a slash. -/
theorem dangling_of_slash {version : String} {doc : Fields} (hdoc : (obj doc).WellFormed)
    {key text : String} (hkey : key ∈ ["definitions", "parameters", "responses"]) {v : Json}
    (hv : v.WellFormed) (href : v.reference? = some ("/" ++ key ++ "/" ++ text)) (place : Place) :
    Reference.resolve (upgrade version doc) ⟨place, modernize v⟩ =
      .error (.danglingReference ("/" ++ key ++ "/" ++ text)) := by
  have hsection : Pointer.keys ("/" ++ key) = [key] := by
    simp only [List.mem_cons, List.not_mem_nil, or_false] at hkey
    rcases hkey with rfl | rfl | rfl <;> rfl
  have hkeys : Pointer.keys ("/" ++ key ++ "/" ++ text) = key :: Pointer.segments text := by
    rw [Pointer.keys_append, hsection]
    rfl
  have hconsumed : ∀ k ∈ ["definitions", "parameters", "responses"], k ∈ consumedKeys := by decide
  have hkept : retarget ("/" ++ key ++ "/" ++ text) = "/" ++ key ++ "/" ++ text := by
    have hchars : ("/" ++ key ++ "/" ++ text).toList = '/' :: (key ++ "/" ++ text).toList := by simp
    rw [retarget, hchars]
    rfl
  exact dangling_of_unmoved hdoc hkeys (hconsumed key hkey) hkept hv href place

end ApiGraph.Legacy
