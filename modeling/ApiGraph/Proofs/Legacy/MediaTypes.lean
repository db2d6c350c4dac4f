import ApiGraph.Pattern.Validity
import ApiGraph.Proofs.Graph.Contents
import ApiGraph.Proofs.Legacy.Components
import ApiGraph.Proofs.Legacy.Operations

/-!
# Content types of the upgraded operations

A body and a response of a legacy operation have no content types of their own: the lists of
the operation count, or those of its document. What is written in the operation, or in its path
item, gets its content types there. What is shared has been converted among the components,
where no operation is known, so the list of the document alone counts for it, whatever the
operation that refers to it declares.
-/

namespace ApiGraph.Legacy

open Outcome Fragment

/-! ### What a legacy operation declares -/

/-- The content types that a document declares in a list. -/
def documentMimes (doc : Fields) (key : String) : List String := (mimeList? doc key).getD []

/-- The content types that count for a part of an operation: its own list, or that of the document,
for a part that is written there, and only that of the document for a part that is referred to. -/
def mimesInForce (doc op : Fields) (key : String) (written : Json) : List String :=
  match written.reference? with
  | none => effective (declaredMimes op key (documentMimes doc key))
  | some _ => effective (documentMimes doc key)

/-- The object that an entry stands for: the entry itself, or the shared one that it names. -/
inductive StandsFor (doc : Fields) (key : String) : Json → Fields → Prop
  | inline {fields : Fields} (hinline : fields.get? "$ref" = none) :
      StandsFor doc key (.obj fields) fields
  | shared {entry : Json} (name : String) {fields : Fields}
      (hreference : entry.reference? = some ("#/" ++ key ++ "/" ++ name))
      (hname : Pointer.IsLiteral name ∧ name ≠ "x-nullable")
      (hshared : (sharedEntries doc key).get? name = some (.obj fields))
      (hinline : fields.get? "$ref" = none) : StandsFor doc key entry fields

/-- The entry that the body of an operation comes from: the last one of its own list that stands for
a body, or else the last one of its path. -/
def writtenBody? (doc item op : Fields) : Option Json :=
  (bodyEntries doc (entriesAt op "parameters")).getLast?.or
    (bodyEntries doc (entriesAt item "parameters")).getLast?

/-- An operation that takes a body and no form. -/
structure TakesBody (doc item op : Fields) (entry : Json) (fields : Fields) : Prop where
  consistentOwn : ∀ v ∈ entriesAt op "parameters", Consistent doc v
  consistentShared : ∀ v ∈ entriesAt item "parameters", Consistent doc v
  noOwnForm : formTargets doc (entriesAt op "parameters") = []
  noSharedForm : formTargets doc (entriesAt item "parameters") = []
  taken : writtenBody? doc item op = some entry
  standsFor : StandsFor doc "parameters" entry fields
  ordinary : "x-nullable" ∉ mimesInForce doc op "consumes" entry

/-- The responses of the graph for an entry of the responses map have the status of its key, and
if the entry stands for a response with a schema, then they have the content types that count for
it. -/
structure Fanned (doc op : Fields) (entry : String × Json) (group : List Response) : Prop where
  status : ∃ status, StatusKey.parse? entry.1 = some status ∧ ∀ r ∈ group, r.status = status
  mimes : ∀ fields, StandsFor doc "responses" entry.2 fields → fields.get? "schema" ≠ none →
    "x-nullable" ∉ mimesInForce doc op "produces" entry.2 →
      group.map (fun r => r.mimeType) = (mimesInForce doc op "produces" entry.2).eraseDups

/-! ### Content types of converted parts -/

section Converted

variable {version : String} {doc item op : Fields}

theorem effective_effective (mimes : List String) :
    effective (effective mimes) = effective mimes := by
  cases mimes <;> rfl

theorem effective_mimesInForce (doc op : Fields) (key : String) (written : Json) :
    effective (mimesInForce doc op key written) = mimesInForce doc op key written := by
  rw [mimesInForce]
  split <;> exact effective_effective _

/-- The content types of an object whose content has been made from a list are those of the list. -/
theorem contentTypes_modernize {v : Json} (hv : v.WellFormed) {mimes : List String}
    {media : String → Json} (hcontent : v.get? "content" = some (contentOf mimes media))
    (hordinary : "x-nullable" ∉ mimes) :
    Declaration.contentTypes (modernize v) = mimes.eraseDups := by
  have hget : (modernize v).get? "content" = some (modernize (contentOf mimes media)) := by
    rw [get?_modernize hv (by decide) (by decide), hcontent]
    rfl
  obtain ⟨content, hmade⟩ : ∃ content, contentOf mimes media = .obj content := ⟨_, rfl⟩
  have hkeys := keys_contentOf hmade
  have hnone : Fields.get? "x-nullable" (modernizeFields content) = none := by
    rw [Fields.get?_eq_none_iff, keys_modernizeFields, hkeys, List.mem_eraseDups]
    exact hordinary
  rw [Declaration.contentTypes, hget, hmade]
  show (promoteNullable (modernizeFields content)).map Prod.fst = _
  rw [promoteNullable_of_none hnone, keys_modernizeFields, hkeys]

theorem StandsFor.get?_ref {key : String} {entry : Json} {fields : Fields}
    (h : StandsFor doc key entry fields) : fields.get? "$ref" = none := by
  cases h with
  | inline hinline => exact hinline
  | shared _ _ _ _ hinline => exact hinline

theorem StandsFor.reference? {key : String} {entry : Json} {fields : Fields}
    (h : StandsFor doc key entry fields) : (Json.obj fields).reference? = none :=
  Fragment.reference?_of_get?_eq_none h.get?_ref

theorem StandsFor.target_eq {entry : Json} {fields : Fields}
    (h : StandsFor doc "parameters" entry fields) : target doc entry = .obj fields := by
  cases h with
  | inline hinline =>
    exact target_of_not_reference (Fragment.reference?_of_get?_eq_none hinline)
  | shared _ hreference _ hshared _ =>
    exact target_of_shared (sharedName?_of_reference hreference) hshared

theorem StandsFor.wellFormed (hdoc : (Json.obj doc).WellFormed) {key : String} {entry : Json}
    {fields : Fields} (h : StandsFor doc key entry fields) (hentry : entry.WellFormed) :
    (Json.obj fields).WellFormed := by
  cases h with
  | inline _ => exact hentry
  | shared _ _ _ hshared _ =>
    exact (wellFormed_sharedEntries hdoc key).get? (v := .obj (sharedEntries doc key)) hshared

/-! ### Bodies -/

/-- The new body of an operation stands for the converted parameter. -/
theorem exists_resolve_body (version : String) (op : Fields) (hdoc : (Json.obj doc).WellFormed)
    {entry : Json} {fields : Fields} (hentry : entry.WellFormed)
    (h : StandsFor doc "parameters" entry fields)
    (hbody : carrierOf (target doc entry) = some "body") {raw : Fragment}
    (hraw : raw.value = modernize ((bodySource doc entry).requestBody
      (declaredMimes op "consumes" (documentMimes doc "consumes")))) :
    ∃ place, Reference.resolve (upgrade version doc) raw = .ok ⟨place,
      modernize (requestBody (mimesInForce doc op "consumes" entry) (.obj fields))⟩ := by
  have hfields := h.wellFormed hdoc hentry
  have heffective : ∀ mimes, requestBody (effective mimes) (.obj fields) =
      requestBody mimes (.obj fields) := by
    intro mimes
    rw [requestBody, requestBody, effective_effective]
  have hnone := h.reference?
  cases h with
  | inline _ =>
    have hsource : bodySource doc (.obj fields) = .inline (.obj fields) := by
      rw [bodySource, sharedName?_of_not_reference hnone]
      rfl
    have hmimes : mimesInForce doc op "consumes" (.obj fields) =
        effective (declaredMimes op "consumes" (documentMimes doc "consumes")) := by
      rw [mimesInForce, hnone]
    rw [hsource] at hraw
    rw [hmimes, heffective]
    refine ⟨raw.place, ?_⟩
    have hend : raw.value.reference? = none := by
      rw [hraw]
      exact (reference?_modernize (wellFormed_requestBody hfields)).trans
        (congrArg (Option.map retarget) (reference?_requestBody _ fields))
    rw [Reference.resolve_of_not_reference hend]
    exact congrArg _ (congrArg (Fragment.mk raw.place) hraw)
  | @shared _ name _ hreference hname hshared _ =>
    have hsharedName : sharedName? entry = some name := sharedName?_of_reference hreference
    have htarget : target doc entry = .obj fields := target_of_shared hsharedName hshared
    rw [htarget] at hbody
    have hsource : bodySource doc entry = .shared name := by
      rw [bodySource, hsharedName, Option.filter_some_pos]
      simpa using (mem_bodies_iff hdoc hshared).mpr hbody
    have hmimes : mimesInForce doc op "consumes" entry =
        effective (documentMimes doc "consumes") := by
      rw [mimesInForce, hreference]
    have href : raw.value.reference? = some (Pointer.component "requestBodies" name) := by
      rw [hraw, hsource]
      exact congrArg some (retarget_component "requestBodies" name)
    obtain ⟨place, hleads⟩ := (Moved.body hshared hbody).leads version hdoc hname.2
      (Pointer.segments_of_isLiteral hname.1) (reference?_requestBody _ fields)
    rw [hmimes, heffective]
    exact ⟨place, hleads.resolve href⟩

/-! ### Responses -/

/-- The new entry of a responses map stands for the converted response. -/
theorem exists_resolve_response (version : String) (hdoc : (Json.obj doc).WellFormed)
    {entry : Json} {fields : Fields} (hentry : entry.WellFormed)
    (h : StandsFor doc "responses" entry fields) {raw : Fragment}
    (hraw : raw.value = modernize (convertResponse
      (effective (declaredMimes op "produces" (documentMimes doc "produces"))) entry)) :
    ∃ place, Reference.resolve (upgrade version doc) raw = .ok ⟨place,
      modernize (convertResponse (mimesInForce doc op "produces" entry) (.obj fields))⟩ := by
  have hfields := h.wellFormed hdoc hentry
  have hraw' : raw.value.reference? = entry.reference?.map retarget := by
    rw [hraw, reference?_modernize (wellFormed_convertResponse hentry),
      reference?_convertResponse hentry]
  have hnone := h.reference?
  cases h with
  | inline _ =>
    have hmimes : mimesInForce doc op "produces" (.obj fields) =
        effective (declaredMimes op "produces" (documentMimes doc "produces")) := by
      rw [mimesInForce, hnone]
    rw [hnone] at hraw'
    rw [hmimes, ← hraw]
    exact ⟨raw.place, Reference.resolve_of_not_reference hraw'⟩
  | @shared _ name _ hreference hname hshared hinline =>
    have hmimes : mimesInForce doc op "produces" entry =
        effective (documentMimes doc "produces") := by
      rw [mimesInForce, hreference]
    have href : raw.value.reference? = some (Pointer.component "responses" name) := by
      rw [hraw', hreference]
      exact congrArg some (retarget_append "#/responses/" (by simp [sections]) name)
    obtain ⟨place, hleads⟩ := (Moved.response hshared).leads version hdoc hname.2
      (Pointer.segments_of_isLiteral hname.1)
      ((reference?_convertResponse hfields).trans hnone)
    rw [convertResponse_of_plain hinline] at hleads
    rw [hmimes, convertResponse_of_plain hinline]
    exact ⟨place, hleads.resolve href⟩

end Converted

/-! ### Operations of the graph -/

section Operations

variable {version : String} {doc item op : Fields} {path : String} {method : Method} {g : Graph}
  {o : Operation} {entry : Json} {fields : Fields}

theorem mem_of_writtenBody? (h : writtenBody? doc item op = some entry) :
    (entry ∈ entriesAt op "parameters" ∨ entry ∈ entriesAt item "parameters") ∧
      carrierOf (target doc entry) = some "body" := by
  have hfrom : ∀ entries, (bodyEntries doc entries).getLast? = some entry →
      entry ∈ entries ∧ carrierOf (target doc entry) = some "body" := by
    intro entries hlast
    obtain ⟨hmem, hbody⟩ := List.mem_filter.mp (List.mem_of_getLast? hlast)
    exact ⟨hmem, by simpa using hbody⟩
  rcases Option.or_eq_some_iff.mp h with hown | ⟨_, hshared⟩
  · exact ⟨Or.inl (hfrom _ hown).1, (hfrom _ hown).2⟩
  · exact ⟨Or.inr (hfrom _ hshared).1, (hfrom _ hshared).2⟩

/-- The new body is the one that the entry makes. -/
theorem TakesBody.get?_requestBody (hdoc : (Json.obj doc).WellFormed)
    (hop : (Json.obj op).WellFormed) (h : TakesBody doc item op entry fields) :
    Fields.get? "requestBody" (upgradeOperation (surroundings doc)
      (sortParameters (surroundings doc) (entriesAt item "parameters")) op) =
        some ((bodySource doc entry).requestBody
          (declaredMimes op "consumes" (documentMimes doc "consumes"))) := by
  have hmade : operationBody? (declaredMimes op "consumes" (surroundings doc).consumes)
      (sortParameters (surroundings doc) (entriesAt op "parameters"))
      (sortParameters (surroundings doc) (entriesAt item "parameters")) =
        (writtenBody? doc item op).map fun v => (bodySource doc v).requestBody
          (declaredMimes op "consumes" (documentMimes doc "consumes")) := by
    rw [sortParameters_eq hdoc h.consistentOwn, sortParameters_eq hdoc h.consistentShared,
      h.noOwnForm, h.noSharedForm, writtenBody?]
    cases (bodyEntries doc (entriesAt op "parameters")).getLast? with
    | some v => rfl
    | none =>
      cases (bodyEntries doc (entriesAt item "parameters")).getLast? <;> rfl
  rw [get?_requestBody_upgradeOperation hop.1, hmade, h.taken]
  rfl

/-- The bodies of an operation are read from what its new body stands for. -/
theorem ReadFrom.exists_body (hdoc : (Json.obj doc).WellFormed)
    (hstands : StandsAt doc path method item op) (hread : ReadFrom version doc item op method g o)
    {made : Json} (hmade : Fields.get? "requestBody" (upgradeOperation (surroundings doc)
      (sortParameters (surroundings doc) (entriesAt item "parameters")) op) = some made) :
    ∃ raw body : Fragment, raw.value = modernize made ∧
      Reference.resolve (upgrade version doc) raw = .ok body ∧
      List.Forall₂ (fun mime (b : Body) => b.mimeType = mime ∧
          b.required = (body.value.boolAt? "required").getD false)
        (Declaration.contentTypes body.value) (g.bodiesOf o) := by
  obtain ⟨_, raw, _, _, _, d, _, hraw, _, _, hoperation, hlists⟩ := hread
  obtain ⟨node, _, _, _, bodies, hnode, _, _, _, _, hbodies, rfl⟩ :=
    Declaration.operation_eq_ok_iff.mp hoperation
  rw [Reference.resolve_of_not_reference (hraw ▸ hstands.reference?_newOperation hdoc)] at hnode
  cases hnode
  have hget : raw.value.get? "requestBody" = some (modernize made) := by
    rw [hraw, newOperation, get?_modernize (hstands.wellFormed_new hdoc).2 (by decide) (by decide),
      Json.get?, hmade, Option.map_some, retargetField_of_ne (by decide)]
  obtain ⟨body, hresolve, hall⟩ :=
    (Declaration.bodies_eq_ok_iff (Fragment.field?_eq_some_iff.mpr ⟨_, hget, rfl⟩)).mp hbodies
  refine ⟨_, body, rfl, hresolve, ?_⟩
  rw [hlists.bodiesOf, List.forall₂_map_right_iff]
  refine hall.imp fun mime d hd => ?_
  obtain ⟨_, _, rfl⟩ := hd
  exact ⟨rfl, rfl⟩

/-- Bodies that a body parameter makes are read from the converted parameter. -/
theorem ReadFrom.bodies_of_parameter (hdoc : (Json.obj doc).WellFormed)
    (hstands : StandsAt doc path method item op) (hread : ReadFrom version doc item op method g o)
    (hentry : entry.WellFormed) (h : StandsFor doc "parameters" entry fields)
    (hbody : carrierOf (target doc entry) = some "body")
    (hmade : Fields.get? "requestBody" (upgradeOperation (surroundings doc)
      (sortParameters (surroundings doc) (entriesAt item "parameters")) op) =
        some ((bodySource doc entry).requestBody
          (declaredMimes op "consumes" (documentMimes doc "consumes")))) :
    List.Forall₂ (fun mime (b : Body) => b.mimeType = mime ∧ b.required = ((modernize (requestBody
        (mimesInForce doc op "consumes" entry) (.obj fields))).boolAt? "required").getD false)
      (Declaration.contentTypes (modernize (requestBody
        (mimesInForce doc op "consumes" entry) (.obj fields)))) (g.bodiesOf o) := by
  obtain ⟨raw, body, hraw, hresolve, hall⟩ := hread.exists_body hdoc hstands hmade
  obtain ⟨place, hconverted⟩ := exists_resolve_body version op hdoc hentry h hbody hraw
  cases hresolve.symm.trans hconverted
  exact hall

/-- The bodies of an operation have the content types that count for the entry they come from. -/
theorem TakesBody.mimes_bodiesOf (hdoc : (Json.obj doc).WellFormed)
    (hstands : StandsAt doc path method item op) (h : TakesBody doc item op entry fields)
    (hread : ReadFrom version doc item op method g o) :
    (g.bodiesOf o).map (fun b => b.mimeType) =
      (mimesInForce doc op "consumes" entry).eraseDups := by
  obtain ⟨hitem, hop⟩ := hstands.wellFormed hdoc
  obtain ⟨hmem, hbody⟩ := mem_of_writtenBody? h.taken
  have hentry : entry.WellFormed := by
    rcases hmem with hmem | hmem
    · exact wellFormed_entriesAt hop "parameters" entry hmem
    · exact wellFormed_entriesAt hitem "parameters" entry hmem
  have hall := hread.bodies_of_parameter hdoc hstands hentry h.standsFor hbody
    (h.get?_requestBody hdoc hop)
  have hfields := h.standsFor.wellFormed hdoc hentry
  have hcontent := get?_content_requestBody (mimesInForce doc op "consumes" entry) fields
  rw [effective_mimesInForce] at hcontent
  rw [contentTypes_modernize (wellFormed_requestBody hfields) hcontent h.ordinary] at hall
  rw [← List.map_id (mimesInForce doc op "consumes" entry).eraseDups]
  exact map_eq_map_iff_forall₂.mpr (hall.flip.imp fun _ _ his => his.1)

/-- The entries of the responses map of a new operation, each with its response converted. -/
theorem values_newResponses (hdoc : (Json.obj doc).WellFormed)
    (hstands : StandsAt doc path method item op) {raw : Fragment}
    (hraw : raw.value = newOperation doc item op) :
    (raw.entriesUnder "responses").map (fun new => (new.1, new.2.value)) =
      promoteNullable (modernizeFields ((sharedEntries op "responses").map fun (key, v) =>
        (key, convertResponse
          (effective (declaredMimes op "produces" (documentMimes doc "produces"))) v))) := by
  have hget : raw.value.get? "responses" = (op.get? "responses").map fun v => modernize
      (convertResponses (declaredMimes op "produces" (documentMimes doc "produces")) v) := by
    rw [hraw, newOperation, get?_modernize (hstands.wellFormed_new hdoc).2 (by decide) (by decide),
      Json.get?, get?_responses_upgradeOperation (hstands.wellFormed hdoc).2.1, Option.map_map]
    congr 1
    funext v
    exact retargetField_of_ne (by decide) _
  rw [map_value_entriesUnder, hget, sharedEntries]
  cases op.get? "responses" with
  | none => rfl
  | some v => cases v <;> rfl

/-- If all keys of the new responses map are read, the map has the entries of the old one in order:
neither is the extension for null among them nor a reference. -/
theorem forall₂_newResponses (hdoc : (Json.obj doc).WellFormed)
    (hstands : StandsAt doc path method item op) {raw : Fragment}
    (hraw : raw.value = newOperation doc item op)
    (hparsed : ∀ new ∈ raw.entriesUnder "responses", StatusKey.parse? new.1 ≠ none) :
    List.Forall₂ (fun new entry => new.1 = entry.1 ∧ new.2.value = modernize (convertResponse
        (effective (declaredMimes op "produces" (documentMimes doc "produces"))) entry.2))
      (raw.entriesUnder "responses") (sharedEntries op "responses") := by
  have hvalues := values_newResponses hdoc hstands hraw
  generalize effective (declaredMimes op "produces" (documentMimes doc "produces")) = mimes
    at hvalues ⊢
  have hkeys : ∀ {key}, key ∈ (promoteNullable (modernizeFields
      ((sharedEntries op "responses").map fun entry =>
        (entry.1, convertResponse mimes entry.2)))).map Prod.fst →
          StatusKey.parse? key ≠ none := by
    intro key hkey
    rw [← hvalues, List.map_map] at hkey
    obtain ⟨new, hnew, rfl⟩ := List.mem_map.mp hkey
    exact hparsed new hnew
  have hnone : Fields.get? "x-nullable" (modernizeFields
      ((sharedEntries op "responses").map fun entry =>
        (entry.1, convertResponse mimes entry.2))) = none := by
    rw [Fields.get?_eq_none_iff]
    exact fun hmem => hkeys (nullable_mem_keys_promoteNullable hmem) rfl
  rw [promoteNullable_of_none hnone] at hvalues hkeys
  rw [modernizeFields_eq_map, List.map_map] at hvalues hkeys
  refine forall₂_mono (map_eq_map_iff_forall₂.mp hvalues) fun new hnew entry heq => ?_
  obtain ⟨hkey, hvalue⟩ := Prod.mk.inj heq
  refine ⟨hkey, hvalue.trans (retargetField_of_ne ?_ _)⟩
  rintro href
  exact hparsed new hnew (by rw [hkey, href]; rfl)

/-- Each entry of the responses map is fanned out over the content types that count for it. -/
theorem ReadFrom.exists_fanned (hdoc : (Json.obj doc).WellFormed)
    (hstands : StandsAt doc path method item op)
    (hread : ReadFrom version doc item op method g o) :
    ∃ groups, List.Forall₂ (Fanned doc op) (sharedEntries op "responses") groups ∧
      g.responsesOf o = groups.flatten := by
  obtain ⟨_, raw, _, _, _, d, _, hraw, hplaced, _, hoperation, hlists⟩ := hread
  obtain ⟨node, _, _, responses, _, hnode, _, _, _, hresponses, _, rfl⟩ :=
    Declaration.operation_eq_ok_iff.mp hoperation
  rw [Reference.resolve_of_not_reference (hraw ▸ hstands.reference?_newOperation hdoc)] at hnode
  cases hnode
  obtain ⟨groups, hgroups, hflat⟩ := Graph.exists_areResponses o (wellFormed_upgrade hdoc) hplaced
    hresponses
  have hparsed : ∀ new ∈ raw.entriesUnder "responses", StatusKey.parse? new.1 ≠ none := by
    intro new hnew
    obtain ⟨_, _, status, _, hstatus, _⟩ := exists_of_forall₂_mem hgroups hnew
    simp [hstatus]
  have hop := (hstands.wellFormed hdoc).2
  have hentries := forall₂_mono (forall₂_newResponses hdoc hstands hraw hparsed).flip
    fun entry hentry new hnew => And.intro
      ((Json.wellFormed_obj_iff.mp (wellFormed_sharedEntries hop "responses")).2 entry hentry) hnew
  refine ⟨groups, forall₂_comp hentries.flip ?_ hgroups, hlists.responsesOf.trans hflat⟩
  rintro new entry group ⟨hentry, hkey, hvalue⟩ ⟨status, response, hstatus, hresolve, hall⟩
  constructor
  · refine ⟨status, hkey ▸ hstatus, fun r hr => ?_⟩
    obtain ⟨_, _, his⟩ := exists_of_forall₂_mem hall.flip hr
    exact his.status
  · intro fields hstandsFor hschema hordinary
    obtain ⟨place, hconverted⟩ :=
      exists_resolve_response version hdoc hentry hstandsFor hvalue
    cases hresolve.symm.trans hconverted
    have hfields := hstandsFor.wellFormed hdoc hentry
    obtain ⟨schema, hschema⟩ := Option.ne_none_iff_exists'.mp hschema
    have hcontent : (convertResponse (mimesInForce doc op "produces" entry.2) (.obj fields)).get?
        "content" = some (contentOf (mimesInForce doc op "produces" entry.2)
          (responseMedia schema (fields.get? "examples"))) := by
      rw [convertResponse_of_plain hstandsFor.get?_ref, Json.get?,
        get?_content_liftContent hfields.1, hschema]
    rw [contentTypes_modernize (wellFormed_convertResponse hfields) hcontent hordinary] at hall
    rw [← List.map_id (mimesInForce doc op "produces" entry.2).eraseDups]
    exact map_eq_map_iff_forall₂.mpr (hall.flip.imp fun _ _ his => his.mime)

/-- **Content types of a loaded operation.**  Take a legacy document that loads, and an operation that
stands in it under a path that is not named like the extension for null and takes a body and no
form.  The graph has the path and, in it, the operation.  Its bodies have the content types of the
list of the operation, else those of the list of the document, else JSON, each once; but if the
body is a shared one, the list of the operation does not count.  It is the same with each
response that has a schema. -/
theorem mimes_of_upgraded [Pattern.Checker] {options : NormalizeOptions}
    (hdoc : (Json.obj doc).WellFormed)
    (hversion : declaredVersion doc = .ok .legacy) (hload : Graph.load options (.obj doc) = .ok g)
    (hpath : path ≠ "x-nullable") (hstands : StandsAt doc path method item op)
    (h : TakesBody doc item op entry fields) :
    (∃ r ∈ g.routes, r.path = path) ∧ ∀ r ∈ g.routes, r.path = path →
      ∃ o, g.operationFor? r method = some o ∧
        (g.bodiesOf o).map (fun b => b.mimeType) =
          (mimesInForce doc op "consumes" entry).eraseDups ∧
        ∃ groups, List.Forall₂ (Fanned doc op) (sharedEntries op "responses") groups ∧
          g.responsesOf o = groups.flatten := by
  obtain ⟨hex, hall⟩ := hstands.operationFor? hdoc hversion hload hpath
  refine ⟨hex, fun r hr hrpath => ?_⟩
  obtain ⟨o, ho, hread⟩ := hall r hr hrpath
  exact ⟨o, ho, h.mimes_bodiesOf hdoc hstands hread, hread.exists_fanned hdoc hstands⟩

end Operations

/-- An operation with lists of its own, which takes a shared body. One of its responses is written
in it, the other one is shared. -/
def postNote : Fields :=
  [("consumes", .arr [.str "application/xml"]),
   ("produces", .arr [.str "text/html", .str "text/plain", .str "text/html"]),
   ("parameters", .arr [.obj [("$ref", .str "#/parameters/note")]]),
   ("responses", .obj [("200", .obj [("description", .str "kept"), ("schema", .obj [])]),
     ("404", .obj [("$ref", .str "#/responses/lost")])])]

def notesDocument : Fields :=
  [("swagger", .str "2.0"),
   ("info", .obj [("title", .str "notes"), ("version", .str "1")]),
   ("parameters", .obj [("note",
     .obj [("name", .str "note"), ("in", .str "body"), ("schema", .obj [])])]),
   ("responses", .obj [("lost", .obj [("description", .str "lost"), ("schema", .obj [])])]),
   ("paths", .obj [("/notes", .obj [("post", .obj postNote)])])]

theorem exists_load_notesDocument : ∃ g, Graph.load {} (.obj notesDocument) = .ok g := by
  have hassembled : assembled "3.0.0" notesDocument =
      [("openapi", .str "3.0.0"),
       ("paths", .obj [("/notes", .obj [("post", .obj [
         ("responses", .obj [
           ("200", .obj [("description", .str "kept"), ("content", .obj [
             ("text/html", .obj [("schema", .obj [])]),
             ("text/plain", .obj [("schema", .obj [])])])]),
           ("404", .obj [("$ref", .str "#/responses/lost")])]),
         ("requestBody", .obj [("$ref", .str "#/components/requestBodies/note")])])])]),
       ("info", .obj [("title", .str "notes"), ("version", .str "1")]),
       ("components", .obj [
         ("requestBodies", .obj [("note", .obj [("content", .obj [
           ("application/json", .obj [("schema", .obj [])])])])]),
         ("responses", .obj [("lost", .obj [("description", .str "lost"), ("content", .obj [
           ("application/json", .obj [("schema", .obj [])])])])])])] := rfl
  refine ⟨?g, (load_eq_ok_iff rfl).mpr ⟨rfl, ?valid, ?built⟩⟩
  case valid =>
    show Validation.validate (upgrade "3.0.0" notesDocument) = .ok ()
    rw [upgrade_eq, hassembled]
    cbv
  case built =>
    show Graph.ofDocument (upgrade "3.0.0" notesDocument) = _
    rw [upgrade_eq, hassembled]
    cbv
    rfl

/-- The list of the operation counts for the response that is written in it, and neither for the
shared response nor for the shared body. -/
theorem mimes_of_upgraded_of_notesDocument :
    mimeList? postNote "consumes" = some ["application/xml"] ∧
    ∃ g, Graph.load {} (.obj notesDocument) = .ok g ∧ ∃ r ∈ g.routes, r.path = "/notes" ∧
      ∃ o, g.operationFor? r .post = some o ∧
        (g.bodiesOf o).map (fun b => b.mimeType) = ["application/json"] ∧
        (g.responsesOf o).map (fun r => (r.status, r.mimeType)) =
          [(.code 200, "text/html"), (.code 200, "text/plain"), (.code 404, "application/json")] := by
  obtain ⟨g, hload⟩ := exists_load_notesDocument
  have hdoc : (Json.obj notesDocument).WellFormed := by
    simp [notesDocument, postNote, Json.WellFormed, Json.FieldsWellFormed,
      Json.AllWellFormed]
  have hstands : StandsAt notesDocument "/notes" .post [("post", .obj postNote)] postNote :=
    ⟨⟨_, rfl, rfl⟩, rfl, rfl, rfl⟩
  have hbody : TakesBody notesDocument [("post", .obj postNote)] postNote
      (.obj [("$ref", .str "#/parameters/note")])
      [("name", .str "note"), ("in", .str "body"), ("schema", .obj [])] := {
    consistentOwn := by
      intro v hv hplain
      cases List.mem_singleton.mp hv
      cases hplain
    consistentShared := by
      intro v hv
      cases hv
    noOwnForm := rfl
    noSharedForm := rfl
    taken := rfl
    standsFor := .shared "note" rfl ⟨by simp [Pointer.IsLiteral], by decide⟩ rfl rfl
    ordinary := by decide }
  obtain ⟨⟨r, hr, hrpath⟩, hall⟩ :=
    mimes_of_upgraded hdoc rfl hload (by decide) hstands hbody
  obtain ⟨o, ho, hbodies, groups, hgroups, hflat⟩ := hall r hr hrpath
  refine ⟨rfl, g, hload, r, hr, hrpath, o, ho, hbodies.trans rfl, ?_⟩
  have hentries : sharedEntries postNote "responses" =
      [("200", .obj [("description", .str "kept"), ("schema", .obj [])]),
       ("404", .obj [("$ref", .str "#/responses/lost")])] := rfl
  rw [hentries] at hgroups
  obtain ⟨kept, _, hkept, hrest, rfl⟩ := List.forall₂_cons_left_iff.mp hgroups
  obtain ⟨lost, _, hlost, hnone, rfl⟩ := List.forall₂_cons_left_iff.mp hrest
  cases hnone
  have hkeptMimes := hkept.mimes _ (.inline rfl) (by decide) (by decide)
  have hlostMimes := hlost.mimes _ (.shared "lost" rfl
    ⟨by simp [Pointer.IsLiteral], by decide⟩ rfl rfl) (by decide) (by decide)
  obtain ⟨status, hstatus, hkeptStatus⟩ := hkept.status
  obtain ⟨status', hstatus', hlostStatus⟩ := hlost.status
  cases hstatus
  cases hstatus'
  have hpairs : ∀ {group : List Response} {status : StatusKey}, (∀ r ∈ group, r.status = status) →
      group.map (fun r => (r.status, r.mimeType)) =
        (group.map fun r => r.mimeType).map fun mime => (status, mime) := by
    intro group status h
    rw [List.map_map]
    exact List.map_congr_left fun r hr => Prod.ext (h r hr) rfl
  rw [hflat, List.flatten_cons, List.flatten_cons, List.flatten_nil, List.append_nil,
    List.map_append, hpairs hkeptStatus, hpairs hlostStatus, hkeptMimes, hlostMimes]
  rfl

end ApiGraph.Legacy
