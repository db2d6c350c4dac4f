import ApiGraph.Proofs.Legacy.WellFormed
import ApiGraph.Proofs.Reference.Pointer
import ApiGraph.Proofs.Validation.Acceptance

/-!
# Validity under rewriting

Rewriting the legacy keywords keeps a valid document valid. A local pointer is replaced by a
local pointer; the flag that moves is no keyword that validation looks at; and where names
are free, as those of properties, paths and content types, an entry that takes another name
is checked as before.

The same order of proof as for validity itself: schemas by induction on their size, the
other roles from the inside out.
-/

namespace ApiGraph.Legacy

open Validation

/-- The fields of a rewritten object. -/
def renewed (fields : Fields) : Fields := promoteNullable (modernizeFields fields)

theorem get?_renewed {fields : Fields} (hwf : (Json.obj fields).WellFormed) {key : String}
    (hold : key ≠ "x-nullable") (hnew : key ≠ "nullable") (href : key ≠ "$ref") :
    (renewed fields).get? key = (fields.get? key).map modernize := by
  rw [renewed, get?_promoteNullable (nodup_modernizeFields hwf.1) hold hnew, get?_modernizeFields]
  congr 1
  funext v
  exact retargetField_of_ne href _

/-- What stands under an ordinary key of a rewritten object is a rewritten value of the object. -/
theorem exists_of_get?_renewed {fields : Fields} (hwf : (Json.obj fields).WellFormed) {key : String}
    {w : Json} (hkey : key ∉ ["x-nullable", "nullable", "$ref"])
    (hw : (renewed fields).get? key = some w) :
    ∃ v, fields.get? key = some v ∧ v.WellFormed ∧ w = modernize v := by
  simp only [List.mem_cons, List.not_mem_nil, or_false, not_or] at hkey
  rw [get?_renewed hwf hkey.1 hkey.2.1 hkey.2.2, Option.map_eq_some_iff] at hw
  obtain ⟨v, hv, rfl⟩ := hw
  exact ⟨v, hv, hwf.get? (v := .obj fields) hv, rfl⟩

theorem renewed_ne_nil {fields : Fields} (h : fields ≠ []) : renewed fields ≠ [] := by
  by_cases hflag : "x-nullable" ∈ (modernizeFields fields).map Prod.fst
  · intro hnil
    have hkey := nullable_mem_keys_promoteNullable hflag
    rw [← renewed, hnil] at hkey
    cases hkey
  · rw [renewed, promoteNullable_of_none (Fields.get?_eq_none_iff.mpr hflag),
      modernizeFields_eq_map]
    exact mt List.map_eq_nil_iff.mp h

theorem name_not_mem (method : Method) : method.name ∉ ["x-nullable", "nullable", "$ref"] := by
  cases method <;> decide

theorem sectionName_not_mem (role : Role) :
    role.sectionName ∉ ["x-nullable", "nullable", "$ref"] := by
  cases role <;> decide

theorem get?_ref_renewed {fields : Fields} (hwf : (Json.obj fields).WellFormed) :
    (renewed fields).get? "$ref" =
      (fields.get? "$ref").map fun v => retargetField "$ref" (modernize v) := by
  rw [renewed, get?_promoteNullable (nodup_modernizeFields hwf.1) (by decide) (by decide),
    get?_modernizeFields]

/-- A field of a rewritten object is a rewritten field, under its own key unless that is the
extension. -/
theorem mem_renewed {fields : Fields} {key : String} {w : Json} (h : (key, w) ∈ renewed fields) :
    ∃ k v, (k, v) ∈ fields ∧ w = retargetField k (modernize v) ∧ (k = key ∨ k = "x-nullable") := by
  have hfield : ∀ {k : String} {u : Json}, (k, u) ∈ modernizeFields fields →
      ∃ v, (k, v) ∈ fields ∧ u = retargetField k (modernize v) := by
    intro k u hmem
    rw [modernizeFields_eq_map, List.mem_map] at hmem
    obtain ⟨⟨k', v⟩, hv, heq⟩ := hmem
    cases heq
    exact ⟨v, hv, rfl⟩
  rw [renewed, promoteNullable] at h
  split at h
  · obtain ⟨v, hv, rfl⟩ := hfield h
    exact ⟨key, v, hv, rfl, Or.inl rfl⟩
  · next flag hflag =>
    have hmoved : (key, w) ∈ Fields.erase "x-nullable" (modernizeFields fields) ∨ w = flag := by
      rw [Fields.insertNew] at h
      split at h
      · exact Or.inl h
      · rcases List.mem_append.mp h with h | h
        · exact Or.inl h
        · cases List.mem_singleton.mp h
          exact Or.inr rfl
    rcases hmoved with hkept | rfl
    · obtain ⟨v, hv, rfl⟩ := hfield (Fields.mem_of_mem_erase hkept)
      exact ⟨key, v, hv, rfl, Or.inl rfl⟩
    · obtain ⟨v, hv, hw⟩ := hfield (Fields.mem_of_get?_eq_some hflag)
      exact ⟨"x-nullable", v, hv, hw, Or.inr rfl⟩

/-- The entries of a rewritten map of objects are rewritten entries. -/
theorem forall_renewed {p q : Json → Prop} {fields : Fields}
    (hwf : (Json.obj fields).WellFormed) (h : ∀ key v, (key, v) ∈ fields → p v)
    (hobj : ∀ v, p v → v.isObj = true) (hpq : ∀ v, v.WellFormed → p v → q (modernize v)) :
    ∀ key w, (key, w) ∈ renewed fields → q w := by
  intro key w hmem
  obtain ⟨k, v, hv, rfl, _⟩ := mem_renewed hmem
  have hp := h k v hv
  have hkept : (modernize v).isObj = true := (isObj_modernize v).trans (hobj v hp)
  rw [retargetField_of_isObj hkept]
  exact hpq v (Json.wellFormed_of_mem_fields hwf.2 hv) hp

theorem isLocal_retarget {pointer : String} (h : Pointer.isLocal pointer = true) :
    Pointer.isLocal (retarget pointer) = true := by
  have hlocal : ∀ moved ∈ sections, Pointer.isLocal moved.2 = true := by decide
  rw [retarget]
  cases hfind : sections.findSome? fun moved =>
      (Text.after? moved.1.toList pointer.toList).map fun rest => moved.2 ++ String.ofList rest with
  | none => exact h
  | some target =>
    obtain ⟨⟨old, new⟩, hmem, hafter⟩ := List.exists_of_findSome?_eq_some hfind
    obtain ⟨rest, _, rfl⟩ := Option.map_eq_some_iff.mp hafter
    exact Pointer.isLocal_append (hlocal _ hmem) _

theorem referenceOr_modernize {p q : Fields → Prop} {v : Json} (hwf : v.WellFormed)
    (h : ReferenceOr p v) (hpq : ∀ fields, (Json.obj fields).WellFormed →
      Fields.get? "$ref" fields = none → p fields → q (renewed fields)) :
    ReferenceOr q (modernize v) := by
  obtain ⟨fields, rfl, ⟨pointer, href, hlocal⟩ | ⟨href, hfields⟩⟩ := h
  · refine ⟨renewed fields, rfl, Or.inl ⟨retarget pointer, ?_, isLocal_retarget hlocal⟩⟩
    rw [get?_ref_renewed hwf, href]
    rfl
  · refine ⟨renewed fields, rfl, Or.inr ⟨?_, hpq fields hwf href hfields⟩⟩
    rw [get?_ref_renewed hwf, href]
    rfl

/-! ### Schemas -/

section Schemas

variable {fields : Fields}

/-- What a test finds nothing wrong with it finds nothing wrong with when it has been rewritten. -/
theorem forall_complaint_renewed (hwf : (Json.obj fields).WellFormed) {key : String}
    (hold : key ≠ "x-nullable") (hnew : key ≠ "nullable") (href : key ≠ "$ref")
    {complaint : Json → Option Complaint}
    (hkeeps : ∀ v, complaint v = none → complaint (modernize v) = none)
    (h : ∀ v, fields.get? key = some v → complaint v = none) :
    ∀ v, (renewed fields).get? key = some v → complaint v = none := by
  intro w hw
  rw [get?_renewed hwf hold hnew href, Option.map_eq_some_iff] at hw
  obtain ⟨v, hv, rfl⟩ := hw
  exact hkeeps v (h v hv)

theorem requiredComplaint_modernize {v : Json} (h : requiredComplaint v = none) :
    requiredComplaint (modernize v) = none := by
  cases v with
  | arr items =>
    have hstr : ∀ items : List Json,
        (modernizeItems items).all Json.isStr = items.all Json.isStr := by
      intro items
      rw [modernizeItems_eq_map, List.all_map]
      congr 1
      funext w
      exact congrArg Option.isSome (str?_modernize w)
    rw [requiredComplaint] at h
    rw [modernize, requiredComplaint, hstr]
    exact h
  | _ => exact h

theorem inOrder_renewed [Pattern.Checker] (hwf : (Json.obj fields).WellFormed)
    (h : InOrder fields) : InOrder (renewed fields) := by
  refine ⟨?type, ?required, ?enum, ?multiple, ?counts, ?pattern⟩
  case type =>
    refine forall_complaint_renewed hwf (by decide) (by decide) (by decide) ?_ h.type
    exact fun v hv => by cases v <;> first | exact hv | cases hv
  case required =>
    exact forall_complaint_renewed hwf (by decide) (by decide) (by decide)
      (fun _ => requiredComplaint_modernize) h.required
  case enum =>
    refine forall_complaint_renewed hwf (by decide) (by decide) (by decide) ?_ h.enum
    intro v hv
    cases v with
    | arr items => cases items <;> first | rfl | exact hv
    | _ => exact hv
  case multiple =>
    refine forall_complaint_renewed hwf (by decide) (by decide) (by decide) ?_ h.multiple
    exact fun v hv => by cases v <;> exact hv
  case counts =>
    intro key hk
    have hapart : ∀ k ∈ countKeywords, k ≠ "x-nullable" ∧ k ≠ "nullable" ∧ k ≠ "$ref" := by decide
    obtain ⟨hold, hnew, href⟩ := hapart key hk
    refine forall_complaint_renewed hwf hold hnew href ?_ (h.counts key hk)
    exact fun v hv => by cases v <;> exact hv
  case pattern =>
    refine forall_complaint_renewed hwf (by decide) (by decide) (by decide) ?_ h.pattern
    exact fun v hv => by cases v <;> exact hv

theorem holdsSchemas_renewed {p q : Json → Prop} (hwf : (Json.obj fields).WellFormed)
    (h : HoldsSchemas p fields) (hobj : ∀ v, p v → v.isObj = true)
    (hpq : ∀ v, v.WellFormed → p v → q (modernize v)) : HoldsSchemas q (renewed fields) := by
  refine ⟨?members, ?single, ?additional, ?properties⟩
  case members =>
    intro key hk w hw
    have hapart : ∀ k ∈ ["allOf", "oneOf", "anyOf"], k ∉ ["x-nullable", "nullable", "$ref"] := by
      decide
    obtain ⟨v, hv, hvwf, rfl⟩ := exists_of_get?_renewed hwf (hapart key hk) hw
    obtain ⟨items, rfl, hitems⟩ := h.members key hk v hv
    refine ⟨modernizeItems items, rfl, fun w hw => ?_⟩
    rw [modernizeItems_eq_map, List.mem_map] at hw
    obtain ⟨u, hu, rfl⟩ := hw
    exact hpq u (Json.wellFormed_of_mem_items hvwf hu) (hitems u hu)
  case single =>
    intro key hk w hw
    have hapart : ∀ k ∈ ["not", "items"], k ∉ ["x-nullable", "nullable", "$ref"] := by decide
    obtain ⟨v, hv, hvwf, rfl⟩ := exists_of_get?_renewed hwf (hapart key hk) hw
    exact hpq v hvwf (h.single key hk v hv)
  case additional =>
    intro entries hentries
    obtain ⟨v, hv, hvwf, hmodern⟩ := exists_of_get?_renewed hwf (by decide) hentries
    cases v with
    | obj old =>
      rw [hmodern]
      exact hpq _ hvwf (h.additional old hv)
    | _ => cases hmodern
  case properties =>
    intro w hw
    obtain ⟨v, hv, hvwf, rfl⟩ := exists_of_get?_renewed hwf (by decide) hw
    obtain ⟨entries, rfl, hentries⟩ := h.properties v hv
    exact ⟨renewed entries, rfl, forall_renewed hvwf hentries hobj hpq⟩

theorem accepted_schema_modernize [Pattern.Checker] {v : Json} (hwf : v.WellFormed)
    (h : Accepted .schema v) : Accepted .schema (modernize v) := by
  refine accepted_iff.mpr (referenceOr_modernize (p := fun fields => v = .obj fields ∧
    InOrder fields ∧ HoldsSchemas (Accepted .schema) fields) hwf ?_ ?_)
  · obtain ⟨fields, rfl, hlocal | ⟨href, hfields⟩⟩ := accepted_iff.mp h
    · exact ⟨fields, rfl, Or.inl hlocal⟩
    · exact ⟨fields, rfl, Or.inr ⟨href, rfl, hfields⟩⟩
  · rintro fields hwf' _ ⟨hv, hinOrder, hholds⟩
    refine ⟨inOrder_renewed hwf' hinOrder, ?_⟩
    exact holdsSchemas_renewed hwf' hholds.below (fun w hw => hw.1.isObj) fun w hwwf hw =>
      accepted_schema_modernize hwwf hw.1
termination_by sizeOf v
decreasing_by
  rw [hv]
  exact hw.2

end Schemas

/-! ### Parameters, bodies and responses -/

section Roles

variable [Pattern.Checker] {fields : Fields}

omit [Pattern.Checker] in
theorem exists_str_renewed (hwf : (Json.obj fields).WellFormed) {key : String}
    (hold : key ≠ "x-nullable") (hnew : key ≠ "nullable") (href : key ≠ "$ref")
    (h : ∃ s, fields.get? key = some (.str s)) :
    ∃ s, (renewed fields).get? key = some (.str s) := by
  obtain ⟨s, hs⟩ := h
  refine ⟨s, ?_⟩
  rw [get?_renewed hwf hold hnew href, hs]
  rfl

theorem holdsContent_renewed (hwf : (Json.obj fields).WellFormed) (h : HoldsContent fields) :
    HoldsContent (renewed fields) := by
  intro w hw
  obtain ⟨v, hv, hcontent, rfl⟩ := exists_of_get?_renewed hwf (by decide) hw
  obtain ⟨content, rfl, hmedia⟩ := h v hv
  refine ⟨renewed content, rfl, ?_⟩
  refine forall_renewed (p := fun media => ∃ entries, media = .obj entries ∧
    ∀ schema, Fields.get? "schema" entries = some schema → schema.isObj = true →
      Accepted .schema schema) hcontent hmedia ?_ ?_
  · rintro media ⟨entries, rfl, _⟩
    rfl
  · rintro media hmediawf ⟨entries, rfl, hschema⟩
    refine ⟨renewed entries, rfl, fun schema hget hobj => ?_⟩
    obtain ⟨old, hold, holdwf, rfl⟩ := exists_of_get?_renewed hmediawf (by decide) hget
    rw [isObj_modernize] at hobj
    exact accepted_schema_modernize holdwf (hschema old hold hobj)

theorem parameterInOrder_renewed (hwf : (Json.obj fields).WellFormed)
    (h : ParameterInOrder fields) : ParameterInOrder (renewed fields) := by
  refine ⟨?name, ?carrier, ?schema, ?content⟩
  case name => exact exists_str_renewed hwf (by decide) (by decide) (by decide) h.name
  case carrier =>
    obtain ⟨c, hc, hpath⟩ := h.carrier
    refine ⟨c, ?_, fun hcarrier => ?_⟩
    · rw [get?_renewed hwf (by decide) (by decide) (by decide), hc]
      rfl
    · rw [get?_renewed hwf (by decide) (by decide) (by decide), hpath hcarrier]
      rfl
  case schema =>
    intro w hw
    obtain ⟨v, hv, hvwf, rfl⟩ := exists_of_get?_renewed hwf (by decide) hw
    exact accepted_schema_modernize hvwf (h.schema v hv)
  case content => exact holdsContent_renewed hwf h.content

/-- What is accepted in a role is accepted in it when it has been rewritten. -/
theorem accepted_modernize {role : Role} {v : Json} (hwf : v.WellFormed) (h : Accepted role v) :
    Accepted role (modernize v) := by
  cases role with
  | schema => exact accepted_schema_modernize hwf h
  | parameter =>
    exact accepted_iff.mpr (referenceOr_modernize hwf (accepted_iff.mp h) fun fields hfields _ =>
      parameterInOrder_renewed hfields)
  | response =>
    refine accepted_iff.mpr
      (referenceOr_modernize hwf (accepted_iff.mp h) fun fields hfields _ => ?_)
    rintro ⟨hdescription, hcontent⟩
    exact ⟨exists_str_renewed hfields (by decide) (by decide) (by decide) hdescription,
      holdsContent_renewed hfields hcontent⟩
  | body =>
    refine accepted_iff.mpr
      (referenceOr_modernize hwf (accepted_iff.mp h) fun fields hfields _ => ?_)
    rintro ⟨⟨content, hget⟩, hcontent⟩
    refine ⟨⟨renewed content, ?_⟩, holdsContent_renewed hfields hcontent⟩
    rw [get?_renewed hfields (by decide) (by decide) (by decide), hget]
    rfl

/-! ### Operations, paths and documents -/

theorem parametersInOrder_renewed (hwf : (Json.obj fields).WellFormed)
    (h : ParametersInOrder fields) : ParametersInOrder (renewed fields) := by
  intro w hw
  obtain ⟨v, hv, hlist, rfl⟩ := exists_of_get?_renewed hwf (by decide) hw
  obtain ⟨items, rfl, hitems⟩ := h v hv
  refine ⟨modernizeItems items, rfl, fun p hp => ?_⟩
  rw [modernizeItems_eq_map, List.mem_map] at hp
  obtain ⟨q, hq, rfl⟩ := hp
  exact accepted_modernize (Json.wellFormed_of_mem_items hlist hq) (hitems q hq)

theorem responsesInOrder_renewed (hwf : (Json.obj fields).WellFormed)
    (h : ResponsesInOrder fields) : ResponsesInOrder (renewed fields) := by
  obtain ⟨entries, hentries, hall⟩ := h
  have hmap : (Json.obj entries).WellFormed := hwf.get? (v := .obj fields) hentries
  refine ⟨renewed entries, ?_, fun key r hmem => ?_⟩
  · rw [get?_renewed hwf (by decide) (by decide) (by decide), hentries]
    rfl
  · obtain ⟨k, v, hv, rfl, hkey⟩ := mem_renewed hmem
    obtain ⟨hparse, haccepted⟩ := hall k v hv
    have hobj : (modernize v).isObj = true := (isObj_modernize v).trans haccepted.isObj
    rw [retargetField_of_isObj hobj]
    refine ⟨?_, accepted_modernize (Json.wellFormed_of_mem_fields hmap.2 hv) haccepted⟩
    rcases hkey with rfl | rfl
    · exact hparse
    · exact absurd hparse (by decide)

theorem operationInOrder_renewed (hwf : (Json.obj fields).WellFormed)
    (h : OperationInOrder fields) : OperationInOrder (renewed fields) := by
  refine ⟨parametersInOrder_renewed hwf h.parameters, ?_, responsesInOrder_renewed hwf h.responses⟩
  intro w hw
  obtain ⟨v, hv, hvwf, rfl⟩ := exists_of_get?_renewed hwf (by decide) hw
  exact accepted_modernize hvwf (h.body v hv)

theorem pathInOrder_renewed (hwf : (Json.obj fields).WellFormed) (h : PathInOrder fields) :
    PathInOrder (renewed fields) := by
  refine ⟨parametersInOrder_renewed hwf h.parameters, fun method w hw => ?_⟩
  obtain ⟨v, hv, hvwf, rfl⟩ := exists_of_get?_renewed hwf (name_not_mem method) hw
  obtain ⟨op, rfl, hop⟩ := h.operations method v hv
  exact ⟨renewed op, rfl, operationInOrder_renewed hvwf hop⟩

/-- Rewriting the legacy keywords of a document in order leaves it in order. -/
theorem documentInOrder_renewed (hwf : (Json.obj fields).WellFormed) (h : DocumentInOrder fields) :
    DocumentInOrder (renewed fields) := by
  refine ⟨?version, ?info, ?paths, ?components⟩
  case version =>
    obtain ⟨v, hv, hsupported⟩ := h.version
    refine ⟨v, ?_, hsupported⟩
    rw [get?_renewed hwf (by decide) (by decide) (by decide), hv]
    rfl
  case info =>
    obtain ⟨info, hinfo, htitle, hversion⟩ := h.info
    have hinfowf : (Json.obj info).WellFormed := hwf.get? (v := .obj fields) hinfo
    refine ⟨renewed info, ?_, exists_str_renewed hinfowf (by decide) (by decide) (by decide) htitle,
      exists_str_renewed hinfowf (by decide) (by decide) (by decide) hversion⟩
    rw [get?_renewed hwf (by decide) (by decide) (by decide), hinfo]
    rfl
  case paths =>
    obtain ⟨paths, hpaths, hall⟩ := h.paths
    have hpathswf : (Json.obj paths).WellFormed := hwf.get? (v := .obj fields) hpaths
    refine ⟨renewed paths, ?_, forall_renewed hpathswf hall (fun _ hitem => hitem.isObj) ?_⟩
    · rw [get?_renewed hwf (by decide) (by decide) (by decide), hpaths]
      rfl
    · exact fun item hitemwf hitem => referenceOr_modernize hitemwf hitem fun fields hfields _ =>
        pathInOrder_renewed hfields
  case components =>
    intro w hw
    obtain ⟨v, hv, hsectionswf, rfl⟩ := exists_of_get?_renewed hwf (by decide) hw
    obtain ⟨sections, rfl, hall⟩ := h.components v hv
    refine ⟨renewed sections, rfl, fun role entries hentries => ?_⟩
    obtain ⟨old, hold, hentrieswf, hmodern⟩ :=
      exists_of_get?_renewed hsectionswf (sectionName_not_mem role) hentries
    cases old with
    | obj oldEntries =>
      cases hmodern
      exact forall_renewed hentrieswf (hall role oldEntries hold)
        (fun _ haccepted => haccepted.isObj) fun _ => accepted_modernize
    | _ => cases hmodern

end Roles

/-- **A valid document stays valid when its legacy keywords are rewritten.** -/
theorem issues_modernize [Pattern.Checker] {doc : Json} (hwf : doc.WellFormed)
    (h : issues doc = []) : issues (modernize doc) = [] := by
  obtain ⟨root, rfl, _⟩ := exists_root h
  exact issues_eq_nil_iff.mpr (documentInOrder_renewed hwf (issues_eq_nil_iff.mp h))

end ApiGraph.Legacy
