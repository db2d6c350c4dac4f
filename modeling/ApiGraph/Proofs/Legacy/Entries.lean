import ApiGraph.Pattern.Validity
import ApiGraph.Proofs.Legacy.Paths
import ApiGraph.Proofs.Legacy.Sorting
import ApiGraph.Proofs.Legacy.Validity
import ApiGraph.Proofs.Normalization

/-!
# Malformed parameters

The upgrade takes lists of parameters apart before validation sees the document. What goes into a
body or into a form is gone from its list then. Every other entry is put back and checked there, so
a malformed entry comes to light, unless it calls itself one of a body or of a form.

Version 2.0 asks for more: bodies and form fields have names there, and nothing travels in a
cookie. Lists that break these rules pass, as the document at the end shows.
-/

namespace ApiGraph.Legacy

open Outcome Validation

/-- A reference, or a parameter with a name and a carrier of the current version. -/
def IsCurrent (v : Json) : Prop :=
  v.reference?.isSome = true ∨
    (v.strAt? "name").isSome = true ∧ ∃ carrier : Carrier, v.strAt? "in" = some carrier.name

/-- A parameter that calls itself one of a body or of a form. -/
def IsTaken (v : Json) : Prop := carrierOf v = some "body" ∨ carrierOf v = some "formData"

/-! ### One entry -/

theorem isCurrent_of_accepted [Pattern.Checker] {v : Json} (h : Accepted .parameter v) :
    IsCurrent v := by
  obtain ⟨fields, rfl, ⟨pointer, href, _⟩ | ⟨_, hparameter⟩⟩ := accepted_iff.mp h
  · left
    rw [Json.reference?, Json.strAt?, Json.get?, href]
    rfl
  · obtain ⟨name, hname⟩ := hparameter.name
    obtain ⟨carrier, hcarrier, _⟩ := hparameter.carrier
    refine Or.inr ⟨?_, carrier, ?_⟩
    · rw [Json.strAt?, Json.get?, hname]
      rfl
    · rw [Json.strAt?, Json.get?, hcarrier]
      rfl

/-- The name and the carrier of an entry that is put back are those that it had. -/
theorem strAt?_putBack {v : Json} (hwf : v.WellFormed) {key : String}
    (hkey : key ∈ ["name", "in"]) :
    (modernize (convertParameter v)).strAt? key = v.strAt? key := by
  have hapart : ∀ k ∈ ["name", "in"], k ∉ schemaKeywords ∧ k ≠ "collectionFormat" ∧
      k ≠ "explode" ∧ k ≠ "schema" ∧ k ≠ "x-nullable" ∧ k ≠ "nullable" ∧ k ≠ "$ref" := by decide
  obtain ⟨hkeyword, hformat, hexplode, hschema, hold, hnew, href⟩ := hapart key hkey
  have hconverted : (convertParameter v).get? key = v.get? key := by
    cases v with
    | obj fields =>
      cases hget : Fields.get? "$ref" fields with
      | none =>
        rw [convertParameter_of_plain hget]
        exact get?_liftSchema hwf.1 hkeyword hformat hexplode hschema
      | some pointer => rw [convertParameter_of_reference hget]
    | _ => rfl
  rw [Json.strAt?, get?_modernize (wellFormed_convertParameter hwf) hold hnew, hconverted,
    Json.strAt?]
  cases v.get? key with
  | none => rfl
  | some w =>
    rw [Option.map_some, Option.bind_some, Option.bind_some, retargetField_of_ne href,
      str?_modernize]

theorem isCurrent_of_putBack {v : Json} (hwf : v.WellFormed)
    (h : IsCurrent (modernize (convertParameter v))) : IsCurrent v := by
  rw [IsCurrent, reference?_modernize (wellFormed_convertParameter hwf),
    reference?_convertParameter hwf, Option.isSome_map, strAt?_putBack hwf (by simp),
    strAt?_putBack hwf (by simp)] at h
  exact h

/-- An entry that is not put back is a reference, or calls itself one of a body or of a form. -/
theorem plain?_destination_or (around : Surroundings) (v : Json) :
    v.reference?.isSome = true ∨ IsTaken v ∨
      (destination around v).plain? = some (convertParameter v) := by
  cases hname : sharedName? v with
  | some name =>
    left
    obtain ⟨pointer, hpointer, _⟩ := Option.bind_eq_some_iff.mp hname
    rw [hpointer]
    rfl
  | none =>
    right
    have hself : destination around v = inlined v := by
      simp only [destination, hname]
      rfl
    by_cases htaken : IsTaken v
    · exact Or.inl htaken
    · right
      rw [IsTaken, not_or] at htaken
      rw [hself, inlined_of_isPlain (isPlain_iff.mpr htaken)]
      rfl

/-! ### Lists of entries -/

/-- If validation finds the upgraded list in order, every entry of the old one is in order for the
current version, or has been taken into a body or a form. -/
theorem isCurrent_or_isTaken_of_parametersInOrder [Pattern.Checker] {around : Surroundings}
    {fields owner : Fields}
    (hwf : (Json.obj fields).WellFormed) (howner : (Json.obj owner).WellFormed)
    (hget : owner.get? "parameters" = (resorted around fields).get? "parameters")
    (h : ParametersInOrder (renewed owner)) :
    ∀ v ∈ entriesAt fields "parameters", IsCurrent v ∨ IsTaken v := by
  intro v hv
  rcases plain?_destination_or around v with href | htaken | hplain
  · exact Or.inl (Or.inl href)
  · exact Or.inr htaken
  left
  have hmem : convertParameter v ∈
      (sortParameters around (entriesAt fields "parameters")).plain := by
    rw [sortParameters_eq_filterMap]
    exact List.mem_filterMap.mpr ⟨v, hv, hplain⟩
  have hlist : (renewed owner).get? "parameters" = some (.arr
      ((sortParameters around (entriesAt fields "parameters")).plain.map modernize)) := by
    rw [get?_renewed howner (by decide) (by decide) (by decide), hget, resorted,
      get?_withPlain_self hwf.1, if_neg (by simp [List.ne_nil_of_mem hmem]), Option.map_some,
      modernize, modernizeItems_eq_map]
  obtain ⟨items, heq, hall⟩ := h _ hlist
  cases heq
  have haccepted := hall _ (List.mem_map_of_mem hmem)
  exact isCurrent_of_putBack (wellFormed_entriesAt hwf "parameters" v hv)
    (isCurrent_of_accepted haccepted)

/-! ### Documents -/

section Documents

variable {doc paths item : Fields} {path : String}

/-- A path item is upgraded under its own path. Only the path that is named like the extension
moves, to the name of the keyword, and there it must not meet another one. -/
theorem exists_upgradedItem (hdoc : (Json.obj doc).WellFormed)
    (hpaths : doc.get? "paths" = some (.obj paths)) (hitem : paths.get? path = some (.obj item))
    (hkept : path = "x-nullable" → paths.get? "nullable" = none) :
    ∃ key, (modernize (upgradePaths (surroundings doc) (.obj paths))).get? key =
      some (modernize (.obj (upgradedItem (surroundings doc) item))) := by
  by_cases hpath : path = "x-nullable"
  · subst hpath
    have hmapped : (upgradePaths (surroundings doc) (.obj paths)).WellFormed :=
      wellFormed_upgradePaths (wellFormed_forms hdoc) (hdoc.get? (v := .obj doc) hpaths)
    refine ⟨"nullable", ?_⟩
    rw [upgradePaths] at hmapped ⊢
    generalize hmoved : (paths.map fun entry => (entry.1, upgradePath (surroundings doc) entry.2)) =
      moved at hmapped
    have hget : ∀ key, Fields.get? key moved =
        (paths.get? key).map (upgradePath (surroundings doc)) := by
      intro key
      rw [← hmoved]
      exact Fields.get?_map (fun _ => upgradePath (surroundings doc)) paths
    have hflag : Fields.get? "x-nullable" (modernizeFields moved) =
        some (modernize (.obj (upgradedItem (surroundings doc) item))) := by
      rw [get?_modernizeFields, hget, hitem, Option.map_some, Option.map_some,
        retargetField_of_ne (by decide)]
      rfl
    have hfree : Fields.get? "nullable" (modernizeFields moved) = none := by
      rw [get?_modernizeFields, hget, hkept rfl]
      rfl
    exact get?_nullable_promoteNullable (nodup_modernizeFields hmapped.1) hflag hfree
  · exact ⟨path, get?_upgradePaths hdoc hpaths hpath hitem⟩

/-- If validation finds the upgraded document in order, it finds each upgraded path item in order
that is no reference. -/
theorem pathInOrder_of_no_issues [Pattern.Checker] {version : String}
    (hdoc : (Json.obj doc).WellFormed)
    (hvalid : issues (upgrade version doc) = []) (hpaths : doc.get? "paths" = some (.obj paths))
    (hitem : paths.get? path = some (.obj item)) (hinline : (Json.obj item).reference? = none)
    (hkept : path = "x-nullable" → paths.get? "nullable" = none) :
    PathInOrder (renewed (upgradedItem (surroundings doc) item)) := by
  have hitemWf : (Json.obj item).WellFormed :=
    (hdoc.get? (v := .obj doc) hpaths).get? (v := .obj paths) hitem
  have hnewWf := wellFormed_upgradedItem (wellFormed_forms hdoc) hitemWf
  obtain ⟨key, hkey⟩ := exists_upgradedItem hdoc hpaths hitem hkept
  obtain ⟨entries, hentries, hall⟩ := (issues_eq_nil_iff.mp hvalid).paths
  have hmoved : some (Json.obj entries) =
      some (modernize (upgradePaths (surroundings doc) (.obj paths))) :=
    hentries.symm.trans (get?_upgrade_paths hdoc hpaths)
  rw [← Option.some.inj hmoved] at hkey
  obtain ⟨fields, heq, ⟨pointer, href, _⟩ | ⟨_, horder⟩⟩ :=
    hall key _ (Fields.mem_of_get?_eq_some hkey)
  · have hnone : (modernize (.obj (upgradedItem (surroundings doc) item))).reference? = none := by
      rw [reference?_modernize hnewWf, reference?_upgradedItem hitemWf.1, hinline]
      rfl
    rw [heq, Json.reference?, Json.strAt?, Json.get?, href] at hnone
    cases hnone
  · cases heq
    exact horder

/-- With an upgraded path item the upgraded operations of it are in order. -/
theorem operationInOrder_of_pathInOrder [Pattern.Checker] {around : Surroundings} {op : Fields}
    {method : Method} (hforms : (Json.obj around.forms).WellFormed)
    (hitem : (Json.obj item).WellFormed) (h : PathInOrder (renewed (upgradedItem around item)))
    (hop : item.get? method.name = some (.obj op)) : OperationInOrder (renewed (upgradeOperation
      around (sortParameters around (entriesAt item "parameters")) op)) := by
  have hfield : (renewed (upgradedItem around item)).get? method.name =
      some (.obj (renewed (upgradeOperation around
        (sortParameters around (entriesAt item "parameters")) op))) := by
    have hname := name_not_mem method
    simp only [List.mem_cons, List.not_mem_nil, or_false, not_or] at hname
    rw [get?_renewed (wellFormed_upgradedItem hforms hitem) hname.1 hname.2.1 hname.2.2,
      get?_name_upgradedItem hitem.1 hop]
    rfl
  obtain ⟨_, heq, hoperation⟩ := h.operations method _ hfield
  cases heq
  exact hoperation

/-- **Malformed parameters come to light.** Where normalization accepts a 2.0 document, every entry
of a list of parameters, of a path item or of an operation of it, is a reference, or a parameter
with a name and a carrier that 3.0 knows, or one that calls itself one of a body or of a form. -/
theorem isCurrent_or_isTaken_of_normalize [Pattern.Checker] {options : NormalizeOptions}
    {out : Json} (hdoc : (Json.obj doc).WellFormed) (hversion : declaredVersion doc = .ok .legacy)
    (h : normalize options (.obj doc) = .ok out)
    (hpaths : doc.get? "paths" = some (.obj paths)) (hitem : paths.get? path = some (.obj item))
    (hinline : (Json.obj item).reference? = none)
    (hkept : path = "x-nullable" → paths.get? "nullable" = none) :
    (∀ v ∈ entriesAt item "parameters", IsCurrent v ∨ IsTaken v) ∧
      ∀ (method : Method) op, item.get? method.name = some (.obj op) →
        ∀ v ∈ entriesAt op "parameters", IsCurrent v ∨ IsTaken v := by
  obtain ⟨_, heq, hupgraded, hvalid⟩ := normalize_eq_ok_iff.mp h
  cases heq
  rcases upgraded_eq_ok_iff.mp hupgraded with ⟨hcurrent, _⟩ | ⟨_, _, rfl⟩
  · cases hversion.symm.trans hcurrent
  have hforms := wellFormed_forms hdoc
  have hitemWf : (Json.obj item).WellFormed :=
    (hdoc.get? (v := .obj doc) hpaths).get? (v := .obj paths) hitem
  have horder := pathInOrder_of_no_issues hdoc hvalid hpaths hitem hinline hkept
  refine ⟨isCurrent_or_isTaken_of_parametersInOrder hitemWf
    (wellFormed_upgradedItem hforms hitemWf) (get?_parameters_upgradedItem item)
    horder.parameters, fun method op hop => ?_⟩
  have hopWf : (Json.obj op).WellFormed := hitemWf.get? (v := .obj item) hop
  have hshared := wellFormed_sortParameters hforms (wellFormed_entriesAt hitemWf "parameters")
  have hoperation := operationInOrder_of_pathInOrder hforms hitemWf horder hop
  exact isCurrent_or_isTaken_of_parametersInOrder hopWf
    (wellFormed_upgradeOperation hforms hshared hopWf)
    (get?_upgradeOperation hopWf.1 (by decide)) hoperation.parameters

end Documents

/-! ### What version 2.0 asks for besides -/

/-- An entry as version 2.0 wants it: a reference, or a parameter with a name and one of its
carriers. -/
def IsLegacy (v : Json) : Prop :=
  v.reference?.isSome = true ∨ (v.strAt? "name").isSome = true ∧
    ∃ carrier ∈ ["query", "header", "path", "formData", "body"], v.strAt? "in" = some carrier

/-- The parameters of an owner, if it has any, are a list of entries as version 2.0 wants them. -/
def ListsLegacy (owner : Fields) : Prop :=
  ∀ v, owner.get? "parameters" = some v → ∃ items, v = .arr items ∧ ∀ u ∈ items, IsLegacy u

/-- An operation without responses that lists parameters. -/
def listing (parameters : Json) : Json := .obj [("parameters", parameters), ("responses", .obj [])]

/-- A path item with a cookie, a body and a form field without names, and a list that is none. -/
def laxItem : Fields := [
  ("get", listing (.arr [.obj [("name", .str "session"), ("in", .str "cookie")]])),
  ("post", listing (.arr [.obj [("in", .str "body")]])),
  ("put", listing (.arr [.obj [("in", .str "formData")]])),
  ("delete", listing (.obj []))]

/-- A path item with an entry that is no parameter, which moves onto another path. -/
def movedItem : Fields := [("parameters", .arr [.null])]

def laxDocument : Fields := [
  ("swagger", .str "2.0"),
  ("info", .obj [("title", .str "lax"), ("version", .str "1")]),
  ("paths", .obj [("/a", .obj laxItem), ("nullable", .obj []), ("x-nullable", .obj movedItem)])]

theorem wellFormed_laxDocument : (Json.obj laxDocument).WellFormed := by
  simp [laxDocument, laxItem, movedItem, listing, Json.WellFormed, Json.FieldsWellFormed,
    Json.AllWellFormed]

theorem exists_normalize_laxDocument : ∃ out, normalize {} (.obj laxDocument) = .ok out := by
  have hupgrade : upgrade "3.0.0" laxDocument = .obj
      [("openapi", .str "3.0.0"),
       ("paths", .obj [
         ("/a", .obj [
           ("get", .obj [
             ("responses", .obj []),
             ("parameters", .arr [.obj [("name", .str "session"), ("in", .str "cookie")]])]),
           ("post", .obj [("responses", .obj []), ("requestBody", .obj [("content", .obj [
             ("application/json", .obj [("schema", .obj [])])])])]),
           ("put", .obj [("responses", .obj []), ("requestBody", .obj [("content", .obj [
             ("application/x-www-form-urlencoded", .obj [("schema", .obj [
               ("type", .str "object"), ("properties", .obj [])])])])])]),
           ("delete", .obj [("responses", .obj [])])]),
         ("nullable", .obj [])]),
       ("info", .obj [("title", .str "lax"), ("version", .str "1")])] := rfl
  have hupgraded : upgraded {} laxDocument = .ok (upgrade "3.0.0" laxDocument) :=
    upgraded_eq_ok_iff.mpr (.inr ⟨rfl, rfl, rfl⟩)
  rw [hupgrade] at hupgraded
  exact ⟨_, normalize_eq_ok_iff.mpr ⟨_, rfl, hupgraded, by cbv⟩⟩

/-- The entries that pass are a parameter of the current version, or have been taken away. -/
theorem isCurrent_or_isTaken_of_laxDocument :
    (∃ out, normalize {} (.obj laxDocument) = .ok out) ∧
      ∀ (method : Method) op, laxItem.get? method.name = some (.obj op) →
        ∀ v ∈ entriesAt op "parameters", IsCurrent v ∨ IsTaken v := by
  obtain ⟨out, hout⟩ := exists_normalize_laxDocument
  have hitem : Fields.get? "/a" [("/a", .obj laxItem), ("nullable", .obj []),
      ("x-nullable", .obj movedItem)] = some (.obj laxItem) := rfl
  exact ⟨⟨out, hout⟩, (isCurrent_or_isTaken_of_normalize wellFormed_laxDocument rfl hout rfl
    hitem rfl fun heq => absurd heq (by decide)).2⟩

/-- Neither an operation of the one path item nor the other path item lists its parameters as
version 2.0 wants it, and the document passes. -/
theorem not_listsLegacy_of_normalize :
    (Json.obj laxDocument).WellFormed ∧ declaredVersion laxDocument = .ok .legacy ∧
    (∃ out, normalize {} (.obj laxDocument) = .ok out) ∧
    ∃ paths : Fields, laxDocument.get? "paths" = some (.obj paths) ∧
      (paths.get? "/a" = some (.obj laxItem) ∧ laxItem.get? "$ref" = none ∧
        ∀ method ∈ [Method.get, .post, .put, .delete], ∃ op,
          laxItem.get? method.name = some (.obj op) ∧ ¬ ListsLegacy op) ∧
      (paths.get? "x-nullable" = some (.obj movedItem) ∧ movedItem.get? "$ref" = none ∧
        ¬ ListsLegacy movedItem) := by
  have hstray : ∀ {owner : Fields} {v : Json}, owner.get? "parameters" = some (.arr [v]) →
      ¬ IsLegacy v → ¬ ListsLegacy owner := by
    intro owner v hlist hnot h
    obtain ⟨items, heq, hall⟩ := h _ hlist
    cases heq
    exact hnot (hall v List.mem_cons_self)
  refine ⟨wellFormed_laxDocument, rfl, exists_normalize_laxDocument, _, rfl,
    ⟨rfl, rfl, ?_⟩, rfl, rfl, ?_⟩
  · intro method hmethod
    simp only [List.mem_cons, List.not_mem_nil, or_false] at hmethod
    rcases hmethod with rfl | rfl | rfl | rfl
    · refine ⟨_, rfl, hstray rfl ?_⟩
      simp [IsLegacy, Json.reference?, Json.strAt?, Json.get?, Fields.get?, Json.str?]
    · refine ⟨_, rfl, hstray rfl ?_⟩
      simp [IsLegacy, Json.reference?, Json.strAt?, Json.get?, Fields.get?, Json.str?]
    · refine ⟨_, rfl, hstray rfl ?_⟩
      simp [IsLegacy, Json.reference?, Json.strAt?, Json.get?, Fields.get?, Json.str?]
    · refine ⟨_, rfl, fun h => ?_⟩
      obtain ⟨_, heq, _⟩ := h _ rfl
      cases heq
  · refine hstray rfl ?_
    simp [IsLegacy, Json.reference?, Json.strAt?, Json.get?]

end ApiGraph.Legacy
