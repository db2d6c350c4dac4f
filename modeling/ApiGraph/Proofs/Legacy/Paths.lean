import ApiGraph.Proofs.Legacy.WellFormed

/-!
# Paths of the upgraded document

Every path of a document is still there after the upgrade, and so is every operation of a
path. Of their fields, what the upgrade looks at is the list of parameters, which is put back
sorted; a field that it does not look at is kept.
-/

namespace ApiGraph.Legacy

open Json

/-- Whatever stands under a key, the extension itself apart, is still there when it has been
rewritten. -/
theorem get?_modernize_of_get? {fields : Fields} (hnodup : (fields.map Prod.fst).Nodup)
    {key : String} (hkey : key ≠ "x-nullable") {v : Json} (hv : fields.get? key = some v) :
    (modernize (.obj fields)).get? key = some (retargetField key (modernize v)) := by
  have hfield : Fields.get? key (modernizeFields fields) =
      some (retargetField key (modernize v)) := by
    rw [get?_modernizeFields, hv]
    rfl
  show Fields.get? key (promoteNullable (modernizeFields fields)) = _
  rw [promoteNullable]
  cases Fields.get? "x-nullable" (modernizeFields fields) with
  | none => exact hfield
  | some flag =>
    have hkept : Fields.get? key (Fields.erase "x-nullable" (modernizeFields fields)) =
        some (retargetField key (modernize v)) := by
      rw [Fields.get?_erase_of_ne (nodup_modernizeFields hnodup) (Ne.symm hkey)]
      exact hfield
    simp only [Fields.insertNew]
    split
    · exact hkept
    · rw [Fields.get?_append, hkept]
      rfl

/-- An object that stands in a value under keys other than the extension still stands there,
rewritten, when the value has been rewritten. -/
theorem exists_walk?_modernize {keys : List String} (hkeys : ∀ key ∈ keys, key ≠ "x-nullable")
    {fields : Fields} : ∀ {v : Json} (place : Place), v.WellFormed →
      keys.foldlM Json.get? v = some (.obj fields) → ∃ place', Fragment.walk?
        ⟨place, modernize v⟩ keys = some ⟨place', modernize (.obj fields)⟩ := by
  induction keys with
  | nil =>
    intro v place _ h
    cases h
    exact ⟨place, rfl⟩
  | cons key rest ih =>
    intro v place hwf h
    rw [List.foldlM_cons] at h
    obtain ⟨w, hw, hrest⟩ := Option.bind_eq_some_iff.mp h
    obtain ⟨hkey, hothers⟩ := List.forall_mem_cons.mp hkeys
    obtain ⟨entries, rfl⟩ : ∃ entries, w = .obj entries := by
      cases rest with
      | nil =>
        cases hrest
        exact ⟨_, rfl⟩
      | cons next later =>
        rw [List.foldlM_cons] at hrest
        obtain ⟨u, hu, _⟩ := Option.bind_eq_some_iff.mp hrest
        cases w with
        | obj entries => exact ⟨entries, rfl⟩
        | _ => cases hu
    cases v with
    | obj outer =>
      have hget : (modernize (.obj outer)).get? key = some (modernize (.obj entries)) :=
        get?_modernize_of_get? hwf.1 hkey hw
      rw [Fragment.walk?_of_get? hget]
      exact ih hothers _ (hwf.get? hw) hrest
    | _ => cases hw

/-! ### Operations and path items -/

section Items

variable {around : Surroundings} {shared : Sorted}

theorem get?_withPlain_of_ne {plain : List Json} {fields : Fields}
    (hnodup : (fields.map Prod.fst).Nodup) {key : String} (hkey : key ≠ "parameters") :
    Fields.get? key (withPlain plain fields) = fields.get? key := by
  have hbare := Fields.get?_erase_of_ne hnodup (Ne.symm hkey)
  rw [withPlain]
  split
  · exact hbare
  · exact (Fields.get?_insert_of_ne (Ne.symm hkey) _ _).trans hbare

theorem get?_withPlain_self {plain : List Json} {fields : Fields}
    (hnodup : (fields.map Prod.fst).Nodup) : Fields.get? "parameters" (withPlain plain fields) =
      if plain.isEmpty then none else some (.arr plain) := by
  rw [withPlain]
  split
  · exact Fields.get?_erase_self hnodup
  · exact Fields.get?_insert_self _ _ _

/-- The fields of an operation or a path item with the new list of parameters. -/
def resorted (around : Surroundings) (fields : Fields) : Fields :=
  withPlain (sortParameters around (entriesAt fields "parameters")).plain fields

/-- What the upgrade does not look at in an operation is kept, and so is its new list of
parameters. -/
theorem get?_upgradeOperation {op : Fields} (hnodup : (op.map Prod.fst).Nodup) {key : String}
    (hkey : key ∉ ["produces", "consumes", "requestBody", "responses"]) :
    Fields.get? key (upgradeOperation around shared op) =
      Fields.get? key (resorted around op) := by
  simp only [List.mem_cons, List.not_mem_nil, or_false, not_or] at hkey
  obtain ⟨hproduces, hconsumes, hbody, hresponses⟩ := hkey
  have hbare : Fields.get? key ((op.erase "produces").erase "consumes") = op.get? key := by
    rw [Fields.get?_erase_of_ne (Fields.nodup_erase hnodup) (Ne.symm hconsumes),
      Fields.get?_erase_of_ne hnodup (Ne.symm hproduces)]
  have hsorted : ∀ plain, Fields.get? key (withPlain plain ((op.erase "produces").erase "consumes")) =
      Fields.get? key (withPlain plain op) := by
    intro plain
    by_cases hparameters : key = "parameters"
    · rw [hparameters, get?_withPlain_self (Fields.nodup_erase (Fields.nodup_erase hnodup)),
        get?_withPlain_self hnodup]
    · rw [get?_withPlain_of_ne (Fields.nodup_erase (Fields.nodup_erase hnodup)) hparameters,
        get?_withPlain_of_ne hnodup hparameters, hbare]
  simp only [upgradeOperation]
  rw [Fields.get?_modify]
  simp only [if_neg hresponses, Option.map_id']
  split
  · exact (Fields.get?_insert_of_ne (Ne.symm hbody) _ _).trans (hsorted _)
  · exact hsorted _

/-- The fields of a path item after the upgrade. -/
def upgradedItem (around : Surroundings) (item : Fields) : Fields :=
  Method.all.foldl (fun (fields : Fields) method => fields.modify method.name
    (upgradeMethod around (sortParameters around (entriesAt item "parameters"))))
    (resorted around item)

theorem wellFormed_upgradedItem (hforms : (obj around.forms).WellFormed) {item : Fields}
    (h : (obj item).WellFormed) : (obj (upgradedItem around item)).WellFormed :=
  wellFormed_upgradePath hforms (v := .obj item) h

/-- Methods have names of their own, so each operation is changed once, and nothing else is. -/
theorem get?_foldl_modify {f : Json → Json} {methods : List Method}
    (hnodup : (methods.map Method.name).Nodup) (key : String) (fields : Fields) :
    Fields.get? key (methods.foldl (fun fields method => Fields.modify method.name f fields) fields) =
      (fields.get? key).map fun v => if key ∈ methods.map Method.name then f v else v := by
  induction methods generalizing fields with
  | nil => simp
  | cons method rest ih =>
    rw [List.map_cons, List.nodup_cons] at hnodup
    rw [List.foldl_cons, ih hnodup.2, Fields.get?_modify, Option.map_map]
    congr 1
    funext v
    rw [Function.comp_apply, List.map_cons]
    by_cases hkey : key = method.name
    · subst hkey
      rw [if_neg hnodup.1, if_pos rfl, if_pos List.mem_cons_self]
    · simp only [List.mem_cons, hkey, false_or, if_false]

theorem get?_upgradedItem (item : Fields) (key : String) :
    Fields.get? key (upgradedItem around item) =
      (Fields.get? key (resorted around item)).map fun v =>
        if key ∈ Method.all.map Method.name then
          upgradeMethod around (sortParameters around (entriesAt item "parameters")) v
        else v :=
  get?_foldl_modify (by decide) key _

theorem reference?_upgradedItem {item : Fields} (hnodup : (item.map Prod.fst).Nodup) :
    (Json.obj (upgradedItem around item)).reference? = (Json.obj item).reference? := by
  show (Fields.get? "$ref" (upgradedItem around item)).bind Json.str? = _
  rw [get?_upgradedItem, resorted, get?_withPlain_of_ne hnodup (by decide)]
  simp only [if_neg (show "$ref" ∉ Method.all.map Method.name by decide), Option.map_id']
  rfl

theorem get?_parameters_upgradedItem (item : Fields) :
    Fields.get? "parameters" (upgradedItem around item) =
      Fields.get? "parameters" (resorted around item) := by
  rw [get?_upgradedItem]
  simp only [if_neg (show "parameters" ∉ Method.all.map Method.name by decide), Option.map_id']

/-- The operations of a path item are upgraded in their places. -/
theorem get?_name_upgradedItem {item op : Fields} (hnodup : (item.map Prod.fst).Nodup)
    {method : Method} (hop : item.get? method.name = some (.obj op)) :
    Fields.get? method.name (upgradedItem around item) = some (.obj (upgradeOperation around
      (sortParameters around (entriesAt item "parameters")) op)) := by
  have hname : method.name ≠ "parameters" := by
    cases method <;> decide
  rw [get?_upgradedItem, resorted, get?_withPlain_of_ne hnodup hname, hop]
  simp only [if_pos (List.mem_map_of_mem method.mem_all), Option.map_some]
  rfl

theorem reference?_upgradeOperation {op : Fields} (hnodup : (op.map Prod.fst).Nodup) :
    (Json.obj (upgradeOperation around shared op)).reference? = (Json.obj op).reference? := by
  show (Fields.get? "$ref" (upgradeOperation around shared op)).bind Json.str? = _
  rw [get?_upgradeOperation hnodup (by decide), resorted, get?_withPlain_of_ne hnodup (by decide)]
  rfl

end Items

/-! ### The parts of the upgraded document -/

section Documents

variable {version : String} {doc : Fields}

theorem get?_upgrade_paths (hdoc : (obj doc).WellFormed) {paths : Fields}
    (hpaths : doc.get? "paths" = some (.obj paths)) : (upgrade version doc).get? "paths" =
      some (modernize (upgradePaths (surroundings doc) (.obj paths))) := by
  have hassembled : Fields.get? "paths" (assembled version doc) =
      some (upgradePaths (surroundings doc) (.obj paths)) := by
    rw [get?_assembled_paths hdoc, hpaths]
    rfl
  rw [upgrade_eq, get?_modernize_of_get? (wellFormed_assembled hdoc).1 (by decide) hassembled]
  rfl

theorem get?_upgradePaths (hdoc : (obj doc).WellFormed) {paths item : Fields}
    (hpaths : doc.get? "paths" = some (.obj paths)) {path : String} (hpath : path ≠ "x-nullable")
    (hitem : paths.get? path = some (.obj item)) :
    (modernize (upgradePaths (surroundings doc) (.obj paths))).get? path =
      some (modernize (.obj (upgradedItem (surroundings doc) item))) := by
  have hmapped : (upgradePaths (surroundings doc) (.obj paths)).WellFormed :=
    wellFormed_upgradePaths (wellFormed_forms hdoc) (hdoc.get? (v := .obj doc) hpaths)
  have hget : Fields.get? path (paths.map fun entry =>
      (entry.1, upgradePath (surroundings doc) entry.2)) =
        some (.obj (upgradedItem (surroundings doc) item)) := by
    rw [Fields.get?_map fun _ => upgradePath (surroundings doc), hitem]
    rfl
  exact get?_modernize_of_get? hmapped.1 hpath hget

end Documents

end ApiGraph.Legacy
