import ApiGraph.Proofs.Validation.Positions

/-!
# References of a document

The walk of validation begins at the shared components, the lists of parameters, the maps of
responses and the request bodies of a document. From each of these parts it goes down into
schemas, and it meets references without following them. So what is said of all references at
validated positions is said of each part where the walk begins, and there of the part itself and
of the schemas that it holds.
-/

namespace ApiGraph.Validation

/-- The schemas that stand in the fields of a schema object. -/
inductive HoldsSchema (fields : Fields) : Json → Prop
  | member {key : String} {items : List Json} {w : Json} (hkey : key ∈ ["allOf", "oneOf", "anyOf"])
      (hlist : fields.get? key = some (.arr items)) (hw : w ∈ items) : HoldsSchema fields w
  | single {key : String} {w : Json} (hkey : key ∈ ["allOf", "oneOf", "anyOf", "not", "items"])
      (hw : fields.get? key = some w) : HoldsSchema fields w
  | property {name : String} {entries : Fields} {w : Json}
      (hmap : fields.get? "properties" = some (.obj entries)) (hw : (name, w) ∈ entries) :
      HoldsSchema fields w
  | additional {w : Json} (hw : fields.get? "additionalProperties" = some w) : HoldsSchema fields w

/-- The schemas that stand in the fields of an object of a role. -/
inductive Holds : Role → Fields → Json → Prop
  | typed {fields : Fields} {w : Json} (hw : fields.get? "schema" = some w) :
      Holds .parameter fields w
  | media {role : Role} {fields content : Fields} {mime : String} {media w : Json}
      (hrole : role ≠ .schema) (hcontent : fields.get? "content" = some (.obj content))
      (hmedia : (mime, media) ∈ content) (hw : media.get? "schema" = some w) : Holds role fields w
  | nested {fields : Fields} {w : Json} (hw : HoldsSchema fields w) : Holds .schema fields w

/-- The keys under which an object of a role has its schemas. -/
def Role.holders : Role → List String
  | .parameter => ["schema", "content"]
  | .schema => ["allOf", "oneOf", "anyOf", "not", "items", "properties", "additionalProperties"]
  | _ => ["content"]

/-- Only what stands under these keys matters. -/
theorem Holds.of_get?_eq {role : Role} {fields fields' : Fields} {w : Json}
    (h : Holds role fields' w) (hget : ∀ key ∈ role.holders, fields'.get? key = fields.get? key) :
    Holds role fields w := by
  cases h with
  | typed hw =>
    rw [hget _ (by decide)] at hw
    exact .typed hw
  | media hrole hcontent hmedia hw =>
    have hkey : "content" ∈ role.holders := by
      cases role <;> first | decide | exact absurd rfl hrole
    rw [hget _ hkey] at hcontent
    exact .media hrole hcontent hmedia hw
  | nested hw =>
    cases hw with
    | member hkey hlist hw =>
      have hmem := List.mem_append_left ["not", "items", "properties", "additionalProperties"] hkey
      rw [hget _ hmem] at hlist
      exact .nested (.member hkey hlist hw)
    | single hkey hw =>
      rw [hget _ (List.mem_append_left ["properties", "additionalProperties"] hkey)] at hw
      exact .nested (.single hkey hw)
    | property hmap hw =>
      rw [hget _ (by decide)] at hmap
      exact .nested (.property hmap hw)
    | additional hw =>
      rw [hget _ (by decide)] at hw
      exact .nested (.additional hw)

theorem not_holds_nil {role : Role} {w : Json} : ¬ Holds role [] w := by
  intro h
  cases h with
  | nested hw => cases hw <;> contradiction
  | _ => contradiction

/-- Every reference that the walk meets in a value has a property: the value itself, if it is one,
and otherwise those in the schemas that it holds. -/
inductive AllReferences (Q : Role → String → Prop) : Role → Json → Prop
  | intro {role : Role} {v : Json} (hself : ∀ pointer, v.reference? = some pointer → Q role pointer)
      (hbelow : ∀ fields w, v = .obj fields → v.reference? = none → Holds role fields w →
        AllReferences Q .schema w) : AllReferences Q role v

section Values

variable {Q : Role → String → Prop} {role : Role} {v w : Json} {fields : Fields}

theorem AllReferences.self (h : AllReferences Q role v) {pointer : String}
    (href : v.reference? = some pointer) : Q role pointer := by
  obtain ⟨hself, _⟩ := h
  exact hself pointer href

theorem AllReferences.held (h : AllReferences Q role (.obj fields))
    (href : (Json.obj fields).reference? = none) (hw : Holds role fields w) :
    AllReferences Q .schema w := by
  obtain ⟨_, hbelow⟩ := h
  exact hbelow fields w rfl href hw

theorem allReferences_of_reference {pointer : String} (href : v.reference? = some pointer)
    (h : Q role pointer) : AllReferences Q role v := by
  refine ⟨fun pointer' href' => ?_, fun fields w _ hnone => ?_⟩
  · cases href.symm.trans href'
    exact h
  · cases href.symm.trans hnone

/-- An object that is no reference has only the references of the schemas that it holds. -/
theorem allReferences_of_plain (href : (Json.obj fields).reference? = none)
    (h : ∀ w, Holds role fields w → AllReferences Q .schema w) :
    AllReferences Q role (.obj fields) := by
  refine ⟨fun pointer hpointer => ?_, fun fields' w heq _ hw => ?_⟩
  · cases href.symm.trans hpointer
  · cases heq
    exact h w hw

/-- An object without schemas has no references below it. -/
theorem allReferences_of_get?_eq_none (href : (Json.obj fields).reference? = none)
    (h : ∀ key ∈ role.holders, fields.get? key = none) : AllReferences Q role (.obj fields) := by
  refine allReferences_of_plain href fun w hw => ?_
  have hnil : Holds role [] w := hw.of_get?_eq h
  exact absurd hnil not_holds_nil

theorem allReferences_of_not_isObj (h : v.isObj = false) : AllReferences Q role v := by
  cases v with
  | obj fields => cases h
  | _ => exact ⟨nofun, nofun⟩

end Values

/-- Below a value that is no reference, only the references of schemas matter. -/
theorem AllReferences.imp {Q Q' : Role → String → Prop}
    (hschema : ∀ pointer, Q .schema pointer → Q' .schema pointer) {role : Role} {v : Json}
    (h : AllReferences Q role v)
    (hself : ∀ pointer, v.reference? = some pointer → Q' role pointer) :
    AllReferences Q' role v := by
  induction h with
  | intro _ hbelow ih =>
    refine ⟨hself, fun fields w hv hnone hw => ih fields w hv hnone hw fun pointer hpointer => ?_⟩
    exact hschema pointer ((hbelow fields w hv hnone hw).self hpointer)

/-- What stands at a position of a schema is held by it. -/
theorem holdsSchema_of_mem_positions {f g : Fragment} {fields : Fields} (hf : f.value = .obj fields)
    (hg : g ∈ TypeSchema.positions f) : HoldsSchema fields g.value := by
  have hfield : ∀ {key : String} {a : Fragment}, f.field? key = some a →
      fields.get? key = some a.value := by
    intro key a ha
    obtain ⟨v, hv, rfl⟩ := Fragment.field?_eq_some_iff.mp ha
    rw [hf] at hv
    exact hv
  rcases TypeSchema.mem_positions_iff.mp hg with ⟨keyword, hk, hheld⟩ | ⟨keyword, hk, hsingle⟩ |
    ⟨a, name, ha, hprop⟩ | ⟨ha, _⟩
  · rw [TypeSchema.heldUnder] at hheld
    split at hheld
    · cases hheld
    · next list hlist =>
      rw [TypeSchema.membersOf] at hheld
      split at hheld
      · next items hitems =>
        obtain ⟨vs, i, v, hvs, hi, rfl⟩ := Fragment.mem_items_iff.mp hheld
        have hget := hfield hlist
        rw [hvs] at hget
        exact .member hk hget (List.mem_of_getElem? hi)
      · rw [List.mem_singleton.mp hheld]
        refine .single (List.mem_append_left ["not", "items"] hk) (hfield hlist)
  · exact .single (List.mem_append_right ["allOf", "oneOf", "anyOf"] hk) (hfield hsingle)
  · obtain ⟨entries, v, hv, hmem, rfl⟩ := Fragment.mem_fields_iff.mp hprop
    have hget := hfield ha
    rw [hv] at hget
    exact .property hget hmem
  · exact .additional (hfield ha)

/-! ### Parts of a document -/

section Parts

variable (P : Role → Json → Prop)

/-- The parameters in the list of an owner have a property. -/
def ParameterParts (owner : Fields) : Prop :=
  ∀ items, owner.get? "parameters" = some (.arr items) → ∀ p ∈ items, P .parameter p

structure OperationParts (op : Fields) : Prop where
  parameters : ParameterParts P op
  body : ∀ v, op.get? "requestBody" = some v → P .body v
  responses : ∀ entries, op.get? "responses" = some (.obj entries) →
    ∀ key r, (key, r) ∈ entries → P .response r

structure PathParts (item : Fields) : Prop where
  parameters : ParameterParts P item
  operations : ∀ (method : Method) op, item.get? method.name = some (.obj op) →
    OperationParts P op

/-- Everything in a document where the walk begins has a property in the role that it has there. -/
structure DocumentParts (root : Fields) : Prop where
  paths : ∀ paths, root.get? "paths" = some (.obj paths) → ∀ path item, (path, .obj item) ∈ paths →
    (Json.obj item).reference? = none → PathParts P item
  components : ∀ parts, root.get? "components" = some (.obj parts) →
    ∀ (role : Role) entries, Fields.get? role.sectionName parts = some (.obj entries) →
      ∀ name w, (name, w) ∈ entries → P role w

end Parts

section Walk

variable {P : Role → Json → Prop} {root : Fields}

theorem DocumentParts.item (h : DocumentParts P root) {item : Fragment} {fields : Fields}
    (hitem : IsPathItem (.obj root) item) (hplain : Plain item)
    (hfields : item.value = .obj fields) : PathParts P fields := by
  have href := Fragment.reference?_of_get?_eq_none hplain
  obtain ⟨paths, name, hpaths, hmem⟩ := hitem
  obtain ⟨entries, v, hentries, hin, rfl⟩ := Fragment.mem_fields_iff.mp hmem
  obtain ⟨_, hroot, hget⟩ := Fragment.exists_obj_of_field? hpaths
  cases hroot
  rw [hentries] at hget
  cases hfields
  exact h.paths entries hget name fields hin href

theorem DocumentParts.operation (h : DocumentParts P root) {op : Fragment} {fields : Fields}
    (hop : IsOperation (.obj root) op) (hfields : op.value = .obj fields) :
    OperationParts P fields := by
  obtain ⟨item, method, hitem, hplain, hfield⟩ := hop
  obtain ⟨itemFields, hvalue, hget⟩ := Fragment.exists_obj_of_field? hfield
  rw [hfields] at hget
  exact (h.item hitem hplain hvalue).operations method fields hget

theorem DocumentParts.owner (h : DocumentParts P root) {owner : Fragment} {fields : Fields}
    (howner : HoldsParameters (.obj root) owner) (hfields : owner.value = .obj fields) :
    ParameterParts P fields := by
  rcases howner with ⟨hitem, hplain⟩ | hop
  · exact (h.item hitem hplain hfields).parameters
  · exact (h.operation hop hfields).parameters

theorem DocumentParts.shared (h : DocumentParts P root) {role : Role} {entries f : Fragment}
    {name : String} (hentries : (Fragment.ofDocument (.obj root)).walk?
      ["components", role.sectionName] = some entries) (hf : (name, f) ∈ entries.fields) :
    P role f.value := by
  obtain ⟨parts, hparts, hwalk⟩ := Option.bind_eq_some_iff.mp hentries
  obtain ⟨found, hfound, hself⟩ := Option.bind_eq_some_iff.mp hwalk
  cases hself
  obtain ⟨_, hroot, hget⟩ := Fragment.exists_obj_of_field? hparts
  cases hroot
  obtain ⟨place, value⟩ := parts
  obtain ⟨values, w, hvalues, hmem, rfl⟩ := Fragment.mem_fields_iff.mp hf
  cases value with
  | obj parts =>
    obtain ⟨_, hobj, hsection⟩ := Fragment.exists_obj_of_field? hfound
    cases hobj
    rw [hvalues] at hsection
    exact h.components parts hget role values hsection name w hmem
  | arr items =>
    -- The names of sections are no numbers, so nothing is found in an array.
    have hnone : Text.natural? role.sectionName = none := by
      cases role <;> rfl
    simp [Fragment.step?, hnone] at hfound
  | _ => cases hfound

/-- What all references of the parts have, all references at validated positions have. -/
theorem Validated.allReferences {Q : Role → String → Prop}
    (h : DocumentParts (AllReferences Q) root) {role : Role} {f : Fragment}
    (hf : Validated (.obj root) role f) : AllReferences Q role f.value := by
  induction hf with
  | shared hentries hf => exact h.shared hentries hf
  | listed howner hlist hf =>
    obtain ⟨items, i, v, hitems, hi, rfl⟩ := Fragment.mem_items_iff.mp hf
    obtain ⟨fields, hfields, hget⟩ := Fragment.exists_obj_of_field? hlist
    rw [hitems] at hget
    exact h.owner howner hfields items hget v (List.mem_of_getElem? hi)
  | answered hop hentries hf =>
    obtain ⟨entries, v, hvalues, hmem, rfl⟩ := Fragment.mem_fields_iff.mp hf
    obtain ⟨fields, hfields, hget⟩ := Fragment.exists_obj_of_field? hentries
    rw [hvalues] at hget
    exact (h.operation hop hfields).responses entries hget _ v hmem
  | requested hop hf =>
    obtain ⟨fields, hfields, hget⟩ := Fragment.exists_obj_of_field? hf
    exact (h.operation hop hfields).body _ hget
  | typed _ hplain hf ih =>
    obtain ⟨fields, hfields, hschema⟩ := Fragment.exists_obj_of_field? hf
    have href := Fragment.reference?_of_get?_eq_none hplain
    rw [hfields] at ih href
    exact ih.held href (.typed hschema)
  | media hrole _ hplain hcontent hmedia hf _ ih =>
    obtain ⟨v, hv, rfl⟩ := Fragment.field?_eq_some_iff.mp hf
    obtain ⟨content, media, hobj, hmem, rfl⟩ := Fragment.mem_fields_iff.mp hmedia
    obtain ⟨fields, hfields, hget⟩ := Fragment.exists_obj_of_field? hcontent
    have href := Fragment.reference?_of_get?_eq_none hplain
    rw [hfields] at ih href
    rw [hobj] at hget
    exact ih.held href (.media hrole hget hmem hv)
  | @nested f g _ hplain hg ih =>
    have href := Fragment.reference?_of_get?_eq_none hplain
    obtain ⟨place, v⟩ := f
    cases v with
    | obj fields => exact ih.held href (.nested (holdsSchema_of_mem_positions rfl hg))
    | _ =>
      refine absurd hg ?_
      simp [TypeSchema.positions, TypeSchema.heldUnder, TypeSchema.propertyFragments,
        TypeSchema.additionalFragment, Fragment.field?, Json.get?]

end Walk

end ApiGraph.Validation
