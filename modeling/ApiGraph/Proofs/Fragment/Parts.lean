import ApiGraph.Proofs.Json.Fields
import ApiGraph.Reference
import Mathlib.Logic.Relation

/-!
# Parts of a fragment

A field, an item and whatever a list of keys leads to are parts of the fragment they
are taken from. Two finite collections shrink from a fragment to its parts: the places
of the objects inside it, and the key lists of the references inside it. They bound
the walks over a document, so this is the one fact that every termination and cycle
argument rests on.
-/

namespace ApiGraph

namespace Fragment

/-! ### Taking a fragment apart -/

theorem field?_eq_some_iff {f g : Fragment} {key : String} :
    f.field? key = some g ↔
      ∃ v, f.value.get? key = some v ∧ g = ⟨f.place.child (.key key), v⟩ := by
  rw [field?, Option.map_eq_some_iff]
  constructor
  · rintro ⟨v, hv, rfl⟩
    exact ⟨v, hv, rfl⟩
  · rintro ⟨v, hv, rfl⟩
    exact ⟨v, hv, rfl⟩

theorem mem_fields_iff {f g : Fragment} {name : String} :
    (name, g) ∈ f.fields ↔ ∃ fields v, f.value = .obj fields ∧ (name, v) ∈ fields ∧
      g = ⟨f.place.child (.key name), v⟩ := by
  obtain ⟨place, value⟩ := f
  cases value with
  | obj entries =>
    simp only [fields, Json.fields?, Option.getD_some, List.mem_map, Prod.mk.injEq, Prod.exists,
      Json.obj.injEq]
    constructor
    · rintro ⟨k, v, hv, rfl, rfl⟩
      exact ⟨entries, v, rfl, hv, rfl⟩
    · rintro ⟨_, v, rfl, hv, rfl⟩
      exact ⟨name, v, hv, rfl, rfl⟩
  | _ => simp [fields, Json.fields?]

theorem mem_fields_of_field? {f g : Fragment} {key : String} (h : f.field? key = some g) :
    (key, g) ∈ f.fields := by
  obtain ⟨v, hv, rfl⟩ := field?_eq_some_iff.mp h
  obtain ⟨place, value⟩ := f
  cases value with
  | obj fields => exact mem_fields_iff.mpr ⟨fields, v, rfl, Fields.mem_of_get?_eq_some hv, rfl⟩
  | _ => cases hv

theorem map_value_fields (f : Fragment) :
    f.fields.map (fun field => (field.1, field.2.value)) = f.value.fields?.getD [] := by
  rw [fields, List.map_map]
  exact List.map_id _

theorem keys_fields (f : Fragment) :
    f.fields.map Prod.fst = (f.value.fields?.getD []).map Prod.fst := by
  rw [fields, List.map_map]
  rfl

/-- Where no key is repeated, a field is found under its key. -/
theorem field?_of_mem_fields {f g : Fragment} (hwf : f.value.WellFormed) {key : String}
    (h : (key, g) ∈ f.fields) : f.field? key = some g := by
  obtain ⟨fields, v, hf, hv, rfl⟩ := mem_fields_iff.mp h
  rw [hf] at hwf
  refine field?_eq_some_iff.mpr ⟨v, ?_, rfl⟩
  rw [hf]
  exact (Fields.get?_eq_some_iff hwf.1).mpr hv

theorem nodup_fields {f : Fragment} (hwf : f.value.WellFormed) : (f.fields.map Prod.fst).Nodup := by
  rw [keys_fields]
  cases hv : f.value with
  | obj fields =>
    rw [hv] at hwf
    exact hwf.1
  | _ => exact List.nodup_nil

/-- An object that has a field has it among its fields, with the value found there. -/
theorem exists_obj_of_field? {f g : Fragment} {key : String} (h : f.field? key = some g) :
    ∃ fields, f.value = .obj fields ∧ Fields.get? key fields = some g.value := by
  obtain ⟨v, hv, rfl⟩ := field?_eq_some_iff.mp h
  obtain ⟨place, value⟩ := f
  cases value with
  | obj fields => exact ⟨fields, rfl, hv⟩
  | _ => cases hv

/-- In an object, a key leads to a field. -/
theorem step?_of_obj {f : Fragment} {fields : Fields} (h : f.value = .obj fields) (key : String) :
    f.step? key = f.field? key := by
  rw [step?, h]

/-- A walk begins with a step to a field. -/
theorem walk?_of_get? {f : Fragment} {key : String} {v : Json} (h : f.value.get? key = some v)
    (rest : List String) : f.walk? (key :: rest) = walk? ⟨f.place.child (.key key), v⟩ rest := by
  obtain ⟨place, value⟩ := f
  cases value with
  | obj fields =>
    rw [walk?, step?_of_obj rfl, field?, h]
    rfl
  | _ => cases h

/-- The items of a fragment have the items of its value as values. -/
theorem map_value_items (f : Fragment) : f.items.map value = f.value.items?.getD [] := by
  have hfrom : ∀ (vs : List Json) (start : Nat), (itemsFrom f.place start vs).map value = vs := by
    intro vs
    induction vs with
    | nil => exact fun _ => rfl
    | cons v rest ih =>
      intro start
      rw [itemsFrom, List.map_cons, ih]
  exact hfrom _ 0

theorem mem_itemsFrom_iff {place : Place} {start : Nat} {vs : List Json} {g : Fragment} :
    g ∈ itemsFrom place start vs ↔
      ∃ i v, vs[i]? = some v ∧ g = ⟨place.child (.index (start + i)), v⟩ := by
  induction vs generalizing start with
  | nil => simp [itemsFrom]
  | cons w rest ih =>
    rw [itemsFrom, List.mem_cons, ih]
    constructor
    · rintro (rfl | ⟨i, v, hv, rfl⟩)
      · exact ⟨0, w, rfl, rfl⟩
      · exact ⟨i + 1, v, by simpa using hv, by rw [show start + 1 + i = start + (i + 1) by omega]⟩
    · rintro ⟨i, v, hv, rfl⟩
      cases i with
      | zero =>
        left
        simp only [List.getElem?_cons_zero, Option.some.injEq] at hv
        rw [hv, Nat.add_zero]
      | succ i =>
        right
        exact ⟨i, v, by simpa using hv, by rw [show start + 1 + i = start + (i + 1) by omega]⟩

theorem mem_items_iff {f g : Fragment} :
    g ∈ f.items ↔ ∃ vs i v, f.value = .arr vs ∧ vs[i]? = some v ∧
      g = ⟨f.place.child (.index i), v⟩ := by
  obtain ⟨place, value⟩ := f
  cases value <;> simp [items, Json.items?, itemsFrom, mem_itemsFrom_iff]

/-- One fragment is a direct part of another. -/
inductive Part : Fragment → Fragment → Prop
  | field {place : Place} {fields : Fields} {key : String} {v : Json} :
      (key, v) ∈ fields → Part ⟨place.child (.key key), v⟩ ⟨place, .obj fields⟩
  | item {place : Place} {vs : List Json} {i : Nat} {v : Json} :
      vs[i]? = some v → Part ⟨place.child (.index i), v⟩ ⟨place, .arr vs⟩

/-- One fragment is inside another, one or more parts down. -/
abbrev Inside : Fragment → Fragment → Prop := Relation.TransGen Part

theorem part_of_field? {f g : Fragment} {key : String} (h : f.field? key = some g) : Part g f := by
  obtain ⟨v, hv, rfl⟩ := field?_eq_some_iff.mp h
  obtain ⟨place, value⟩ := f
  cases value with
  | obj fields => exact .field (Fields.mem_of_get?_eq_some hv)
  | _ => simp [Json.get?] at hv

theorem part_of_mem_fields {f g : Fragment} {name : String} (h : (name, g) ∈ f.fields) :
    Part g f := by
  obtain ⟨fields, v, hf, hv, rfl⟩ := mem_fields_iff.mp h
  obtain ⟨place, value⟩ := f
  cases hf
  exact .field hv

theorem part_of_mem_items {f g : Fragment} (h : g ∈ f.items) : Part g f := by
  obtain ⟨vs, i, v, hf, hv, rfl⟩ := mem_items_iff.mp h
  obtain ⟨place, value⟩ := f
  cases hf
  exact .item hv

theorem part_of_step? {f g : Fragment} {key : String} (h : f.step? key = some g) : Part g f := by
  obtain ⟨place, value⟩ := f
  cases value with
  | obj fields => exact part_of_field? h
  | arr vs =>
    simp only [step?, Option.bind_eq_bind, Option.bind_eq_some_iff, Option.pure_def,
      Option.some.injEq] at h
    obtain ⟨i, _, v, hv, rfl⟩ := h
    exact .item hv
  | _ => simp [step?] at h

/-- Whatever is kept by direct parts is kept by a walk. -/
theorem walk?_induction {P : Fragment → Prop} (hpart : ∀ f g, Part g f → P f → P g)
    {f g : Fragment} {keys : List String} (h : f.walk? keys = some g) (hf : P f) : P g := by
  induction keys generalizing f with
  | nil =>
    cases h
    exact hf
  | cons key rest ih =>
    simp only [walk?, Option.bind_eq_some_iff] at h
    obtain ⟨g', hstep, hwalk⟩ := h
    exact ih hwalk (hpart f g' (part_of_step? hstep) hf)

theorem Part.wellFormed {f g : Fragment} (h : Part g f) (hf : f.value.WellFormed) :
    g.value.WellFormed := by
  cases h with
  | field hv => exact Json.wellFormed_of_mem_fields hf.2 hv
  | item hv => exact Json.wellFormed_of_mem_items hf (List.mem_of_getElem? hv)

/-- Whatever is kept by direct parts is kept all the way down. -/
theorem Inside.keeps {P : Fragment → Prop} (hpart : ∀ f g, Part g f → P f → P g) {f g : Fragment}
    (h : Inside g f) (hf : P f) : P g := by
  induction h with
  | single hgf => exact hpart _ _ hgf hf
  | tail _ hgf ih => exact ih (hpart _ _ hgf hf)

theorem Inside.wellFormed {f g : Fragment} (h : Inside g f) (hf : f.value.WellFormed) :
    g.value.WellFormed :=
  h.keeps (P := fun f => f.value.WellFormed) (fun _ _ hpart => hpart.wellFormed) hf

/-! ### Object places -/

theorem objectPlaces_subset_of_mem {place : Place} {fields : List (String × Json)} {key : String}
    {v : Json} (h : (key, v) ∈ fields) :
    objectPlaces (place.child (.key key)) v ⊆ objectPlacesOfFields place fields := by
  induction fields with
  | nil => simp at h
  | cons field rest ih =>
    rw [objectPlacesOfFields]
    rcases List.mem_cons.mp h with heq | hmem
    · rw [← heq]
      exact List.subset_append_left _ _
    · exact List.Subset.trans (ih hmem) (List.subset_append_right _ _)

theorem objectPlaces_subset_of_getElem? {place : Place} {start i : Nat} {vs : List Json} {v : Json}
    (h : vs[i]? = some v) :
    objectPlaces (place.child (.index (start + i))) v ⊆ objectPlacesOfItems place start vs := by
  induction vs generalizing start i with
  | nil => simp at h
  | cons w rest ih =>
    rw [objectPlacesOfItems]
    cases i with
    | zero =>
      simp only [List.getElem?_cons_zero, Option.some.injEq] at h
      rw [h]
      exact List.subset_append_left _ _
    | succ i =>
      rw [show start + (i + 1) = start + 1 + i by omega]
      exact List.Subset.trans (ih (by simpa using h)) (List.subset_append_right _ _)

theorem Part.objects_subset {f g : Fragment} (h : Part g f) : g.objects ⊆ f.objects := by
  cases h with
  | field hv =>
    intro p hp
    exact List.mem_cons_of_mem _ (objectPlaces_subset_of_mem hv hp)
  | @item place vs i v hv =>
    have hsub := @objectPlaces_subset_of_getElem? place 0 i vs v hv
    rw [Nat.zero_add] at hsub
    exact hsub

theorem Inside.objects_subset {f g : Fragment} (h : Inside g f) : g.objects ⊆ f.objects := by
  induction h with
  | single hpart => exact hpart.objects_subset
  | tail _ hpart ih => exact List.Subset.trans ih hpart.objects_subset

mutual

/-- The objects inside a value stand at its place or deeper. -/
theorem steps_le_of_mem_objectPlaces {place p : Place} :
    ∀ v, p ∈ objectPlaces place v → place.steps.length ≤ p.steps.length
  | .arr items, h => steps_le_of_mem_objectPlacesOfItems items h
  | .obj fields, h => by
    rcases List.mem_cons.mp h with rfl | h
    · exact Nat.le_refl _
    · exact Nat.le_of_lt (steps_lt_of_mem_objectPlacesOfFields fields h)
  | .null, h => by cases h
  | .bool _, h => by cases h
  | .num _, h => by cases h
  | .str _, h => by cases h

theorem steps_le_of_mem_objectPlacesOfItems {place p : Place} :
    ∀ {start : Nat} items, p ∈ objectPlacesOfItems place start items →
      place.steps.length ≤ p.steps.length
  | _, [], h => by cases h
  | start, v :: rest, h => by
    rcases List.mem_append.mp h with h | h
    · have hle := steps_le_of_mem_objectPlaces v h
      simp only [Place.child, List.length_append, List.length_singleton] at hle
      omega
    · exact steps_le_of_mem_objectPlacesOfItems rest h

theorem steps_lt_of_mem_objectPlacesOfFields {place p : Place} :
    ∀ fields, p ∈ objectPlacesOfFields place fields → place.steps.length < p.steps.length
  | [], h => by cases h
  | (k, v) :: rest, h => by
    rcases List.mem_append.mp h with h | h
    · have hle := steps_le_of_mem_objectPlaces v h
      simp only [Place.child, List.length_append, List.length_singleton] at hle
      omega
    · exact steps_lt_of_mem_objectPlacesOfFields rest h

end

theorem Part.steps_lt {f g : Fragment} (h : Part g f) :
    f.place.steps.length < g.place.steps.length := by
  cases h <;> simp [Place.child]

theorem Inside.steps_lt {f g : Fragment} (h : Inside g f) :
    f.place.steps.length < g.place.steps.length := by
  induction h with
  | single hpart => exact hpart.steps_lt
  | tail _ hpart ih => exact Nat.lt_trans hpart.steps_lt ih

/-- A fragment does not stand inside its own parts. -/
theorem Inside.place_not_mem_objects {f g : Fragment} (h : Inside g f) : f.place ∉ g.objects := by
  intro hmem
  have hle := steps_le_of_mem_objectPlaces g.value hmem
  have hlt := h.steps_lt
  omega

theorem objects_subset_of_walk? {f g : Fragment} {keys : List String}
    (h : f.walk? keys = some g) : g.objects ⊆ f.objects :=
  @walk?_induction (fun h => h.objects ⊆ f.objects)
    (fun _ _ hpart hsub => List.Subset.trans hpart.objects_subset hsub) f g keys h
    (List.Subset.refl _)

theorem place_mem_objects {f : Fragment} {fields : Fields} (h : f.value = .obj fields) :
    f.place ∈ f.objects := by
  rw [objects, h]
  exact List.mem_cons_self

/-! ### Keys of references -/

theorem referenceKeys_subset_of_mem {fields : List (String × Json)} {key : String} {v : Json}
    (h : (key, v) ∈ fields) : v.referenceKeys ⊆ Json.referenceKeysOfFields fields := by
  induction fields with
  | nil => simp at h
  | cons field rest ih =>
    rw [Json.referenceKeysOfFields]
    rcases List.mem_cons.mp h with heq | hmem
    · rw [← heq]
      exact List.subset_append_left _ _
    · exact List.Subset.trans (ih hmem) (List.subset_append_right _ _)

theorem referenceKeys_subset_of_getElem? {i : Nat} {vs : List Json} {v : Json}
    (h : vs[i]? = some v) : v.referenceKeys ⊆ Json.referenceKeysOfItems vs := by
  induction vs generalizing i with
  | nil => simp at h
  | cons w rest ih =>
    rw [Json.referenceKeysOfItems]
    cases i with
    | zero =>
      simp only [List.getElem?_cons_zero, Option.some.injEq] at h
      rw [h]
      exact List.subset_append_left _ _
    | succ i => exact List.Subset.trans (ih (by simpa using h)) (List.subset_append_right _ _)

theorem Part.referenceKeys_subset {f g : Fragment} (h : Part g f) :
    g.value.referenceKeys ⊆ f.value.referenceKeys := by
  cases h with
  | @field place fields key v hv =>
    have hsub := referenceKeys_subset_of_mem hv
    simp only [Json.referenceKeys]
    split
    · exact List.Subset.trans hsub (List.subset_cons_self _ _)
    · exact hsub
  | item hv => exact referenceKeys_subset_of_getElem? hv

theorem referenceKeys_subset_of_walk? {f g : Fragment} {keys : List String}
    (h : f.walk? keys = some g) : g.value.referenceKeys ⊆ f.value.referenceKeys :=
  @walk?_induction (fun h => h.value.referenceKeys ⊆ f.value.referenceKeys)
    (fun _ _ hpart hsub => List.Subset.trans hpart.referenceKeys_subset hsub) f g keys h
    (List.Subset.refl _)

/-- Whether a value is a reference is seen from one field. -/
theorem reference?_of_get?_eq {v w : Json} (h : v.get? "$ref" = w.get? "$ref") :
    v.reference? = w.reference? := by
  rw [Json.reference?, Json.reference?, Json.strAt?, Json.strAt?, h]

theorem reference?_of_get?_eq_none {v : Json} (h : v.get? "$ref" = none) : v.reference? = none := by
  rw [Json.reference?, Json.strAt?, h]
  rfl

/-- A reference is among the references at and below it. -/
theorem keys_mem_referenceKeys {v : Json} {pointer : String} (h : v.reference? = some pointer) :
    Pointer.keys pointer ∈ v.referenceKeys := by
  cases v with
  | obj fields =>
    have h' : (Fields.get? "$ref" fields).bind Json.str? = some pointer := h
    simp only [Json.referenceKeys, h']
    exact List.mem_cons_self
  | _ => simp [Json.reference?, Json.strAt?, Json.get?] at h

end Fragment

end ApiGraph
