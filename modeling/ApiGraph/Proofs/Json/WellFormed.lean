import ApiGraph.Proofs.Json.Fields

/-!
# Well-formed values

A value is well-formed if no object in it repeats a key. That is so of an object if its own
keys are distinct and its fields are well-formed, and whatever the operations on fields make
of such an object is well-formed again.
-/

namespace ApiGraph.Json

theorem wellFormed_arr_iff {items : List Json} :
    (arr items).WellFormed ↔ ∀ v ∈ items, v.WellFormed := by
  constructor
  · exact fun h v hv => wellFormed_of_mem_items h hv
  · intro h
    show AllWellFormed items
    induction items with
    | nil => trivial
    | cons v rest ih =>
      exact ⟨h v List.mem_cons_self, ih fun w hw => h w (List.mem_cons_of_mem _ hw)⟩

theorem wellFormed_obj_iff {fields : Fields} :
    (obj fields).WellFormed ↔
      (fields.map Prod.fst).Nodup ∧ ∀ field ∈ fields, field.2.WellFormed := by
  show (fields.map Prod.fst).Nodup ∧ FieldsWellFormed fields ↔ _
  refine and_congr_right' ⟨fun h field hfield => wellFormed_of_mem_fields h hfield, fun h => ?_⟩
  induction fields with
  | nil => trivial
  | cons field rest ih =>
    exact ⟨h field List.mem_cons_self, ih fun f hf => h f (List.mem_cons_of_mem _ hf)⟩

theorem WellFormed.get? {v w : Json} {key : String} (h : v.WellFormed) (hw : v.get? key = some w) :
    w.WellFormed := by
  cases v with
  | obj fields => exact wellFormed_of_mem_fields h.2 (Fields.mem_of_get?_eq_some hw)
  | _ => cases hw

variable {fields : Fields} {key : String} {v : Json}

theorem WellFormed.erase (h : (obj fields).WellFormed) : (obj (fields.erase key)).WellFormed :=
  wellFormed_obj_iff.mpr ⟨Fields.nodup_erase h.1, fun field hfield =>
    (wellFormed_obj_iff.mp h).2 field (Fields.mem_of_mem_erase hfield)⟩

theorem WellFormed.erases {keys : List String} (h : (obj fields).WellFormed) :
    (obj (fields.erases keys)).WellFormed := by
  induction keys generalizing fields with
  | nil => exact h
  | cons k rest ih => exact ih h.erase

theorem WellFormed.insert (h : (obj fields).WellFormed) (hv : v.WellFormed) :
    (obj (fields.insert key v)).WellFormed := by
  refine wellFormed_obj_iff.mpr ⟨Fields.nodup_insert h.1, fun field hfield => ?_⟩
  rcases Fields.mem_insert hfield with rfl | hold
  · exact hv
  · exact (wellFormed_obj_iff.mp h).2 field hold

/-- Objects whose keys have nothing in common can be put together. -/
theorem WellFormed.append {others : Fields} (h : (obj fields).WellFormed)
    (hothers : (obj others).WellFormed)
    (hapart : ∀ k ∈ fields.map Prod.fst, k ∉ others.map Prod.fst) :
    (obj (fields ++ others)).WellFormed := by
  rw [wellFormed_obj_iff] at h hothers ⊢
  rw [List.map_append, List.nodup_append]
  refine ⟨⟨h.1, hothers.1, fun k hk k' hk' heq => hapart k hk (heq ▸ hk')⟩, fun field hfield => ?_⟩
  exact (List.mem_append.mp hfield).elim (h.2 field) (hothers.2 field)

theorem wellFormed_singleton (hv : v.WellFormed) : (obj [(key, v)]).WellFormed :=
  ⟨by simp, hv, trivial⟩

theorem WellFormed.insertNew (h : (obj fields).WellFormed) (hv : v.WellFormed) :
    (obj (fields.insertNew key v)).WellFormed := by
  rw [Fields.insertNew]
  split
  · exact h
  · next hnew =>
    refine h.append (wellFormed_singleton hv) fun k hk hsame => ?_
    rw [List.map_singleton, List.mem_singleton] at hsame
    subst hsame
    rw [Fields.contains, Bool.not_eq_true, Option.isSome_eq_false_iff,
      Option.isNone_iff_eq_none] at hnew
    exact Fields.get?_eq_none_iff.mp hnew hk

/-- Fields may be changed, each by itself. -/
theorem WellFormed.mapFields {f : String → Json → Json} (h : (obj fields).WellFormed)
    (hf : ∀ k v, v.WellFormed → (f k v).WellFormed) :
    (obj (fields.map fun field => (field.1, f field.1 field.2))).WellFormed := by
  rw [wellFormed_obj_iff] at h ⊢
  refine ⟨?_, ?_⟩
  · rw [List.map_map]
    exact h.1
  · rintro _ hfield
    obtain ⟨⟨k, v⟩, hv, rfl⟩ := List.mem_map.mp hfield
    exact hf k v (h.2 _ hv)

theorem WellFormed.modify {f : Json → Json} (h : (obj fields).WellFormed)
    (hf : ∀ v, v.WellFormed → (f v).WellFormed) : (obj (fields.modify key f)).WellFormed := by
  refine h.mapFields (f := fun k v => if k = key then f v else v) fun k v hv => ?_
  split
  · exact hf v hv
  · exact hv

theorem WellFormed.filter {p : String × Json → Bool} (h : (obj fields).WellFormed) :
    (obj (fields.filter p)).WellFormed := by
  rw [wellFormed_obj_iff] at h ⊢
  exact ⟨h.1.sublist (List.filter_sublist.map _), fun field hfield =>
    h.2 field (List.mem_filter.mp hfield).1⟩

theorem wellFormed_ofList {entries : Fields} (h : ∀ entry ∈ entries, entry.2.WellFormed) :
    (obj (Fields.ofList entries)).WellFormed := by
  have hfold : ∀ start : Fields, (obj start).WellFormed →
      (obj (entries.foldl (fun fields entry => Fields.insert entry.1 entry.2 fields)
        start)).WellFormed := by
    induction entries with
    | nil => exact fun _ hstart => hstart
    | cons entry rest ih =>
      exact fun start hstart => ih (fun e he => h e (List.mem_cons_of_mem _ he)) _
        (hstart.insert (h entry List.mem_cons_self))
  exact hfold [] ⟨List.nodup_nil, trivial⟩

end ApiGraph.Json
