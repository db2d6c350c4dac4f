import ApiGraph.Proofs.Legacy.WellFormed

/-!
# Nothing legacy is left

Rewriting takes the extension for null out of an object, and the object may get its value back
under another key, wherever the last field stood. That value can be anything, with extensions and
pointers of its own. It has been rewritten by then like every other field, so at no depth an object
is left with the extension or with a pointer into a section that has moved.

A value in which neither stands is not changed, so rewriting twice is rewriting once.
-/

namespace ApiGraph.Legacy

open Json

/-! ### Pointers -/

/-- The new sections all lie below the components, where no old section lies. -/
theorem not_legacy_of_mem_sections {old new : String} (h : (old, new) ∈ sections) (rest : String) :
    ¬ IsLegacyPointer (new ++ rest) := by
  have hnew : ∃ name, new = "#/components/" ++ name := by
    simp only [sections, List.mem_cons, Prod.mk.injEq, List.not_mem_nil, or_false] at h
    rcases h with ⟨_, rfl⟩ | ⟨_, rfl⟩ | ⟨_, rfl⟩
    · exact ⟨"schemas/", rfl⟩
    · exact ⟨"parameters/", rfl⟩
    · exact ⟨"responses/", rfl⟩
  obtain ⟨name, rfl⟩ := hnew
  rintro ⟨old', new', rest', hmem, heq⟩
  have hchars := congrArg String.toList heq
  simp only [sections, List.mem_cons, Prod.mk.injEq, List.not_mem_nil, or_false] at hmem
  rcases hmem with ⟨rfl, _⟩ | ⟨rfl, _⟩ | ⟨rfl, _⟩ <;> simp [String.toList_append] at hchars

theorem not_legacy_retarget (pointer : String) : ¬ IsLegacyPointer (retarget pointer) := by
  by_cases h : IsLegacyPointer pointer
  · obtain ⟨old, new, rest, hmem, rfl⟩ := h
    rw [retarget_append old hmem]
    exact not_legacy_of_mem_sections hmem rest
  · rw [retarget_of_not_legacy h]
    exact h

/-! ### Rewritten values -/

section Values

variable {fields : Fields}

/-- Every field of an object in which the extension has been promoted is one of the old fields
other than the extension, or is the keyword with the value of the extension. -/
theorem mem_promoteNullable (hnodup : (fields.map Prod.fst).Nodup) {field : String × Json}
    (h : field ∈ promoteNullable fields) :
    (field ∈ fields ∧ field.1 ≠ "x-nullable") ∨
      ∃ flag, ("x-nullable", flag) ∈ fields ∧ field = ("nullable", flag) := by
  cases hold : fields.get? "x-nullable" with
  | none =>
    rw [promoteNullable_of_none hold] at h
    refine Or.inl ⟨h, ?_⟩
    intro heq
    exact Fields.get?_eq_none_iff.mp hold (heq ▸ List.mem_map_of_mem h)
  | some flag =>
    have hkept : field ∈ fields.erase "x-nullable" → field ∈ fields ∧ field.1 ≠ "x-nullable" :=
      fun hmem => ⟨Fields.mem_of_mem_erase hmem, Fields.ne_of_mem_erase hnodup hmem⟩
    rw [promoteNullable, hold] at h
    simp only [Fields.insertNew] at h
    split at h
    · exact Or.inl (hkept h)
    · rcases List.mem_append.mp h with hmem | hnew
      · exact Or.inl (hkept hmem)
      · exact Or.inr ⟨flag, Fields.mem_of_get?_eq_some hold, List.mem_singleton.mp hnew⟩

/-- A field under `$ref` is a rewritten pointer, or no pointer at all. -/
theorem exists_of_mem_modernizeFields {pointer : String}
    (h : ("$ref", .str pointer) ∈ modernizeFields fields) : ∃ old, pointer = retarget old := by
  rw [modernizeFields_eq_map] at h
  obtain ⟨⟨key, v⟩, _, heq⟩ := List.mem_map.mp h
  obtain ⟨rfl, hv⟩ := Prod.mk.inj heq
  have hstr := retargetField_ref (modernize v)
  rw [hv] at hstr
  obtain ⟨old, _, hold⟩ := Option.map_eq_some_iff.mp hstr.symm
  exact ⟨old, hold.symm⟩

/-- An object whose fields have been rewritten is modern as soon as the extension is promoted. -/
theorem everyObject_promoteNullable (hnodup : (fields.map Prod.fst).Nodup)
    (h : EveryObjectOfFields Modern (modernizeFields fields)) :
    (obj (promoteNullable (modernizeFields fields))).EveryObject Modern := by
  have hcases := @mem_promoteNullable (modernizeFields fields) (nodup_modernizeFields hnodup)
  refine everyObject_obj_iff.mpr ⟨⟨?_, ?_⟩, ?_⟩
  · intro hmem
    obtain ⟨field, hfield, hkey⟩ := List.mem_map.mp hmem
    rcases hcases hfield with ⟨_, hne⟩ | ⟨_, _, rfl⟩
    · exact hne hkey
    · simp at hkey
  · intro pointer hmem
    rcases hcases hmem with ⟨hold, _⟩ | ⟨flag, _, heq⟩
    · obtain ⟨old, rfl⟩ := exists_of_mem_modernizeFields hold
      exact not_legacy_retarget old
    · simp at heq
  · intro key v hmem
    rcases hcases hmem with ⟨hold, _⟩ | ⟨flag, hold, heq⟩
    · exact everyObject_of_mem_fields h hold
    · cases heq
      exact everyObject_of_mem_fields h hold

theorem everyObject_retargetField {p : Fields → Prop} {key : String} {v : Json}
    (h : v.EveryObject p) : (retargetField key v).EveryObject p := by
  cases v with
  | str pointer =>
    rw [retargetField]
    split <;> trivial
  | _ => exact h

end Values

mutual

theorem everyObject_modernize : ∀ {v : Json}, v.WellFormed → (modernize v).EveryObject Modern
  | .arr _, h => everyObject_modernizeItems h
  | .obj _, h => everyObject_promoteNullable h.1 (everyObject_modernizeFields h.2)
  | .null, _ => trivial
  | .bool _, _ => trivial
  | .num _, _ => trivial
  | .str _, _ => trivial

theorem everyObject_modernizeItems : ∀ {items : List Json},
    AllWellFormed items → EveryObjectOfItems Modern (modernizeItems items)
  | [], _ => trivial
  | _ :: _, h => ⟨everyObject_modernize h.1, everyObject_modernizeItems h.2⟩

theorem everyObject_modernizeFields : ∀ {fields : Fields},
    FieldsWellFormed fields → EveryObjectOfFields Modern (modernizeFields fields)
  | [], _ => trivial
  | (_, _) :: _, h =>
    ⟨everyObject_retargetField (everyObject_modernize h.1), everyObject_modernizeFields h.2⟩

end

/-! ### Upgraded documents -/

/-- **Rewriting is complete and idempotent.**  An upgraded document has at no depth an object with
the extension for null or with a pointer that begins like one into a section that has moved; and no
value is changed by rewriting it a second time, not even in the order of its keys. -/
theorem modern_upgrade_and_modernize_idempotent :
    (∀ (version : String) (doc : Fields), (obj doc).WellFormed →
      (upgrade version doc).EveryObject Modern) ∧
    ∀ v : Json, v.WellFormed → modernize (modernize v) = modernize v := by
  constructor
  · intro version doc hdoc
    rw [upgrade_eq]
    exact everyObject_modernize (wellFormed_assembled hdoc)
  · intro v hv
    exact modernize_of_modern (everyObject_modernize hv)

/-- A document in which an extension holds an object with an extension and a pointer. -/
def nestedDocument : Fields :=
  [("swagger", .str "2.0"),
   ("x-nullable", .obj [("x-nullable", .bool true), ("$ref", .str "#/definitions/Tag")]),
   ("definitions", .obj [("Tag", .obj [("x-nullable", .bool true), ("type", .str "string"),
     ("nullable", .bool false)])]),
   ("paths", .obj [])]

/-- The value of the extension moves to the end of the document and is rewritten there. -/
theorem modern_upgrade_of_nestedDocument :
    (obj nestedDocument).WellFormed ∧ (upgrade "3.0.0" nestedDocument).EveryObject Modern ∧
    modernize (modernize (.obj nestedDocument)) = modernize (.obj nestedDocument) ∧
    upgrade "3.0.0" nestedDocument = .obj
      [("openapi", .str "3.0.0"),
       ("paths", .obj []),
       ("components", .obj [("schemas", .obj [("Tag", .obj [("nullable", .bool false),
         ("type", .str "string")])])]),
       ("nullable", .obj [("$ref", .str "#/components/schemas/Tag"), ("nullable", .bool true)])] := by
  have hdoc : (obj nestedDocument).WellFormed := by
    simp [nestedDocument, WellFormed, FieldsWellFormed]
  exact ⟨hdoc, modern_upgrade_and_modernize_idempotent.1 _ _ hdoc,
    modern_upgrade_and_modernize_idempotent.2 _ hdoc, rfl⟩

end ApiGraph.Legacy
