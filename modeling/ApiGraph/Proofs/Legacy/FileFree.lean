import ApiGraph.Proofs.Fragment.Objects
import ApiGraph.Proofs.Legacy.Forms

/-!
# Values without files

The upgrade moves values and puts them together anew. No step of that makes a file out of what is
none, and the property of a form field is no file even if the field is one.
-/

namespace ApiGraph.Legacy

open Json

/-! ### Values without files -/

/-- No object at and below a value is of the type of files. -/
def FileFree (v : Json) : Prop := v.EveryObject fun fields => ("type", .str "file") ∉ fields

/-- A field that is not the type of files, and has none below it. -/
structure Harmless (key : String) (v : Json) : Prop where
  other : key = "type" → v ≠ .str "file"
  value : FileFree v

theorem harmless_of_ne {key : String} {v : Json} (hkey : key ≠ "type") (h : FileFree v) :
    Harmless key v :=
  ⟨fun heq => absurd heq hkey, h⟩

theorem harmless_obj {key : String} {fields : Fields} (h : FileFree (.obj fields)) :
    Harmless key (.obj fields) :=
  ⟨fun _ => by simp, h⟩

section Values

variable {fields : Fields} {key : String} {v w : Json}

theorem fileFree_arr_iff {items : List Json} : FileFree (.arr items) ↔ ∀ v ∈ items, FileFree v :=
  everyObject_arr_iff

theorem fileFree_obj_iff :
    FileFree (.obj fields) ↔ ∀ key v, (key, v) ∈ fields → Harmless key v := by
  rw [FileFree, everyObject_obj_iff]
  constructor
  · rintro ⟨hself, hall⟩ key v hv
    refine ⟨?_, hall key v hv⟩
    rintro rfl rfl
    exact hself hv
  · exact fun h => ⟨fun hmem => (h _ _ hmem).other rfl rfl, fun key v hv => (h key v hv).value⟩

theorem fileFree_nil : FileFree (.obj []) :=
  fileFree_obj_iff.mpr fun _ _ h => absurd h List.not_mem_nil

theorem FileFree.get? (h : FileFree v) (hw : v.get? key = some w) : FileFree w := by
  cases v with
  | obj fields => exact (fileFree_obj_iff.mp h key w (Fields.mem_of_get?_eq_some hw)).value
  | _ => cases hw

/-- What has only fields of an object without files has none. -/
theorem FileFree.of_subset {others : Fields} (h : FileFree (.obj fields))
    (hsub : ∀ field ∈ others, field ∈ fields) : FileFree (.obj others) :=
  fileFree_obj_iff.mpr fun k w hw => fileFree_obj_iff.mp h k w (hsub _ hw)

theorem FileFree.erase (h : FileFree (.obj fields)) : FileFree (.obj (fields.erase key)) :=
  h.of_subset fun _ => Fields.mem_of_mem_erase

theorem FileFree.insert (h : FileFree (.obj fields)) (hv : Harmless key v) :
    FileFree (.obj (fields.insert key v)) := by
  refine fileFree_obj_iff.mpr fun k w hw => ?_
  rcases Fields.mem_insert hw with heq | hold
  · cases heq
    exact hv
  · exact fileFree_obj_iff.mp h k w hold

theorem FileFree.append {others : Fields} (h : FileFree (.obj fields))
    (hothers : FileFree (.obj others)) : FileFree (.obj (fields ++ others)) :=
  fileFree_obj_iff.mpr fun k w hw => (List.mem_append.mp hw).elim (fileFree_obj_iff.mp h k w)
    (fileFree_obj_iff.mp hothers k w)

theorem fileFree_singleton (hv : Harmless key v) : FileFree (.obj [(key, v)]) := by
  refine fileFree_obj_iff.mpr fun k w hw => ?_
  cases List.mem_singleton.mp hw
  exact hv

theorem fileFree_ofList {entries : Fields} (h : ∀ key v, (key, v) ∈ entries → Harmless key v) :
    FileFree (.obj (Fields.ofList entries)) :=
  fileFree_obj_iff.mpr fun k w hw => h k w (Fields.mem_ofList hw)

theorem FileFree.modify {f : Json → Json} (h : FileFree (.obj fields)) (hkey : key ≠ "type")
    (hf : ∀ v, FileFree v → FileFree (f v)) : FileFree (.obj (fields.modify key f)) := by
  refine fileFree_obj_iff.mpr fun k w hw => ?_
  obtain ⟨u, hu, rfl⟩ := Fields.mem_modify hw
  have hold := fileFree_obj_iff.mp h k u hu
  split
  · next heq => exact harmless_of_ne (heq ▸ hkey) (hf u hold.value)
  · exact hold

/-- A conversion that makes a text of nothing else makes no field the type of files. -/
theorem Harmless.convert {f : Json → Json} (h : Harmless key v)
    (hf : FileFree v → FileFree (f v)) (hstr : ∀ s, f v = .str s → v = .str s) :
    Harmless key (f v) :=
  ⟨fun hkey heq => h.other hkey (hstr _ heq), hf h.value⟩

/-- The values of an object may be converted, each by itself. -/
theorem FileFree.mapValues {f : Json → Json} (h : FileFree (.obj fields))
    (hf : ∀ v, FileFree v → FileFree (f v)) (hstr : ∀ v s, f v = .str s → v = .str s) :
    FileFree (.obj (fields.map fun field => (field.1, f field.2))) := by
  refine fileFree_obj_iff.mpr fun k w hw => ?_
  obtain ⟨⟨name, u⟩, hu, heq⟩ := List.mem_map.mp hw
  cases heq
  exact (fileFree_obj_iff.mp h name u hu).convert (hf u) (hstr u)

end Values

/-! ### Rewriting -/

theorem harmless_retargetField {key : String} {v : Json} (h : Harmless key v) :
    Harmless key (retargetField key v) := by
  cases v with
  | str pointer =>
    rw [retargetField]
    split
    · next heq => exact harmless_of_ne (heq ▸ by decide) trivial
    · exact h
  | _ => exact h

theorem fileFree_promoteNullable {fields : Fields} (h : FileFree (.obj fields)) :
    FileFree (.obj (promoteNullable fields)) := by
  rw [promoteNullable]
  split
  · exact h
  · next flag hflag =>
    rw [Fields.insertNew]
    split
    · exact h.erase
    · exact h.erase.append
        (fileFree_singleton (harmless_of_ne (by decide) (h.get? (v := .obj fields) hflag)))

mutual

theorem fileFree_modernize : ∀ {v : Json}, FileFree v → FileFree (modernize v)
  | .arr _, h => fileFree_arr_iff.mpr (fileFree_modernizeItems (fileFree_arr_iff.mp h))
  | .obj _, h => fileFree_promoteNullable
      (fileFree_obj_iff.mpr (harmless_modernizeFields (fileFree_obj_iff.mp h)))
  | .null, h => h
  | .bool _, h => h
  | .num _, h => h
  | .str _, h => h

theorem fileFree_modernizeItems : ∀ {items : List Json}, (∀ v ∈ items, FileFree v) →
    ∀ w ∈ modernizeItems items, FileFree w
  | [], _ => fun _ hw => absurd hw List.not_mem_nil
  | _ :: _, h => List.forall_mem_cons.mpr ⟨fileFree_modernize (h _ List.mem_cons_self),
      fileFree_modernizeItems fun v hv => h v (List.mem_cons_of_mem _ hv)⟩

theorem harmless_modernizeFields : ∀ {fields : Fields},
    (∀ key v, (key, v) ∈ fields → Harmless key v) →
      ∀ key w, (key, w) ∈ modernizeFields fields → Harmless key w
  | [], _ => fun _ _ hw => absurd hw List.not_mem_nil
  | (k, v) :: rest, h => by
    intro key w hw
    rcases List.mem_cons.mp hw with heq | hw
    · cases heq
      refine harmless_retargetField ((h k v List.mem_cons_self).convert fileFree_modernize ?_)
      intro s hs
      cases v <;> cases hs
      rfl
    · exact harmless_modernizeFields (fun k v hv => h k v (List.mem_cons_of_mem _ hv)) key w hw

end

/-! ### Conversions -/

section Conversions

variable {fields : Fields} {v : Json}

theorem convertParameter_eq_str {s : String} (h : convertParameter v = .str s) : v = .str s := by
  cases v with
  | obj fields =>
    rw [convertParameter] at h
    split at h <;> cases h
  | _ => exact h

theorem fileFree_inlineSchema (h : FileFree (.obj fields)) :
    FileFree (.obj (inlineSchema fields)) :=
  h.of_subset fun _ hfield => Fields.mem_of_get?_eq_some (mem_inlineSchema_iff.mp hfield).2

theorem fileFree_convertParameter (h : FileFree v) : FileFree (convertParameter v) := by
  cases v with
  | obj fields =>
    have hbare : FileFree (.obj (bareParameter fields)) := by
      have hleft : FileFree
          (.obj ((Fields.erases schemaKeywords fields).erase "collectionFormat")) :=
        h.of_subset fun _ hfield => Fields.mem_of_mem_erases (Fields.mem_of_mem_erase hfield)
      rw [bareParameter]
      split
      · exact hleft.insert (harmless_of_ne (by decide) trivial)
      · exact hleft
    rw [convertParameter]
    split
    · exact h
    · rw [liftSchema_eq]
      split
      · exact hbare
      · exact hbare.insert (harmless_obj (fileFree_inlineSchema h))
  | _ => exact h

theorem fileFree_contentOf {mimes : List String} {media : String → Json}
    (h : ∀ mime, ∃ fields, media mime = .obj fields ∧ FileFree (.obj fields)) :
    FileFree (contentOf mimes media) := by
  refine fileFree_ofList fun key v hv => ?_
  obtain ⟨mime, _, heq⟩ := List.mem_map.mp hv
  obtain ⟨fields, hmedia, hfree⟩ := h mime
  cases heq
  rw [hmedia]
  exact harmless_obj hfree

theorem fileFree_kept {key : String} (h : FileFree (.obj fields)) :
    FileFree (.obj (kept fields key)) := by
  refine h.of_subset fun field hfield => ?_
  rw [kept, Option.mem_toList, Option.map_eq_some_iff] at hfield
  obtain ⟨w, hw, rfl⟩ := hfield
  exact Fields.mem_of_get?_eq_some hw

theorem fileFree_requestBody (consumes : List String) (h : FileFree v) :
    FileFree (requestBody consumes v) := by
  cases v with
  | obj fields =>
    have hschema : FileFree (bodySchema fields) := by
      rw [bodySchema]
      cases hget : Fields.get? "schema" fields with
      | none => exact fileFree_nil
      | some schema => exact h.get? (v := .obj fields) hget
    have hcontent : FileFree (contentOf (effective consumes) fun _ =>
        .obj [("schema", bodySchema fields)]) :=
      fileFree_contentOf fun _ => ⟨_, rfl, fileFree_singleton (harmless_of_ne (by decide) hschema)⟩
    exact ((fileFree_kept h).append (fileFree_kept h)).append
      (fileFree_singleton (harmless_of_ne (by decide) hcontent))
  | _ => exact h

/-- Of a form field that holds no file the property is no file, whatever the field is. -/
theorem fileFree_of_isProperty {property : String × Json} (h : IsProperty v property)
    (hheld : ∀ key w, v.get? key = some w → FileFree w) : FileFree property.2 := by
  obtain ⟨schema, hobj, hnodup, hget⟩ := h.schema
  rw [hobj]
  refine fileFree_obj_iff.mpr fun key w hw => ?_
  have hkeyword := hget key
  rw [(Fields.get?_eq_some_iff hnodup).mpr hw, propertyKeyword?] at hkeyword
  split at hkeyword
  · cases hkeyword
    exact ⟨fun _ => by simp, trivial⟩
  split at hkeyword
  · next hformat =>
    cases hkeyword
    exact harmless_of_ne (hformat.2 ▸ by decide) trivial
  split at hkeyword
  · next hfile _ _ =>
    refine ⟨?_, hheld key w hkeyword.symm⟩
    rintro rfl rfl
    exact hfile ⟨strAt?_eq_some_iff.mpr hkeyword.symm, rfl⟩
  · cases hkeyword

/-- What a form field may hold. -/
def HoldsNoFile (v : Json) : Prop := v.WellFormed ∧ ∀ key w, v.get? key = some w → FileFree w

theorem fileFree_formBody (consumes : List String) {form : List Json}
    (h : ∀ v ∈ form, HoldsNoFile v) : FileFree (formBody consumes form) := by
  have hproperties : FileFree (.obj (formProperties form)) := by
    refine fileFree_obj_iff.mpr fun name w hw => ?_
    obtain ⟨v, hv, field, hfield, _, rfl⟩ := exists_of_mem_formProperties hw
    have hproperty := isProperty_of_formField? (h v hv).1 hfield
    obtain ⟨schema, (hobj : field.schema = .obj schema), _⟩ := hproperty.schema
    have hfree : FileFree field.schema := fileFree_of_isProperty hproperty (h v hv).2
    rw [hobj] at hfree ⊢
    exact harmless_obj hfree
  have hrequired : FileFree (.arr (formRequired form)) := by
    refine fileFree_arr_iff.mpr fun v hv => ?_
    have hstr := isStr_of_mem_formRequired hv
    cases v with
    | str s => trivial
    | _ => cases hstr
  have hschema : FileFree (.obj (formSchema (formProperties form) (formRequired form))) := by
    refine FileFree.append ?_ ?_
    · refine fileFree_obj_iff.mpr fun key w hw => ?_
      rcases List.mem_cons.mp hw with heq | hw
      · cases heq
        exact ⟨fun _ => by simp, trivial⟩
      · cases List.mem_singleton.mp hw
        exact harmless_obj hproperties
    · split
      · exact fileFree_nil
      · exact fileFree_singleton (harmless_of_ne (by decide) hrequired)
  rw [formBody_eq]
  exact fileFree_singleton (harmless_obj (fileFree_singleton (harmless_obj
    (fileFree_singleton (harmless_obj hschema)))))

theorem fileFree_convertHeaders (h : FileFree v) : FileFree (convertHeaders v) := by
  cases v with
  | obj headers =>
    exact h.mapValues (fun _ => fileFree_convertParameter) fun _ _ => convertParameter_eq_str
  | _ => exact h

theorem convertResponse_eq_str {produces : List String} {s : String}
    (h : convertResponse produces v = .str s) : v = .str s := by
  cases v with
  | obj fields =>
    rw [convertResponse] at h
    split at h <;> cases h
  | _ => exact h

theorem fileFree_convertResponse (produces : List String) (h : FileFree v) :
    FileFree (convertResponse produces v) := by
  cases v with
  | obj fields =>
    have hfilled : FileFree (.obj (filledResponse produces fields)) := by
      rw [filledResponse]
      split
      · exact h.erase
      · next schema hschema =>
        have hmoved : FileFree schema :=
          FileFree.get? (v := .obj (Fields.erase "examples" fields)) h.erase hschema
        refine h.erase.erase.insert (harmless_of_ne (by decide) (fileFree_contentOf fun mime => ?_))
        refine ⟨_, rfl, (fileFree_singleton (harmless_of_ne (by decide) hmoved)).append ?_⟩
        split
        · next sample hsample =>
          obtain ⟨examples, hexamples, hget⟩ := Option.bind_eq_some_iff.mp hsample
          exact fileFree_singleton (harmless_of_ne (by decide)
            ((h.get? (v := .obj fields) hexamples).get? hget))
        · exact fileFree_nil
    rw [convertResponse]
    split
    · exact h
    · rw [liftContent_eq]
      exact hfilled.modify (by decide) fun _ => fileFree_convertHeaders
  | _ => exact h

theorem fileFree_convertResponses (produces : List String) (h : FileFree v) :
    FileFree (convertResponses produces v) := by
  cases v with
  | obj entries =>
    exact h.mapValues (fun _ => fileFree_convertResponse _) fun _ _ => convertResponse_eq_str
  | _ => exact h

end Conversions

end ApiGraph.Legacy
