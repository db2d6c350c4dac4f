import ApiGraph.Legacy.Keywords
import ApiGraph.Proofs.Fragment.Objects
import ApiGraph.Proofs.Schema.Descriptor

/-!
# Laws of the legacy keywords

Rewriting the legacy keywords changes an object in two ways only: a string under `$ref` is
pointed elsewhere, and a field under `x-nullable` gives its value to `nullable`. Every other
key is still there and holds the rewritten value.

A descriptor does not see the difference. The readers of its keywords look at scalars, at
lists of strings and at objects of one key, and they find the same in a rewritten value; so
apart from the three keywords that hold data, the descriptor of a rewritten object is the
old one with the flag put in.
-/

namespace ApiGraph

namespace Legacy

open Outcome

/-! ### Rewritten objects -/

theorem modernizeFields_eq_map (fields : Fields) :
    modernizeFields fields =
      fields.map fun field => (field.1, retargetField field.1 (modernize field.2)) := by
  induction fields with
  | nil => rfl
  | cons field rest ih => rw [modernizeFields, ih, List.map_cons]

theorem modernizeItems_eq_map (items : List Json) : modernizeItems items = items.map modernize := by
  induction items with
  | nil => rfl
  | cons v rest ih => rw [modernizeItems, ih, List.map_cons]

theorem get?_modernizeFields (key : String) (fields : Fields) :
    Fields.get? key (modernizeFields fields) =
      (fields.get? key).map fun v => retargetField key (modernize v) := by
  rw [modernizeFields_eq_map]
  exact Fields.get?_map (fun k v => retargetField k (modernize v)) fields

theorem keys_modernizeFields (fields : Fields) :
    (modernizeFields fields).map Prod.fst = fields.map Prod.fst := by
  rw [modernizeFields_eq_map, List.map_map]
  rfl

theorem nodup_modernizeFields {fields : Fields} (h : (fields.map Prod.fst).Nodup) :
    ((modernizeFields fields).map Prod.fst).Nodup := by
  rw [keys_modernizeFields]
  exact h

theorem promoteNullable_of_none {fields : Fields} (h : fields.get? "x-nullable" = none) :
    promoteNullable fields = fields := by
  rw [promoteNullable, h]

theorem promoteNullable_of_some {fields : Fields} (hnodup : (fields.map Prod.fst).Nodup)
    {flag : Json} (hflag : fields.get? "x-nullable" = some flag)
    (hnone : fields.get? "nullable" = none) :
    promoteNullable fields = fields.erase "x-nullable" ++ [("nullable", flag)] := by
  have hgone : (fields.erase "x-nullable").get? "nullable" = none := by
    rw [Fields.get?_erase_of_ne hnodup (by decide)]
    exact hnone
  rw [promoteNullable, hflag]
  simp [Fields.insertNew, Fields.contains, hgone]

theorem get?_nullable_promoteNullable {fields : Fields} (hnodup : (fields.map Prod.fst).Nodup)
    {flag : Json} (hflag : fields.get? "x-nullable" = some flag)
    (hnone : fields.get? "nullable" = none) :
    Fields.get? "nullable" (promoteNullable fields) = some flag := by
  rw [promoteNullable_of_some hnodup hflag hnone, Fields.get?_append,
    Fields.get?_erase_of_ne hnodup (by decide), hnone]
  rfl

/-- The extension moves; no other key sees it. -/
theorem get?_promoteNullable {fields : Fields} (hnodup : (fields.map Prod.fst).Nodup)
    {key : String} (hold : key ≠ "x-nullable") (hnew : key ≠ "nullable") :
    Fields.get? key (promoteNullable fields) = fields.get? key := by
  rw [promoteNullable]
  cases fields.get? "x-nullable" with
  | none => rfl
  | some flag =>
    simp only [Fields.insertNew]
    split
    · exact Fields.get?_erase_of_ne hnodup (Ne.symm hold)
    · rw [Fields.get?_append, Fields.get?_erase_of_ne hnodup (Ne.symm hold)]
      simp [Fields.get?, Ne.symm hnew]

/-- Where the extension stands, the keyword stands afterwards. -/
theorem nullable_mem_keys_promoteNullable {fields : Fields}
    (h : "x-nullable" ∈ fields.map Prod.fst) :
    "nullable" ∈ (promoteNullable fields).map Prod.fst := by
  obtain ⟨flag, hflag⟩ := Fields.mem_keys_iff.mp h
  rw [promoteNullable, hflag]
  simp only [Fields.insertNew]
  split
  · next hcontains => exact Fields.mem_keys_iff.mpr (Option.isSome_iff_exists.mp hcontains)
  · simp

/-- A key of a rewritten object holds the rewritten value, the two names of the flag apart. -/
theorem get?_modernize {v : Json} (hwf : v.WellFormed) {key : String} (hold : key ≠ "x-nullable")
    (hnew : key ≠ "nullable") :
    (modernize v).get? key = (v.get? key).map fun w => retargetField key (modernize w) := by
  cases v with
  | obj fields =>
    show Fields.get? key (promoteNullable (modernizeFields fields)) = _
    rw [get?_promoteNullable (nodup_modernizeFields hwf.1) hold hnew]
    exact get?_modernizeFields key fields
  | _ => rfl

theorem retargetField_of_ne {key : String} (hkey : key ≠ "$ref") (v : Json) :
    retargetField key v = v := by
  cases v with
  | str pointer => rw [retargetField, if_neg hkey]
  | _ => rfl

theorem retargetField_ref (v : Json) :
    (retargetField "$ref" v).str? = v.str?.map retarget := by
  cases v <;> rfl

theorem str?_modernize (v : Json) : (modernize v).str? = v.str? := by
  cases v <;> rfl

theorem bool?_modernize (v : Json) : (modernize v).bool? = v.bool? := by
  cases v <;> rfl

theorem isObj_modernize (v : Json) : (modernize v).isObj = v.isObj := by
  cases v <;> rfl

theorem retargetField_of_isObj {v : Json} (h : v.isObj = true) (key : String) :
    retargetField key v = v := by
  cases v with
  | str s => cases h
  | _ => rfl

/-- A pointer is no object, so what is looked up in a value does not see its new text. -/
theorem get?_retargetField (key : String) (v : Json) (other : String) :
    (retargetField key v).get? other = v.get? other := by
  cases v with
  | str pointer =>
    rw [retargetField]
    split <;> rfl
  | _ => rfl

theorem isObj_retargetField (key : String) (v : Json) : (retargetField key v).isObj = v.isObj := by
  cases v with
  | str pointer =>
    rw [retargetField]
    split <;> rfl
  | _ => rfl

theorem reference?_modernize {v : Json} (hwf : v.WellFormed) :
    (modernize v).reference? = v.reference?.map retarget := by
  rw [Json.reference?, Json.strAt?, get?_modernize hwf (by decide) (by decide), Json.reference?,
    Json.strAt?]
  cases v.get? "$ref" with
  | none => rfl
  | some w =>
    show (retargetField "$ref" (modernize w)).str? = w.str?.map retarget
    rw [retargetField_ref, str?_modernize]

/-- A pointer into a section that has moved goes to the same place in the new section. -/
theorem retarget_append (old : String) {new : String} (h : (old, new) ∈ sections) (rest : String) :
    retarget (old ++ rest) = new ++ rest := by
  have hafter : Text.after? old.toList (old ++ rest).toList = some rest.toList := by
    rw [Text.after?_eq_some_iff, String.toList_append]
  rw [retarget]
  rw [String.toList_append] at hafter ⊢
  simp only [sections, List.mem_cons, List.not_mem_nil, or_false, Prod.mk.injEq] at h
  rcases h with ⟨rfl, rfl⟩ | ⟨rfl, rfl⟩ | ⟨rfl, rfl⟩
  · simp only [sections, List.findSome?_cons, hafter, Option.map_some, Option.getD_some,
      String.ofList_toList]
  · have hdefinitions : Text.after? "#/definitions/".toList
        ("#/parameters/".toList ++ rest.toList) = none := rfl
    simp only [sections, List.findSome?_cons, hdefinitions, hafter, Option.map_none,
      Option.map_some, Option.getD_some, String.ofList_toList]
  · have hdefinitions : Text.after? "#/definitions/".toList
        ("#/responses/".toList ++ rest.toList) = none := rfl
    have hparameters : Text.after? "#/parameters/".toList
        ("#/responses/".toList ++ rest.toList) = none := rfl
    simp only [sections, List.findSome?_cons, hdefinitions, hparameters, hafter, Option.map_none,
      Option.map_some, Option.getD_some, String.ofList_toList]

/-! ### Values that are not rewritten -/

/-- A pointer that begins like one into a section that has moved. -/
def IsLegacyPointer (pointer : String) : Prop :=
  ∃ old new rest, (old, new) ∈ sections ∧ pointer = old ++ rest

theorem retarget_of_not_legacy {pointer : String} (h : ¬ IsLegacyPointer pointer) :
    retarget pointer = pointer := by
  rw [retarget]
  cases hfind : sections.findSome? fun moved =>
      (Text.after? moved.1.toList pointer.toList).map fun rest => moved.2 ++ String.ofList rest with
  | none => rfl
  | some target =>
    obtain ⟨⟨old, new⟩, hmem, hafter⟩ := List.exists_of_findSome?_eq_some hfind
    obtain ⟨rest, hrest, _⟩ := Option.map_eq_some_iff.mp hafter
    refine absurd ⟨old, new, String.ofList rest, hmem, ?_⟩ h
    rw [← String.toList_inj, String.toList_append, Text.after?_eq_some_iff.mp hrest,
      String.toList_ofList]

/-- Neither the extension nor a pointer into a section that has moved stands in an object. -/
structure Modern (fields : Fields) : Prop where
  extension : "x-nullable" ∉ fields.map Prod.fst
  reference : ∀ pointer, ("$ref", .str pointer) ∈ fields → ¬ IsLegacyPointer pointer

theorem retargetField_of_not_legacy {key : String} {v : Json}
    (h : ∀ pointer, key = "$ref" → v = .str pointer → ¬ IsLegacyPointer pointer) :
    retargetField key v = v := by
  cases v with
  | str pointer =>
    by_cases hkey : key = "$ref"
    · rw [retargetField, if_pos hkey, retarget_of_not_legacy (h pointer hkey rfl)]
    · rw [retargetField, if_neg hkey]
  | _ => rfl

mutual

theorem modernize_of_modern : ∀ {v : Json}, v.EveryObject Modern → modernize v = v
  | .arr items, h => by
    rw [modernize, modernizeItems_of_modern h]
  | .obj fields, h => by
    have hsame : modernizeFields fields = fields := modernizeFields_of_modern h.2 h.1.reference
    rw [modernize, hsame, promoteNullable_of_none (Fields.get?_eq_none_iff.mpr h.1.extension)]
  | .null, _ => rfl
  | .bool _, _ => rfl
  | .num _, _ => rfl
  | .str _, _ => rfl

theorem modernizeItems_of_modern : ∀ {items : List Json},
    Json.EveryObjectOfItems Modern items → modernizeItems items = items
  | [], _ => rfl
  | v :: rest, h => by
    rw [modernizeItems, modernize_of_modern h.1, modernizeItems_of_modern h.2]

theorem modernizeFields_of_modern : ∀ {fields : Fields}, Json.EveryObjectOfFields Modern fields →
    (∀ pointer, ("$ref", .str pointer) ∈ fields → ¬ IsLegacyPointer pointer) →
      modernizeFields fields = fields
  | [], _, _ => rfl
  | (k, v) :: rest, h, hpointers => by
    have hself : retargetField k v = v := retargetField_of_not_legacy fun pointer hkey hv =>
      hpointers pointer (hkey ▸ hv ▸ List.mem_cons_self)
    rw [modernizeFields, modernize_of_modern h.1, hself,
      modernizeFields_of_modern h.2 fun pointer hmem =>
        hpointers pointer (List.mem_cons_of_mem _ hmem)]

end

/-- Neither of the legacy keys stands in an object. -/
def Untouched (fields : Fields) : Prop :=
  fields.get? "$ref" = none ∧ fields.get? "x-nullable" = none

theorem modern_of_untouched {fields : Fields} (h : Untouched fields) : Modern fields where
  extension := Fields.get?_eq_none_iff.mp h.2
  reference := fun _ hmem =>
    absurd (List.mem_map_of_mem hmem) (Fields.get?_eq_none_iff.mp h.1)

theorem modernize_of_untouched {v : Json} (h : v.EveryObject Untouched) : modernize v = v :=
  modernize_of_modern (h.mono fun _ => modern_of_untouched)

/-! ### Readers do not see the difference -/

section Readers

open Shape

/-- A reader that finds the same in a rewritten value, and in no more of them. -/
class Indifferent {α : Type} (reader : Json → Except ShapeFault α) : Prop where
  eq_ok_iff : ∀ v a, reader (modernize v) = .ok a ↔ reader v = .ok a

instance indifferent_string : Indifferent string where
  eq_ok_iff v s := by cases v <;> simp [modernize, string]

instance indifferent_boolean : Indifferent boolean where
  eq_ok_iff v b := by cases v <;> simp [modernize, boolean]

instance indifferent_real : Indifferent real where
  eq_ok_iff v x := by cases v <;> simp [modernize, real]

instance indifferent_count : Indifferent count where
  eq_ok_iff v n := by cases v <;> simp [modernize, count]

instance indifferent_bound : Indifferent ExclusiveBound.read where
  eq_ok_iff v b := by cases v <;> simp [modernize, ExclusiveBound.read]

theorem modernize_eq_null_iff {v : Json} : modernize v = .null ↔ v = .null := by
  cases v <;> simp [modernize]

instance indifferent_optional {α : Type} {reader : Json → Except ShapeFault α}
    [Indifferent reader] : Indifferent (optional reader) where
  eq_ok_iff v a := by
    simp only [Descriptor.optional_eq_ok_iff, ne_eq, modernize_eq_null_iff, Indifferent.eq_ok_iff]

instance indifferent_strings : Indifferent strings where
  eq_ok_iff v names := by
    cases v with
    | arr items =>
      show (modernizeItems items).mapM string = .ok names ↔ items.mapM string = .ok names
      rw [mapM_eq_ok_iff, mapM_eq_ok_iff, modernizeItems_eq_map, List.forall₂_map_left_iff]
      simp only [Indifferent.eq_ok_iff]
    | obj _ =>
      constructor
      · intro h
        cases h
      · intro h
        cases h
    | _ => exact Iff.rfl

theorem retargetField_eq_null_iff {key : String} {v : Json} :
    retargetField key v = .null ↔ v = .null := by
  cases v with
  | str pointer =>
    rw [retargetField]
    split <;> simp
  | _ => simp [retargetField]

theorem modernizeFields_eq_singleton_iff {fields : Fields} {name : String} :
    modernizeFields fields = [(name, .null)] ↔ fields = [(name, .null)] := by
  rw [modernizeFields_eq_map, List.map_eq_singleton_iff]
  constructor
  · rintro ⟨⟨k, v⟩, rfl, hfield⟩
    obtain ⟨rfl, hnull⟩ := Prod.mk.inj hfield
    have hv : v = .null := modernize_eq_null_iff.mp (retargetField_eq_null_iff.mp hnull)
    rw [hv]
  · rintro rfl
    exact ⟨(name, .null), rfl, rfl⟩

/-- Rewriting turns no other object into a choice, as long as the flag names none. -/
theorem indifferent_choice {α : Type} {choices : List (String × α)}
    (hold : choices.lookup "x-nullable" = none) (hnew : choices.lookup "nullable" = none) :
    Indifferent (choice choices) where
  eq_ok_iff v a := by
    cases v with
    | obj fields =>
      show choice choices (.obj (promoteNullable (modernizeFields fields))) = _ ↔ _
      simp only [Descriptor.choice_obj_eq_ok_iff]
      refine exists_congr fun name => and_congr_left fun ha => ?_
      have hnames : name ≠ "x-nullable" ∧ name ≠ "nullable" := by
        constructor
        · rintro rfl
          simp only [choice, choice.pick, hold] at ha
          cases ha
        · rintro rfl
          simp only [choice, choice.pick, hnew] at ha
          cases ha
      cases hflag : Fields.get? "x-nullable" (modernizeFields fields) with
      | none => rw [promoteNullable_of_none hflag, modernizeFields_eq_singleton_iff]
      | some flag =>
        -- The flag would be the only key, before or after, but it names no choice.
        constructor
        · intro hfields
          have hmem := nullable_mem_keys_promoteNullable (Fields.mem_keys_iff.mpr ⟨flag, hflag⟩)
          rw [hfields] at hmem
          exact absurd (List.mem_singleton.mp hmem).symm hnames.2
        · intro hfields
          rw [modernizeFields_eq_singleton_iff.mpr hfields, Fields.get?, if_neg hnames.1] at hflag
          cases hflag
    | _ => simp [modernize, choice]

instance indifferent_kind : Indifferent (choice Kind.choices) := indifferent_choice rfl rfl

/-- What is made of what an indifferent reader finds is the same for a rewritten value. -/
theorem return_eq_ok_iff {α β : Type} {reader : Json → Except ShapeFault α} [Indifferent reader]
    {f : α → β} {v : Json} {b : β} :
    (do return f (← reader (modernize v)) : Except ShapeFault β) = .ok b ↔
      (do return f (← reader v) : Except ShapeFault β) = .ok b := by
  simp only [bind_eq_ok_iff, Indifferent.eq_ok_iff]

/-- The keywords of a schema that hold data. -/
def dataKeywords : List String := ["default", "example", "enum"]

/-- Of a keyword that holds no data, a rewritten value says what the value said. -/
theorem readKeyword_modernize {key : String} (hkey : key ∉ dataKeywords) {d d' : Descriptor}
    {v : Json} : d.readKeyword key (retargetField key (modernize v)) = .ok d' ↔
      d.readKeyword key v = .ok d' := by
  by_cases href : key = "$ref"
  · rw [href]
    rfl
  rw [retargetField_of_ne href]
  unfold Descriptor.readKeyword
  split
  all_goals first
    | exact return_eq_ok_iff
    | exact absurd (by decide) hkey
    | rfl

/-- Nothing in the data of an object is rewritten. -/
def KeepsData (fields : Fields) : Prop :=
  ∀ key ∈ dataKeywords, ∀ v, fields.get? key = some v → v.EveryObject Untouched

/-- The extension is a flag, and stands where the keyword does not. -/
def HasFlag (fields : Fields) : Prop :=
  ∀ v, fields.get? "x-nullable" = some v → (∃ b, v = .bool b) ∧ fields.get? "nullable" = none

theorem read_modernizeFields {fields : Fields} (hnodup : (fields.map Prod.fst).Nodup)
    (hdata : KeepsData fields) {d : Descriptor} :
    Descriptor.read (modernizeFields fields) = .ok d ↔ Descriptor.read fields = .ok d := by
  rw [Descriptor.read_eq, Descriptor.read_eq, modernizeFields_eq_map]
  refine foldlM_map_eq_ok_iff (fun field hfield start next => ?_) {} d
  by_cases hkey : field.1 ∈ dataKeywords
  · have hsame := modernize_of_untouched (hdata field.1 hkey field.2
      ((Fields.get?_eq_some_iff hnodup).mpr hfield))
    have href : field.1 ≠ "$ref" := by
      intro href
      rw [href] at hkey
      exact absurd hkey (by decide)
    rw [hsame, retargetField_of_ne href]
  · exact readKeyword_modernize hkey

/-- The descriptor of a rewritten object is the old one with the flag put in. -/
theorem read_modernize {fields : Fields} (hnodup : (fields.map Prod.fst).Nodup)
    (hdata : KeepsData fields) (hflag : HasFlag fields) {d' : Descriptor} :
    Descriptor.read (promoteNullable (modernizeFields fields)) = .ok d' ↔
      ∃ d, Descriptor.read fields = .ok d ∧
        d' = { d with nullable := ((Json.obj fields).boolAt? "x-nullable").getD d.nullable } := by
  have hnodup' := nodup_modernizeFields hnodup
  have hget := get?_modernizeFields "x-nullable" fields
  simp only [← read_modernizeFields hnodup hdata, Json.boolAt?, Json.get?]
  cases hold : fields.get? "x-nullable" with
  | none =>
    rw [hold] at hget
    rw [promoteNullable_of_none hget]
    simp
  | some v =>
    obtain ⟨⟨b, rfl⟩, hnew⟩ := hflag v hold
    rw [hold] at hget
    have hnone : Fields.get? "nullable" (modernizeFields fields) = none := by
      rw [get?_modernizeFields, hnew]
      rfl
    have hperm := Fields.perm_cons_erase hget
    rw [promoteNullable_of_some hnodup' hget hnone]
    simp only [Descriptor.read_perm hperm hnodup']
    rw [Descriptor.read_eq, List.foldlM_append, bind_eq_ok_iff]
    refine exists_congr fun d => and_congr Iff.rfl ?_
    exact ⟨fun h => (Except.ok.inj h).symm, fun h => congrArg Except.ok h.symm⟩

end Readers

end Legacy

end ApiGraph
