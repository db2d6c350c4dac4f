import ApiGraph.Proofs.Json.Fields
import ApiGraph.Proofs.Outcome
import ApiGraph.Schema.Descriptor

/-!
# Reading descriptors

A descriptor is read keyword by keyword. Each keyword sets a part of its own and looks at
nothing that has been read before, so keywords that can be read one by one can be read
together, and where no key is repeated their order has no effect.

`overlay` is what one keyword does to a descriptor. Two of them under different keys
commute part by part, and this is the only place where the parts are gone through.
-/

namespace ApiGraph.Descriptor

open Outcome Shape

/-- An optional keyword is absent, or is read as a value that is not `null`. -/
theorem optional_eq_ok_iff {α : Type} {read : Json → Except ShapeFault α} {v : Json}
    {a : Option α} : Shape.optional read v = .ok a ↔
      (v = .null ∧ a = none) ∨ (v ≠ .null ∧ ∃ b, read v = .ok b ∧ some b = a) := by
  cases v with
  | null =>
    simp only [Shape.optional, Except.ok.injEq, true_and, ne_eq, not_true_eq_false, false_and,
      or_false]
    exact eq_comm
  | _ =>
    simp only [Shape.optional, ne_eq, reduceCtorEq, false_and, not_false_eq_true, true_and, false_or]
    exact map_eq_ok_iff

/-- A choice by an object is made by its only key. -/
theorem choice_obj_eq_ok_iff {α : Type} {choices : List (String × α)} {fields : Fields} {a : α} :
    choice choices (.obj fields) = .ok a ↔
      ∃ name, fields = [(name, .null)] ∧ choice choices (.str name) = .ok a := by
  cases fields with
  | nil => simp [choice]
  | cons field rest =>
    obtain ⟨name, v⟩ := field
    cases rest with
    | nil =>
      simp only [choice, bind_eq_ok_iff, List.cons.injEq, Prod.mk.injEq, and_true]
      constructor
      · rintro ⟨b, hb, hv⟩
        cases v with
        | null =>
          cases hv
          exact ⟨name, ⟨rfl, rfl⟩, hb⟩
        | _ => cases hv
      · rintro ⟨_, ⟨rfl, rfl⟩, ha⟩
        exact ⟨a, ha, rfl⟩
    | cons _ _ => simp [choice]

/-- A descriptor with the part that a keyword sets taken from another one. -/
def overlay (key : String) (new old : Descriptor) : Descriptor where
  kind := if key = "type" then new.kind else old.kind
  format := if key = "format" then new.format else old.format
  description := if key = "description" then new.description else old.description
  title := if key = "title" then new.title else old.title
  defaultValue := if key = "default" then new.defaultValue else old.defaultValue
  sample := if key = "example" then new.sample else old.sample
  nullable := if key = "nullable" then new.nullable else old.nullable
  deprecated := if key = "deprecated" then new.deprecated else old.deprecated
  readOnly := if key = "readOnly" then new.readOnly else old.readOnly
  writeOnly := if key = "writeOnly" then new.writeOnly else old.writeOnly
  allowed := if key = "enum" then new.allowed else old.allowed
  multipleOf := if key = "multipleOf" then new.multipleOf else old.multipleOf
  maximum := if key = "maximum" then new.maximum else old.maximum
  exclusiveMaximum :=
    if key = "exclusiveMaximum" then new.exclusiveMaximum else old.exclusiveMaximum
  minimum := if key = "minimum" then new.minimum else old.minimum
  exclusiveMinimum :=
    if key = "exclusiveMinimum" then new.exclusiveMinimum else old.exclusiveMinimum
  maxLength := if key = "maxLength" then new.maxLength else old.maxLength
  minLength := if key = "minLength" then new.minLength else old.minLength
  pattern := if key = "pattern" then new.pattern else old.pattern
  maxItems := if key = "maxItems" then new.maxItems else old.maxItems
  minItems := if key = "minItems" then new.minItems else old.minItems
  uniqueItems := if key = "uniqueItems" then new.uniqueItems else old.uniqueItems
  maxProperties := if key = "maxProperties" then new.maxProperties else old.maxProperties
  minProperties := if key = "minProperties" then new.minProperties else old.minProperties
  required := if key = "required" then new.required else old.required

/-- Choices that two different keys make do not get in each other's way. -/
theorem ite_swap {α : Type} {key other own : String} (h : key ≠ other) (a b c : α) :
    (if key = own then a else if other = own then b else c) =
      if other = own then b else if key = own then a else c := by
  by_cases hk : key = own
  · rw [if_pos hk, if_neg fun ho => h (hk.trans ho.symm), if_pos hk]
  · rw [if_neg hk, if_neg hk]

theorem overlay_comm {key other : String} (h : key ≠ other) (new new' old : Descriptor) :
    overlay key new (overlay other new' old) = overlay other new' (overlay key new old) := by
  simp only [overlay, mk.injEq]
  simp only [ite_swap h, and_self]

/-- A part that is read by itself, put into one descriptor and into another. -/
theorem map_read {α : Type} (r : Except ShapeFault α) {f g : α → Descriptor}
    {h : Descriptor → Descriptor} (heq : ∀ a, f a = h (g a)) :
    (do return f (← r)) = (do return g (← r) : Except ShapeFault Descriptor).map h := by
  cases r with
  | error e => rfl
  | ok a => exact congrArg Except.ok (heq a)

/-- A keyword is read for itself, whatever has been read before. -/
theorem readKeyword_eq (d : Descriptor) (key : String) (v : Json) :
    readKeyword d key v = (readKeyword {} key v).map fun new => overlay key new d := by
  unfold readKeyword
  split
  case h_26 =>
    -- A keyword that nothing is read from differs from each one that something is read from.
    refine congrArg Except.ok ?_
    simp_all only [overlay, imp_false, if_false]
  all_goals exact map_read _ fun _ => rfl

theorem readKeyword_eq_ok_iff {d d' : Descriptor} {key : String} {v : Json} :
    readKeyword d key v = .ok d' ↔ ∃ new, readKeyword {} key v = .ok new ∧ overlay key new d = d' := by
  rw [readKeyword_eq]
  exact map_eq_ok_iff

/-- Reads one field of an object. -/
def readField (d : Descriptor) (field : String × Json) : Except ShapeFault Descriptor :=
  readKeyword d field.1 field.2

theorem read_eq (fields : Fields) : read fields = fields.foldlM readField {} := rfl

/-- Fields that can be read one by one can be read together. -/
theorem exists_read {fields : Fields}
    (h : ∀ field ∈ fields, ∃ new, readKeyword {} field.1 field.2 = .ok new) :
    ∃ d, read fields = .ok d := by
  have hstep : ∀ field ∈ fields, ∀ start, ∃ d, readField start field = .ok d := by
    intro field hfield start
    obtain ⟨new, hnew⟩ := h field hfield
    exact ⟨overlay field.1 new start, readKeyword_eq_ok_iff.mpr ⟨new, hnew, rfl⟩⟩
  exact exists_foldlM hstep {}

theorem readField_comm {d d₁ d₂ : Descriptor} {a b : String × Json} (hne : a.1 ≠ b.1)
    (ha : readField d a = .ok d₁) (hb : readField d₁ b = .ok d₂) :
    ∃ d₁', readField d b = .ok d₁' ∧ readField d₁' a = .ok d₂ := by
  obtain ⟨new, hnew, rfl⟩ := readKeyword_eq_ok_iff.mp ha
  obtain ⟨new', hnew', rfl⟩ := readKeyword_eq_ok_iff.mp hb
  refine ⟨overlay b.1 new' d, readKeyword_eq_ok_iff.mpr ⟨new', hnew', rfl⟩, ?_⟩
  exact readKeyword_eq_ok_iff.mpr ⟨new, hnew, overlay_comm hne new new' d⟩

/-- The order of the fields has no effect on what is read from them. -/
theorem foldlM_readField_perm {fields fields' : Fields} (hperm : fields.Perm fields') :
    (fields.map Prod.fst).Nodup → ∀ {start d : Descriptor},
      fields.foldlM readField start = .ok d → fields'.foldlM readField start = .ok d := by
  induction hperm with
  | nil => exact fun _ _ _ h => h
  | cons field _ ih =>
    intro hnodup start d h
    rw [List.map_cons, List.nodup_cons] at hnodup
    rw [List.foldlM_cons, bind_eq_ok_iff] at h ⊢
    obtain ⟨next, hnext, hrest⟩ := h
    exact ⟨next, hnext, ih hnodup.2 hrest⟩
  | swap a b rest =>
    intro hnodup start d h
    have hne : b.1 ≠ a.1 := by
      rw [List.map_cons, List.map_cons, List.nodup_cons] at hnodup
      exact fun heq => hnodup.1 (heq ▸ List.mem_cons_self)
    simp only [List.foldlM_cons, bind_eq_ok_iff] at h ⊢
    obtain ⟨d₁, hb, d₂, ha, hrest⟩ := h
    obtain ⟨d₁', ha', hb'⟩ := readField_comm hne hb ha
    exact ⟨d₁', ha', d₂, hb', hrest⟩
  | trans hfirst _ ih ih' =>
    intro hnodup start d h
    exact ih' ((hfirst.map Prod.fst).nodup_iff.mp hnodup) (ih hnodup h)

theorem read_perm {fields fields' : Fields} (hperm : fields.Perm fields')
    (hnodup : (fields.map Prod.fst).Nodup) {d : Descriptor} :
    read fields = .ok d ↔ read fields' = .ok d :=
  ⟨foldlM_readField_perm hperm hnodup,
    foldlM_readField_perm hperm.symm ((hperm.map Prod.fst).nodup_iff.mp hnodup)⟩

end ApiGraph.Descriptor
