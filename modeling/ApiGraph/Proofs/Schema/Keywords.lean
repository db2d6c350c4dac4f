import ApiGraph.Proofs.Schema.Descriptor

/-!
# Descriptors read back from their keywords

What a descriptor writes is a table of keywords, some of which are absent. Each line of the table is
read back for itself: an optional keyword that is absent leaves what an empty descriptor has there,
and one that is present is read as what was written. No two lines are about the same keyword, so the
table as a whole is read back as the descriptor.

The one thing that cannot be read back is `null` as data, and no descriptor that has been read holds
it.
-/

namespace ApiGraph

namespace Fields

/-- The fields of a table in which some values are absent. -/
def present (table : List (String × Option Json)) : Fields :=
  table.filterMap fun entry => entry.2.map fun v => (entry.1, v)

theorem present_cons (entry : String × Option Json) (rest : List (String × Option Json)) :
    present (entry :: rest) = present [entry] ++ present rest :=
  List.filterMap_append (l := [entry])

theorem present_append (front rest : List (String × Option Json)) :
    present (front ++ rest) = present front ++ present rest :=
  List.filterMap_append

theorem get?_present_of_not_mem {table : List (String × Option Json)} {key : String}
    (h : key ∉ table.map Prod.fst) : get? key (present table) = none := by
  refine get?_eq_none_iff.mpr fun hmem => h ?_
  obtain ⟨field, hfield, rfl⟩ := List.mem_map.mp hmem
  obtain ⟨entry, hentry, heq⟩ := List.mem_filterMap.mp hfield
  obtain ⟨v, _, rfl⟩ := Option.map_eq_some_iff.mp heq
  exact List.mem_map_of_mem hentry

theorem get?_present_singleton (key : String) (v : Option Json) : get? key (present [(key, v)]) = v := by
  cases v <;> simp [present, get?]

/-- A table with distinct keys is looked up line by line. -/
theorem get?_present {table : List (String × Option Json)} (hnodup : (table.map Prod.fst).Nodup)
    {key : String} {v : Option Json} (h : (key, v) ∈ table) : get? key (present table) = v := by
  induction table with
  | nil => cases h
  | cons entry rest ih =>
    rw [List.map_cons, List.nodup_cons] at hnodup
    rw [present_cons, get?_append]
    rcases List.mem_cons.mp h with rfl | hrest
    · rw [get?_present_of_not_mem hnodup.1, Option.or_none, get?_present_singleton]
    · have hne : key ∉ [entry].map Prod.fst := by
        rw [List.map_singleton, List.mem_singleton]
        rintro rfl
        exact hnodup.1 (List.mem_map.mpr ⟨_, hrest, rfl⟩)
      rw [get?_present_of_not_mem hne, Option.none_or]
      exact ih hnodup.2 hrest

end Fields

/-! ### Descriptors -/

namespace Descriptor

open Outcome Shape

/-- What a descriptor says under each of its keywords, and under which of them it says nothing. -/
def entries (d : Descriptor) : List (String × Option Json) :=
  [("type", d.kind.map fun k => .str k.name),
   ("format", d.format.map .str),
   ("description", d.description.map .str),
   ("title", d.title.map .str),
   ("default", d.defaultValue),
   ("example", d.sample),
   ("nullable", some (.bool d.nullable)),
   ("deprecated", some (.bool d.deprecated)),
   ("readOnly", some (.bool d.readOnly)),
   ("writeOnly", some (.bool d.writeOnly)),
   ("enum", some (.arr d.allowed)),
   ("multipleOf", d.multipleOf.map ofReal),
   ("maximum", d.maximum.map ofReal),
   ("exclusiveMaximum", d.exclusiveMaximum.map ExclusiveBound.toJson),
   ("minimum", d.minimum.map ofReal),
   ("exclusiveMinimum", d.exclusiveMinimum.map ExclusiveBound.toJson),
   ("maxLength", d.maxLength.map ofCount),
   ("minLength", some (ofCount d.minLength)),
   ("pattern", d.pattern.map .str),
   ("maxItems", d.maxItems.map ofCount),
   ("minItems", some (ofCount d.minItems)),
   ("uniqueItems", some (.bool d.uniqueItems)),
   ("maxProperties", d.maxProperties.map ofCount),
   ("minProperties", some (ofCount d.minProperties)),
   ("required", some (.arr (d.required.map .str)))]

/-- The keywords of a descriptor. -/
def keywords : List String := (entries {}).map Prod.fst

theorem nodup_keywords : keywords.Nodup := by decide

theorem optionalField_eq {α : Type} (key : String) (write : α → Json) (part : Option α) :
    optionalField key write part = Fields.present [(key, part.map write)] := by
  cases part <;> rfl

theorem toFields_eq (d : Descriptor) : d.toFields = Fields.present d.entries := by
  have hsplit : ∀ entry next rest, Fields.present (entry :: next :: rest) =
      Fields.present [entry] ++ Fields.present (next :: rest) :=
    fun entry next rest => Fields.present_cons entry (next :: rest)
  have hsome : ∀ key v, Fields.present [(key, some v)] = [(key, v)] := fun _ _ => rfl
  have hvalue : ∀ key v, optionalField key id v = Fields.present [(key, v)] := by
    intro key v
    rw [optionalField_eq, Option.map_id_fun, id]
  delta toFields
  simp only [hvalue, optionalField_eq, entries, hsplit, hsome, List.append_assoc,
    List.cons_append, List.nil_append]

/-! Each reader reads back what is written for it. -/

theorem optional_name (k : Kind) : optional (choice Kind.choices) (.str k.name) = .ok (some k) := by
  cases k <;> rfl

theorem optional_bound (b : ExclusiveBound) :
    optional ExclusiveBound.read b.toJson = .ok (some b) := by
  cases b <;> rfl

theorem count_ofCount (n : Nat) : count (ofCount n) = .ok n := by
  simp [count, ofCount]

theorem optional_count (n : Nat) : optional count (ofCount n) = .ok (some n) :=
  congrArg (Except.map some) (count_ofCount n)

theorem strings_map_str (names : List String) : strings (.arr (names.map .str)) = .ok names := by
  show (names.map Json.str).mapM string = .ok names
  rw [mapM_eq_ok_iff, List.forall₂_map_left_iff]
  exact List.forall₂_same.mpr fun _ _ => rfl

theorem rel_written {α : Type} {write : α → Json} {reader : Json → Except ShapeFault (Option α)}
    (h : ∀ a, reader (write a) = .ok (some a)) (part : Option α) :
    Option.Rel (fun a v => reader v = .ok (some a)) part (part.map write) := by
  cases part with
  | none => exact .none
  | some a => exact .some (h a)

/-- Data is read back unless it is `null`. -/
theorem rel_data {part : Option Json} (h : part ≠ some .null) :
    Option.Rel (fun a v => optional pure v = .ok (some a)) part part := by
  cases part with
  | none => exact .none
  | some v =>
    have hnull : v ≠ .null := fun heq => h (congrArg some heq)
    exact .some (optional_eq_ok_iff.mpr (Or.inr ⟨hnull, v, rfl, rfl⟩))

section Lines

variable {α : Type} {key : String} {start : Descriptor}

/-- A keyword that is always written is read back. -/
theorem foldlM_always (set : α → Descriptor) {reader : Json → Except ShapeFault α}
    (hread : ∀ v, readKeyword start key v =
      (do return set (← reader v) : Except ShapeFault Descriptor))
    {v : Json} {a : α} (hv : reader v = .ok a) :
    (Fields.present [(key, some v)]).foldlM readField start = .ok (set a) := by
  show readKeyword start key v >>= pure = _
  rw [hread, hv]
  rfl

/-- An optional keyword is read back, or is not there and leaves what was there before. -/
theorem foldlM_optional (set : Option α → Descriptor) {reader : Json → Except ShapeFault (Option α)}
    (hread : ∀ v, readKeyword start key v =
      (do return set (← reader v) : Except ShapeFault Descriptor))
    (habsent : set none = start) {part : Option α} {v : Option Json}
    (hv : Option.Rel (fun a v => reader v = .ok (some a)) part v) :
    (Fields.present [(key, v)]).foldlM readField start = .ok (set part) := by
  cases hv with
  | none => exact congrArg Except.ok habsent.symm
  | some ha => exact foldlM_always (fun a => set a) hread ha

end Lines

/-- Nothing that a descriptor holds as data is `null`, which is read as absent. -/
structure HoldsNoNull (d : Descriptor) : Prop where
  defaultValue : d.defaultValue ≠ some .null
  sample : d.sample ≠ some .null

theorem ne_null_of_optional {v : Json} {part : Option Json} (h : optional pure v = .ok part) :
    part ≠ some .null := by
  rcases optional_eq_ok_iff.mp h with ⟨_, rfl⟩ | ⟨hnull, w, hw, rfl⟩
  · simp
  · cases hw
    exact fun heq => hnull (Option.some.inj heq)

theorem HoldsNoNull.readField {d d' : Descriptor} {field : String × Json}
    (h : readField d field = .ok d') (hd : d.HoldsNoNull) : d'.HoldsNoNull := by
  obtain ⟨key, v⟩ := field
  obtain ⟨new, hnew, rfl⟩ := readKeyword_eq_ok_iff.mp h
  constructor
  · show (if key = "default" then new.defaultValue else d.defaultValue) ≠ _
    split
    · next hkey =>
      subst hkey
      obtain ⟨part, hpart, hout⟩ := bind_eq_ok_iff.mp hnew
      cases hout
      exact ne_null_of_optional hpart
    · exact hd.defaultValue
  · show (if key = "example" then new.sample else d.sample) ≠ _
    split
    · next hkey =>
      subst hkey
      obtain ⟨part, hpart, hout⟩ := bind_eq_ok_iff.mp hnew
      cases hout
      exact ne_null_of_optional hpart
    · exact hd.sample

theorem holdsNoNull_of_read {fields : Fields} {d : Descriptor} (h : read fields = .ok d) :
    d.HoldsNoNull := by
  rw [read_eq] at h
  exact foldlM_keeps (fun _ _ _ => HoldsNoNull.readField) h ⟨by simp, by simp⟩

/-- What a descriptor says under one keyword is read back, if nothing has been read there. -/
theorem foldlM_entry {d start : Descriptor} (hdata : d.HoldsNoNull) {entry : String × Option Json}
    (hentry : entry ∈ d.entries) (hstart : overlay entry.1 {} start = start) :
    (Fields.present [entry]).foldlM readField start = .ok (overlay entry.1 d start) := by
  simp only [entries, List.mem_cons, List.not_mem_nil, or_false] at hentry
  rcases hentry with rfl | rfl | rfl | rfl | rfl | rfl | rfl | rfl | rfl | rfl | rfl | rfl | rfl |
    rfl | rfl | rfl | rfl | rfl | rfl | rfl | rfl | rfl | rfl | rfl | rfl
  · exact foldlM_optional (fun a => { start with kind := a }) (fun _ => rfl) hstart
      (rel_written optional_name d.kind)
  · exact foldlM_optional (fun a => { start with format := a }) (fun _ => rfl) hstart
      (rel_written (fun _ => rfl) d.format)
  · exact foldlM_optional (fun a => { start with description := a }) (fun _ => rfl) hstart
      (rel_written (fun _ => rfl) d.description)
  · exact foldlM_optional (fun a => { start with title := a }) (fun _ => rfl) hstart
      (rel_written (fun _ => rfl) d.title)
  · exact foldlM_optional (fun a => { start with defaultValue := a }) (fun _ => rfl) hstart
      (rel_data hdata.defaultValue)
  · exact foldlM_optional (fun a => { start with sample := a }) (fun _ => rfl) hstart
      (rel_data hdata.sample)
  · exact foldlM_always (fun a => { start with nullable := a }) (fun _ => rfl) rfl
  · exact foldlM_always (fun a => { start with deprecated := a }) (fun _ => rfl) rfl
  · exact foldlM_always (fun a => { start with readOnly := a }) (fun _ => rfl) rfl
  · exact foldlM_always (fun a => { start with writeOnly := a }) (fun _ => rfl) rfl
  · exact foldlM_always (fun a => { start with allowed := a }) (fun _ => rfl) rfl
  · exact foldlM_optional (fun a => { start with multipleOf := a }) (fun _ => rfl) hstart
      (rel_written (fun _ => rfl) d.multipleOf)
  · exact foldlM_optional (fun a => { start with maximum := a }) (fun _ => rfl) hstart
      (rel_written (fun _ => rfl) d.maximum)
  · exact foldlM_optional (fun a => { start with exclusiveMaximum := a }) (fun _ => rfl) hstart
      (rel_written optional_bound d.exclusiveMaximum)
  · exact foldlM_optional (fun a => { start with minimum := a }) (fun _ => rfl) hstart
      (rel_written (fun _ => rfl) d.minimum)
  · exact foldlM_optional (fun a => { start with exclusiveMinimum := a }) (fun _ => rfl) hstart
      (rel_written optional_bound d.exclusiveMinimum)
  · exact foldlM_optional (fun a => { start with maxLength := a }) (fun _ => rfl) hstart
      (rel_written optional_count d.maxLength)
  · exact foldlM_always (fun a => { start with minLength := a }) (fun _ => rfl)
      (count_ofCount d.minLength)
  · exact foldlM_optional (fun a => { start with pattern := a }) (fun _ => rfl) hstart
      (rel_written (fun _ => rfl) d.pattern)
  · exact foldlM_optional (fun a => { start with maxItems := a }) (fun _ => rfl) hstart
      (rel_written optional_count d.maxItems)
  · exact foldlM_always (fun a => { start with minItems := a }) (fun _ => rfl)
      (count_ofCount d.minItems)
  · exact foldlM_always (fun a => { start with uniqueItems := a }) (fun _ => rfl) rfl
  · exact foldlM_optional (fun a => { start with maxProperties := a }) (fun _ => rfl) hstart
      (rel_written optional_count d.maxProperties)
  · exact foldlM_always (fun a => { start with minProperties := a }) (fun _ => rfl)
      (count_ofCount d.minProperties)
  · exact foldlM_always (fun a => { start with required := a }) (fun _ => rfl)
      (strings_map_str d.required)

/-- Keywords with distinct names are read back one after the other. -/
theorem foldlM_present {d : Descriptor} {table : List (String × Option Json)}
    (hnodup : (table.map Prod.fst).Nodup)
    (hread : ∀ entry ∈ table, ∀ start, overlay entry.1 {} start = start →
      (Fields.present [entry]).foldlM readField start = .ok (overlay entry.1 d start)) :
    ∀ start, (∀ key ∈ table.map Prod.fst, overlay key {} start = start) →
      (Fields.present table).foldlM readField start =
        .ok ((table.map Prod.fst).foldl (fun old key => overlay key d old) start) := by
  induction table with
  | nil => exact fun _ _ => rfl
  | cons entry rest ih =>
    intro start hstart
    obtain ⟨hfirst, hrest⟩ := List.forall_mem_cons.mp hread
    rw [List.map_cons, List.nodup_cons] at hnodup
    obtain ⟨hentry, hothers⟩ := List.forall_mem_cons.mp hstart
    rw [Fields.present_cons, List.foldlM_append, hfirst start hentry]
    -- What has been read here is no part of what the other keywords set.
    refine ih hnodup.2 hrest (overlay entry.1 d start) fun key hkey => ?_
    have hne : key ≠ entry.1 := by
      rintro rfl
      exact hnodup.1 hkey
    rw [overlay_comm hne, hothers key hkey]

theorem foldl_overlay (d : Descriptor) :
    keywords.foldl (fun old key => overlay key d old) {} = d := by
  simp [keywords, entries, overlay]

theorem overlay_default (key : String) : overlay key {} {} = {} := by
  simp [overlay]

/-- **A descriptor is read back from its keywords**, unless it holds `null` as data. -/
theorem read_toFields {d : Descriptor} (hdata : d.HoldsNoNull) : read d.toFields = .ok d := by
  rw [toFields_eq, read_eq]
  have hkeys : (d.entries.map Prod.fst).Nodup := nodup_keywords
  have hfold := foldlM_present hkeys (fun _ hentry _ => foldlM_entry hdata hentry) {}
    fun key _ => overlay_default key
  exact hfold.trans (congrArg Except.ok (foldl_overlay d))

end Descriptor

end ApiGraph
