import ApiGraph.Json.Basic
import ApiGraph.Proofs.Outcome

/-!
# Laws of field lists

A field list is looked up by key, the first field of a key being the one that counts, and
is changed by `insert`, which leaves every other key alone. The lookup laws say this of
lists that may repeat a key.

A removal moves the last field into the hole. Where no key is repeated this is a matter of
order only: what is left is a permutation, and permutations are looked up alike.
-/

namespace ApiGraph.Fields

variable {key other : String} {fields : Fields} {v : Json}

theorem mem_of_get?_eq_some (h : get? key fields = some v) : (key, v) ∈ fields := by
  induction fields with
  | nil => simp [get?] at h
  | cons field rest ih =>
    obtain ⟨k, w⟩ := field
    by_cases hk : k = key
    · simp only [get?, hk, if_true, Option.some.injEq] at h
      rw [hk, h]
      exact List.mem_cons_self
    · simp only [get?, hk, if_false] at h
      exact List.mem_cons_of_mem _ (ih h)

theorem get?_insert_self (key : String) (v : Json) (fields : Fields) :
    get? key (insert key v fields) = some v := by
  induction fields with
  | nil => simp [insert, get?]
  | cons field rest ih =>
    obtain ⟨k, w⟩ := field
    by_cases hk : k = key
    · simp [insert, get?, hk]
    · simp only [insert, get?, hk, if_false]
      exact ih

theorem get?_insert_of_ne (h : key ≠ other) (v : Json) (fields : Fields) :
    get? other (insert key v fields) = get? other fields := by
  induction fields with
  | nil => simp [insert, get?, h]
  | cons field rest ih =>
    obtain ⟨k, w⟩ := field
    by_cases hk : k = key
    · simp [insert, get?, hk, h]
    · by_cases ho : k = other
      · rw [insert, if_neg hk, get?, get?, if_pos ho, if_pos ho]
      · simp only [insert, get?, hk, ho, if_false]
        exact ih

/-! ### Lists that repeat no key -/

theorem get?_eq_none_iff : get? key fields = none ↔ key ∉ fields.map Prod.fst := by
  induction fields with
  | nil => simp [get?]
  | cons field rest ih =>
    obtain ⟨k, w⟩ := field
    by_cases hk : k = key
    · simp [get?, hk]
    · simp only [get?, hk, if_false, ih, List.map_cons, List.mem_cons, not_or]
      exact ⟨fun h => ⟨Ne.symm hk, h⟩, fun h => h.2⟩

theorem mem_keys_iff : key ∈ fields.map Prod.fst ↔ ∃ v, get? key fields = some v := by
  rw [← Option.ne_none_iff_exists', ne_eq, get?_eq_none_iff, not_not]

/-- Where no key is repeated, looking a key up is membership. -/
theorem get?_eq_some_iff (hnodup : (fields.map Prod.fst).Nodup) :
    get? key fields = some v ↔ (key, v) ∈ fields := by
  refine ⟨mem_of_get?_eq_some, fun hmem => ?_⟩
  induction fields with
  | nil => cases hmem
  | cons field rest ih =>
    obtain ⟨k, w⟩ := field
    rw [List.map_cons, List.nodup_cons] at hnodup
    rcases List.mem_cons.mp hmem with heq | hmem
    · cases heq
      rw [get?, if_pos rfl]
    · have hne : k ≠ key := by
        rintro rfl
        exact hnodup.1 (List.mem_map.mpr ⟨(k, v), hmem, rfl⟩)
      rw [get?, if_neg hne]
      exact ih hnodup.2 hmem

theorem get?_perm {fields' : Fields} (hperm : fields.Perm fields')
    (hnodup : (fields.map Prod.fst).Nodup) : get? key fields = get? key fields' := by
  have hnodup' : (fields'.map Prod.fst).Nodup := (hperm.map _).nodup_iff.mp hnodup
  apply Option.ext
  intro v
  rw [get?_eq_some_iff hnodup, get?_eq_some_iff hnodup', hperm.mem_iff]

theorem erase_of_get?_eq_none (h : get? key fields = none) : erase key fields = fields := by
  induction fields with
  | nil => rfl
  | cons field rest ih =>
    obtain ⟨k, w⟩ := field
    by_cases hk : k = key
    · simp [get?, hk] at h
    · simp only [get?, hk, if_false] at h
      rw [erase, if_neg hk, ih h]

/-- Whatever order it leaves, a removal takes out one field and nothing else. -/
theorem perm_cons_erase (h : get? key fields = some v) :
    fields.Perm ((key, v) :: erase key fields) := by
  induction fields with
  | nil => cases h
  | cons field rest ih =>
    obtain ⟨k, w⟩ := field
    by_cases hk : k = key
    · simp only [get?, hk, if_true, Option.some.injEq] at h
      subst hk h
      rw [erase, if_pos rfl]
      refine List.Perm.cons _ ?_
      rcases List.eq_nil_or_concat rest with rfl | ⟨front, last, rfl⟩
      · rfl
      · rw [List.concat_eq_append, List.getLast?_concat, List.dropLast_concat]
        exact List.perm_append_singleton last front
    · simp only [get?, hk, if_false] at h
      rw [erase, if_neg hk]
      exact ((ih h).cons (k, w)).trans (List.Perm.swap _ _ _)

theorem nodup_erase (hnodup : (fields.map Prod.fst).Nodup) :
    ((erase key fields).map Prod.fst).Nodup := by
  cases h : get? key fields with
  | none => rwa [erase_of_get?_eq_none h]
  | some v =>
    rw [((perm_cons_erase h).map Prod.fst).nodup_iff, List.map_cons, List.nodup_cons] at hnodup
    exact hnodup.2

theorem get?_erase_self (hnodup : (fields.map Prod.fst).Nodup) :
    get? key (erase key fields) = none := by
  cases h : get? key fields with
  | none => rwa [erase_of_get?_eq_none h]
  | some v =>
    rw [((perm_cons_erase h).map Prod.fst).nodup_iff, List.map_cons, List.nodup_cons] at hnodup
    exact get?_eq_none_iff.mpr hnodup.1

theorem get?_erase_of_ne (hnodup : (fields.map Prod.fst).Nodup) (hne : key ≠ other) :
    get? other (erase key fields) = get? other fields := by
  cases h : get? key fields with
  | none => rw [erase_of_get?_eq_none h]
  | some v =>
    rw [get?_perm (perm_cons_erase h) hnodup, get?, if_neg hne]

theorem get?_append (front rest : Fields) :
    get? key (front ++ rest) = (get? key front).or (get? key rest) := by
  induction front with
  | nil => simp [get?]
  | cons field front ih =>
    obtain ⟨k, w⟩ := field
    by_cases hk : k = key
    · simp [get?, hk]
    · simp only [List.cons_append, get?, hk, if_false, ih]

theorem get?_map (f : String → Json → Json) (fields : Fields) :
    get? key (fields.map fun field => (field.1, f field.1 field.2)) =
      (get? key fields).map (f key) := by
  induction fields with
  | nil => rfl
  | cons field rest ih =>
    obtain ⟨k, w⟩ := field
    by_cases hk : k = key
    · simp [get?, hk]
    · simp only [List.map_cons, get?, hk, if_false, ih]

/-! ### Changed lists -/

theorem mem_of_mem_erase {field : String × Json} (h : field ∈ erase key fields) :
    field ∈ fields := by
  cases hget : get? key fields with
  | none => rwa [erase_of_get?_eq_none hget] at h
  | some v => exact (perm_cons_erase hget).mem_iff.mpr (List.mem_cons_of_mem _ h)

theorem ne_of_mem_erase (hnodup : (fields.map Prod.fst).Nodup) {field : String × Json}
    (h : field ∈ erase key fields) : field.1 ≠ key := by
  rintro rfl
  exact get?_eq_none_iff.mp (get?_erase_self hnodup) (List.mem_map_of_mem h)

theorem mem_of_mem_erases {keys : List String} {field : String × Json}
    (h : field ∈ erases keys fields) : field ∈ fields := by
  induction keys generalizing fields with
  | nil => exact h
  | cons k rest ih => exact mem_of_mem_erase (ih h)

theorem mem_modify {f : Json → Json} {k : String} {w : Json} (h : (k, w) ∈ modify key f fields) :
    ∃ u, (k, u) ∈ fields ∧ w = if k = key then f u else u := by
  obtain ⟨⟨_, u⟩, hu, heq⟩ := List.mem_map.mp h
  cases heq
  exact ⟨u, hu, rfl⟩

theorem mem_insert {field : String × Json} (h : field ∈ insert key v fields) :
    field = (key, v) ∨ field ∈ fields := by
  induction fields with
  | nil => exact Or.inl (List.mem_singleton.mp h)
  | cons entry rest ih =>
    obtain ⟨k, w⟩ := entry
    by_cases hk : k = key
    · rw [insert, if_pos hk] at h
      rcases List.mem_cons.mp h with rfl | h
      · exact Or.inl (by rw [hk])
      · exact Or.inr (List.mem_cons_of_mem _ h)
    · rw [insert, if_neg hk] at h
      rcases List.mem_cons.mp h with rfl | h
      · exact Or.inr List.mem_cons_self
      · exact (ih h).imp_right (List.mem_cons_of_mem _)

theorem nodup_insert (hnodup : (fields.map Prod.fst).Nodup) :
    ((insert key v fields).map Prod.fst).Nodup := by
  induction fields with
  | nil => simp [insert]
  | cons entry rest ih =>
    obtain ⟨k, w⟩ := entry
    rw [List.map_cons, List.nodup_cons] at hnodup
    by_cases hk : k = key
    · rw [insert, if_pos hk, List.map_cons, List.nodup_cons]
      exact hnodup
    · rw [insert, if_neg hk, List.map_cons, List.nodup_cons]
      refine ⟨fun hmem => ?_, ih hnodup.2⟩
      obtain ⟨field, hfield, hfst⟩ := List.mem_map.mp hmem
      rcases mem_insert hfield with rfl | hold
      · exact hk hfst.symm
      · exact hnodup.1 (List.mem_map.mpr ⟨field, hold, hfst⟩)

theorem nodup_erases {keys : List String} (hnodup : (fields.map Prod.fst).Nodup) :
    ((erases keys fields).map Prod.fst).Nodup := by
  induction keys generalizing fields with
  | nil => exact hnodup
  | cons k rest ih => exact ih (nodup_erase hnodup)

theorem get?_erases {keys : List String} (hkey : key ∉ keys)
    (hnodup : (fields.map Prod.fst).Nodup) : get? key (erases keys fields) = get? key fields := by
  induction keys generalizing fields with
  | nil => rfl
  | cons k rest ih =>
    rw [List.mem_cons, not_or] at hkey
    exact (ih hkey.2 (nodup_erase hnodup)).trans (get?_erase_of_ne hnodup (Ne.symm hkey.1))

theorem get?_erases_of_mem {keys : List String} (hkey : key ∈ keys)
    (hnodup : (fields.map Prod.fst).Nodup) : get? key (erases keys fields) = none := by
  induction keys generalizing fields with
  | nil => cases hkey
  | cons k rest ih =>
    by_cases hrest : key ∈ rest
    · exact ih hrest (nodup_erase hnodup)
    · obtain rfl : key = k := (List.mem_cons.mp hkey).resolve_right hrest
      exact (get?_erases hrest (nodup_erase hnodup)).trans (get?_erase_self hnodup)

theorem get?_modify (f : Json → Json) :
    get? other (modify key f fields) =
      (get? other fields).map fun v => if other = key then f v else v :=
  get?_map (fun k v => if k = key then f v else v) fields

/-- Where no key is repeated, a field is kept or left out for its value alone. -/
theorem get?_filter {p : Json → Bool} (hnodup : (fields.map Prod.fst).Nodup) :
    get? key (fields.filter fun field => p field.2) = (get? key fields).filter p := by
  have hkept : ((fields.filter fun field => p field.2).map Prod.fst).Nodup :=
    hnodup.sublist (List.filter_sublist.map _)
  apply Option.ext
  intro v
  rw [get?_eq_some_iff hkept, List.mem_filter, Option.filter_eq_some_iff, get?_eq_some_iff hnodup]

/-- Entries without repetition are all found after they have been entered, before anything that
was there. -/
theorem get?_foldl_insert {entries : Fields} (hnodup : (entries.map Prod.fst).Nodup)
    (start : Fields) :
    get? key (entries.foldl (fun fields (k, v) => insert k v fields) start) =
      (get? key entries).or (get? key start) := by
  induction entries generalizing start with
  | nil => rfl
  | cons entry rest ih =>
    obtain ⟨k, v⟩ := entry
    rw [List.map_cons, List.nodup_cons] at hnodup
    rw [List.foldl_cons, ih hnodup.2]
    by_cases hk : k = key
    · subst hk
      rw [get?_insert_self, get?_eq_none_iff.mpr hnodup.1, get?, if_pos rfl]
      rfl
    · rw [get?_insert_of_ne hk, get?, if_neg hk]

theorem mem_foldl_insert {entries : Fields} {field : String × Json} {start : Fields}
    (h : field ∈ entries.foldl (fun fields (k, v) => insert k v fields) start) :
    field ∈ entries ∨ field ∈ start := by
  induction entries generalizing start with
  | nil => exact Or.inr h
  | cons entry rest ih =>
    rcases ih h with hrest | hstart
    · exact Or.inl (List.mem_cons_of_mem _ hrest)
    · rcases mem_insert hstart with rfl | hold
      · exact Or.inl List.mem_cons_self
      · exact Or.inr hold

theorem mem_ofList {entries : Fields} {field : String × Json} (h : field ∈ ofList entries) :
    field ∈ entries :=
  (mem_foldl_insert h).elim id fun hnil => absurd hnil List.not_mem_nil

theorem keys_insert (key : String) (v : Json) (fields : Fields) :
    (insert key v fields).map Prod.fst =
      if key ∈ fields.map Prod.fst then fields.map Prod.fst else fields.map Prod.fst ++ [key] := by
  induction fields with
  | nil => simp [insert]
  | cons field rest ih =>
    obtain ⟨k, w⟩ := field
    rw [insert]
    by_cases hk : k = key
    · simp [hk]
    · rw [if_neg hk, List.map_cons, ih]
      simp only [List.map_cons, List.mem_cons, Ne.symm hk, false_or]
      split <;> rfl

theorem insert_of_get?_eq_none (h : get? key fields = none) :
    insert key v fields = fields ++ [(key, v)] := by
  induction fields with
  | nil => rfl
  | cons field rest ih =>
    obtain ⟨k, w⟩ := field
    by_cases hk : k = key
    · simp [get?, hk] at h
    · rw [get?, if_neg hk] at h
      rw [insert, if_neg hk, ih h, List.cons_append]

/-- Entries without repetition are entered as they are. -/
theorem ofList_of_nodup {entries : Fields} (hnodup : (entries.map Prod.fst).Nodup) :
    ofList entries = entries := by
  have hrun : ∀ start : Fields, ((start ++ entries).map Prod.fst).Nodup →
      entries.foldl (fun fields (k, v) => insert k v fields) start = start ++ entries := by
    clear hnodup
    induction entries with
    | nil => simp
    | cons entry rest ih =>
      intro start hstart
      obtain ⟨k, v⟩ := entry
      have hnew : get? k start = none := by
        rw [List.map_append, List.nodup_append] at hstart
        exact get?_eq_none_iff.mpr fun hmem => hstart.2.2 _ hmem _ List.mem_cons_self rfl
      rw [List.append_cons] at hstart
      show rest.foldl _ (insert k v start) = _
      rw [insert_of_get?_eq_none hnew, ih _ hstart, List.append_assoc, List.singleton_append]
  exact hrun [] hnodup

/-- The keys of entered entries stand in the order in which they came first. -/
theorem keys_ofList (entries : Fields) :
    (ofList entries).map Prod.fst = (entries.map Prod.fst).eraseDups := by
  have hrun : ∀ (seen : List String) (start : Fields), start.map Prod.fst = seen.eraseDups →
      (entries.foldl (fun fields (k, v) => insert k v fields) start).map Prod.fst =
        (seen ++ entries.map Prod.fst).eraseDups := by
    induction entries with
    | nil =>
      intro seen start hstart
      rw [List.map_nil, List.append_nil]
      exact hstart
    | cons entry rest ih =>
      intro seen start hstart
      obtain ⟨k, v⟩ := entry
      have hnext : (insert k v start).map Prod.fst = (seen ++ [k]).eraseDups := by
        rw [keys_insert, hstart, List.eraseDups_append]
        by_cases hk : k ∈ seen
        · simp [List.removeAll, hk]
        · simp [List.removeAll, hk, List.eraseDups_cons]
      have hrest := ih (seen ++ [k]) (insert k v start) hnext
      rw [List.append_assoc, List.singleton_append] at hrest
      exact hrest
  exact hrun [] [] rfl

/-! ### Reading fields one by one -/

/-- One part of what a fold over fields makes depends on one key: it is what is read there, and
every other key leaves it alone. -/
structure PartAt {σ α ε : Type} (step : σ → String × Json → Except ε σ) (key : String)
    (reader : Json → Except ε α) (part : σ → α) : Prop where
  self : ∀ {s s' v}, step s (key, v) = .ok s' → reader v = .ok (part s')
  other : ∀ {s s' k v}, k ≠ key → step s (k, v) = .ok s' → part s' = part s

/-- Where no key is repeated, the part is what is read at the one field, or what it was. -/
theorem PartAt.foldlM {σ α ε : Type} {step : σ → String × Json → Except ε σ}
    {reader : Json → Except ε α} {part : σ → α} (hpart : PartAt step key reader part)
    (hnodup : (fields.map Prod.fst).Nodup) {s s' : σ} (h : fields.foldlM step s = .ok s') :
    (∀ v, fields.get? key = some v → reader v = .ok (part s')) ∧
    (fields.get? key = none → part s' = part s) := by
  induction fields generalizing s with
  | nil =>
    cases h
    exact ⟨fun v hv => by simp [Fields.get?] at hv, fun _ => rfl⟩
  | cons field rest ih =>
    obtain ⟨k, w⟩ := field
    rw [List.map_cons, List.nodup_cons] at hnodup
    rw [List.foldlM_cons, Outcome.bind_eq_ok_iff] at h
    obtain ⟨next, hnext, hrest⟩ := h
    obtain ⟨hsome, hnone⟩ := ih hnodup.2 hrest
    by_cases hk : k = key
    · subst hk
      have hkept : part s' = part next := hnone (get?_eq_none_iff.mpr hnodup.1)
      rw [get?, if_pos rfl]
      refine ⟨fun v hv => ?_, fun h => by cases h⟩
      cases hv
      rw [hkept]
      exact hpart.self hnext
    · rw [get?, if_neg hk]
      exact ⟨hsome, fun hget => (hnone hget).trans (hpart.other hk hnext)⟩

end ApiGraph.Fields

namespace ApiGraph.Json

theorem strAt?_eq_some_iff {v : Json} {key s : String} :
    v.strAt? key = some s ↔ v.get? key = some (.str s) := by
  rw [strAt?, Option.bind_eq_some_iff]
  constructor
  · rintro ⟨w, hw, hs⟩
    cases w <;> cases hs
    exact hw
  · exact fun h => ⟨.str s, h, rfl⟩

/-! ### Sizes -/

theorem sizeOf_lt_of_mem_fields {fields : Fields} {field : String × Json} (h : field ∈ fields) :
    sizeOf field.2 < sizeOf (Json.obj fields) := by
  have hlt := List.sizeOf_lt_of_mem h
  have hfield : sizeOf field = 1 + sizeOf field.1 + sizeOf field.2 := rfl
  rw [obj.sizeOf_spec]
  omega

theorem sizeOf_lt_of_mem_items {items : List Json} {v : Json} (h : v ∈ items) :
    sizeOf v < sizeOf (Json.arr items) := by
  have hlt := List.sizeOf_lt_of_mem h
  rw [arr.sizeOf_spec]
  omega

/-! ### Well-formed values -/

theorem wellFormed_of_mem_items {items : List Json} (h : AllWellFormed items) {v : Json}
    (hv : v ∈ items) : v.WellFormed := by
  induction items with
  | nil => cases hv
  | cons w rest ih =>
    rcases List.mem_cons.mp hv with rfl | hv
    · exact h.1
    · exact ih h.2 hv

theorem wellFormed_of_mem_fields {fields : Fields} (h : FieldsWellFormed fields) {key : String}
    {v : Json} (hv : (key, v) ∈ fields) : v.WellFormed := by
  induction fields with
  | nil => cases hv
  | cons field rest ih =>
    rcases List.mem_cons.mp hv with heq | hv
    · cases heq
      exact h.1
    · exact ih h.2 hv

end ApiGraph.Json
