import ApiGraph.Proofs.Json.WellFormed
import ApiGraph.Proofs.Reference.Pointer
import ApiGraph.Yaml.Basic

/-!
# From YAML to JSON

A place in a YAML value is the list of the steps that lead there. A mapping has two parts for each
entry, the key and, behind it, the value, so the order of a document is the lexicographic order of
its places, each step counting as its rank among the parts of its collection. Tags are no steps.

What cannot be written as JSON offends at its place: a key that is no scalar, or a number that is
not finite, unless it is itself a key. Conversion succeeds where nothing offends, and it fails with
the fault at the first place that does. The places in a key that is no scalar are all behind the
place of the key, and scalar keys have no places in them, so keys need not be searched.
-/

namespace ApiGraph

/-! ### Fields with repeated keys -/

namespace Fields

/-- Each key of some entries in its first place and with its last value. -/
def collected (entries : Fields) : Fields :=
  (entries.map Prod.fst).eraseDups.filterMap fun key =>
    (get? key entries.reverse).map fun v => (key, v)

theorem get?_foldl_insert_reverse (key : String) (entries start : Fields) :
    get? key (entries.foldl (fun fields (k, v) => insert k v fields) start) =
      (get? key entries.reverse).or (get? key start) := by
  induction entries generalizing start with
  | nil => rfl
  | cons entry rest ih =>
    obtain ⟨k, v⟩ := entry
    have hone : get? key (insert k v start) = (get? key [(k, v)]).or (get? key start) := by
      by_cases hk : k = key
      · subst hk
        rw [get?_insert_self, get?, if_pos rfl, Option.some_or]
      · rw [get?_insert_of_ne hk, get?, if_neg hk, get?, Option.none_or]
    rw [List.foldl_cons, ih, hone, List.reverse_cons, get?_append, Option.or_assoc]

/-- Where no key is repeated, the fields are made up again of their keys. -/
theorem filterMap_get?_keys {fields : Fields} (hnodup : (fields.map Prod.fst).Nodup) :
    ((fields.map Prod.fst).filterMap fun key => (get? key fields).map fun v => (key, v)) =
      fields := by
  rw [List.filterMap_map]
  conv_rhs => rw [← List.filterMap_some (l := fields)]
  refine List.filterMap_congr fun field hfield => ?_
  have hget : get? field.1 fields = some field.2 := (get?_eq_some_iff hnodup).mpr hfield
  simp only [Function.comp_apply, hget, Option.map_some]

theorem nodup_foldl_insert (entries : Fields) :
    ∀ start : Fields, (start.map Prod.fst).Nodup →
      ((entries.foldl (fun fields (k, v) => insert k v fields) start).map Prod.fst).Nodup := by
  induction entries with
  | nil => exact fun _ h => h
  | cons entry rest ih => exact fun start h => ih _ (nodup_insert h)

theorem ofList_eq_collected (entries : Fields) : ofList entries = collected entries := by
  have hnodup : ((ofList entries).map Prod.fst).Nodup :=
    nodup_foldl_insert entries [] List.nodup_nil
  rw [← filterMap_get?_keys hnodup, keys_ofList, collected]
  refine List.filterMap_congr fun key _ => ?_
  rw [ofList, get?_foldl_insert_reverse]
  simp [get?]

end Fields

/-! ### Locations of items -/

theorem Pointer.encodeChar_of_ne {c : Char} (hslash : c ≠ '/') (htilde : c ≠ '~') :
    encodeChar c = [c] := by
  rw [encodeChar.eq_def]
  split
  · exact absurd rfl htilde
  · exact absurd rfl hslash
  · rfl

theorem Pointer.encodeKey_of_not_mem {key : String} (hslash : '/' ∉ key.toList)
    (htilde : '~' ∉ key.toList) : encodeKey key = key := by
  have hchars : ∀ c ∈ key.toList, encodeChar c = [c] := fun c hc =>
    encodeChar_of_ne (fun heq => hslash (heq ▸ hc)) fun heq => htilde (heq ▸ hc)
  rw [encodeKey, List.flatMap_congr hchars, List.flatMap_singleton', String.ofList_toList]

theorem Pointer.item_eq (base : String) (index : Nat) :
    item base index = base ++ "/" ++ toString index := by
  rw [item, child, encodeKey_of_not_mem]
  · exact fun hmem => absurd (Text.isDigit_of_mem_toString hmem) (by decide)
  · exact fun hmem => absurd (Text.isDigit_of_mem_toString hmem) (by decide)

namespace Yaml

/-! ### Places -/

/-- A step from a collection to one of its parts. -/
inductive Step where
  | item (index : Nat)
  | key (index : Nat)
  | value (index : Nat)

/-- Where a part stands among the parts of its collection. -/
def Step.rank : Step → Nat
  | item i => i
  | key i => 2 * i
  | value i => 2 * i + 1

/-- The part that a step leads to. -/
def part? : Yaml → Step → Option Yaml
  | .seq items, .item i => items[i]?
  | .map entries, .key i => entries[i]?.map Prod.fst
  | .map entries, .value i => entries[i]?.map Prod.snd
  | .tagged _ v, s => part? v s
  | _, _ => none

/-- What stands at a place. -/
def at? (y : Yaml) : List Step → Option Yaml
  | [] => some y
  | s :: rest => (y.part? s).bind fun v => v.at? rest

/-- One place comes before another in the order of the document. -/
def Before (place other : List Step) : Prop := place.map Step.rank < other.map Step.rank

/-- A value without its tags. -/
def untagged : Yaml → Yaml
  | .tagged _ v => untagged v
  | v => v

/-- A value is no scalar. -/
def IsComposite : Yaml → Prop
  | .seq _ | .map _ | .tagged _ _ => True
  | _ => False

/-- What stands at a place cannot be written as JSON: it is a key that is no scalar, or a number
that is not finite and no key. -/
inductive Offends (y : Yaml) (place : List Step) : Prop
  | key {i : Nat} {k : Yaml} (hlast : place.getLast? = some (.key i)) (hk : y.at? place = some k)
      (hcomposite : k.IsComposite) : Offends y place
  | number {v : Yaml} {n : Json.Number} (hlast : ∀ i, place.getLast? ≠ some (.key i))
      (hv : y.at? place = some v) (hn : v.untagged = .num n) (hinfinite : isFinite n = false) :
      Offends y place

/-- Nothing offends, at any place. -/
def Clean (y : Yaml) : Prop := ∀ place, ¬ y.Offends place

/-- The first place at which something offends. -/
structure IsFirst (y : Yaml) (place : List Step) : Prop where
  offends : y.Offends place
  first : ∀ other, y.Offends other → other = place ∨ Before place other

/-- The key that a step adds to a location. -/
def stepText? (y : Yaml) : Step → Option String
  | .item i => some (toString i)
  | .value i => (y.part? (.key i)).bind keyText?
  | .key _ => none

/-- How an offence is reported: a key at the location of its mapping, a number at its own. -/
def faultAt? (location : String) (y : Yaml) : List Step → Option TextFault
  | [] =>
    match y.untagged with
    | .num n => some (.notFinite location (numberText n))
    | _ => none
  | [.key _] => some (.keyNotScalar location)
  | s :: rest => do
    let text ← y.stepText? s
    let v ← y.part? s
    v.faultAt? (Pointer.child location text) rest

/-! ### The JSON form -/

mutual

/-- The JSON form of a value: without tags, and with the keys of each mapping collected. -/
def jsonForm : Yaml → Json
  | .null => .null
  | .bool b => .bool b
  | .num n => .num n
  | .str s => .str s
  | .seq items => .arr (itemForms items)
  | .map entries => .obj (Fields.collected (entryForms entries))
  | .tagged _ v => jsonForm v

def itemForms : List Yaml → List Json
  | [] => []
  | v :: rest => jsonForm v :: itemForms rest

/-- The entries whose keys have a text. -/
def entryForms : List (Yaml × Yaml) → Fields
  | [] => []
  | (k, v) :: rest =>
    match keyText? k with
    | some key => (key, jsonForm v) :: entryForms rest
    | none => entryForms rest

end

/-! ### Offences step by step -/

variable {y v : Yaml} {place : List Step}

theorem keyText?_eq_none_iff {k : Yaml} : keyText? k = none ↔ k.IsComposite := by
  cases k <;> simp [keyText?, IsComposite]

theorem part?_eq_none_of_keyText? {k : Yaml} {key : String} (h : keyText? k = some key) (s : Step) :
    k.part? s = none := by
  cases k <;> first | rfl | cases h

theorem offends_nil_iff : y.Offends [] ↔ ∃ n, y.untagged = .num n ∧ isFinite n = false := by
  constructor
  · intro h
    cases h with
    | key hlast => cases hlast
    | number _ hv hn hinfinite =>
      cases hv
      exact ⟨_, hn, hinfinite⟩
  · rintro ⟨n, hn, hinfinite⟩
    exact .number (fun i h => by cases h) rfl hn hinfinite

/-- A step to anything but a key carries offences on. -/
theorem offends_cons_iff {s : Step} (hs : ∀ i, s ≠ .key i) :
    y.Offends (s :: place) ↔ ∃ v, y.part? s = some v ∧ v.Offends place := by
  have hlast : ∀ i, (s :: place).getLast? = some (.key i) ↔ place.getLast? = some (.key i) := by
    intro i
    cases place with
    | nil => simp [hs i]
    | cons t rest => rw [List.getLast?_cons_cons]
  constructor
  · intro h
    cases h with
    | key hkey hk hcomposite =>
      obtain ⟨v, hv, hk⟩ := Option.bind_eq_some_iff.mp hk
      exact ⟨v, hv, .key ((hlast _).mp hkey) hk hcomposite⟩
    | number hnumber hw hn hinfinite =>
      obtain ⟨v, hv, hw⟩ := Option.bind_eq_some_iff.mp hw
      exact ⟨v, hv, .number (fun i hi => hnumber i ((hlast i).mpr hi)) hw hn hinfinite⟩
  · rintro ⟨v, hv, h⟩
    cases h with
    | key hkey hk hcomposite =>
      exact .key ((hlast _).mpr hkey) (Option.bind_eq_some_iff.mpr ⟨v, hv, hk⟩) hcomposite
    | number hnumber hw hn hinfinite =>
      exact .number (fun i hi => hnumber i ((hlast i).mp hi))
        (Option.bind_eq_some_iff.mpr ⟨v, hv, hw⟩) hn hinfinite

theorem exists_part_of_at? {s : Step} {w : Yaml} (h : y.at? (s :: place) = some w) :
    ∃ v, y.part? s = some v ∧ v.at? place = some w :=
  Option.bind_eq_some_iff.mp h

theorem Offends.exists_at (h : y.Offends place) : ∃ v, y.at? place = some v := by
  cases h with
  | key _ hk _ => exact ⟨_, hk⟩
  | number _ hv _ _ => exact ⟨_, hv⟩

theorem offends_key {i : Nat} {k : Yaml} (hk : y.part? (.key i) = some k)
    (hscalar : keyText? k = none) : y.Offends [.key i] :=
  .key rfl (Option.bind_eq_some_iff.mpr ⟨k, hk, rfl⟩) (keyText?_eq_none_iff.mp hscalar)

/-- Whatever offends at a key or within it, the key is no scalar. -/
theorem exists_key_of_offends {i : Nat} (h : y.Offends (.key i :: place)) :
    ∃ k, y.part? (.key i) = some k ∧ keyText? k = none := by
  cases place with
  | nil =>
    cases h with
    | key _ hat hcomposite =>
      obtain ⟨k, hk, hat⟩ := exists_part_of_at? hat
      cases hat
      exact ⟨_, hk, keyText?_eq_none_iff.mpr hcomposite⟩
    | number hlast => exact absurd rfl (hlast i)
  | cons s rest =>
    obtain ⟨_, hat⟩ := h.exists_at
    obtain ⟨k, hk, hat⟩ := exists_part_of_at? hat
    obtain ⟨v, hv, _⟩ := exists_part_of_at? hat
    refine ⟨k, hk, ?_⟩
    -- A key that has a part is no scalar.
    cases htext : keyText? k with
    | none => rfl
    | some key =>
      rw [part?_eq_none_of_keyText? htext] at hv
      cases hv

theorem Offends.congr {w : Yaml} (h : y.Offends place) (hat : w.at? place = y.at? place) :
    w.Offends place := by
  cases h with
  | key hlast hk hcomposite => exact .key hlast (hat.trans hk) hcomposite
  | number hlast hv hn hinfinite => exact .number hlast (hat.trans hv) hn hinfinite

theorem offends_tagged_iff {tag : String} : (tagged tag v).Offends place ↔ v.Offends place := by
  cases place with
  | nil => rw [offends_nil_iff, offends_nil_iff, untagged]
  | cons s rest => exact ⟨fun h => h.congr rfl, fun h => h.congr rfl⟩

theorem faultAt?_tagged (location tag : String) (v : Yaml) (place : List Step) :
    (tagged tag v).faultAt? location place = v.faultAt? location place := by
  cases place with
  | nil => rfl
  | cons s rest => cases s <;> cases rest <;> rfl

/-! ### Offences in collections -/

/-- The key of an entry has a text, and nothing offends in its value. -/
def CleanEntry (entry : Yaml × Yaml) : Prop :=
  (∃ key, keyText? entry.1 = some key) ∧ entry.2.Clean

variable {items : List Yaml} {entries : List (Yaml × Yaml)} {entry : Yaml × Yaml} {i : Nat}

theorem exists_item_of_offends (h : (seq items).Offends place) :
    ∃ i v rest, place = .item i :: rest ∧ items[i]? = some v ∧ v.Offends rest := by
  cases place with
  | nil =>
    obtain ⟨n, hn, _⟩ := offends_nil_iff.mp h
    cases hn
  | cons s rest =>
    cases s with
    | item i =>
      obtain ⟨v, hv, hrest⟩ := (offends_cons_iff (by simp)).mp h
      exact ⟨i, v, rest, rfl, hv, hrest⟩
    | key i =>
      obtain ⟨k, hk, _⟩ := exists_key_of_offends h
      cases hk
    | value i =>
      obtain ⟨v, hv, _⟩ := (offends_cons_iff (by simp)).mp h
      cases hv

theorem exists_entry_of_offends (h : (map entries).Offends place) :
    ∃ i entry rest, entries[i]? = some entry ∧
      (place = .key i :: rest ∧ keyText? entry.1 = none ∨
        place = .value i :: rest ∧ entry.2.Offends rest) := by
  cases place with
  | nil =>
    obtain ⟨n, hn, _⟩ := offends_nil_iff.mp h
    cases hn
  | cons s rest =>
    cases s with
    | item i =>
      obtain ⟨v, hv, _⟩ := (offends_cons_iff (by simp)).mp h
      cases hv
    | key i =>
      obtain ⟨k, hk, hscalar⟩ := exists_key_of_offends h
      obtain ⟨entry, hentry, rfl⟩ := Option.map_eq_some_iff.mp hk
      exact ⟨i, entry, rest, hentry, Or.inl ⟨rfl, hscalar⟩⟩
    | value i =>
      obtain ⟨v, hv, hrest⟩ := (offends_cons_iff (by simp)).mp h
      obtain ⟨entry, hentry, rfl⟩ := Option.map_eq_some_iff.mp hv
      exact ⟨i, entry, rest, hentry, Or.inr ⟨rfl, hrest⟩⟩

theorem clean_seq (h : ∀ v ∈ items, v.Clean) : (seq items).Clean := by
  intro place hoffends
  obtain ⟨i, v, rest, _, hv, hrest⟩ := exists_item_of_offends hoffends
  exact h v (List.mem_of_getElem? hv) rest hrest

theorem clean_map (h : ∀ entry ∈ entries, CleanEntry entry) : (map entries).Clean := by
  intro place hoffends
  obtain ⟨i, entry, rest, hentry, ⟨_, hscalar⟩ | ⟨_, hrest⟩⟩ := exists_entry_of_offends hoffends
  · obtain ⟨⟨key, hkey⟩, _⟩ := h entry (List.mem_of_getElem? hentry)
    rw [hkey] at hscalar
    cases hscalar
  · exact (h entry (List.mem_of_getElem? hentry)).2 rest hrest

theorem before_of_rank_lt {s t : Step} (h : s.rank < t.rank) (place other : List Step) :
    Before (s :: place) (t :: other) :=
  List.cons_lt_cons_iff.mpr (Or.inl h)

theorem Before.cons {other : List Step} (h : Before place other) (s : Step) :
    Before (s :: place) (s :: other) :=
  List.cons_lt_cons_iff.mpr (Or.inr ⟨rfl, h⟩)

theorem before_nil_cons (s : Step) (rest : List Step) : Before [] (s :: rest) :=
  List.nil_lt_cons _ _

theorem mem_take_of_getElem? {α : Type} {xs : List α} {x : α} {k i : Nat} (hx : xs[k]? = some x)
    (hlt : k < i) : x ∈ xs.take i :=
  List.mem_of_getElem? ((List.getElem?_take_of_lt hlt).trans hx)

/-- What is first in an item is first in the sequence, if nothing offends in the items before it. -/
theorem IsFirst.item (h : v.IsFirst place) (hv : items[i]? = some v)
    (hearlier : ∀ w ∈ items.take i, w.Clean) : (seq items).IsFirst (.item i :: place) where
  offends := (offends_cons_iff (by simp)).mpr ⟨v, hv, h.offends⟩
  first := by
    intro other hother
    obtain ⟨k, w, rest, rfl, hw, hrest⟩ := exists_item_of_offends hother
    rcases Nat.lt_trichotomy k i with hlt | rfl | hgt
    · exact absurd hrest (hearlier w (mem_take_of_getElem? hw hlt) rest)
    · rw [hv] at hw
      cases hw
      rcases h.first rest hrest with rfl | hbefore
      · exact Or.inl rfl
      · exact Or.inr (hbefore.cons _)
    · exact Or.inr (before_of_rank_lt (s := .item i) (t := .item k) hgt _ _)

/-- Whatever offends in a mapping is not in the entries in which nothing does. -/
theorem exists_entry_from (hearlier : ∀ e ∈ entries.take i, CleanEntry e)
    (h : (map entries).Offends place) :
    ∃ k entry rest, i ≤ k ∧ entries[k]? = some entry ∧
      (place = .key k :: rest ∧ keyText? entry.1 = none ∨
        place = .value k :: rest ∧ entry.2.Offends rest) := by
  obtain ⟨k, entry, rest, hentry, hcase⟩ := exists_entry_of_offends h
  refine ⟨k, entry, rest, ?_, hentry, hcase⟩
  by_contra hlt
  obtain ⟨⟨key, hkey⟩, hclean⟩ := hearlier entry (mem_take_of_getElem? hentry (by omega))
  rcases hcase with ⟨_, hnone⟩ | ⟨_, hrest⟩
  · rw [hkey] at hnone
    cases hnone
  · exact hclean rest hrest

/-- A key that is no scalar is first, if nothing offends in the entries before it. -/
theorem isFirst_key (hentry : entries[i]? = some entry) (hscalar : keyText? entry.1 = none)
    (hearlier : ∀ e ∈ entries.take i, CleanEntry e) :
    (map entries).IsFirst [.key i] where
  offends := offends_key (Option.map_eq_some_iff.mpr ⟨entry, hentry, rfl⟩) hscalar
  first := by
    intro other hother
    obtain ⟨k, e, rest, hle, he, hcase⟩ := exists_entry_from hearlier hother
    rcases hcase with ⟨rfl, _⟩ | ⟨rfl, _⟩
    · rcases Nat.lt_or_eq_of_le hle with hlt | rfl
      · exact Or.inr (before_of_rank_lt (by simp only [Step.rank]; omega) _ _)
      · cases rest with
        | nil => exact Or.inl rfl
        | cons s rest => exact Or.inr ((before_nil_cons s rest).cons _)
    · exact Or.inr (before_of_rank_lt (by simp only [Step.rank]; omega) _ _)

/-- What is first in the value of an entry is first in the mapping, if the key of the entry is a
scalar and nothing offends in the entries before it. -/
theorem IsFirst.value (h : entry.2.IsFirst place) (hentry : entries[i]? = some entry) {key : String}
    (hkey : keyText? entry.1 = some key)
    (hearlier : ∀ e ∈ entries.take i, CleanEntry e) :
    (map entries).IsFirst (.value i :: place) where
  offends := (offends_cons_iff (by simp)).mpr
    ⟨entry.2, Option.map_eq_some_iff.mpr ⟨entry, hentry, rfl⟩, h.offends⟩
  first := by
    intro other hother
    obtain ⟨k, e, rest, hle, he, hcase⟩ := exists_entry_from hearlier hother
    rcases Nat.lt_or_eq_of_le hle with hlt | rfl
    · rcases hcase with ⟨rfl, _⟩ | ⟨rfl, _⟩
      · exact Or.inr (before_of_rank_lt (by simp only [Step.rank]; omega) _ _)
      · exact Or.inr (before_of_rank_lt (by simp only [Step.rank]; omega) _ _)
    · rw [hentry] at he
      cases he
      rcases hcase with ⟨_, hnone⟩ | ⟨rfl, hrest⟩
      · rw [hkey] at hnone
        cases hnone
      · rcases h.first rest hrest with rfl | hbefore
        · exact Or.inl rfl
        · exact Or.inr (hbefore.cons _)

/-! ### Conversion -/

open Outcome

/-- The answer of the conversion at a location is right. -/
structure Judged (location : String) (y : Yaml) : Prop where
  ok : ∀ {j}, toJsonAt location y = .ok j → y.Clean ∧ j = y.jsonForm
  error : ∀ {f}, toJsonAt location y = .error f →
    ∃ place, y.IsFirst place ∧ y.faultAt? location place = some f

section Collections

variable {location : String}

theorem itemsToJson_cons (location : String) (index : Nat) (v : Yaml) (rest : List Yaml) :
    itemsToJson location index (v :: rest) =
      (toJsonAt (Pointer.item location index) v >>= fun item =>
        itemsToJson location (index + 1) rest >>= fun later => .ok (item :: later)) := by
  rw [itemsToJson, Pointer.item_eq]
  rfl

theorem clean_of_itemsToJson (h : ∀ v ∈ items, ∀ location, Judged location v) {index : Nat}
    {js : List Json} (hjs : itemsToJson location index items = .ok js) :
    (∀ v ∈ items, v.Clean) ∧ js = itemForms items := by
  induction items generalizing index js with
  | nil =>
    cases hjs
    exact ⟨by simp, rfl⟩
  | cons v rest ih =>
    rw [List.forall_mem_cons] at h
    rw [itemsToJson_cons] at hjs
    obtain ⟨item, hitem, hjs⟩ := bind_eq_ok_iff.mp hjs
    obtain ⟨later, hlater, hjs⟩ := bind_eq_ok_iff.mp hjs
    cases hjs
    obtain ⟨hclean, rfl⟩ := (h.1 _).ok hitem
    obtain ⟨hrest, rfl⟩ := ih h.2 hlater
    exact ⟨List.forall_mem_cons.mpr ⟨hclean, hrest⟩, rfl⟩

/-- The fault of a sequence is that of the first item in which something offends. -/
theorem exists_item_of_itemsToJson (h : ∀ v ∈ items, ∀ location, Judged location v) {index : Nat}
    {f : TextFault} (hf : itemsToJson location index items = .error f) :
    ∃ (i : Nat) (v : Yaml) (place : List Step), items[i]? = some v ∧
      (∀ w ∈ items.take i, w.Clean) ∧ v.IsFirst place ∧
      v.faultAt? (Pointer.item location (index + i)) place = some f := by
  induction items generalizing index with
  | nil => cases hf
  | cons v rest ih =>
    rw [List.forall_mem_cons] at h
    rw [itemsToJson_cons] at hf
    rcases bind_eq_error_iff.mp hf with hitem | ⟨item, hitem, hf⟩
    · obtain ⟨place, hfirst, hfault⟩ := (h.1 _).error hitem
      exact ⟨0, v, place, rfl, by simp, hfirst, hfault⟩
    · rcases bind_eq_error_iff.mp hf with hlater | ⟨later, _, hf⟩
      · obtain ⟨i, w, place, hw, hearlier, hfirst, hfault⟩ := ih h.2 hlater
        rw [Nat.add_assoc, Nat.add_comm 1] at hfault
        exact ⟨i + 1, w, place, hw, List.forall_mem_cons.mpr ⟨((h.1 _).ok hitem).1, hearlier⟩,
          hfirst, hfault⟩
      · cases hf

theorem entriesToJson_cons_of_text {key : String} (hkey : keyText? entry.1 = some key)
    (location : String) (read : Fields) (rest : List (Yaml × Yaml)) :
    entriesToJson location read (entry :: rest) =
      (toJsonAt (Pointer.child location key) entry.2 >>= fun value =>
        entriesToJson location (read.insert key value) rest) := by
  obtain ⟨k, v⟩ := entry
  rw [entriesToJson, hkey]

theorem entriesToJson_cons_of_none (hkey : keyText? entry.1 = none)
    (location : String) (read : Fields) (rest : List (Yaml × Yaml)) :
    entriesToJson location read (entry :: rest) = .error (.keyNotScalar location) := by
  obtain ⟨k, v⟩ := entry
  rw [entriesToJson, hkey]

theorem entryForms_cons_of_text {key : String} (hkey : keyText? entry.1 = some key)
    (rest : List (Yaml × Yaml)) :
    entryForms (entry :: rest) = (key, entry.2.jsonForm) :: entryForms rest := by
  obtain ⟨k, v⟩ := entry
  rw [entryForms, hkey]

theorem clean_of_entriesToJson (h : ∀ entry ∈ entries, ∀ location, Judged location entry.2)
    {read fields : Fields} (hfields : entriesToJson location read entries = .ok fields) :
    (∀ entry ∈ entries, CleanEntry entry) ∧
      fields = (entryForms entries).foldl (fun fields (k, v) => Fields.insert k v fields) read := by
  induction entries generalizing read with
  | nil =>
    cases hfields
    exact ⟨by simp, rfl⟩
  | cons entry rest ih =>
    rw [List.forall_mem_cons] at h
    cases hkey : keyText? entry.1 with
    | none =>
      rw [entriesToJson_cons_of_none hkey] at hfields
      cases hfields
    | some key =>
      rw [entriesToJson_cons_of_text hkey] at hfields
      obtain ⟨value, hvalue, hfields⟩ := bind_eq_ok_iff.mp hfields
      obtain ⟨hclean, rfl⟩ := (h.1 _).ok hvalue
      obtain ⟨hrest, heq⟩ := ih h.2 hfields
      rw [entryForms_cons_of_text hkey]
      exact ⟨List.forall_mem_cons.mpr ⟨⟨⟨key, hkey⟩, hclean⟩, hrest⟩, heq⟩

/-- The fault of a mapping is that of the first entry in which something offends, its key coming
first. -/
theorem exists_entry_of_entriesToJson
    (h : ∀ entry ∈ entries, ∀ location, Judged location entry.2) {read : Fields} {f : TextFault}
    (hf : entriesToJson location read entries = .error f) :
    ∃ (i : Nat) (entry : Yaml × Yaml), entries[i]? = some entry ∧
      (∀ e ∈ entries.take i, CleanEntry e) ∧
      (keyText? entry.1 = none ∧ f = .keyNotScalar location ∨
        ∃ key place, keyText? entry.1 = some key ∧ entry.2.IsFirst place ∧
          entry.2.faultAt? (Pointer.child location key) place = some f) := by
  induction entries generalizing read with
  | nil => cases hf
  | cons entry rest ih =>
    rw [List.forall_mem_cons] at h
    cases hkey : keyText? entry.1 with
    | none =>
      rw [entriesToJson_cons_of_none hkey] at hf
      cases hf
      exact ⟨0, entry, rfl, by simp, Or.inl ⟨hkey, rfl⟩⟩
    | some key =>
      rw [entriesToJson_cons_of_text hkey] at hf
      rcases bind_eq_error_iff.mp hf with hvalue | ⟨value, hvalue, hf⟩
      · obtain ⟨place, hfirst, hfault⟩ := (h.1 _).error hvalue
        exact ⟨0, entry, rfl, by simp, Or.inr ⟨key, place, hkey, hfirst, hfault⟩⟩
      · obtain ⟨i, e, he, hearlier, hcase⟩ := ih h.2 hf
        have hclean : CleanEntry entry := ⟨⟨key, hkey⟩, ((h.1 _).ok hvalue).1⟩
        exact ⟨i + 1, e, he, List.forall_mem_cons.mpr ⟨hclean, hearlier⟩, hcase⟩

theorem judged_seq (h : ∀ v ∈ items, ∀ location, Judged location v) :
    Judged location (seq items) where
  ok := by
    intro j hj
    rw [toJsonAt] at hj
    obtain ⟨js, hjs, rfl⟩ := map_eq_ok_iff.mp hj
    obtain ⟨hclean, rfl⟩ := clean_of_itemsToJson h hjs
    exact ⟨clean_seq hclean, rfl⟩
  error := by
    intro f hf
    rw [toJsonAt] at hf
    obtain ⟨i, v, place, hv, hearlier, hfirst, hfault⟩ :=
      exists_item_of_itemsToJson h (map_eq_error_iff.mp hf)
    refine ⟨.item i :: place, hfirst.item hv hearlier, ?_⟩
    rw [Nat.zero_add] at hfault
    simp only [faultAt?, stepText?, part?, hv, Option.bind_eq_bind, Option.bind_some]
    exact hfault

theorem judged_map (h : ∀ entry ∈ entries, ∀ location, Judged location entry.2) :
    Judged location (map entries) where
  ok := by
    intro j hj
    rw [toJsonAt] at hj
    obtain ⟨fields, hfields, rfl⟩ := map_eq_ok_iff.mp hj
    obtain ⟨hclean, rfl⟩ := clean_of_entriesToJson h hfields
    refine ⟨clean_map hclean, ?_⟩
    rw [jsonForm, ← Fields.ofList_eq_collected]
    rfl
  error := by
    intro f hf
    rw [toJsonAt] at hf
    obtain ⟨i, entry, hentry, hearlier, ⟨hscalar, rfl⟩ | ⟨key, place, hkey, hfirst, hfault⟩⟩ :=
      exists_entry_of_entriesToJson h (map_eq_error_iff.mp hf)
    · exact ⟨[.key i], isFirst_key hentry hscalar hearlier, rfl⟩
    · refine ⟨.value i :: place, hfirst.value hentry hkey hearlier, ?_⟩
      simp only [faultAt?, stepText?, part?, hentry, hkey, Option.map_some, Option.bind_eq_bind,
        Option.bind_some]
      exact hfault

end Collections

theorem clean_of_scalar (hpart : ∀ s, y.part? s = none)
    (hnumber : ∀ n, y.untagged = .num n → isFinite n = true) : y.Clean := by
  intro place hoffends
  cases place with
  | nil =>
    obtain ⟨n, hn, hinfinite⟩ := offends_nil_iff.mp hoffends
    rw [hnumber n hn] at hinfinite
    cases hinfinite
  | cons s rest =>
    obtain ⟨_, hat⟩ := hoffends.exists_at
    obtain ⟨v, hv, _⟩ := exists_part_of_at? hat
    rw [hpart s] at hv
    cases hv

theorem judged_num (location : String) (n : Json.Number) : Judged location (num n) := by
  cases hfinite : isFinite n with
  | true =>
    refine ⟨fun {j} hj => ?_, fun {f} hf => ?_⟩
    · rw [toJsonAt, if_pos hfinite] at hj
      cases hj
      refine ⟨clean_of_scalar (fun s => rfl) fun m hm => ?_, rfl⟩
      cases hm
      exact hfinite
    · rw [toJsonAt, if_pos hfinite] at hf
      cases hf
  | false =>
    have hinfinite : ¬ isFinite n = true := by simp [hfinite]
    refine ⟨fun {j} hj => ?_, fun {f} hf => ?_⟩
    · rw [toJsonAt, if_neg hinfinite] at hj
      cases hj
    · rw [toJsonAt, if_neg hinfinite] at hf
      cases hf
      refine ⟨[], ⟨offends_nil_iff.mpr ⟨n, rfl, hfinite⟩, fun other hother => ?_⟩, rfl⟩
      cases other with
      | nil => exact Or.inl rfl
      | cons s rest =>
        obtain ⟨_, hat⟩ := hother.exists_at
        obtain ⟨v, hv, _⟩ := exists_part_of_at? hat
        cases hv

theorem judged_tagged {location tag : String} (h : Judged location v) :
    Judged location (tagged tag v) where
  ok := by
    intro j hj
    rw [toJsonAt] at hj
    obtain ⟨hclean, rfl⟩ := h.ok hj
    exact ⟨fun place hoffends => hclean place (offends_tagged_iff.mp hoffends), rfl⟩
  error := by
    intro f hf
    rw [toJsonAt] at hf
    obtain ⟨place, hfirst, hfault⟩ := h.error hf
    refine ⟨place, ⟨offends_tagged_iff.mpr hfirst.offends, fun other hother => ?_⟩, ?_⟩
    · exact hfirst.first other (offends_tagged_iff.mp hother)
    · rw [faultAt?_tagged]
      exact hfault

theorem sizeOf_value_lt (h : entry ∈ entries) : sizeOf entry.2 < sizeOf (map entries) := by
  have hlt := List.sizeOf_lt_of_mem h
  have hentry : sizeOf entry = 1 + sizeOf entry.1 + sizeOf entry.2 := rfl
  rw [map.sizeOf_spec]
  omega

theorem sizeOf_item_lt (h : v ∈ items) : sizeOf v < sizeOf (seq items) := by
  have hlt := List.sizeOf_lt_of_mem h
  rw [seq.sizeOf_spec]
  omega

theorem judged (location : String) (y : Yaml) : Judged location y := by
  have hscalar : ∀ {y : Yaml} {j}, (∀ s, y.part? s = none) → (∀ n, y.untagged ≠ .num n) →
      toJsonAt location y = .ok j → j = y.jsonForm → Judged location y := by
    intro y j hpart hnumber hconverts hform
    refine ⟨fun {j'} hj' => ?_, fun {f} hf => ?_⟩
    · rw [hconverts] at hj'
      cases hj'
      exact ⟨clean_of_scalar hpart fun n hn => absurd hn (hnumber n), hform⟩
    · rw [hconverts] at hf
      cases hf
  cases y with
  | null => exact hscalar (fun s => rfl) (fun n hn => by cases hn) rfl rfl
  | bool b => exact hscalar (fun s => rfl) (fun n hn => by cases hn) rfl rfl
  | num n => exact judged_num location n
  | str s => exact hscalar (fun s => rfl) (fun n hn => by cases hn) rfl rfl
  | seq items => exact judged_seq fun v hv location => judged location v
  | map entries => exact judged_map fun entry hentry location => judged location entry.2
  | tagged tag v => exact judged_tagged (judged location v)
termination_by sizeOf y
decreasing_by
  · exact sizeOf_item_lt hv
  · exact sizeOf_value_lt hentry
  · rw [tagged.sizeOf_spec]
    omega

theorem toJson_eq_ok_iff {j : Json} : y.toJson = .ok j ↔ y.Clean ∧ j = y.jsonForm := by
  constructor
  · exact (judged "#" y).ok
  · rintro ⟨hclean, rfl⟩
    cases hconverted : y.toJson with
    | ok j => rw [((judged "#" y).ok hconverted).2]
    | error f =>
      obtain ⟨place, hfirst, _⟩ := (judged "#" y).error hconverted
      exact absurd hfirst.offends (hclean place)

theorem IsFirst.unique {other : List Step} (h : y.IsFirst place) (h' : y.IsFirst other) :
    place = other := by
  rcases h'.first place h.offends with heq | hbefore
  · exact heq
  · rcases h.first other h'.offends with heq | hbefore'
    · exact heq.symm
    · exact absurd hbefore' (List.lt_asymm hbefore)

theorem toJson_eq_error_iff {f : TextFault} :
    y.toJson = .error f ↔ ∃ place, y.IsFirst place ∧ y.faultAt? "#" place = some f := by
  constructor
  · exact (judged "#" y).error
  · rintro ⟨place, hfirst, hfault⟩
    cases hconverted : y.toJson with
    | ok j => exact absurd hfirst.offends (((judged "#" y).ok hconverted).1 place)
    | error f' =>
      obtain ⟨place', hfirst', hfault'⟩ := (judged "#" y).error hconverted
      rw [hfirst.unique hfirst', hfault'] at hfault
      cases hfault
      rfl

end Yaml

/-! ### JSON values as YAML -/

namespace Json

/-- Every number in a value is finite. -/
inductive HasFiniteNumbers : Json → Prop
  | null : HasFiniteNumbers .null
  | bool (b : Bool) : HasFiniteNumbers (.bool b)
  | num {n : Json.Number} (h : Yaml.isFinite n = true) : HasFiniteNumbers (.num n)
  | str (s : String) : HasFiniteNumbers (.str s)
  | arr {items : List Json} (h : ∀ v ∈ items, HasFiniteNumbers v) : HasFiniteNumbers (.arr items)
  | obj {fields : Fields} (h : ∀ field ∈ fields, HasFiniteNumbers field.2) :
      HasFiniteNumbers (.obj fields)

theorem itemsToJson_itemsToYaml {items : List Json} {location : String}
    (h : ∀ v ∈ items, ∀ location, Yaml.toJsonAt location v.toYaml = .ok v) :
    ∀ index, Yaml.itemsToJson location index (itemsToYaml items) = .ok items := by
  induction items with
  | nil => exact fun _ => rfl
  | cons v rest ih =>
    intro index
    rw [List.forall_mem_cons] at h
    rw [itemsToYaml, Yaml.itemsToJson_cons, h.1, ih h.2]
    rfl

theorem entriesToJson_fieldsToYaml {fields : Fields} {location : String}
    (h : ∀ field ∈ fields, ∀ location, Yaml.toJsonAt location field.2.toYaml = .ok field.2) :
    ∀ read, Yaml.entriesToJson location read (fieldsToYaml fields) =
      .ok (fields.foldl (fun fields (k, v) => Fields.insert k v fields) read) := by
  induction fields with
  | nil => exact fun _ => rfl
  | cons field rest ih =>
    intro read
    obtain ⟨k, v⟩ := field
    rw [List.forall_mem_cons] at h
    rw [fieldsToYaml, Yaml.entriesToJson_cons_of_text rfl, h.1, List.foldl_cons, ← ih h.2]
    rfl

/-- A JSON value comes back from its own YAML tree. -/
theorem toJsonAt_toYaml {j : Json} (hfinite : j.HasFiniteNumbers) :
    j.WellFormed → ∀ location, Yaml.toJsonAt location j.toYaml = .ok j := by
  induction hfinite with
  | null | bool | str => exact fun _ _ => rfl
  | num h => exact fun _ _ => by rw [toYaml, Yaml.toJsonAt, if_pos h]
  | @arr items _ ih =>
    intro hwf location
    have hitems : ∀ v ∈ items, ∀ location, Yaml.toJsonAt location v.toYaml = .ok v :=
      fun v hv => ih v hv (wellFormed_arr_iff.mp hwf v hv)
    rw [toYaml, Yaml.toJsonAt, itemsToJson_itemsToYaml hitems]
    rfl
  | @obj fields _ ih =>
    intro hwf location
    obtain ⟨hnodup, hvalues⟩ := wellFormed_obj_iff.mp hwf
    have hfields : ∀ field ∈ fields, ∀ location,
        Yaml.toJsonAt location field.2.toYaml = .ok field.2 :=
      fun field hfield => ih field hfield (hvalues field hfield)
    have hcollected := Fields.ofList_of_nodup hnodup
    rw [Fields.ofList] at hcollected
    rw [toYaml, Yaml.toJsonAt, entriesToJson_fieldsToYaml hfields, hcollected]
    rfl

end Json

namespace Yaml

/-- **Conversion is decided by what offends.**  It succeeds where nothing does, and gives the value
without tags, each key of a mapping in its first place and with its last value. Otherwise it fails
with the fault at the first place in the order of the document. A JSON value, whose objects repeat
no key and whose numbers are finite, is given back by its own YAML tree. -/
theorem toJson_decided :
    (∀ (y : Yaml) (j : Json), y.toJson = .ok j ↔ y.Clean ∧ j = y.jsonForm) ∧
    (∀ (y : Yaml) (f : TextFault), y.toJson = .error f ↔
      ∃ place, y.IsFirst place ∧ y.faultAt? "#" place = some f) ∧
    ∀ j : Json, j.WellFormed → j.HasFiniteNumbers → j.toYaml.toJson = .ok j :=
  ⟨fun _ _ => toJson_eq_ok_iff, fun _ _ => toJson_eq_error_iff,
    fun _ hwf hfinite => Json.toJsonAt_toYaml hfinite hwf "#"⟩

/-- A number that is not finite, under a tag and before a key that is no scalar, and a value with
the zero that is negative. -/
theorem toJson_decided_of_two_offences :
    let y : Yaml := .map [(.str "a/b", .map [
      (.num (.int 200), .tagged "t" (.seq [.null, .num (.float (.infinity true))])),
      (.seq [], .null)])]
    let j : Json := .obj [("b", .num (.float (.zero true))),
      ("a", .arr [.null, .obj [("b", .str "x")]])]
    (∃ place, y.IsFirst place ∧
      y.faultAt? "#" place = some (.notFinite "#/a~1b/200/1" "-.inf")) ∧
    j.WellFormed ∧ j.HasFiniteNumbers ∧ j.toYaml.toJson = .ok j := by
  intro y j
  obtain ⟨_, hfails, hreturns⟩ := toJson_decided
  have hwf : j.WellFormed := by
    simp [j, Json.WellFormed, Json.AllWellFormed, Json.FieldsWellFormed]
  have hfinite : j.HasFiniteNumbers := by
    refine .obj (List.forall_mem_cons.mpr ⟨.num rfl, List.forall_mem_cons.mpr ⟨.arr ?_, by simp⟩⟩)
    refine List.forall_mem_cons.mpr ⟨.null, List.forall_mem_cons.mpr ⟨.obj ?_, by simp⟩⟩
    exact List.forall_mem_cons.mpr ⟨.str "x", by simp⟩
  exact ⟨(hfails y _).mp (by cbv), hwf, hfinite, hreturns j hwf hfinite⟩

/-- A later key with the text of an earlier one replaces its value and not its place. -/
example :
    toJson (.map [(.bool true, .null), (.str "b", .null), (.str "true", .tagged "t" (.seq []))]) =
      .ok (.obj [("true", .arr []), ("b", .null)]) := by cbv

end Yaml

end ApiGraph
