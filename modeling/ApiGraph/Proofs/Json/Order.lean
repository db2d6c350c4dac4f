import ApiGraph.Proofs.Json.WellFormed
import Mathlib.Data.List.Perm.Basic

/-!
# Values up to the order of their keys

Two values are equal up to the order of their keys if the fields of each object, put into some other
order, hold one by one values that are equal up to the order of their keys. The items of an array
keep their places.

Where no key is repeated, a key leads to related values in related objects, so whoever looks values
up by key does not see their order.
-/

namespace ApiGraph

open Outcome

/-! ### Shuffled lists -/

/-- Two entries of one name, with related values. -/
inductive Named {α β : Type} (R : α → β → Prop) : String × α → String × β → Prop
  | intro {name : String} {a : α} {b : β} : R a b → Named R (name, a) (name, b)

/-- The entries of the first list, put into some order, are related one by one to the entries of the
same names in the second list. -/
inductive Shuffled {α β : Type} (R : α → β → Prop) :
    List (String × α) → List (String × β) → Prop
  | intro {mid xs : List (String × α)} {ys : List (String × β)} : xs.Perm mid →
      List.Forall₂ (Named R) mid ys → Shuffled R xs ys

section Shuffled

variable {α β : Type} {R : α → β → Prop} {xs : List (String × α)} {ys : List (String × β)}

theorem Named.flip {x : String × α} {y : String × β} (h : Named R x y) : Named (flip R) y x := by
  cases h with
  | intro hab => exact .intro hab

theorem Named.values {x : String × α} {y : String × β} (h : Named R x y) : R x.2 y.2 := by
  cases h with
  | intro hab => exact hab

theorem Shuffled.of_forall₂ (h : List.Forall₂ (Named R) xs ys) : Shuffled R xs ys :=
  .intro (.refl xs) h

/-- Entries that occur may be changed under their names, if their relation changes with them. -/
theorem Shuffled.map {γ δ : Type} {S : γ → δ → Prop} {f : String × α → γ} {g : String × β → δ}
    (h : Shuffled R xs ys) (hRS : ∀ x ∈ xs, ∀ y ∈ ys, Named R x y → S (f x) (g y)) :
    Shuffled S (xs.map fun x => (x.1, f x)) (ys.map fun y => (y.1, g y)) := by
  cases h with
  | @intro mid _ _ hperm hall =>
    have hboth : List.Forall₂ (fun x y => y ∈ ys ∧ Named R x y) mid ys :=
      (forall₂_mono hall.flip fun y hy x hxy => (⟨hy, hxy⟩ : y ∈ ys ∧ Named R x y)).flip
    refine .intro (hperm.map _) ?_
    rw [List.forall₂_map_left_iff, List.forall₂_map_right_iff]
    refine forall₂_mono hboth fun x hx y hxy => ?_
    have hS := hRS x (hperm.mem_iff.mpr hx) y hxy.1 hxy.2
    cases hxy.2 with
    | intro hab => exact .intro hS

/-- The relation may be weakened on the entries that occur. -/
theorem Shuffled.mono {S : α → β → Prop} (h : Shuffled R xs ys)
    (hRS : ∀ x ∈ xs, ∀ y ∈ ys, R x.2 y.2 → S x.2 y.2) : Shuffled S xs ys := by
  have hmap : Shuffled S (xs.map fun x => (x.1, x.2)) (ys.map fun y => (y.1, y.2)) :=
    h.map fun x hx y hy hxy => hRS x hx y hy hxy.values
  rwa [List.map_id', List.map_id'] at hmap

/-- A list that is put into order before it is related can as well be put into order afterwards. -/
theorem Shuffled.flip (h : Shuffled R xs ys) : Shuffled (flip R) ys xs := by
  cases h with
  | intro hperm hall =>
    obtain ⟨mid, hall', hperm'⟩ :=
      List.perm_comp_forall₂ hperm (hall.imp fun _ _ hxy => hxy)
    exact .intro hperm'.symm (hall'.flip.imp fun _ _ hxy => hxy.flip)

/-- What is found for each entry of one list is found for a shuffled one, in its order. -/
theorem Shuffled.exists_forall₂ {γ δ : Type} {P : α → γ → Prop} {S : β → δ → Prop}
    {Q : γ → δ → Prop} {zs : List (String × γ)} (h : Shuffled R xs ys)
    (hxz : List.Forall₂ (fun x z => x.1 = z.1 ∧ P x.2 z.2) xs zs)
    (hfind : ∀ a b c, R a b → P a c → ∃ d, S b d ∧ Q c d) :
    ∃ ws, List.Forall₂ (fun y w => y.1 = w.1 ∧ S y.2 w.2) ys ws ∧ Shuffled Q zs ws := by
  cases h with
  | intro hperm hall =>
    obtain ⟨mid, hmid, hperm'⟩ := List.perm_comp_forall₂ hperm.symm hxz
    obtain ⟨ws, hws, hQ⟩ := exists_forall₂_of_forall₂ (S := fun y w => y.1 = w.1 ∧ S y.2 w.2)
      (Q := Named Q) hall hmid fun x y z hxy hxz => by
        obtain ⟨hname, hP⟩ := hxz
        cases hxy with
        | @intro name _ _ hab =>
          obtain ⟨d, hS, hQ⟩ := hfind _ _ _ hab hP
          obtain ⟨_, c⟩ := z
          cases hname
          exact ⟨(name, d), ⟨rfl, hS⟩, .intro hQ⟩
    exact ⟨ws, hws, .intro hperm'.symm hQ⟩

end Shuffled

/-- Where no key is repeated, a key leads to related values in shuffled lists. -/
theorem Shuffled.get? {R : Json → Json → Prop} {fields fields' : Fields}
    (hnodup : (fields.map Prod.fst).Nodup) (h : Shuffled R fields fields') (key : String) :
    Option.Rel R (Fields.get? key fields) (Fields.get? key fields') := by
  cases h with
  | intro hperm hall =>
    rw [Fields.get?_perm hperm hnodup]
    clear hperm hnodup
    induction hall with
    | nil => exact .none
    | cons hfield _ ih =>
      cases hfield with
      | @intro name v w hvw =>
        rw [Fields.get?, Fields.get?]
        split
        · exact .some hvw
        · exact ih

/-! ### Reordered values -/

namespace Json

/-- Two values are equal up to the order of their keys, at every depth. -/
inductive Reordered : Json → Json → Prop
  | null : Reordered .null .null
  | bool (b : Bool) : Reordered (.bool b) (.bool b)
  | num (n : Json.Number) : Reordered (.num n) (.num n)
  | str (s : String) : Reordered (.str s) (.str s)
  | arr {items items' : List Json} : List.Forall₂ Reordered items items' →
      Reordered (.arr items) (.arr items')
  | obj {fields fields' : Fields} : Shuffled Reordered fields fields' →
      Reordered (.obj fields) (.obj fields')

theorem Reordered.refl (v : Json) : v.Reordered v := by
  cases v with
  | arr items =>
    exact .arr (List.forall₂_same.mpr fun v hv => Reordered.refl v)
  | obj fields =>
    exact .obj (.of_forall₂ (List.forall₂_same.mpr fun field hfield =>
      .intro (Reordered.refl field.2)))
  | null => exact .null
  | bool b => exact .bool b
  | num n => exact .num n
  | str s => exact .str s
termination_by sizeOf v
decreasing_by
  · exact sizeOf_lt_of_mem_items hv
  · exact sizeOf_lt_of_mem_fields hfield

theorem Reordered.symm {v w : Json} (h : v.Reordered w) : w.Reordered v := by
  cases h with
  | @arr items _ hall =>
    exact .arr (forall₂_mono hall fun v hv w hvw => Reordered.symm (v := v) hvw).flip
  | @obj fields _ hfields =>
    exact .obj (hfields.mono fun field hfield _ _ hvw => Reordered.symm (v := field.2) hvw).flip
  | null => exact .null
  | bool b => exact .bool b
  | num n => exact .num n
  | str s => exact .str s
termination_by sizeOf v
decreasing_by
  · exact sizeOf_lt_of_mem_items hv
  · exact sizeOf_lt_of_mem_fields hfield

/-- A key leads to related values in related objects. -/
theorem Reordered.get? {v w : Json} (h : v.Reordered w) (hv : v.WellFormed) (key : String) :
    Option.Rel Reordered (v.get? key) (w.get? key) := by
  cases h with
  | obj hfields => exact hfields.get? hv.1 key
  | _ => exact .none

theorem Reordered.str?_eq {v w : Json} (h : v.Reordered w) : v.str? = w.str? := by
  cases h <;> rfl

theorem Reordered.eq_null_iff {v w : Json} (h : v.Reordered w) : v = .null ↔ w = .null := by
  cases h <;> simp

theorem Reordered.isObj_eq {v w : Json} (h : v.Reordered w) : v.isObj = w.isObj := by
  cases h <;> rfl

theorem Reordered.items {v w : Json} (h : v.Reordered w) :
    List.Forall₂ Reordered (v.items?.getD []) (w.items?.getD []) := by
  cases h with
  | arr hall => exact hall
  | _ => exact .nil

/-- A string under a key is found under the key whatever the order. -/
theorem Reordered.strAt?_eq {v w : Json} (h : v.Reordered w) (hv : v.WellFormed) (key : String) :
    v.strAt? key = w.strAt? key := by
  have hrel := h.get? hv key
  rw [strAt?, strAt?]
  generalize v.get? key = x at hrel
  generalize w.get? key = y at hrel
  cases hrel with
  | none => rfl
  | some hvw => exact hvw.str?_eq

end Json

end ApiGraph
