import Mathlib.Data.List.Forall2

/-!
# Sequences that can fail

A computation that can fail either returns a value or stops at its first fault. Here is
what a successful sequence says of its steps, and where the fault of a failed one comes
from: for two computations in a row, for a list of them, and for an optional one.
-/

namespace ApiGraph.Outcome

variable {α β ε : Type}

theorem bind_eq_ok_iff {x : Except ε α} {f : α → Except ε β} {b : β} :
    (x >>= f) = .ok b ↔ ∃ a, x = .ok a ∧ f a = .ok b := by
  cases x <;> simp [bind, Except.bind]

theorem bind_eq_error_iff {x : Except ε α} {f : α → Except ε β} {e : ε} :
    (x >>= f) = .error e ↔ x = .error e ∨ ∃ a, x = .ok a ∧ f a = .error e := by
  cases x <;> simp [bind, Except.bind]

theorem map_eq_ok_iff {x : Except ε α} {f : α → β} {b : β} :
    f <$> x = .ok b ↔ ∃ a, x = .ok a ∧ f a = b := by
  cases x <;> simp [Functor.map, Except.map]

theorem map_eq_error_iff {x : Except ε α} {f : α → β} {e : ε} :
    f <$> x = .error e ↔ x = .error e := by
  cases x <;> simp [Functor.map, Except.map]

theorem mapError_eq_ok_iff {δ : Type} {x : Except ε α} {f : ε → δ} {a : α} :
    x.mapError f = .ok a ↔ x = .ok a := by
  cases x <;> simp [Except.mapError]

theorem mapError_eq_error_iff {δ : Type} {x : Except ε α} {f : ε → δ} {d : δ} :
    x.mapError f = .error d ↔ ∃ e, x = .error e ∧ f e = d := by
  cases x <;> simp [Except.mapError]

/-- A list is traversed successfully iff each item is, the results standing in order. -/
theorem mapM_eq_ok_iff {f : α → Except ε β} {xs : List α} {ys : List β} :
    xs.mapM f = .ok ys ↔ List.Forall₂ (fun x y => f x = .ok y) xs ys := by
  induction xs generalizing ys with
  | nil =>
    rw [List.mapM_nil, List.forall₂_nil_left_iff]
    show Except.ok [] = Except.ok ys ↔ ys = []
    rw [Except.ok.injEq, eq_comm]
  | cons x xs ih =>
    rw [List.mapM_cons, bind_eq_ok_iff, List.forall₂_cons_left_iff]
    constructor
    · rintro ⟨y, hy, hrest⟩
      obtain ⟨zs, hzs, hout⟩ := bind_eq_ok_iff.mp hrest
      cases hout
      exact ⟨y, zs, hy, ih.mp hzs, rfl⟩
    · rintro ⟨y, zs, hy, hzs, rfl⟩
      exact ⟨y, hy, bind_eq_ok_iff.mpr ⟨zs, ih.mpr hzs, rfl⟩⟩

theorem mapM_eq_some_iff {f : α → Option β} {xs : List α} {ys : List β} :
    xs.mapM f = some ys ↔ List.Forall₂ (fun x y => f x = some y) xs ys := by
  induction xs generalizing ys with
  | nil =>
    rw [List.mapM_nil, List.forall₂_nil_left_iff]
    show some [] = some ys ↔ ys = []
    rw [Option.some.injEq, eq_comm]
  | cons x xs ih =>
    rw [List.mapM_cons, List.forall₂_cons_left_iff]
    constructor
    · intro h
      obtain ⟨y, hy, hrest⟩ := Option.bind_eq_some_iff.mp h
      obtain ⟨zs, hzs, hout⟩ := Option.bind_eq_some_iff.mp hrest
      cases hout
      exact ⟨y, zs, hy, ih.mp hzs, rfl⟩
    · rintro ⟨y, zs, hy, hzs, rfl⟩
      exact Option.bind_eq_some_iff.mpr ⟨y, hy, Option.bind_eq_some_iff.mpr ⟨zs, ih.mpr hzs, rfl⟩⟩

/-- A traversal fails with the fault of the first item that fails. -/
theorem mapM_eq_error_iff {f : α → Except ε β} {xs : List α} {e : ε} :
    xs.mapM f = .error e ↔ ∃ front x back, xs = front ++ x :: back ∧ f x = .error e ∧
      ∀ y ∈ front, ∃ b, f y = .ok b := by
  induction xs with
  | nil =>
    refine iff_of_false (fun h => by cases h) ?_
    rintro ⟨front, x, back, heq, _⟩
    cases front <;> cases heq
  | cons x xs ih =>
    rw [List.mapM_cons, bind_eq_error_iff]
    constructor
    · rintro (hx | ⟨b, hb, h⟩)
      · exact ⟨[], x, xs, rfl, hx, fun _ hy => absurd hy List.not_mem_nil⟩
      · rcases bind_eq_error_iff.mp h with hxs | ⟨_, _, hout⟩
        · obtain ⟨front, y, back, rfl, hy, hfront⟩ := ih.mp hxs
          exact ⟨x :: front, y, back, rfl, hy, List.forall_mem_cons.mpr ⟨⟨b, hb⟩, hfront⟩⟩
        · cases hout
    · rintro ⟨front, y, back, heq, hy, hfront⟩
      cases front with
      | nil =>
        cases heq
        exact Or.inl hy
      | cons z front =>
        cases heq
        obtain ⟨⟨b, hb⟩, hfront⟩ := List.forall_mem_cons.mp hfront
        have hxs := ih.mpr ⟨front, y, back, rfl, hy, hfront⟩
        exact Or.inr ⟨b, hb, bind_eq_error_iff.mpr (Or.inl hxs)⟩

/-- The fault of a traversal is the fault of one of its items. -/
theorem exists_of_mapM_eq_error {f : α → Except ε β} {xs : List α} {e : ε}
    (h : xs.mapM f = .error e) : ∃ x ∈ xs, f x = .error e := by
  obtain ⟨front, x, back, rfl, hx, _⟩ := mapM_eq_error_iff.mp h
  exact ⟨x, by simp, hx⟩

/-! ### Equal computations -/

/-- What follows a computation matters only for the values that it can return. -/
theorem bind_congr_of_ok {x : Except ε α} {f g : α → Except ε β}
    (h : ∀ a, x = .ok a → f a = g a) : (x >>= f) = (x >>= g) := by
  cases x with
  | ok a => exact h a rfl
  | error e => rfl

theorem mapM_congr {f g : α → Except ε β} {xs : List α} (h : ∀ x ∈ xs, f x = g x) :
    xs.mapM f = xs.mapM g := by
  induction xs with
  | nil => rfl
  | cons x xs ih =>
    rw [List.mapM_cons, List.mapM_cons, h x List.mem_cons_self,
      ih fun z hz => h z (List.mem_cons_of_mem _ hz)]

theorem option_mapM_congr {f g : α → Except ε β} {x : Option α} (h : ∀ a, x = some a → f a = g a) :
    x.mapM f = x.mapM g := by
  cases x with
  | none => rfl
  | some a => rw [Option.mapM_some, Option.mapM_some, h a rfl]

/-! ### Folds -/

/-- A fold that can go on from every state does not fail. -/
theorem exists_foldlM {f : β → α → Except ε β} {xs : List α}
    (h : ∀ x ∈ xs, ∀ b, ∃ b', f b x = .ok b') (b : β) : ∃ b', xs.foldlM f b = .ok b' := by
  induction xs generalizing b with
  | nil => exact ⟨b, rfl⟩
  | cons x xs ih =>
    obtain ⟨next, hnext⟩ := h x List.mem_cons_self b
    obtain ⟨b', hb'⟩ := ih (fun z hz => h z (List.mem_cons_of_mem _ hz)) next
    refine ⟨b', ?_⟩
    rw [List.foldlM_cons, hnext]
    exact hb'

/-- What every step keeps is kept by the fold. -/
theorem foldlM_keeps {P : β → Prop} {f : β → α → Except ε β}
    (hstep : ∀ b x b', f b x = .ok b' → P b → P b') {xs : List α} {b c : β}
    (h : xs.foldlM f b = .ok c) (hb : P b) : P c := by
  induction xs generalizing b with
  | nil =>
    cases h
    exact hb
  | cons x xs ih =>
    rw [List.foldlM_cons] at h
    obtain ⟨next, hnext, hrest⟩ := bind_eq_ok_iff.mp h
    exact ih hrest (hstep b x next hnext hb)

/-- Steps that agree on every item succeed together, and with the same result. -/
theorem foldlM_map_eq_ok_iff {γ : Type} {f : β → γ → Except ε β} {g : β → α → Except ε β}
    {change : α → γ} {xs : List α}
    (h : ∀ x ∈ xs, ∀ b c, f b (change x) = .ok c ↔ g b x = .ok c) (b c : β) :
    (xs.map change).foldlM f b = .ok c ↔ xs.foldlM g b = .ok c := by
  induction xs generalizing b with
  | nil => exact Iff.rfl
  | cons x xs ih =>
    rw [List.map_cons, List.foldlM_cons, List.foldlM_cons, bind_eq_ok_iff, bind_eq_ok_iff]
    refine exists_congr fun next => and_congr (h x List.mem_cons_self b next) ?_
    exact ih (fun z hz => h z (List.mem_cons_of_mem _ hz)) next

theorem option_mapM_eq_ok_iff {f : α → Except ε β} {x : Option α} {y : Option β} :
    x.mapM f = .ok y ↔ Option.Rel (fun a b => f a = .ok b) x y := by
  cases x with
  | none =>
    rw [Option.mapM_none]
    constructor
    · intro h
      cases h
      exact .none
    · intro h
      cases h
      rfl
  | some a =>
    rw [Option.mapM_some, map_eq_ok_iff]
    constructor
    · rintro ⟨b, hb, rfl⟩
      exact .some hb
    · intro h
      cases h with
      | some hb => exact ⟨_, hb, rfl⟩

theorem exists_of_option_mapM_eq_error {f : α → Except ε β} {x : Option α} {e : ε}
    (h : x.mapM f = .error e) : ∃ a, x = some a ∧ f a = .error e := by
  cases x with
  | none => cases h
  | some a =>
    rw [Option.mapM_some, map_eq_error_iff] at h
    exact ⟨a, rfl, h⟩

/-- A relation between optional values may be weakened where the first one is present. -/
theorem rel_mono {P Q : α → β → Prop} {x : Option α} {y : Option β} (h : Option.Rel P x y)
    (hPQ : ∀ a b, x = some a → P a b → Q a b) : Option.Rel Q x y := by
  cases h with
  | some hab => exact .some (hPQ _ _ rfl hab)
  | none => exact .none

theorem exists_of_rel_some {P : α → β → Prop} {a : α} {y : Option β}
    (h : Option.Rel P (some a) y) : ∃ b, y = some b ∧ P a b := by
  cases h with
  | some hab => exact ⟨_, rfl, hab⟩

theorem exists_of_rel_some_right {P : α → β → Prop} {x : Option α} {b : β}
    (h : Option.Rel P x (some b)) : ∃ a, x = some a ∧ P a b := by
  cases h with
  | some hab => exact ⟨_, rfl, hab⟩

theorem rel_map_left_iff {γ : Type} {P : β → γ → Prop} {f : α → β} {x : Option α}
    {y : Option γ} : Option.Rel P (x.map f) y ↔ Option.Rel (fun a c => P (f a) c) x y := by
  cases x <;> cases y <;> simp

theorem rel_comp {γ : Type} {P : α → β → Prop} {Q : α → γ → Prop} {S : β → γ → Prop}
    {x : Option α} {y : Option β} {z : Option γ} (hxy : Option.Rel P x y) (hxz : Option.Rel Q x z)
    (h : ∀ a b c, P a b → Q a c → S b c) : Option.Rel S y z := by
  cases hxy with
  | some hab =>
    cases hxz with
    | some hac => exact .some (h _ _ _ hab hac)
  | none =>
    cases hxz with
    | none => exact .none

theorem rel_bind {γ δ : Type} {P : α → β → Prop} {Q : γ → δ → Prop} {x : Option α} {y : Option β}
    {f : α → Option γ} {g : β → Option δ} (h : Option.Rel P x y)
    (hfg : ∀ a b, x = some a → y = some b → P a b → Option.Rel Q (f a) (g b)) :
    Option.Rel Q (x.bind f) (y.bind g) := by
  cases h with
  | some hab => exact hfg _ _ rfl rfl hab
  | none => exact .none

theorem rel_map_map {γ δ : Type} {P : α → β → Prop} {Q : γ → δ → Prop} {x : Option α}
    {y : Option β} {f : α → γ} {g : β → δ} (h : Option.Rel P x y)
    (hfg : ∀ a b, x = some a → y = some b → P a b → Q (f a) (g b)) :
    Option.Rel Q (x.map f) (y.map g) := by
  cases h with
  | some hab => exact .some (hfg _ _ rfl rfl hab)
  | none => exact .none

theorem rel_getElem? {P : α → β → Prop} {xs : List α} {ys : List β} (h : List.Forall₂ P xs ys)
    (i : Nat) : Option.Rel P xs[i]? ys[i]? := by
  induction h generalizing i with
  | nil => exact .none
  | cons hxy _ ih =>
    cases i with
    | zero => exact .some hxy
    | succ i => exact ih i

theorem map_eq_map_iff_forall₂ {γ : Type} {f : α → γ} {g : β → γ} {xs : List α} {ys : List β} :
    xs.map f = ys.map g ↔ List.Forall₂ (fun x y => f x = g y) xs ys := by
  rw [← List.forall₂_map_right_iff, ← List.forall₂_map_left_iff, List.forall₂_eq_eq_eq]

theorem forall₂_comp {γ : Type} {P : α → β → Prop} {Q : α → γ → Prop} {S : β → γ → Prop}
    {xs : List α} {ys : List β} (hxy : List.Forall₂ P xs ys)
    (h : ∀ a b c, P a b → Q a c → S b c) : ∀ {zs : List γ}, List.Forall₂ Q xs zs →
      List.Forall₂ S ys zs := by
  induction hxy with
  | nil =>
    intro zs hxz
    cases hxz
    exact .nil
  | cons hab _ ih =>
    intro zs hxz
    cases hxz with
    | cons hac hrest => exact .cons (h _ _ _ hab hac) (ih hrest)

theorem forall₂_filter {P : α → β → Prop} {p : α → Bool} {q : β → Bool} {xs : List α}
    {ys : List β} (h : List.Forall₂ P xs ys) (hpq : ∀ x y, P x y → p x = q y) :
    List.Forall₂ P (xs.filter p) (ys.filter q) := by
  induction h with
  | nil => exact .nil
  | @cons x y xs ys hxy _ ih =>
    rw [List.filter_cons, List.filter_cons, hpq x y hxy]
    split
    · exact .cons hxy ih
    · exact ih

/-- A relation between lists may be weakened on the items that occur. -/
theorem forall₂_mono {P Q : α → β → Prop} {xs : List α} {ys : List β}
    (h : List.Forall₂ P xs ys) (hPQ : ∀ x ∈ xs, ∀ y, P x y → Q x y) : List.Forall₂ Q xs ys := by
  induction h with
  | nil => exact .nil
  | @cons x y xs ys hxy _ ih =>
    exact .cons (hPQ x List.mem_cons_self y hxy) (ih fun z hz => hPQ z (List.mem_cons_of_mem _ hz))

theorem exists_of_forall₂_mem {P : α → β → Prop} {xs : List α} {ys : List β}
    (h : List.Forall₂ P xs ys) {x : α} (hx : x ∈ xs) : ∃ y ∈ ys, P x y := by
  induction h with
  | nil => cases hx
  | @cons z y xs ys hzy _ ih =>
    rcases List.mem_cons.mp hx with rfl | hmem
    · exact ⟨y, List.mem_cons_self, hzy⟩
    · obtain ⟨w, hw, hP⟩ := ih hmem
      exact ⟨w, List.mem_cons_of_mem _ hw, hP⟩

/-- What a list keeps and changes in one pass is kept first and then changed. -/
theorem filterMap_eq_map_filter {f : α → Option β} {p : α → Bool} {g : α → β} {xs : List α}
    (h : ∀ x ∈ xs, f x = if p x then some (g x) else none) :
    xs.filterMap f = (xs.filter p).map g := by
  induction xs with
  | nil => rfl
  | cons x rest ih =>
    rw [List.filterMap_cons, List.filter_cons, h x List.mem_cons_self,
      ih fun y hy => h y (List.mem_cons_of_mem _ hy)]
    cases p x <;> rfl

theorem filterMap_eq_of_forall₂ {f : α → Option β} {xs : List α} {ys : List β}
    (h : List.Forall₂ (fun x y => f x = some y) xs ys) : xs.filterMap f = ys := by
  induction h with
  | nil => rfl
  | cons hxy _ ih => rw [List.filterMap_cons_some hxy, ih]

theorem exists_forall₂ {P : α → β → Prop} {xs : List α} (h : ∀ x ∈ xs, ∃ y, P x y) :
    ∃ ys, List.Forall₂ P xs ys := by
  induction xs with
  | nil => exact ⟨[], .nil⟩
  | cons x xs ih =>
    obtain ⟨y, hy⟩ := h x List.mem_cons_self
    obtain ⟨ys, hys⟩ := ih fun z hz => h z (List.mem_cons_of_mem _ hz)
    exact ⟨y :: ys, .cons hy hys⟩

/-- A traversal that meets no item that fails does not fail. -/
theorem exists_mapM_iff {f : α → Except ε β} {xs : List α} :
    (∃ ys, xs.mapM f = .ok ys) ↔ ∀ x ∈ xs, ∃ y, f x = .ok y := by
  simp only [mapM_eq_ok_iff]
  constructor
  · rintro ⟨ys, h⟩ x hx
    obtain ⟨y, _, hy⟩ := exists_of_forall₂_mem h hx
    exact ⟨y, hy⟩
  · exact exists_forall₂

theorem exists_rel {P : α → β → Prop} {x : Option α} (h : ∀ a, x = some a → ∃ b, P a b) :
    ∃ y, Option.Rel P x y := by
  cases x with
  | none => exact ⟨none, .none⟩
  | some a =>
    obtain ⟨b, hb⟩ := h a rfl
    exact ⟨some b, .some hb⟩

/-- What holds between any two items of a list holds between those that they are related to. -/
theorem pairwise_of_forall₂ {P : α → β → Prop} {R : α → α → Prop} {S : β → β → Prop} {xs : List α}
    {ys : List β} (h : List.Forall₂ P xs ys) (hxs : xs.Pairwise R)
    (hRS : ∀ x x' y y', R x x' → P x y → P x' y' → S y y') : ys.Pairwise S := by
  induction h with
  | nil => exact .nil
  | @cons x y xs ys hxy hrest ih =>
    rw [List.pairwise_cons] at hxs ⊢
    refine ⟨fun y' hy' => ?_, ih hxs.2⟩
    obtain ⟨x', hx', hP⟩ := exists_of_forall₂_mem hrest.flip hy'
    exact hRS x x' y y' (hxs.1 x' hx') hxy hP

/-- What is found for each item of one list is found for a list that is related to it. -/
theorem exists_forall₂_of_forall₂ {γ δ : Type} {P : α → β → Prop} {R : α → γ → Prop}
    {S : β → δ → Prop} {Q : γ → δ → Prop} {xs : List α} {ys : List β} {zs : List γ}
    (hxy : List.Forall₂ P xs ys) (hxz : List.Forall₂ R xs zs)
    (h : ∀ a b c, P a b → R a c → ∃ d, S b d ∧ Q c d) :
    ∃ ws, List.Forall₂ S ys ws ∧ List.Forall₂ Q zs ws := by
  induction hxy generalizing zs with
  | nil =>
    cases hxz
    exact ⟨[], .nil, .nil⟩
  | cons hab _ ih =>
    cases hxz with
    | cons hac hrest =>
      obtain ⟨d, hS, hQ⟩ := h _ _ _ hab hac
      obtain ⟨ws, hSs, hQs⟩ := ih hrest
      exact ⟨d :: ws, .cons hS hSs, .cons hQ hQs⟩

theorem exists_rel_of_rel {γ δ : Type} {P : α → β → Prop} {R : α → γ → Prop} {S : β → δ → Prop}
    {Q : γ → δ → Prop} {x : Option α} {y : Option β} {z : Option γ} (hxy : Option.Rel P x y)
    (hxz : Option.Rel R x z) (h : ∀ a b c, P a b → R a c → ∃ d, S b d ∧ Q c d) :
    ∃ w, Option.Rel S y w ∧ Option.Rel Q z w := by
  cases hxy with
  | none =>
    cases hxz
    exact ⟨none, .none, .none⟩
  | some hab =>
    cases hxz with
    | some hac =>
      obtain ⟨d, hS, hQ⟩ := h _ _ _ hab hac
      exact ⟨some d, .some hS, .some hQ⟩

/-- Items related through some third value are related through a list of such values. -/
theorem exists_of_forall₂_exists {γ : Type} {P : α → γ → Prop} {Q : γ → β → Prop} {xs : List α}
    {ys : List β} (h : List.Forall₂ (fun x y => ∃ z, P x z ∧ Q z y) xs ys) :
    ∃ zs, List.Forall₂ P xs zs ∧ List.Forall₂ Q zs ys := by
  induction h with
  | nil => exact ⟨[], .nil, .nil⟩
  | cons hxy _ ih =>
    obtain ⟨z, hP, hQ⟩ := hxy
    obtain ⟨zs, hPs, hQs⟩ := ih
    exact ⟨z :: zs, .cons hP hPs, .cons hQ hQs⟩

end ApiGraph.Outcome
