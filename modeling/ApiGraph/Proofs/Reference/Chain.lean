import ApiGraph.Proofs.Fragment.Parts
import Mathlib.Data.Finset.Card

/-!
# Chains of references

A chain starts at a value and goes, as long as the value reached is a reference with a
local pointer that can be walked, to the fragment its pointer names. It ends at a
fragment that is no reference, ends at a reference that leads nowhere, or goes on for
ever. `resolve` tells the three apart exactly, although all it remembers is which key
lists it may still follow.

A key list that comes up twice makes the chain periodic from there on. The converse
needs no counting of fragments: each step uses up a key list of the document, so a
chain that neither ends nor meets a known key list would outrun them all. The same
count bounds the number of steps.
-/

namespace ApiGraph

theorem card_afterVisit_lt {α : Type} [DecidableEq α] {a : α} {unvisited : List α}
    (h : a ∈ unvisited) : (afterVisit a unvisited).toFinset.card < unvisited.toFinset.card := by
  apply Finset.card_lt_card
  rw [Finset.ssubset_iff_of_subset]
  · exact ⟨a, List.mem_toFinset.mpr h, by simp [mem_afterVisit]⟩
  · intro b hb
    rw [List.mem_toFinset, mem_afterVisit] at hb
    exact List.mem_toFinset.mpr hb.1

namespace Reference

/-! ### The chain of a value -/

/-- One step of a chain: a reference goes to the fragment its local pointer walks to. -/
def next? (root : Json) (f : Fragment) : Option Fragment :=
  match f.value.reference? with
  | none => none
  | some pointer =>
    if Pointer.isLocal pointer then (Fragment.ofDocument root).walk? (Pointer.keys pointer)
    else none

/-- The fragment that a chain has reached after a number of steps. -/
def after (root : Json) (start : Fragment) : Nat → Option Fragment
  | 0 => some start
  | n + 1 => (after root start n).bind (next? root)

/-- A chain whose references are all local and can all be walked, and which never ends. -/
def Endless (root : Json) (start : Fragment) : Prop :=
  ∀ n, ∃ f pointer target, after root start n = some f ∧ f.value.reference? = some pointer ∧
    Pointer.isLocal pointer = true ∧
    (Fragment.ofDocument root).walk? (Pointer.keys pointer) = some target

/-- The key list of the reference that a chain has reached after a number of steps. -/
def keysAt (root : Json) (start : Fragment) (n : Nat) : Option (List String) :=
  ((after root start n).bind fun f => f.value.reference?).map Pointer.keys

/-- The key list reached after `n` steps has come up before. -/
def Repeats (root : Json) (start : Fragment) (n : Nat) : Prop :=
  ∃ m < n, ∃ keys, keysAt root start m = some keys ∧ keysAt root start n = some keys

/-- `pointer` stands in the first reference of the chain whose key list has come up before. -/
def FirstRepeat (root : Json) (start : Fragment) (pointer : String) : Prop :=
  ∃ n f, after root start n = some f ∧ f.value.reference? = some pointer ∧
    Repeats root start n ∧ ∀ m < n, ¬ Repeats root start m

/-- A reference that leads nowhere: it points outside the document, or cannot be walked. -/
def Dangles (root : Json) (f : Fragment) (pointer : String) : Prop :=
  f.value.reference? = some pointer ∧ (Pointer.isLocal pointer = false ∨
    (Fragment.ofDocument root).walk? (Pointer.keys pointer) = none)

theorem next?_eq_some_iff {root : Json} {f g : Fragment} :
    next? root f = some g ↔ ∃ pointer, f.value.reference? = some pointer ∧
      Pointer.isLocal pointer = true ∧
      (Fragment.ofDocument root).walk? (Pointer.keys pointer) = some g := by
  cases h : f.value.reference? with
  | none => simp [next?, h]
  | some pointer => simp [next?, h]

theorem next?_of_not_reference {root : Json} {f : Fragment} (h : f.value.reference? = none) :
    next? root f = none := by
  simp only [next?, h]

theorem next?_of_isLocal {root : Json} {f : Fragment} {pointer : String}
    (h : f.value.reference? = some pointer) (hlocal : Pointer.isLocal pointer = true) :
    next? root f = (Fragment.ofDocument root).walk? (Pointer.keys pointer) := by
  simp only [next?, h, hlocal, if_true]

theorem Dangles.next? {root : Json} {f : Fragment} {pointer : String}
    (h : Dangles root f pointer) : next? root f = none := by
  obtain ⟨href, hlocal | hwalk⟩ := h
  · simp [Reference.next?, href, hlocal]
  · simp [Reference.next?, href, hwalk]

theorem after_isSome_of_le {root : Json} {start : Fragment} {m n : Nat} (hmn : m ≤ n)
    (h : (after root start n).isSome) : (after root start m).isSome := by
  induction n with
  | zero =>
    rw [Nat.le_zero.mp hmn]
    exact h
  | succ n ih =>
    rcases Nat.lt_or_ge n m with hlt | hge
    · rw [show m = n + 1 by omega]
      exact h
    · apply ih hge
      rw [after] at h
      exact Option.isSome_of_isSome_bind h

theorem endless_iff {root : Json} {start : Fragment} :
    Endless root start ↔ ∀ n, (after root start n).isSome := by
  constructor
  · intro h n
    obtain ⟨f, _, _, hf, _⟩ := h n
    rw [hf]
    rfl
  · intro h n
    obtain ⟨g, hg⟩ := Option.isSome_iff_exists.mp (h (n + 1))
    rw [after, Option.bind_eq_some_iff] at hg
    obtain ⟨f, hf, hnext⟩ := hg
    obtain ⟨pointer, href, hlocal, hwalk⟩ := next?_eq_some_iff.mp hnext
    exact ⟨f, pointer, g, hf, href, hlocal, hwalk⟩

/-- Where a chain stops, it does not go on for ever. -/
theorem not_endless_of_next?_eq_none {root : Json} {start f : Fragment} {n : Nat}
    (hf : after root start n = some f) (hnext : next? root f = none) : ¬ Endless root start := by
  intro h
  have hsome := endless_iff.mp h (n + 1)
  rw [after, hf, Option.bind_some, hnext] at hsome
  exact absurd hsome (by decide)

/-- A chain stops at one fragment only. -/
theorem stop_unique {root : Json} {start f g : Fragment} {m n : Nat}
    (hf : after root start m = some f) (hfn : next? root f = none)
    (hg : after root start n = some g) (hgn : next? root g = none) : f = g := by
  have hle : ∀ {i j : Nat} {a b : Fragment}, after root start i = some a → next? root a = none →
      after root start j = some b → j ≤ i := by
    intro i j a b ha hna hb
    by_contra hij
    have hsome := after_isSome_of_le (show i + 1 ≤ j by omega) (by rw [hb]; rfl)
    rw [after, ha, Option.bind_some, hna] at hsome
    exact absurd hsome (by decide)
  have hmn : m = n := Nat.le_antisymm (hle hg hgn hf) (hle hf hfn hg)
  rw [hmn, hg] at hf
  exact (Option.some.inj hf).symm

/-! ### A repeated key list makes the chain periodic -/

theorem keysAt_eq_some_iff {root : Json} {start : Fragment} {n : Nat} {keys : List String} :
    keysAt root start n = some keys ↔ ∃ f pointer, after root start n = some f ∧
      f.value.reference? = some pointer ∧ Pointer.keys pointer = keys := by
  simp only [keysAt, Option.map_eq_some_iff, Option.bind_eq_some_iff]
  constructor
  · rintro ⟨pointer, ⟨f, hf, href⟩, hkeys⟩
    exact ⟨f, pointer, hf, href, hkeys⟩
  · rintro ⟨f, pointer, hf, href, hkeys⟩
    exact ⟨pointer, ⟨f, hf, href⟩, hkeys⟩

theorem after_succ_of_keysAt {root : Json} {start : Fragment} {n : Nat} {keys : List String}
    (hkeys : keysAt root start n = some keys) (hsome : (after root start (n + 1)).isSome) :
    after root start (n + 1) = (Fragment.ofDocument root).walk? keys := by
  obtain ⟨f, pointer, hf, href, rfl⟩ := keysAt_eq_some_iff.mp hkeys
  obtain ⟨g, hg⟩ := Option.isSome_iff_exists.mp hsome
  have hnext : next? root f = some g := by
    rw [after, hf, Option.bind_some] at hg
    exact hg
  obtain ⟨pointer', href', _, hwalk⟩ := next?_eq_some_iff.mp hnext
  rw [href] at href'
  cases href'
  rw [hg, hwalk]

/-- Two positions that hold the same fragment are followed by the same chain. -/
theorem after_add_eq {root : Json} {start : Fragment} {m n : Nat}
    (h : after root start m = after root start n) (k : Nat) :
    after root start (m + k) = after root start (n + k) := by
  induction k with
  | zero => exact h
  | succ k ih =>
    rw [← Nat.add_assoc, ← Nat.add_assoc, after, after, ih]

theorem endless_of_after_eq {root : Json} {start : Fragment} {m n : Nat} (hmn : m < n)
    (h : after root start m = after root start n) (hn : (after root start n).isSome) :
    Endless root start := by
  rw [endless_iff]
  intro j
  induction j using Nat.strongRecOn with
  | _ j ih =>
    rcases Nat.lt_or_ge n j with hlt | hge
    · have hback := after_add_eq h (j - n)
      rw [show n + (j - n) = j by omega] at hback
      rw [← hback]
      exact ih (m + (j - n)) (by omega)
    · exact after_isSome_of_le hge hn

/-- A local reference whose key list has come up before closes the chain. -/
theorem endless_of_repeats {root : Json} {start f : Fragment} {n : Nat} {pointer : String}
    (hf : after root start n = some f) (href : f.value.reference? = some pointer)
    (hlocal : Pointer.isLocal pointer = true) (hrep : Repeats root start n) :
    Endless root start := by
  obtain ⟨m, hmn, keys, hm, hn⟩ := hrep
  have hsucc : (after root start (m + 1)).isSome :=
    after_isSome_of_le (show m + 1 ≤ n by omega) (by rw [hf]; rfl)
  have hwalk := after_succ_of_keysAt hm hsucc
  have hnext : after root start (n + 1) = (Fragment.ofDocument root).walk? keys := by
    obtain ⟨f', pointer', hf', href', hkeys⟩ := keysAt_eq_some_iff.mp hn
    rw [hf] at hf'
    cases hf'
    rw [href] at href'
    cases href'
    rw [after, hf, Option.bind_some, next?, href]
    simp only [hlocal, if_true, hkeys]
  apply endless_of_after_eq (show m + 1 < n + 1 by omega) (hwalk.trans hnext.symm)
  rw [hnext, ← hwalk]
  exact hsucc

/-! ### Key lists of a chain belong to the document -/

/-- Key lists of the references that a chain from a value can meet. -/
def meetable (root : Json) (start : Fragment) : List (List String) :=
  (start.value.reference?.map Pointer.keys).toList ++ root.referenceKeys

theorem mem_meetable_of_keysAt {root : Json} {start : Fragment} {n : Nat} {keys : List String}
    (h : keysAt root start n = some keys) : keys ∈ meetable root start := by
  obtain ⟨f, pointer, hf, href, rfl⟩ := keysAt_eq_some_iff.mp h
  cases n with
  | zero =>
    cases hf
    simp [meetable, href]
  | succ n =>
    rw [after, Option.bind_eq_some_iff] at hf
    obtain ⟨g, _, hnext⟩ := hf
    obtain ⟨_, _, _, hwalk⟩ := next?_eq_some_iff.mp hnext
    have hsub := Fragment.referenceKeys_subset_of_walk? hwalk
    exact List.mem_append_right _ (hsub (Fragment.keys_mem_referenceKeys href))

/-! ### Counting the steps of a run -/

/-- A result, and how many references were followed to find it. -/
structure Counted where
  value : Except Fault Fragment
  steps : Nat

def followCounted (root : Json) (unseen : List (List String)) (current : Fragment) : Counted :=
  match current.value.reference? with
  | none => ⟨.ok current, 0⟩
  | some pointer =>
    if Pointer.isLocal pointer then
      let keys := Pointer.keys pointer
      if _ : keys ∈ unseen then
        match (Fragment.ofDocument root).walk? keys with
        | some target =>
          let rest := followCounted root (afterVisit keys unseen) target
          ⟨rest.value, rest.steps + 1⟩
        | none => ⟨.error (.danglingReference pointer), 0⟩
      else ⟨.error (.cyclicReference pointer), 0⟩
    else ⟨.error (.danglingReference pointer), 0⟩
termination_by unseen.length
decreasing_by exact length_afterVisit_lt ‹_›

def resolveCounted (root : Json) (value : Fragment) : Counted :=
  match value.value.reference? with
  | none => ⟨.ok value, 0⟩
  | some pointer => followCounted root (Pointer.keys pointer :: root.referenceKeys) value

theorem followCounted_value (root : Json) (unseen : List (List String)) (current : Fragment) :
    (followCounted root unseen current).value = follow root unseen current := by
  fun_induction follow root unseen current with
  | case1 unseen current href => rw [followCounted, href]
  | case2 unseen current pointer href hlocal keys hmem target hwalk ih =>
    rw [followCounted, href]
    simp only [hlocal, if_true]
    rw [dif_pos hmem, hwalk]
    exact ih
  | case3 unseen current pointer href hlocal keys hmem hwalk =>
    rw [followCounted, href]
    simp only [hlocal, if_true]
    rw [dif_pos hmem, hwalk]
  | case4 unseen current pointer href hlocal keys hmem =>
    rw [followCounted, href]
    simp only [hlocal, if_true]
    rw [dif_neg hmem]
  | case5 unseen current pointer href hlocal =>
    rw [followCounted, href]
    simp only [hlocal, Bool.false_eq_true, if_false]

theorem resolveCounted_value (root : Json) (value : Fragment) :
    (resolveCounted root value).value = resolve root value := by
  cases href : value.value.reference? with
  | none => simp only [resolveCounted, resolve, href]
  | some pointer =>
    simp only [resolveCounted, resolve, href]
    exact followCounted_value _ _ _

/-- Every step takes a key list out of the unseen ones. -/
theorem followCounted_steps_le (root : Json) (unseen : List (List String)) (current : Fragment) :
    (followCounted root unseen current).steps ≤ unseen.toFinset.card := by
  fun_induction followCounted root unseen current with
  | case2 unseen current pointer href hlocal keys hmem target hwalk rest ih =>
    have hlt : (afterVisit keys unseen).toFinset.card < unseen.toFinset.card :=
      card_afterVisit_lt hmem
    exact Nat.lt_of_le_of_lt ih hlt
  | _ => exact Nat.zero_le _

theorem resolveCounted_steps_le (root : Json) (value : Fragment) :
    (resolveCounted root value).steps ≤ root.referenceKeys.toFinset.card + 1 := by
  rw [resolveCounted]
  split
  · exact Nat.zero_le _
  · next pointer _ =>
    calc (followCounted root (Pointer.keys pointer :: root.referenceKeys) value).steps
        ≤ (Pointer.keys pointer :: root.referenceKeys).toFinset.card :=
          followCounted_steps_le _ _ _
      _ ≤ root.referenceKeys.toFinset.card + 1 := by
          rw [List.toFinset_cons]
          exact Finset.card_insert_le _ _

/-! ### What a run finds -/

/-- After `n` steps, `unseen` holds those key lists the chain can meet that it has not met. -/
structure Unseen (root : Json) (start : Fragment) (n : Nat) (unseen : List (List String)) :
    Prop where
  not_met : ∀ m < n, ∀ keys, keysAt root start m = some keys → keys ∉ unseen
  met : ∀ keys ∈ meetable root start, keys ∉ unseen → ∃ m < n, keysAt root start m = some keys
  fresh : ∀ m < n, ¬ Repeats root start m

/-- How a chain is found to end after `n` steps. -/
inductive Ends (root : Json) (start : Fragment) (n : Nat) : Except Fault Fragment → Prop
  | arrived {f : Fragment} : after root start n = some f → f.value.reference? = none →
      Ends root start n (.ok f)
  | lost {f : Fragment} {pointer : String} : after root start n = some f →
      Dangles root f pointer → Ends root start n (.error (.danglingReference pointer))
  | closed {f : Fragment} {pointer : String} : after root start n = some f →
      f.value.reference? = some pointer → Pointer.isLocal pointer = true →
      Repeats root start n → (∀ m < n, ¬ Repeats root start m) →
      Ends root start n (.error (.cyclicReference pointer))

theorem Unseen.repeats_of_not_mem {root : Json} {start : Fragment} {n : Nat}
    {unseen : List (List String)} {keys : List String} (h : Unseen root start n unseen)
    (hkeys : keysAt root start n = some keys) (hmem : keys ∉ unseen) : Repeats root start n := by
  obtain ⟨m, hm, hkm⟩ := h.met keys (mem_meetable_of_keysAt hkeys) hmem
  exact ⟨m, hm, keys, hkm, hkeys⟩

theorem Unseen.step {root : Json} {start : Fragment} {n : Nat} {unseen : List (List String)}
    {keys : List String} (h : Unseen root start n unseen)
    (hkeys : keysAt root start n = some keys) (hmem : keys ∈ unseen) :
    Unseen root start (n + 1) (afterVisit keys unseen) where
  not_met := by
    intro m hm ks hks
    rw [mem_afterVisit]
    rcases Nat.lt_or_ge m n with hlt | hge
    · exact fun hin => h.not_met m hlt ks hks hin.1
    · rw [show m = n by omega, hkeys] at hks
      cases hks
      exact fun hin => hin.2 rfl
  met := by
    intro ks hks hout
    by_cases heq : ks = keys
    · exact ⟨n, Nat.lt_succ_self n, by rw [heq]; exact hkeys⟩
    · have hnot : ks ∉ unseen := fun hin => hout (mem_afterVisit.mpr ⟨hin, heq⟩)
      obtain ⟨m, hm, hkm⟩ := h.met ks hks hnot
      exact ⟨m, Nat.lt_succ_of_lt hm, hkm⟩
  fresh := by
    intro m hm
    rcases Nat.lt_or_ge m n with hlt | hge
    · exact h.fresh m hlt
    · rw [show m = n by omega]
      rintro ⟨j, hj, ks, hkj, hkn⟩
      rw [hkeys] at hkn
      cases hkn
      exact h.not_met j hj keys hkj hmem

theorem unseen_start {root : Json} {start : Fragment} {pointer : String}
    (href : start.value.reference? = some pointer) :
    Unseen root start 0 (Pointer.keys pointer :: root.referenceKeys) where
  not_met := by
    intro m hm
    omega
  met := by
    intro keys hkeys hout
    simp only [meetable, href, Option.map_some, Option.toList_some, List.singleton_append] at hkeys
    exact absurd hkeys hout
  fresh := by
    intro m hm
    omega

theorem ends_followCounted (root : Json) (start : Fragment) (unseen : List (List String))
    (f : Fragment) : ∀ n, Unseen root start n unseen → after root start n = some f →
      Ends root start (n + (followCounted root unseen f).steps)
        (followCounted root unseen f).value := by
  -- The induction is on the run; `Unseen` is what it keeps from step to step.
  fun_induction followCounted root unseen f with
  | case1 unseen f href =>
    intro n _ hf
    exact .arrived hf href
  | case2 unseen f pointer href hlocal keys hmem target hwalk rest ih =>
    intro n h hf
    have hkeys : keysAt root start n = some keys :=
      keysAt_eq_some_iff.mpr ⟨f, pointer, hf, href, rfl⟩
    have htarget : after root start (n + 1) = some target := by
      rw [after, hf, Option.bind_some]
      exact next?_eq_some_iff.mpr ⟨pointer, href, hlocal, hwalk⟩
    have hends := ih (n + 1) (h.step hkeys hmem) htarget
    rw [Nat.add_right_comm] at hends
    exact hends
  | case3 unseen f pointer href hlocal keys hmem hwalk =>
    intro n _ hf
    exact .lost hf ⟨href, Or.inr hwalk⟩
  | case4 unseen f pointer href hlocal keys hmem =>
    intro n h hf
    have hkeys : keysAt root start n = some keys :=
      keysAt_eq_some_iff.mpr ⟨f, pointer, hf, href, rfl⟩
    exact .closed hf href hlocal (h.repeats_of_not_mem hkeys hmem) h.fresh
  | case5 unseen f pointer href hlocal =>
    intro n _ hf
    exact .lost hf ⟨href, Or.inl (by simpa using hlocal)⟩

theorem ends_resolveCounted (root : Json) (value : Fragment) :
    Ends root value (resolveCounted root value).steps (resolveCounted root value).value := by
  rw [resolveCounted]
  split
  · next href => exact .arrived rfl href
  · next pointer href =>
    have hends := ends_followCounted root value _ value 0 (unseen_start href) rfl
    rw [Nat.zero_add] at hends
    exact hends

theorem ends_resolve (root : Json) (value : Fragment) :
    ∃ n, Ends root value n (resolve root value) := by
  refine ⟨(resolveCounted root value).steps, ?_⟩
  rw [← resolveCounted_value]
  exact ends_resolveCounted root value

/-- Following references fails only for where they lead. -/
theorem fault_of_resolve {root : Json} {value : Fragment} {e : Fault}
    (h : resolve root value = .error e) :
    ∃ pointer, e = .danglingReference pointer ∨ e = .cyclicReference pointer := by
  obtain ⟨n, hends⟩ := ends_resolve root value
  rw [h] at hends
  cases hends with
  | lost => exact ⟨_, Or.inl rfl⟩
  | closed => exact ⟨_, Or.inr rfl⟩

/-! ### The three outcomes exclude each other -/

theorem resolve_eq_ok_iff {root : Json} {value w : Fragment} :
    resolve root value = .ok w ↔
      (∃ n, after root value n = some w) ∧ w.value.reference? = none := by
  obtain ⟨n, hends⟩ := ends_resolve root value
  constructor
  · intro h
    rw [h] at hends
    cases hends with
    | arrived hf href => exact ⟨⟨n, hf⟩, href⟩
  · rintro ⟨⟨m, hw⟩, href⟩
    have hstop : next? root w = none := next?_of_not_reference href
    generalize resolve root value = r at hends
    cases hends with
    | arrived hf hfref => rw [stop_unique hf (next?_of_not_reference hfref) hw hstop]
    | lost hf hdangles =>
      have heq := stop_unique hf hdangles.next? hw hstop
      rw [← heq, hdangles.1] at href
      cases href
    | closed hf hfref hlocal hrep _ =>
      exact absurd (endless_of_repeats hf hfref hlocal hrep) (not_endless_of_next?_eq_none hw hstop)

/-- A value that is no reference stands for itself. -/
theorem resolve_of_not_reference {root : Json} {value : Fragment}
    (h : value.value.reference? = none) : resolve root value = .ok value :=
  resolve_eq_ok_iff.mpr ⟨⟨0, rfl⟩, h⟩

theorem after_succ_of_next? {root : Json} {f g : Fragment} (h : next? root f = some g) (n : Nat) :
    after root f (n + 1) = after root g n := by
  induction n with
  | zero => exact h
  | succ n ih => rw [after, ih, after]

/-- A reference stands for what the fragment that it goes to stands for. -/
theorem resolve_of_next? {root : Json} {f g w : Fragment} (h : next? root f = some g)
    (hw : resolve root g = .ok w) : resolve root f = .ok w := by
  obtain ⟨⟨n, hn⟩, hinline⟩ := resolve_eq_ok_iff.mp hw
  exact resolve_eq_ok_iff.mpr ⟨⟨n + 1, (after_succ_of_next? h n).trans hn⟩, hinline⟩

/-- A pointer leads to a fragment in one step: it walks to it, and the fragment is no reference. -/
structure Leads (root : Json) (pointer : String) (w : Fragment) : Prop where
  isLocal : Pointer.isLocal pointer = true
  walk : (Fragment.ofDocument root).walk? (Pointer.keys pointer) = some w
  inline : w.value.reference? = none

/-- A reference whose pointer leads to a fragment stands for that fragment. -/
theorem Leads.resolve {root : Json} {value w : Fragment} {pointer : String}
    (h : Leads root pointer w) (href : value.value.reference? = some pointer) :
    resolve root value = .ok w :=
  resolve_of_next? ((next?_of_isLocal href h.isLocal).trans h.walk)
    (resolve_of_not_reference h.inline)

/-- A reference stands for the same fragment wherever it stands itself. -/
theorem resolve_copy {root : Json} {f g : Fragment} {pointer : String} (hvalue : f.value = g.value)
    (href : f.value.reference? = some pointer) : resolve root f = resolve root g := by
  rw [resolve, resolve, ← hvalue, href]
  dsimp only
  rw [follow, follow, ← hvalue, href]

/-- What holds of a value and of the parts of the document holds of what the value stands for. -/
theorem resolve_induction {root : Json} {P : Fragment → Prop}
    (hpart : ∀ f g, Fragment.Part g f → P f → P g) (hroot : P (.ofDocument root))
    {value w : Fragment} (hvalue : P value) (h : resolve root value = .ok w) : P w := by
  obtain ⟨⟨n, hn⟩, _⟩ := resolve_eq_ok_iff.mp h
  cases n with
  | zero =>
    cases hn
    exact hvalue
  | succ n =>
    rw [after, Option.bind_eq_some_iff] at hn
    obtain ⟨_, _, hnext⟩ := hn
    obtain ⟨_, _, _, hwalk⟩ := next?_eq_some_iff.mp hnext
    exact Fragment.walk?_induction hpart hwalk hroot

theorem resolve_eq_dangling_iff {root : Json} {value : Fragment} {pointer : String} :
    resolve root value = .error (.danglingReference pointer) ↔
      ∃ n f, after root value n = some f ∧ Dangles root f pointer := by
  obtain ⟨n, hends⟩ := ends_resolve root value
  constructor
  · intro h
    rw [h] at hends
    cases hends with
    | lost hf hdangles => exact ⟨n, _, hf, hdangles⟩
  · rintro ⟨m, g, hg, hdangles⟩
    generalize resolve root value = r at hends
    cases hends with
    | arrived hf hfref =>
      have heq := stop_unique hf (next?_of_not_reference hfref) hg hdangles.next?
      rw [heq, hdangles.1] at hfref
      cases hfref
    | lost hf hfdangles =>
      have heq := stop_unique hf hfdangles.next? hg hdangles.next?
      have hpointer := hfdangles.1
      rw [heq, hdangles.1] at hpointer
      cases hpointer
      rfl
    | closed hf hfref hlocal hrep _ =>
      exact absurd (endless_of_repeats hf hfref hlocal hrep)
        (not_endless_of_next?_eq_none hg hdangles.next?)

theorem resolve_eq_cyclic_iff {root : Json} {value : Fragment} {pointer : String} :
    resolve root value = .error (.cyclicReference pointer) ↔
      Endless root value ∧ FirstRepeat root value pointer := by
  obtain ⟨n, hends⟩ := ends_resolve root value
  constructor
  · intro h
    rw [h] at hends
    cases hends with
    | closed hf hfref hlocal hrep hfresh =>
      exact ⟨endless_of_repeats hf hfref hlocal hrep, n, _, hf, hfref, hrep, hfresh⟩
  · rintro ⟨hendless, m, g, hg, hgref, hgrep, hgfresh⟩
    generalize resolve root value = r at hends
    cases hends with
    | arrived hf hfref =>
      exact absurd hendless (not_endless_of_next?_eq_none hf (next?_of_not_reference hfref))
    | lost hf hdangles =>
      exact absurd hendless (not_endless_of_next?_eq_none hf hdangles.next?)
    | closed hf hfref _ hrep hfresh =>
      have hnm : n = m := by
        rcases Nat.lt_trichotomy n m with hlt | heq | hgt
        · exact absurd hrep (hgfresh n hlt)
        · exact heq
        · exact absurd hgrep (hfresh m hgt)
      rw [hnm, hg] at hf
      cases hf
      rw [hgref] at hfref
      cases hfref
      rfl

theorem resolve_cyclic_of_endless {root : Json} {value : Fragment} (h : Endless root value) :
    ∃ pointer, resolve root value = .error (.cyclicReference pointer) := by
  obtain ⟨n, hends⟩ := ends_resolve root value
  generalize resolve root value = r at hends
  cases hends with
  | arrived hf href =>
    exact absurd h (not_endless_of_next?_eq_none hf (next?_of_not_reference href))
  | lost hf hdangles => exact absurd h (not_endless_of_next?_eq_none hf hdangles.next?)
  | closed => exact ⟨_, rfl⟩

/-- **References are resolved exactly.**  A value resolves to `w` iff its chain ends at `w`, dangles
at a pointer iff its chain ends at a reference with that pointer, and is cyclic iff its chain never
ends; a cycle is reported at the first reference whose key list has come up before.  Nothing else
can happen, and the chain is followed for at most one step more than the document has key lists of
references. -/
theorem resolve_outcome (root : Json) (value : Fragment) :
    (∀ w, resolve root value = .ok w ↔
      (∃ n, after root value n = some w) ∧ w.value.reference? = none) ∧
    (∀ pointer, resolve root value = .error (.danglingReference pointer) ↔
      ∃ n f, after root value n = some f ∧ Dangles root f pointer) ∧
    ((∃ pointer, resolve root value = .error (.cyclicReference pointer)) ↔ Endless root value) ∧
    (∀ pointer, resolve root value = .error (.cyclicReference pointer) ↔
      Endless root value ∧ FirstRepeat root value pointer) ∧
    ((∃ w, resolve root value = .ok w) ∨
      (∃ pointer, resolve root value = .error (.danglingReference pointer)) ∨
      ∃ pointer, resolve root value = .error (.cyclicReference pointer)) ∧
    (resolveCounted root value).value = resolve root value ∧
    Ends root value (resolveCounted root value).steps (resolve root value) ∧
    (resolveCounted root value).steps ≤ root.referenceKeys.toFinset.card + 1 := by
  have hends : Ends root value (resolveCounted root value).steps (resolve root value) := by
    rw [← resolveCounted_value]
    exact ends_resolveCounted root value
  refine ⟨fun w => resolve_eq_ok_iff, fun pointer => resolve_eq_dangling_iff, ⟨?_, ?_⟩,
    fun pointer => resolve_eq_cyclic_iff, ?_, resolveCounted_value root value, hends,
    resolveCounted_steps_le root value⟩
  · rintro ⟨pointer, h⟩
    exact (resolve_eq_cyclic_iff.mp h).1
  · exact resolve_cyclic_of_endless
  · generalize resolve root value = r at hends
    cases hends with
    | @arrived w _ _ => exact Or.inl ⟨w, rfl⟩
    | @lost _ pointer _ _ => exact Or.inr (Or.inl ⟨pointer, rfl⟩)
    | @closed _ pointer _ _ _ _ _ => exact Or.inr (Or.inr ⟨pointer, rfl⟩)

/-- Two spellings of one index name one fragment, and the cycle through it is found all the same. -/
example : resolve (.obj [("a", .arr [.null, .obj [("$ref", .str "#/a/01")]])])
    (.ofSupplied (.obj [("$ref", .str "/a/1")])) = .error (.cyclicReference "#/a/01") := by
  cbv

end Reference

end ApiGraph
