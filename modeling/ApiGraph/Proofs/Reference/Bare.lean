import ApiGraph.Proofs.Reference.Chain

/-!
# Bare pointers

A bare pointer is looked up as if it stood in a reference, but the chain that is followed starts
one step later: at the fragment that the pointer walks to. Where the pointer leads nowhere, both
say so. Otherwise the two chains differ by their first element only, and ending, leading nowhere and
going on for ever do not depend on it.

What does depend on it is where a cycle is noticed. The key list of the bare pointer is not
remembered, so if the chain comes back to it, it is noticed at a later reference.
-/

namespace ApiGraph.Reference

/-! ### A chain without its first element -/

section Next

variable {root : Json} {f g w : Fragment}

/-- Where a chain stops is where it stops without its first element. -/
theorem exists_after_iff_of_next? (h : next? root f = some g) (hw : next? root w = none) :
    (∃ n, after root f n = some w) ↔ ∃ n, after root g n = some w := by
  constructor
  · rintro ⟨n, hn⟩
    cases n with
    | zero =>
      cases hn
      rw [h] at hw
      cases hw
    | succ n => exact ⟨n, (after_succ_of_next? h n).symm.trans hn⟩
  · rintro ⟨n, hn⟩
    exact ⟨n + 1, (after_succ_of_next? h n).trans hn⟩

theorem resolve_eq_ok_iff_of_next? (h : next? root f = some g) :
    resolve root f = .ok w ↔ resolve root g = .ok w := by
  rw [resolve_eq_ok_iff, resolve_eq_ok_iff]
  exact and_congr_left fun href => exists_after_iff_of_next? h (next?_of_not_reference href)

theorem resolve_eq_dangling_iff_of_next? (h : next? root f = some g) {pointer : String} :
    resolve root f = .error (.danglingReference pointer) ↔
      resolve root g = .error (.danglingReference pointer) := by
  have hstops : ∀ {s}, (∃ n t, after root s n = some t ∧ Dangles root t pointer) ↔
      ∃ t, (∃ n, after root s n = some t) ∧ Dangles root t pointer := by
    intro s
    rw [exists_comm]
    simp only [exists_and_right]
  rw [resolve_eq_dangling_iff, resolve_eq_dangling_iff, hstops, hstops]
  exact exists_congr fun t => and_congr_left fun ht => exists_after_iff_of_next? h ht.next?

theorem endless_iff_of_next? (h : next? root f = some g) : Endless root f ↔ Endless root g := by
  rw [endless_iff, endless_iff]
  constructor
  · intro hf n
    rw [← after_succ_of_next? h n]
    exact hf (n + 1)
  · intro hg n
    cases n with
    | zero => rfl
    | succ n =>
      rw [after_succ_of_next? h n]
      exact hg n

theorem exists_cyclic_iff :
    (∃ closed, resolve root f = .error (.cyclicReference closed)) ↔ Endless root f :=
  ⟨fun ⟨_, h⟩ => (resolve_eq_cyclic_iff.mp h).1, resolve_cyclic_of_endless⟩

theorem keysAt_succ_of_next? (h : next? root f = some g) (n : Nat) :
    keysAt root f (n + 1) = keysAt root g n := by
  rw [keysAt, after_succ_of_next? h, keysAt]

/-- Where the key list of the first element does not come up again, a repetition is one without the
first element. -/
theorem repeats_succ_iff_of_next? (h : next? root f = some g)
    (hfresh : ∀ n, keysAt root g n ≠ keysAt root f 0) (n : Nat) :
    Repeats root f (n + 1) ↔ Repeats root g n := by
  constructor
  · rintro ⟨m, hm, keys, hkeys, hn⟩
    rw [keysAt_succ_of_next? h] at hn
    cases m with
    | zero => exact absurd (hn.trans hkeys.symm) (hfresh n)
    | succ m =>
      rw [keysAt_succ_of_next? h] at hkeys
      exact ⟨m, Nat.lt_of_succ_lt_succ hm, keys, hkeys, hn⟩
  · rintro ⟨m, hm, keys, hkeys, hn⟩
    exact ⟨m + 1, Nat.succ_lt_succ hm, keys, (keysAt_succ_of_next? h m).trans hkeys,
      (keysAt_succ_of_next? h n).trans hn⟩

theorem not_repeats_zero : ¬ Repeats root f 0 := fun ⟨_, hm, _⟩ => Nat.not_lt_zero _ hm

theorem firstRepeat_iff_of_next? (h : next? root f = some g)
    (hfresh : ∀ n, keysAt root g n ≠ keysAt root f 0) {pointer : String} :
    FirstRepeat root f pointer ↔ FirstRepeat root g pointer := by
  constructor
  · rintro ⟨n, t, ht, href, hrep, hfirst⟩
    cases n with
    | zero => exact absurd hrep not_repeats_zero
    | succ n =>
      rw [repeats_succ_iff_of_next? h hfresh] at hrep
      refine ⟨n, t, (after_succ_of_next? h n).symm.trans ht, href, hrep, fun m hm hrep => ?_⟩
      exact hfirst (m + 1) (Nat.succ_lt_succ hm) ((repeats_succ_iff_of_next? h hfresh m).mpr hrep)
  · rintro ⟨n, t, ht, href, hrep, hfirst⟩
    refine ⟨n + 1, t, (after_succ_of_next? h n).trans ht, href,
      (repeats_succ_iff_of_next? h hfresh n).mpr hrep, fun m hm hrep => ?_⟩
    cases m with
    | zero => exact not_repeats_zero hrep
    | succ m =>
      exact hfirst m (Nat.lt_of_succ_lt_succ hm) ((repeats_succ_iff_of_next? h hfresh m).mp hrep)

/-- Where the key list of the first element does not come up again, nothing depends on it. -/
theorem resolve_eq_of_next? (h : next? root f = some g)
    (hfresh : ∀ n, keysAt root g n ≠ keysAt root f 0) : resolve root f = resolve root g := by
  obtain ⟨n, hends⟩ := ends_resolve root g
  generalize hg : resolve root g = r at hends
  cases hends with
  | arrived => exact (resolve_eq_ok_iff_of_next? h).mpr hg
  | lost => exact (resolve_eq_dangling_iff_of_next? h).mpr hg
  | closed =>
    obtain ⟨hendless, hfirst⟩ := resolve_eq_cyclic_iff.mp hg
    exact resolve_eq_cyclic_iff.mpr
      ⟨(endless_iff_of_next? h).mpr hendless, (firstRepeat_iff_of_next? h hfresh).mpr hfirst⟩

end Next

/-! ### Pointers in references -/

/-- The reference that holds a pointer and nothing else. -/
def wrapped (pointer : String) : Fragment := .ofSupplied (.obj [("$ref", .str pointer)])

theorem reference?_wrapped (pointer : String) :
    (wrapped pointer).value.reference? = some pointer := rfl

theorem resolvePointer_of_dangles {root : Json} {pointer : String}
    (h : Dangles root (wrapped pointer) pointer) :
    resolvePointer root pointer = .error (.danglingReference pointer) := by
  rw [resolvePointer]
  obtain ⟨_, hlocal | hwalk⟩ := h
  · rw [hlocal]
    rfl
  · rw [hwalk, ite_self]

theorem resolve_of_dangles {root : Json} {pointer : String}
    (h : Dangles root (wrapped pointer) pointer) :
    resolve root (wrapped pointer) = .error (.danglingReference pointer) :=
  resolve_eq_dangling_iff.mpr ⟨0, wrapped pointer, rfl, h⟩

/-- A pointer leads nowhere, or to the second element of the chain of its reference. -/
theorem dangles_or_next? (root : Json) (pointer : String) :
    Dangles root (wrapped pointer) pointer ∨
    ∃ g, next? root (wrapped pointer) = some g ∧
      resolvePointer root pointer = resolve root g := by
  cases hlocal : Pointer.isLocal pointer with
  | false => exact Or.inl ⟨reference?_wrapped pointer, Or.inl hlocal⟩
  | true =>
    cases hwalk : (Fragment.ofDocument root).walk? (Pointer.keys pointer) with
    | none => exact Or.inl ⟨reference?_wrapped pointer, Or.inr hwalk⟩
    | some g =>
      refine Or.inr ⟨g, (next?_of_isLocal (reference?_wrapped pointer) hlocal).trans hwalk, ?_⟩
      rw [resolvePointer, if_pos hlocal, hwalk]

/-- **A bare pointer is resolved as if it stood in a reference.**  Both lead to the same fragment,
dangle at the same pointer, or are both cyclic. They are equal altogether if the chain does not
come back to the key list of the pointer. -/
theorem resolvePointer_agrees (root : Json) (pointer : String) :
    (∀ w, resolvePointer root pointer = .ok w ↔ resolve root (wrapped pointer) = .ok w) ∧
    (∀ lost, resolvePointer root pointer = .error (.danglingReference lost) ↔
      resolve root (wrapped pointer) = .error (.danglingReference lost)) ∧
    ((∃ closed, resolvePointer root pointer = .error (.cyclicReference closed)) ↔
      ∃ closed, resolve root (wrapped pointer) = .error (.cyclicReference closed)) ∧
    ((∀ n, keysAt root (wrapped pointer) (n + 1) ≠ some (Pointer.keys pointer)) →
      resolvePointer root pointer = resolve root (wrapped pointer)) := by
  rcases dangles_or_next? root pointer with hdangles | ⟨g, hnext, hg⟩
  · rw [resolvePointer_of_dangles hdangles, resolve_of_dangles hdangles]
    exact ⟨fun _ => Iff.rfl, fun _ => Iff.rfl, Iff.rfl, fun _ => rfl⟩
  · rw [hg]
    refine ⟨fun w => (resolve_eq_ok_iff_of_next? hnext).symm,
      fun lost => (resolve_eq_dangling_iff_of_next? hnext).symm, ?_, fun hfresh => ?_⟩
    · rw [exists_cyclic_iff, exists_cyclic_iff, endless_iff_of_next? hnext]
    · refine (resolve_eq_of_next? hnext fun n => ?_).symm
      rw [← keysAt_succ_of_next? hnext]
      exact hfresh n

/-- The chain comes back to the pointer: a bare one is noticed one reference later. -/
example :
    let root : Json := .obj [("a", (wrapped "#/b").value), ("b", (wrapped "#/a").value)]
    resolvePointer root "#/a" = .error (.cyclicReference "#/b") ∧
    resolve root (wrapped "#/a") = .error (.cyclicReference "#/a") := by
  cbv

end ApiGraph.Reference
