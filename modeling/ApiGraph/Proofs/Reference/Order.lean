import ApiGraph.Proofs.Json.Order
import ApiGraph.Proofs.Reference.Chain

/-!
# References up to the order of keys

A pointer names keys and positions in arrays, and neither moves when the keys of objects are put
into another order. So in two documents that are equal up to the order of their keys every walk, and
with it every chain of references, leads to values that are equal up to the order of their keys.
-/

namespace ApiGraph

open Outcome

/-- Two fragments that hold the same up to the order of keys, none of which is repeated. Where they
stand plays no part. -/
structure Fragment.Reordered (f g : Fragment) : Prop where
  left : f.value.WellFormed
  right : g.value.WellFormed
  values : f.value.Reordered g.value

namespace Fragment.Reordered

variable {f g : Fragment}

theorem symm (h : Reordered f g) : Reordered g f := ⟨h.right, h.left, h.values.symm⟩

theorem ofDocument {root root' : Json} (hroot : root.WellFormed) (hroot' : root'.WellFormed)
    (h : root.Reordered root') : Reordered (.ofDocument root) (.ofDocument root') := ⟨hroot, hroot', h⟩

theorem reference?_eq (h : Reordered f g) : f.value.reference? = g.value.reference? :=
  h.values.strAt?_eq h.left "$ref"

/-! ### Parts -/

theorem field? (h : Reordered f g) (key : String) :
    Option.Rel Reordered (f.field? key) (g.field? key) :=
  rel_map_map (h.values.get? h.left key) fun _ _ hv hw hvw =>
    ⟨h.left.get? hv, h.right.get? hw, hvw⟩

theorem items (h : Reordered f g) : List.Forall₂ Reordered f.items g.items := by
  have hvalues := h.values.items
  rw [← map_value_items, ← map_value_items, List.forall₂_map_left_iff,
    List.forall₂_map_right_iff] at hvalues
  have hright := forall₂_mono hvalues.flip fun b hb a (hab : a.value.Reordered b.value) =>
    (⟨hb, hab⟩ : b ∈ g.items ∧ a.value.Reordered b.value)
  refine forall₂_mono hright.flip fun a ha b hab => ?_
  exact ⟨(part_of_mem_items ha).wellFormed h.left, (part_of_mem_items hab.1).wellFormed h.right,
    hab.2⟩

theorem fields (h : Reordered f g) : Shuffled Reordered f.fields g.fields := by
  obtain ⟨place, v⟩ := f
  obtain ⟨place', w⟩ := g
  obtain ⟨hv, hw, hvalues⟩ := h
  cases hvalues with
  | obj hfields =>
    exact hfields.map fun _ hx _ hy hxy => ⟨Json.wellFormed_of_mem_fields hv.2 hx,
      Json.wellFormed_of_mem_fields hw.2 hy, hxy.values⟩
  | _ => exact .of_forall₂ .nil

/-- A step leads to the same part, whatever the order. -/
theorem step? (h : Reordered f g) (key : String) :
    Option.Rel Reordered (f.step? key) (g.step? key) := by
  obtain ⟨place, v⟩ := f
  obtain ⟨place', w⟩ := g
  obtain ⟨hv, hw, hvalues⟩ := h
  cases hvalues with
  | obj hfields => exact field? ⟨hv, hw, .obj hfields⟩ key
  | arr hall =>
    cases hi : Text.natural? key with
    | none =>
      simp only [Fragment.step?, hi]
      exact .none
    | some i =>
      simp only [Fragment.step?, hi, Option.bind_eq_bind, Option.bind_some]
      refine rel_bind (rel_getElem? hall i) fun _ _ hx hy hxy => .some ?_
      exact ⟨Json.wellFormed_of_mem_items hv (List.mem_of_getElem? hx),
        Json.wellFormed_of_mem_items hw (List.mem_of_getElem? hy), hxy⟩
  | _ => exact .none

theorem walk? {keys : List String} (h : Reordered f g) :
    Option.Rel Reordered (f.walk? keys) (g.walk? keys) := by
  induction keys generalizing f g with
  | nil => exact .some h
  | cons key rest ih => exact rel_bind (h.step? key) fun _ _ _ _ => ih

end Fragment.Reordered

/-! ### Chains -/

namespace Reference

variable {root root' : Json} {f g : Fragment}

theorem next?_reordered (hroot : Fragment.Reordered (.ofDocument root) (.ofDocument root'))
    (h : Fragment.Reordered f g) :
    Option.Rel Fragment.Reordered (next? root f) (next? root' g) := by
  rw [next?, next?, ← h.reference?_eq]
  split
  · exact .none
  · split
    · exact hroot.walk?
    · exact .none

/-- A chain leads from step to step to the same, up to the order of keys. -/
theorem after_reordered (hroot : Fragment.Reordered (.ofDocument root) (.ofDocument root'))
    (h : Fragment.Reordered f g) (n : Nat) :
    Option.Rel Fragment.Reordered (after root f n) (after root' g n) := by
  induction n with
  | zero => exact .some h
  | succ n ih => exact rel_bind ih fun _ _ _ _ => next?_reordered hroot

/-- Where a fragment stands for something, a reordered one stands for the same, reordered. -/
theorem exists_resolve_reordered
    (hroot : Fragment.Reordered (.ofDocument root) (.ofDocument root'))
    (h : Fragment.Reordered f g) {node : Fragment} (hnode : resolve root f = .ok node) :
    ∃ node', resolve root' g = .ok node' ∧ Fragment.Reordered node node' := by
  obtain ⟨⟨n, hn⟩, hend⟩ := resolve_eq_ok_iff.mp hnode
  obtain ⟨node', hn', hsame⟩ := exists_of_rel_some (hn ▸ after_reordered hroot h n)
  exact ⟨node', resolve_eq_ok_iff.mpr ⟨⟨n, hn'⟩, hsame.reference?_eq ▸ hend⟩, hsame⟩

end Reference

end ApiGraph
