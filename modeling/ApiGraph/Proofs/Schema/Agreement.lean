import ApiGraph.Proofs.Schema.Cycle

/-!
# Documents that agree

References look up the document from its root, so what a fragment stands for depends on the whole
document. It depends on no more of it than the references lead to: two documents agree on a
property of fragments if the references of such fragments find the same in both, and find such
fragments again. Then every such fragment stands for the same fragment in both documents, with
the same faults, and is resolved to the same schema.

The two runs keep different lists. Chains are compared by where they are after each step, which no
list bounds; schemas by an induction in which the lists agree on every place that both runs know.
-/

namespace ApiGraph

open Outcome

/-- Two documents in which the references of fragments of one kind lead to the same. -/
structure Agree (P : Fragment → Prop) (root other : Json) : Prop where
  part : ∀ f g, Fragment.Part g f → P f → P g
  walk : ∀ f pointer, P f → f.value.reference? = some pointer →
    (Fragment.ofDocument root).walk? (Pointer.keys pointer) =
      (Fragment.ofDocument other).walk? (Pointer.keys pointer)
  target : ∀ f g, P f → Reference.next? root f = some g → P g

namespace Agree

variable {P : Fragment → Prop} {root other : Json} {f : Fragment}

/-! ### References -/

theorem next?_eq (h : Agree P root other) (hf : P f) :
    Reference.next? root f = Reference.next? other f := by
  rw [Reference.next?, Reference.next?]
  cases href : f.value.reference? with
  | none => rfl
  | some pointer =>
    dsimp only
    rw [h.walk f pointer hf href]

/-- A chain takes the same steps in both documents. -/
theorem after_eq (h : Agree P root other) (hf : P f) (n : Nat) :
    Reference.after root f n = Reference.after other f n ∧
      ∀ g, Reference.after root f n = some g → P g := by
  induction n with
  | zero =>
    refine ⟨rfl, fun g hg => ?_⟩
    cases hg
    exact hf
  | succ n ih =>
    obtain ⟨heq, hkept⟩ := ih
    rw [Reference.after, Reference.after, ← heq]
    cases hn : Reference.after root f n with
    | none => exact ⟨rfl, fun _ hw => absurd hw (Option.some_ne_none _).symm⟩
    | some g =>
      have hg := hkept g hn
      exact ⟨h.next?_eq hg, fun w hw => h.target g w hg hw⟩

theorem keysAt_eq (h : Agree P root other) (hf : P f) (n : Nat) :
    Reference.keysAt root f n = Reference.keysAt other f n := by
  rw [Reference.keysAt, Reference.keysAt, (h.after_eq hf n).1]

theorem repeats_iff (h : Agree P root other) (hf : P f) (n : Nat) :
    Reference.Repeats root f n ↔ Reference.Repeats other f n := by
  simp only [Reference.Repeats, h.keysAt_eq hf]

theorem dangles_iff (h : Agree P root other) (hf : P f) (pointer : String) :
    Reference.Dangles root f pointer ↔ Reference.Dangles other f pointer := by
  refine and_congr_right fun href => ?_
  rw [h.walk f pointer hf href]

/-- A fragment stands for the same in both documents, or fails to in the same way. -/
theorem resolve_eq (h : Agree P root other) (hf : P f) :
    Reference.resolve root f = Reference.resolve other f := by
  have hafter := fun n => (h.after_eq hf n).1
  cases hresolved : Reference.resolve root f with
  | ok w =>
    obtain ⟨hreached, href⟩ := Reference.resolve_eq_ok_iff.mp hresolved
    simp only [hafter] at hreached
    exact (Reference.resolve_eq_ok_iff.mpr ⟨hreached, href⟩).symm
  | error e =>
    obtain ⟨pointer, rfl | rfl⟩ := Reference.fault_of_resolve hresolved
    · obtain ⟨n, g, hg, hdangles⟩ := Reference.resolve_eq_dangling_iff.mp hresolved
      have hkept := (h.after_eq hf n).2 g hg
      exact (Reference.resolve_eq_dangling_iff.mpr
        ⟨n, g, (hafter n).symm.trans hg, (h.dangles_iff hkept pointer).mp hdangles⟩).symm
    · have hcyclic := Reference.resolve_eq_cyclic_iff.mp hresolved
      simp only [Reference.endless_iff, Reference.FirstRepeat, hafter, h.repeats_iff hf] at hcyclic
      refine (Reference.resolve_eq_cyclic_iff.mpr ?_).symm
      simp only [Reference.endless_iff, Reference.FirstRepeat]
      exact hcyclic

theorem keeps_resolve (h : Agree P root other) (hf : P f) {w : Fragment}
    (hw : Reference.resolve root f = .ok w) : P w := by
  obtain ⟨⟨n, hn⟩, _⟩ := Reference.resolve_eq_ok_iff.mp hw
  exact (h.after_eq hf n).2 w hn

theorem keeps_inside (h : Agree P root other) (hf : P f) {g : Fragment}
    (hg : Fragment.Inside g f) : P g :=
  hg.keeps h.part hf

/-! ### Schemas -/

/-- The schema at a position is the same in both documents, if the places that are unopened in both
runs are the same among those that both documents know. -/
theorem resolveBelow_eq (h : Agree P root other) {places places' : List Place}
    (hroot : (Fragment.ofDocument root).objects ⊆ places)
    (hother : (Fragment.ofDocument other).objects ⊆ places') :
    ∀ {unopened unopened' : List Place} {at_ : TypeSchema.Position},
      (∀ p ∈ places, p ∈ places' → (p ∈ unopened ↔ p ∈ unopened')) → P at_.1 →
      at_.1.objects ⊆ places → at_.1.objects ⊆ places' →
      TypeSchema.resolveBelow root unopened at_ = TypeSchema.resolveBelow other unopened' at_ := by
  intro unopened
  induction hlen : unopened.length using Nat.strongRecOn generalizing unopened with
  | _ n ih =>
    intro unopened' at_ hunopened hat hplaces hplaces'
    rw [TypeSchema.resolveBelow, TypeSchema.resolveBelow, TypeSchema.openWith,
      TypeSchema.openWith, h.resolve_eq hat]
    refine bind_congr_of_ok fun node hnode => ?_
    have hnode' : Reference.resolve root at_.1 = .ok node := (h.resolve_eq hat).trans hnode
    split
    · next fields hfields =>
      have hopens : TypeSchema.Opens root at_.1 node := ⟨hnode', fields, hfields⟩
      have hopens' : TypeSchema.Opens other at_.1 node := ⟨hnode, fields, hfields⟩
      have hsub := hopens.objects_subset hplaces hroot
      have hsub' := hopens'.objects_subset hplaces' hother
      have hplace := Fragment.place_mem_objects hfields
      have hiff := hunopened node.place (hsub hplace) (hsub' hplace)
      by_cases hmem : node.place ∈ unopened
      · rw [dif_pos hmem, dif_pos (hiff.mp hmem)]
        refine TypeSchema.build_congr fun child hchild l => ?_
        have hinside := TypeSchema.inside_of_mem_positions hchild
        have hlt : (afterVisit node.place unopened).length < n := by
          rw [← hlen]
          exact length_afterVisit_lt hmem
        refine ih _ hlt rfl (fun p hp hp' => ?_)
          (h.keeps_inside (h.keeps_resolve hat hnode') hinside)
          (List.Subset.trans hinside.objects_subset hsub)
          (List.Subset.trans hinside.objects_subset hsub')
        rw [mem_afterVisit, mem_afterVisit, hunopened p hp hp']
      · rw [dif_neg hmem, dif_neg (fun hmem' => hmem (hiff.mpr hmem'))]
    · rfl

/-- A raw schema is resolved to the same schema in both documents, or fails in the same way. -/
theorem resolve_schema_eq (h : Agree P root other) (hf : P f) (location : String) :
    TypeSchema.resolve root f location = TypeSchema.resolve other f location := by
  rw [TypeSchema.resolve, TypeSchema.resolve]
  refine h.resolveBelow_eq (List.subset_append_right _ _) (List.subset_append_right _ _)
    (fun p hp hp' => iff_of_true hp hp') hf (List.subset_append_left _ _)
    (List.subset_append_left _ _)

end Agree

end ApiGraph
