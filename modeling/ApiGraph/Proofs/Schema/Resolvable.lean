import ApiGraph.Proofs.Schema.Cycle

/-!
# Schemas that resolve

Apart from cycles there are three ways for a schema to fail: a position may stand for
nothing, the fields of an object may not be readable, and `properties` may be no object.
Where everything that is reached is an object with readable fields, and no path comes back
to an object it has passed, resolution succeeds.

The induction is on the places still unopened, as the recursion of `resolveBelow` is; the
paths below a schema keep to those places because none of them passes a place twice.
-/

namespace ApiGraph.TypeSchema

open Outcome

/-- An object from which nothing but its positions can keep a schema from being built. -/
structure Readable (node : Fragment) : Prop where
  descriptor : ∃ fields d, node.value = .obj fields ∧ Descriptor.read fields = .ok d
  properties : ∀ f, node.field? "properties" = some f → f.value.isObj = true

theorem exists_isAdditional {R : Fragment → TypeSchema → Prop} {f : Fragment}
    (h : f.value.bool? = none → ∃ t, R f t) : ∃ a, IsAdditional R f a := by
  obtain ⟨place, value⟩ := f
  cases value with
  | bool yes => exact ⟨.allowed yes, rfl⟩
  | _ =>
    obtain ⟨t, ht⟩ := h rfl
    exact ⟨.schema t, t, rfl, ht⟩

theorem exists_areProperties {R : Fragment → TypeSchema → Prop} {f : Fragment}
    (hobj : f.value.isObj = true) (h : ∀ name g, (name, g) ∈ f.fields → ∃ t, R g t) :
    ∃ properties, AreProperties R f properties := by
  have hall : ∀ raw ∈ f.fields, ∃ built : String × TypeSchema, raw.1 = built.1 ∧ R raw.2 built.2 := by
    intro raw hraw
    obtain ⟨t, ht⟩ := h raw.1 raw.2 hraw
    exact ⟨(raw.1, t), rfl, ht⟩
  obtain ⟨properties, hproperties⟩ := exists_forall₂ hall
  exact ⟨properties, hobj, hproperties⟩

/-- Children for all positions of a readable object make a schema. -/
theorem Readable.exists_built {R : Fragment → TypeSchema → Prop} {node : Fragment}
    (hnode : Readable node) (h : ∀ f ∈ positions node, ∃ t, R f t) :
    ∃ fields s, node.value = .obj fields ∧ Built R node fields s := by
  obtain ⟨fields, d, hfields, hd⟩ := hnode.descriptor
  have hheld : ∀ keyword ∈ ["allOf", "oneOf", "anyOf"], ∃ ts,
      List.Forall₂ R (heldUnder node keyword) ts := fun keyword hk =>
    exists_forall₂ fun f hf => h f (mem_positions_iff.mpr (Or.inl ⟨keyword, hk, hf⟩))
  have hsingle : ∀ keyword ∈ ["not", "items"], ∃ t, Option.Rel R (node.field? keyword) t :=
    fun keyword hk =>
      exists_rel fun f hf => h f (mem_positions_iff.mpr (Or.inr (Or.inl ⟨keyword, hk, hf⟩)))
  obtain ⟨allOf, hall⟩ := hheld "allOf" (by simp)
  obtain ⟨oneOf, hone⟩ := hheld "oneOf" (by simp)
  obtain ⟨anyOf, hany⟩ := hheld "anyOf" (by simp)
  obtain ⟨negated, hnot⟩ := hsingle "not" (by simp)
  obtain ⟨items, hitems⟩ := hsingle "items" (by simp)
  obtain ⟨properties, hproperties⟩ : ∃ ps,
      Option.Rel (AreProperties R) (node.field? "properties") ps :=
    exists_rel fun f hf => exists_areProperties (hnode.properties f hf) fun name g hg =>
      h g (mem_positions_iff.mpr (Or.inr (Or.inr (Or.inl ⟨f, name, hf, hg⟩))))
  obtain ⟨additional, hadditional⟩ : ∃ a,
      Option.Rel (IsAdditional R) (node.field? "additionalProperties") a :=
    exists_rel fun f hf => exists_isAdditional fun hbool =>
      h f (mem_positions_iff.mpr (Or.inr (Or.inr (Or.inr ⟨hf, hbool⟩))))
  exact ⟨fields, ⟨d, allOf, oneOf, anyOf, negated, items, properties, additional⟩, hfields,
    ⟨hd, hall, hone, hany, hnot, hitems, hproperties, hadditional⟩⟩

/-- Everything that is reached below a raw schema stands for a readable object. -/
def AllReadable (root : Json) (raw : Fragment) : Prop :=
  ∀ position, Reached root raw position → ∃ node, Opens root position node ∧ Readable node

/-- The paths below a raw schema keep to a list of places, and never pass one twice. -/
def KeepsTo (root : Json) (raw : Fragment) (places : List Place) : Prop :=
  ∀ nodes, IsPath root raw nodes →
    (∀ node ∈ nodes, node.place ∈ places) ∧ (nodes.map Fragment.place).Nodup

/-- Below an object, paths keep off its place. -/
theorem KeepsTo.below {root : Json} {raw node child : Fragment} {places : List Place}
    (h : KeepsTo root raw places) (hopens : Opens root raw node)
    (hchild : child ∈ positions node) : KeepsTo root child (afterVisit node.place places) := by
  intro nodes hpath
  obtain ⟨hplaces, hnodup⟩ := h (node :: nodes) (hpath.cons hopens hchild)
  rw [List.map_cons, List.nodup_cons] at hnodup
  refine ⟨fun n hn => mem_afterVisit.mpr ⟨hplaces n (List.mem_cons_of_mem _ hn), ?_⟩, hnodup.2⟩
  intro heq
  exact hnodup.1 (List.mem_map.mpr ⟨n, hn, heq⟩)

theorem exists_resolveBelow {root : Json} : ∀ {unopened : List Place} {raw : Fragment},
    AllReadable root raw → KeepsTo root raw unopened →
      ∃ s, ∀ l, resolveBelow root unopened (raw, l) = .ok s := by
  intro unopened
  induction hlen : unopened.length using Nat.strongRecOn generalizing unopened with
  | _ n ih =>
    intro raw hreadable hkeeps
    obtain ⟨node, hopens, hnode⟩ := hreadable raw .start
    have hmem : node.place ∈ unopened :=
      (hkeeps [node] (.singleton hopens)).1 node List.mem_cons_self
    have hlt : (afterVisit node.place unopened).length < n := by
      rw [← hlen]
      exact length_afterVisit_lt hmem
    have hchildren : ∀ f ∈ positions node, ∃ t, ∀ l,
        resolveBelow root (afterVisit node.place unopened) (f, l) = .ok t := fun f hf =>
      ih _ hlt rfl (fun position hreached => hreadable position (hreached.head hopens hf))
        (hkeeps.below hopens hf)
    obtain ⟨fields, s, hfields, hbuilt⟩ := hnode.exists_built hchildren
    exact ⟨s, resolveBelow_of_built hopens.1 hfields hmem hbuilt⟩

/-- A raw schema resolves if all that is reached below it is readable and no path revisits a
place. -/
theorem exists_resolve {root : Json} {raw : Fragment} (hreadable : AllReadable root raw)
    (hrevisits : ¬ Revisits root raw) : ∃ s, ∀ l, resolve root raw l = .ok s := by
  refine exists_resolveBelow hreadable fun nodes hpath => ⟨?_, ?_⟩
  · exact hpath.place_mem (List.subset_append_right _ _) (List.subset_append_left _ _)
  · by_contra hdup
    exact hrevisits ⟨nodes, hpath, hdup⟩

end ApiGraph.TypeSchema
