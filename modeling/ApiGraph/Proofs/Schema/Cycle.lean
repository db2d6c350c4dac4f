import ApiGraph.Proofs.Reference.Chain
import ApiGraph.Proofs.Schema.Positions

/-!
# Cycles between schemas

The objects of a document form a graph: an object leads to every object that one of its
schema positions stands for. A path in this graph that comes back to an object it has
passed, or a chain of references below it that never ends, cannot be resolved. Nothing
else is a cycle: objects are told apart by place, so equal siblings and an object shared
by two siblings are not.

Resolution walks this graph depth first. The places still unopened are those of all
objects less the ones on the path from the raw schema, which is what both directions of
the verdict rest on, and what bounds the depth.
-/

namespace ApiGraph

namespace TypeSchema

open Outcome

/-! ### The graph of objects -/

/-- `node` is the object that a position stands for. -/
def Opens (root : Json) (position node : Fragment) : Prop :=
  Reference.resolve root position = .ok node ∧ ∃ fields, node.value = .obj fields

/-- One object leads to another through one of its positions. -/
def Edge (root : Json) (node next : Fragment) : Prop :=
  ∃ position ∈ positions node, Opens root position next

/-- A path of objects, the first of which a raw schema stands for. -/
def IsPath (root : Json) (raw : Fragment) (nodes : List Fragment) : Prop :=
  (∀ node ∈ nodes.head?, Opens root raw node) ∧ nodes.IsChain (Edge root)

/-- Some path from a raw schema passes the same place twice. -/
def Revisits (root : Json) (raw : Fragment) : Prop :=
  ∃ nodes, IsPath root raw nodes ∧ ¬ (nodes.map Fragment.place).Nodup

/-- The positions at and below a raw schema, references being followed on the way. -/
inductive Reached (root : Json) (raw : Fragment) : Fragment → Prop
  | start : Reached root raw raw
  | down {position node child : Fragment} : Reached root raw position →
      Opens root position node → child ∈ positions node → Reached root raw child

/-- A raw schema below which there is a cycle of objects or of references. -/
def Cyclic (root : Json) (raw : Fragment) : Prop :=
  Revisits root raw ∨ ∃ position, Reached root raw position ∧ Reference.Endless root position

theorem Opens.unique {root : Json} {position node other : Fragment} (h : Opens root position node)
    (h' : Opens root position other) : node = other :=
  Except.ok.inj (h.1.symm.trans h'.1)

theorem IsPath.singleton {root : Json} {raw node : Fragment} (h : Opens root raw node) :
    IsPath root raw [node] := by
  refine ⟨?_, .singleton node⟩
  intro n hn
  cases hn
  exact h

theorem IsPath.cons {root : Json} {raw node child : Fragment} {nodes : List Fragment}
    (hpath : IsPath root child nodes) (h : Opens root raw node) (hchild : child ∈ positions node) :
    IsPath root raw (node :: nodes) := by
  refine ⟨?_, ?_⟩
  · intro n hn
    cases hn
    exact h
  · cases nodes with
    | nil => exact .singleton node
    | cons next rest => exact .cons_cons ⟨child, hchild, hpath.1 next rfl⟩ hpath.2

/-- A path goes on from its first object through one of its positions. -/
theorem IsPath.tail {root : Json} {raw node : Fragment} {nodes : List Fragment}
    (h : IsPath root raw (node :: nodes)) :
    Opens root raw node ∧ (nodes = [] ∨ ∃ child ∈ positions node, IsPath root child nodes) := by
  refine ⟨h.1 node rfl, ?_⟩
  cases nodes with
  | nil => exact Or.inl rfl
  | cons next rest =>
    obtain ⟨⟨child, hchild, hopens⟩, hrest⟩ := List.isChain_cons_cons.mp h.2
    refine Or.inr ⟨child, hchild, ?_, hrest⟩
    intro n hn
    cases hn
    exact hopens

/-- What is reached below a position of an object is reached below the object. -/
theorem Reached.head {root : Json} {raw node child position : Fragment} (h : Opens root raw node)
    (hchild : child ∈ positions node) (hreached : Reached root child position) :
    Reached root raw position := by
  induction hreached with
  | start => exact .down .start h hchild
  | down _ hopens hmem ih => exact .down ih hopens hmem

/-- What holds of a position and of the parts of the document holds of the object that the position
stands for. -/
theorem Opens.keeps {root : Json} {P : Fragment → Prop}
    (hpart : ∀ f g, Fragment.Part g f → P f → P g) (hroot : P (.ofDocument root))
    {position node : Fragment} (h : Opens root position node) (hposition : P position) : P node :=
  Reference.resolve_induction hpart hroot hposition h.1

theorem Reached.keeps {root : Json} {P : Fragment → Prop}
    (hpart : ∀ f g, Fragment.Part g f → P f → P g) (hroot : P (.ofDocument root))
    {raw position : Fragment} (h : Reached root raw position) (hraw : P raw) : P position := by
  induction h with
  | start => exact hraw
  | down _ hopens hchild ih =>
    exact (inside_of_mem_positions hchild).keeps hpart (hopens.keeps hpart hroot ih)

/-! ### What one opening does -/

section Opening

variable {root : Json} {unopened : List Place} {at_ : Position} {s : TypeSchema} {e : Fault}
  {below : (place : Place) → place ∈ unopened → Position → Except Fault TypeSchema}

theorem openWith_eq_ok (h : openWith root unopened below at_ = .ok s) :
    ∃ node fields, Reference.resolve root at_.1 = .ok node ∧ node.value = .obj fields ∧
      ∃ hmem : node.place ∈ unopened, build (below node.place hmem) node fields at_.2 = .ok s := by
  rw [openWith, bind_eq_ok_iff] at h
  obtain ⟨node, hnode, h⟩ := h
  split at h
  · next fields hfields =>
    split at h
    · next hmem => exact ⟨node, fields, hnode, hfields, hmem, h⟩
    · cases h
  · cases h

theorem openWith_of_build {node : Fragment} {fields : Fields}
    (hnode : Reference.resolve root at_.1 = .ok node) (hfields : node.value = .obj fields)
    (hmem : node.place ∈ unopened) (h : build (below node.place hmem) node fields at_.2 = .ok s) :
    openWith root unopened below at_ = .ok s := by
  rw [openWith, bind_eq_ok_iff]
  refine ⟨node, hnode, ?_⟩
  split
  · next fields' hfields' =>
    rw [hfields] at hfields'
    cases hfields'
    rw [dif_pos hmem]
    exact h
  · next hnot => exact absurd hfields (hnot fields)

/-- A failed opening fails in following references, at something that is no object, at an object
that has been opened before, or in what it builds. -/
theorem fault_of_openWith (h : openWith root unopened below at_ = .error e) :
    Reference.resolve root at_.1 = .error e ∨
      (∃ node, Reference.resolve root at_.1 = .ok node ∧ node.value.isObj = false ∧
        e = .undefinedSchema at_.2) ∨
      ∃ node fields, Reference.resolve root at_.1 = .ok node ∧ node.value = .obj fields ∧
        ((node.place ∉ unopened ∧ e = .cyclicReference at_.2) ∨
          ∃ hmem : node.place ∈ unopened,
            build (below node.place hmem) node fields at_.2 = .error e) := by
  rw [openWith, bind_eq_error_iff] at h
  rcases h with h | ⟨node, hnode, h⟩
  · exact Or.inl h
  · right
    split at h
    · next fields hfields =>
      right
      refine ⟨node, fields, hnode, hfields, ?_⟩
      split at h
      · next hmem => exact Or.inr ⟨hmem, h⟩
      · next hmem =>
        cases h
        exact Or.inl ⟨hmem, rfl⟩
    · next hnot =>
      cases h
      refine Or.inl ⟨node, hnode, ?_, rfl⟩
      cases hv : node.value with
      | obj fields => exact absurd hv (hnot fields)
      | _ => rfl

end Opening

/-- A schema that resolves stands for an unopened object, and each of its positions resolves with
that object opened. -/
theorem resolveBelow_eq_ok {root : Json} {unopened : List Place} {at_ : Position} {s : TypeSchema}
    (h : resolveBelow root unopened at_ = .ok s) :
    ∃ node fields, Reference.resolve root at_.1 = .ok node ∧ node.value = .obj fields ∧
      node.place ∈ unopened ∧
      Built (fun f t => ∃ l, resolveBelow root (afterVisit node.place unopened) (f, l) = .ok t)
        node fields s := by
  rw [resolveBelow] at h
  obtain ⟨node, fields, hnode, hfields, hmem, hbuild⟩ := openWith_eq_ok h
  exact ⟨node, fields, hnode, hfields, hmem, built_of_build hbuild⟩

theorem resolveBelow_of_built {root : Json} {unopened : List Place} {raw node : Fragment}
    {fields : Fields} {s : TypeSchema} (hnode : Reference.resolve root raw = .ok node)
    (hfields : node.value = .obj fields) (hmem : node.place ∈ unopened)
    (h : Built (fun f t => ∀ l, resolveBelow root (afterVisit node.place unopened) (f, l) = .ok t)
      node fields s) (l : String) : resolveBelow root unopened (raw, l) = .ok s := by
  rw [resolveBelow]
  exact openWith_of_build hnode hfields hmem (build_of_built h)

/-- Whatever an object inherits from its positions, once they have resolved with the object opened,
holds of every schema that resolves. -/
theorem resolveBelow_induction {root : Json} {P : List Place → Fragment → TypeSchema → Prop}
    (hobject : ∀ unopened raw node fields s, Reference.resolve root raw = .ok node →
      node.value = .obj fields → node.place ∈ unopened →
      Built (fun f t => (∃ l, resolveBelow root (afterVisit node.place unopened) (f, l) = .ok t) ∧
        P (afterVisit node.place unopened) f t) node fields s →
      P unopened raw s) :
    ∀ {unopened : List Place} {raw : Fragment} {l : String} {s : TypeSchema},
      resolveBelow root unopened (raw, l) = .ok s → P unopened raw s := by
  intro unopened
  induction hlen : unopened.length using Nat.strongRecOn generalizing unopened with
  | _ n ih =>
    intro raw l s h
    obtain ⟨node, fields, hnode, hfields, hmem, hbuilt⟩ := resolveBelow_eq_ok h
    have hlt : (afterVisit node.place unopened).length < n := by
      rw [← hlen]
      exact length_afterVisit_lt hmem
    refine hobject unopened raw node fields s hnode hfields hmem (hbuilt.mono fun f _ t ht => ?_)
    obtain ⟨l', hchild⟩ := ht
    exact ⟨⟨l', hchild⟩, ih _ hlt rfl hchild⟩

/-! ### Success excludes every cycle -/

/-- Below a schema that resolves, paths pass unopened places only, and none of them twice. -/
theorem path_of_resolveBelow_eq_ok {root : Json} {nodes : List Fragment} :
    ∀ {unopened : List Place} {at_ : Position} {s : TypeSchema},
      resolveBelow root unopened at_ = .ok s → IsPath root at_.1 nodes →
      (∀ node ∈ nodes, node.place ∈ unopened) ∧ (nodes.map Fragment.place).Nodup := by
  induction nodes with
  | nil =>
    intro unopened at_ s _ _
    simp
  | cons node rest ih =>
    intro unopened at_ s h hpath
    obtain ⟨top, fields, htop, hfields, hmem, hbuilt⟩ := resolveBelow_eq_ok h
    obtain ⟨hopens, hrest⟩ := hpath.tail
    cases hopens.unique ⟨htop, fields, hfields⟩
    rcases hrest with rfl | ⟨child, hchild, hpath'⟩
    · simpa using hmem
    · obtain ⟨t, l, ht⟩ := hbuilt.exists_child hchild
      obtain ⟨hunopened, hnodup⟩ := ih ht hpath'
      constructor
      · intro n hn
        rcases List.mem_cons.mp hn with rfl | hn
        · exact hmem
        · exact (mem_afterVisit.mp (hunopened n hn)).1
      · rw [List.map_cons, List.nodup_cons]
        refine ⟨?_, hnodup⟩
        intro hin
        obtain ⟨n, hn, hplace⟩ := List.mem_map.mp hin
        exact (mem_afterVisit.mp (hunopened n hn)).2 hplace

/-- Below a schema that resolves, every position stands for an object. -/
theorem opens_of_reached {root : Json} {raw position : Fragment}
    (hreached : Reached root raw position) {unopened : List Place} {l : String} {s : TypeSchema}
    (h : resolveBelow root unopened (raw, l) = .ok s) :
    ∃ node, Opens root position node := by
  have hresolves : ∃ unopened l s, resolveBelow root unopened (position, l) = .ok s := by
    induction hreached with
    | start => exact ⟨unopened, l, s, h⟩
    | down _ hopens hmem ih =>
      obtain ⟨_, _, _, hparent⟩ := ih
      obtain ⟨node, fields, hnode, hfields, _, hbuilt⟩ := resolveBelow_eq_ok hparent
      cases hopens.unique ⟨hnode, fields, hfields⟩
      obtain ⟨t, l', ht⟩ := hbuilt.exists_child hmem
      exact ⟨_, l', t, ht⟩
  obtain ⟨_, _, _, hpos⟩ := hresolves
  obtain ⟨node, fields, hnode, hfields, _⟩ := resolveBelow_eq_ok hpos
  exact ⟨node, hnode, fields, hfields⟩

/-! ### A reported cycle is one -/

/-- Every object that a raw schema leads to is inside it or inside the document. -/
theorem Opens.objects_subset {root : Json} {position node : Fragment} {places : List Place}
    (h : Opens root position node) (hposition : position.objects ⊆ places)
    (hroot : (Fragment.ofDocument root).objects ⊆ places) : node.objects ⊆ places := by
  obtain ⟨⟨n, hn⟩, _⟩ := Reference.resolve_eq_ok_iff.mp h.1
  cases n with
  | zero =>
    cases hn
    exact hposition
  | succ n =>
    rw [Reference.after, Option.bind_eq_some_iff] at hn
    obtain ⟨_, _, hnext⟩ := hn
    obtain ⟨_, _, _, hwalk⟩ := Reference.next?_eq_some_iff.mp hnext
    exact List.Subset.trans (Fragment.objects_subset_of_walk? hwalk) hroot

/-- So the objects of a path all stand inside the raw schema or inside the document. -/
theorem IsPath.place_mem {root : Json} {places : List Place}
    (hroot : (Fragment.ofDocument root).objects ⊆ places) {nodes : List Fragment} :
    ∀ {raw : Fragment}, raw.objects ⊆ places → IsPath root raw nodes →
      ∀ node ∈ nodes, node.place ∈ places := by
  induction nodes with
  | nil =>
    intro raw _ _ node hnode
    cases hnode
  | cons top rest ih =>
    intro raw hraw hpath node hnode
    obtain ⟨hopens, hrest⟩ := hpath.tail
    have hsub := hopens.objects_subset hraw hroot
    rcases List.mem_cons.mp hnode with rfl | hnode
    · obtain ⟨_, fields, hfields⟩ := hopens
      exact hsub (Fragment.place_mem_objects hfields)
    · rcases hrest with rfl | ⟨child, hchild, hpath'⟩
      · cases hnode
      · exact ih (List.Subset.trans (inside_of_mem_positions hchild).objects_subset hsub) hpath'
          node hnode

/-- A reported cycle is an endless chain of references at a position below the raw schema, or a
path whose last object has been opened before: above the raw schema, or on the path itself. -/
theorem cycle_of_resolveBelow {root : Json} {pointer : String} :
    ∀ {unopened : List Place} {at_ : Position},
      resolveBelow root unopened at_ = .error (.cyclicReference pointer) →
      (∃ position, Reached root at_.1 position ∧ Reference.Endless root position) ∨
      ∃ nodes last, IsPath root at_.1 (nodes ++ [last]) ∧
        (last.place ∉ unopened ∨ last.place ∈ nodes.map Fragment.place) := by
  intro unopened
  -- The induction is on what is still unopened, as the recursion of `resolveBelow` is.
  induction hlen : unopened.length using Nat.strongRecOn generalizing unopened with
  | _ n ih =>
    intro at_ h
    rw [resolveBelow] at h
    rcases fault_of_openWith h with href | ⟨_, _, _, hundefined⟩ |
      ⟨node, fields, hnode, hfields, hcase⟩
    · left
      exact ⟨at_.1, .start, (Reference.resolve_eq_cyclic_iff.mp href).1⟩
    · cases hundefined
    · have hopens : Opens root at_.1 node := ⟨hnode, fields, hfields⟩
      rcases hcase with ⟨hmem, _⟩ | ⟨hmem, hbuild⟩
      · right
        exact ⟨[], node, .singleton hopens, Or.inl hmem⟩
      · rcases fault_of_build hbuild with ⟨_, _, hcause⟩ | ⟨child, hchild, l, _, hfail⟩
        · cases hcause
        · have hlt : (afterVisit node.place unopened).length < n := by
            rw [← hlen]
            exact length_afterVisit_lt hmem
          rcases ih _ hlt rfl hfail with ⟨position, hreached, hendless⟩ |
            ⟨nodes, last, hpath, hback⟩
          · left
            exact ⟨position, hreached.head hopens hchild, hendless⟩
          · right
            refine ⟨node :: nodes, last, hpath.cons hopens hchild, ?_⟩
            rw [List.map_cons, List.mem_cons]
            rcases hback with hout | hin
            · by_cases heq : last.place = node.place
              · exact Or.inr (Or.inl heq)
              · left
                intro hin
                exact hout (mem_afterVisit.mpr ⟨hin, heq⟩)
            · exact Or.inr (Or.inr hin)

/-! ### The depth of the recursion -/

/-- Resolution down to a depth: a position that lies deeper is left to `beyond`. -/
def resolveTo (root : Json) (beyond : Position → Except Fault TypeSchema) :
    Nat → List Place → Position → Except Fault TypeSchema
  | 0, _, at_ => beyond at_
  | depth + 1, unopened, at_ =>
    openWith root unopened
      (fun place _ child => resolveTo root beyond depth (afterVisit place unopened) child) at_

/-- The number of objects of a document and of a raw schema inside or beside it. -/
def objectCount (root : Json) (raw : Fragment) : Nat :=
  (raw.objects ++ (Fragment.ofDocument root).objects).toFinset.card

theorem resolveTo_eq_resolveBelow (root : Json) (beyond : Position → Except Fault TypeSchema)
    {depth : Nat} : ∀ {unopened : List Place}, unopened.toFinset.card ≤ depth → ∀ at_,
      resolveTo root beyond (depth + 1) unopened at_ = resolveBelow root unopened at_ := by
  induction depth with
  | zero =>
    intro unopened hcard at_
    -- Nothing is unopened, so no position is handed on.
    have hnone : ∀ place, place ∉ unopened := by
      intro place hmem
      have hlt := card_afterVisit_lt hmem
      omega
    rw [resolveTo, resolveBelow]
    congr 1
    funext place hmem
    exact absurd hmem (hnone place)
  | succ depth ih =>
    intro unopened hcard at_
    rw [resolveTo, resolveBelow]
    congr 1
    funext place hmem child
    have hlt := card_afterVisit_lt hmem
    exact ih (by omega) child

/-! ### The verdict -/

theorem not_cyclic_of_resolve_eq_ok {root : Json} {raw : Fragment} {location : String}
    {s : TypeSchema} (h : resolve root raw location = .ok s) : ¬ Cyclic root raw := by
  rintro (⟨nodes, hpath, hdup⟩ | ⟨position, hreached, hendless⟩)
  · exact hdup (path_of_resolveBelow_eq_ok h hpath).2
  · obtain ⟨node, hnode, _⟩ := opens_of_reached hreached h
    obtain ⟨pointer, hcyclic⟩ := Reference.resolve_cyclic_of_endless hendless
    rw [hcyclic] at hnode
    cases hnode

theorem cyclic_of_resolve_eq_cyclicReference {root : Json} {raw : Fragment}
    {location pointer : String}
    (h : resolve root raw location = .error (.cyclicReference pointer)) : Cyclic root raw := by
  rcases cycle_of_resolveBelow h with hendless | ⟨nodes, last, hpath, hback⟩
  · exact Or.inr hendless
  · left
    refine ⟨nodes ++ [last], hpath, ?_⟩
    have hplace := hpath.place_mem (List.subset_append_right _ _) (List.subset_append_left _ _)
      last (by simp)
    rcases hback with hout | hin
    · exact absurd hplace hout
    · intro hnodup
      rw [List.map_append, List.nodup_append] at hnodup
      exact hnodup.2.2 last.place hin last.place (by simp) rfl

/-- **The cycle verdict is exact.**  A raw schema that resolves has no cycle below it; one with a
cycle below it fails; and a cycle is reported only where there is one.  The recursion nests at most
as deep as there are objects: whatever would be answered for deeper positions has no effect. -/
theorem resolve_cycle_verdict (root : Json) (raw : Fragment) (location : String) :
    (∀ beyond, resolveTo root beyond (objectCount root raw + 1)
      (raw.objects ++ (Fragment.ofDocument root).objects) (raw, location) =
        resolve root raw location) ∧
    ((∃ s, resolve root raw location = .ok s) →
      (∀ nodes, IsPath root raw nodes → (nodes.map Fragment.place).Nodup) ∧
      ∀ position, Reached root raw position → ¬ Reference.Endless root position) ∧
    (Cyclic root raw → ∃ fault, resolve root raw location = .error fault) ∧
    (∀ pointer, resolve root raw location = .error (.cyclicReference pointer) →
      Cyclic root raw) := by
  refine ⟨fun beyond => resolveTo_eq_resolveBelow root beyond (Nat.le_refl _) _, ?_, ?_,
    fun pointer => cyclic_of_resolve_eq_cyclicReference⟩
  · rintro ⟨s, h⟩
    have hacyclic := not_cyclic_of_resolve_eq_ok h
    constructor
    · intro nodes hpath
      by_contra hdup
      exact hacyclic (Or.inl ⟨nodes, hpath, hdup⟩)
    · intro position hreached hendless
      exact hacyclic (Or.inr ⟨position, hreached, hendless⟩)
  · intro hcyclic
    cases h : resolve root raw location with
    | error fault => exact ⟨fault, rfl⟩
    | ok s => exact absurd hcyclic (not_cyclic_of_resolve_eq_ok h)

end TypeSchema

end ApiGraph
