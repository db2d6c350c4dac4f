import ApiGraph.Proofs.Schema.Resolvable
import Mathlib.Data.Nat.Find

/-!
# Unfoldings

Resolution keeps a list of the places that are still unopened. What it arrives at can be
described without that list: a raw schema unfolds to a tree of finite depth, each object
of the document being built anew wherever a position stands for it. A schema resolves to
what it unfolds to, and a schema with an object below itself unfolds to nothing.

The second half rests on places. A place determines the value that stands there, so an
object that was met below itself would be built from a smaller unfolding of itself.
-/

namespace ApiGraph

/-! ### Places determine values -/

/-- One step down into a value. -/
def Json.descend? (v : Json) : Step → Option Json
  | .key name => v.get? name
  | .index i => v.items?.bind fun items => items[i]?

/-- A fragment stands where its place says, in the document or in the value handed in. -/
def Fragment.Located (root supplied : Json) (f : Fragment) : Prop :=
  let base := match f.place.origin with
    | .document => root
    | .supplied => supplied
  f.place.steps.foldlM Json.descend? base = some f.value

namespace Fragment

variable {root supplied : Json} {f g : Fragment}

theorem Located.unique (hf : f.Located root supplied) (hg : g.Located root supplied)
    (hplace : f.place = g.place) : f = g := by
  obtain ⟨place, value⟩ := f
  obtain ⟨place', value'⟩ := g
  cases hplace
  cases hf.symm.trans hg
  rfl

theorem Located.child {step : Step} {v : Json} (hf : f.Located root supplied)
    (hv : f.value.descend? step = some v) : Located root supplied ⟨f.place.child step, v⟩ := by
  simp only [Located, Place.child, List.foldlM_append, Option.bind_eq_bind]
  refine Option.bind_eq_some_iff.mpr ⟨f.value, hf, ?_⟩
  rw [List.foldlM_cons]
  exact Option.bind_eq_some_iff.mpr ⟨v, hv, rfl⟩

/-- A well-formed fragment that stands at its place; so do all its parts. -/
structure Placed (root supplied : Json) (f : Fragment) : Prop where
  wellFormed : f.value.WellFormed
  located : f.Located root supplied

theorem Placed.part (hf : Placed root supplied f) (h : Part g f) : Placed root supplied g := by
  refine ⟨h.wellFormed hf.wellFormed, ?_⟩
  cases h with
  | field hv => exact hf.located.child ((Fields.get?_eq_some_iff hf.wellFormed.1).mpr hv)
  | item hv => exact hf.located.child hv

theorem placed_ofDocument (h : root.WellFormed) : Placed root supplied (.ofDocument root) := ⟨h, rfl⟩

theorem placed_ofSupplied (h : supplied.WellFormed) : Placed root supplied (.ofSupplied supplied) :=
  ⟨h, rfl⟩

theorem Placed.resolve (hf : Placed root root f) (hroot : root.WellFormed)
    (h : Reference.resolve root f = .ok g) : Placed root root g :=
  Reference.resolve_induction (fun _ _ hpart hf => hf.part hpart) (placed_ofDocument hroot) hf h

end Fragment

namespace TypeSchema

open Outcome Fragment

/-! ### Unfolding to a depth -/

/-- `s` is built from the object that a raw schema stands for, and so on below it, down to no more
than a depth. -/
def UnfoldsTo (root : Json) : Nat → Fragment → TypeSchema → Prop
  | 0, _, _ => False
  | depth + 1, raw, s => ∃ node fields, Reference.resolve root raw = .ok node ∧
      node.value = .obj fields ∧ Built (UnfoldsTo root depth) node fields s

/-- What a raw schema unfolds to at some depth. -/
def Unfolds (root : Json) (raw : Fragment) (s : TypeSchema) : Prop :=
  ∃ depth, UnfoldsTo root depth raw s

variable {root : Json}

theorem unfoldsTo_mono {m : Nat} : ∀ {n : Nat}, m ≤ n → ∀ raw s,
    UnfoldsTo root m raw s → UnfoldsTo root n raw s := by
  induction m with
  | zero =>
    intro n _ raw s h
    exact h.elim
  | succ m ih =>
    intro n hmn raw s h
    obtain ⟨n, rfl⟩ := Nat.exists_eq_add_of_le' (Nat.lt_of_lt_of_le (Nat.succ_pos m) hmn)
    obtain ⟨node, fields, hnode, hfields, hbuilt⟩ := h
    exact ⟨node, fields, hnode, hfields,
      hbuilt.mono fun f _ => ih (Nat.le_of_succ_le_succ hmn) f⟩

theorem unfoldsTo_of_resolveBelow {unopened : List Place} {raw : Fragment} {l : String}
    {s : TypeSchema} (h : resolveBelow root unopened (raw, l) = .ok s) :
    UnfoldsTo root (unopened.length + 1) raw s := by
  refine @resolveBelow_induction root
    (fun unopened raw s => UnfoldsTo root (unopened.length + 1) raw s) ?_ _ _ _ _ h
  intro unopened raw node fields s hnode hfields hmem hbuilt
  exact ⟨node, fields, hnode, hfields,
    hbuilt.mono fun f _ t ht => unfoldsTo_mono (length_afterVisit_lt hmem) f t ht.2⟩

/-- Where paths keep to the unopened places, a raw schema resolves to what it unfolds to. -/
theorem resolveBelow_of_unfoldsTo {depth : Nat} : ∀ {unopened : List Place} {raw : Fragment}
    {s : TypeSchema}, UnfoldsTo root depth raw s → KeepsTo root raw unopened →
      ∀ l, resolveBelow root unopened (raw, l) = .ok s := by
  induction depth with
  | zero =>
    intro unopened raw s h
    exact h.elim
  | succ depth ih =>
    intro unopened raw s h hkeeps
    obtain ⟨node, fields, hnode, hfields, hbuilt⟩ := h
    have hopens : Opens root raw node := ⟨hnode, fields, hfields⟩
    have hmem : node.place ∈ unopened :=
      (hkeeps [node] (.singleton hopens)).1 node List.mem_cons_self
    exact resolveBelow_of_built hnode hfields hmem
      (hbuilt.mono fun f hf t ht => ih ht (hkeeps.below hopens hf))

/-! ### No path passes an object twice -/

/-- An object that is built from unfoldings of no more than a depth. -/
def Grows (root : Json) (depth : Nat) (node : Fragment) : Prop :=
  ∃ fields s, node.value = .obj fields ∧ Built (UnfoldsTo root depth) node fields s

theorem grows_of_opens {depth : Nat} {raw node : Fragment} {s : TypeSchema}
    (h : UnfoldsTo root depth raw s) (hopens : Opens root raw node) :
    ∃ d < depth, Grows root d node := by
  cases depth with
  | zero => exact h.elim
  | succ depth =>
    obtain ⟨top, fields, htop, hfields, hbuilt⟩ := h
    cases hopens.unique ⟨htop, fields, hfields⟩
    exact ⟨depth, Nat.lt_succ_self depth, fields, s, hfields, hbuilt⟩

/-- The further down a path, the smaller the unfoldings. -/
theorem grows_of_path {nodes : List Fragment} : ∀ {depth : Nat} {raw : Fragment} {s : TypeSchema},
    UnfoldsTo root depth raw s → IsPath root raw nodes → ∀ node ∈ nodes,
      ∃ d < depth, Grows root d node := by
  induction nodes with
  | nil =>
    intro depth raw s _ _ node hnode
    cases hnode
  | cons top rest ih =>
    intro depth raw s h hpath node hnode
    obtain ⟨hopens, hrest⟩ := hpath.tail
    obtain ⟨d, hd, htop⟩ := grows_of_opens h hopens
    rcases List.mem_cons.mp hnode with rfl | hnode
    · exact ⟨d, hd, htop⟩
    · rcases hrest with rfl | ⟨child, hchild, hpath'⟩
      · cases hnode
      · obtain ⟨fields, t, _, hbuilt⟩ := htop
        obtain ⟨u, hu⟩ := hbuilt.exists_child hchild
        obtain ⟨d', hd', hnode'⟩ := ih hu hpath' node hnode
        exact ⟨d', Nat.lt_trans hd' hd, hnode'⟩

theorem IsPath.placed {supplied : Json} (hroot : root.WellFormed) {nodes : List Fragment} :
    ∀ {raw : Fragment}, IsPath root raw nodes → Placed root supplied raw →
      ∀ node ∈ nodes, Placed root supplied node := by
  induction nodes with
  | nil =>
    intro raw _ _ node hnode
    cases hnode
  | cons top rest ih =>
    intro raw hpath hraw node hnode
    obtain ⟨hopens, hrest⟩ := hpath.tail
    have htop : Placed root supplied top :=
      hopens.keeps (fun _ _ hpart hf => hf.part hpart) (placed_ofDocument hroot) hraw
    rcases List.mem_cons.mp hnode with rfl | hnode
    · exact htop
    · rcases hrest with rfl | ⟨child, hchild, hpath'⟩
      · cases hnode
      · have hbelow : Placed root supplied child :=
          (inside_of_mem_positions hchild).keeps (fun _ _ hpart hf => hf.part hpart) htop
        exact ih hpath' hbelow node hnode

theorem nodup_of_unfolds {supplied : Json} {nodes : List Fragment} : ∀ {raw : Fragment}
    {s : TypeSchema}, Unfolds root raw s → IsPath root raw nodes →
      (∀ node ∈ nodes, Placed root supplied node) → (nodes.map Fragment.place).Nodup := by
  induction nodes with
  | nil =>
    intro raw s _ _ _
    exact List.nodup_nil
  | cons top rest ih =>
    intro raw s h hpath hplaced
    obtain ⟨depth, h⟩ := h
    obtain ⟨hopens, hrest⟩ := hpath.tail
    have hgrows : ∃ d, Grows root d top := by
      obtain ⟨d, _, htop⟩ := grows_of_opens h hopens
      exact ⟨d, htop⟩
    classical
    -- Met again, the object would grow from less than the least it grows from.
    have hleast : Grows root (Nat.find hgrows) top := Nat.find_spec hgrows
    obtain ⟨fields, t, _, hbuilt⟩ := hleast
    rw [List.map_cons, List.nodup_cons]
    rcases hrest with rfl | ⟨child, hchild, hpath'⟩
    · simp
    · obtain ⟨u, hu⟩ := hbuilt.exists_child hchild
      refine ⟨fun hin => ?_, ih ⟨_, hu⟩ hpath' fun node hnode =>
        hplaced node (List.mem_cons_of_mem _ hnode)⟩
      obtain ⟨node, hnode, hplace⟩ := List.mem_map.mp hin
      obtain ⟨d, hd, hless⟩ := grows_of_path hu hpath' node hnode
      have hsame : node = top := (hplaced node (List.mem_cons_of_mem _ hnode)).located.unique
        (hplaced top List.mem_cons_self).located hplace
      rw [hsame] at hless
      exact Nat.find_min hgrows hd hless

/-! ### Resolution is unfolding -/

/-- A schema that stands at its place resolves to what it unfolds to in a well-formed document, and
to nothing else. -/
theorem resolve_eq_ok_iff_unfolds_of_placed {supplied : Json} {raw : Fragment}
    (hroot : root.WellFormed) (hraw : Placed root supplied raw) {location : String}
    {s : TypeSchema} : resolve root raw location = .ok s ↔ Unfolds root raw s := by
  constructor
  · intro h
    exact ⟨_, unfoldsTo_of_resolveBelow h⟩
  · intro h
    have hkeeps : KeepsTo root raw (raw.objects ++ (Fragment.ofDocument root).objects) := by
      intro nodes hpath
      constructor
      · exact hpath.place_mem (List.subset_append_right _ _) (List.subset_append_left _ _)
      · exact nodup_of_unfolds h hpath (hpath.placed hroot hraw)
    obtain ⟨depth, h⟩ := h
    exact resolveBelow_of_unfoldsTo h hkeeps location

theorem resolve_eq_ok_iff_unfolds {v : Json} (hroot : root.WellFormed) (hv : v.WellFormed)
    {location : String} {s : TypeSchema} :
    resolve root (.ofSupplied v) location = .ok s ↔ Unfolds root (.ofSupplied v) s :=
  resolve_eq_ok_iff_unfolds_of_placed hroot (placed_ofSupplied hv)

/-- A reference in a well-formed document resolves to what the fragment behind it resolves to. -/
theorem resolve_of_resolve_target {raw node : Fragment} (hroot : root.WellFormed)
    (hraw : Placed root root raw) (hnode : Reference.resolve root raw = .ok node)
    {l : String} {s : TypeSchema} (h : resolve root node l = .ok s) (location : String) :
    resolve root raw location = .ok s := by
  have hplaced : Placed root root node := hraw.resolve hroot hnode
  obtain ⟨depth, hunfolds⟩ := (resolve_eq_ok_iff_unfolds_of_placed hroot hplaced).mp h
  refine (resolve_eq_ok_iff_unfolds_of_placed hroot hraw).mpr ⟨depth, ?_⟩
  cases depth with
  | zero => exact hunfolds.elim
  | succ depth =>
    obtain ⟨top, fields, htop, hfields, hbuilt⟩ := hunfolds
    rw [Reference.resolve_of_not_reference (Reference.resolve_eq_ok_iff.mp hnode).2] at htop
    cases htop
    exact ⟨node, fields, hnode, hfields, hbuilt⟩

/-! ### Where a schema stands plays no part -/

section Copies

variable {f g node node' : Fragment} {R S : Fragment → TypeSchema → Prop}

theorem rel_field?_of_value_eq (h : f.value = g.value) (key : String) :
    Option.Rel (fun a b : Fragment => a.value = b.value) (f.field? key) (g.field? key) := by
  rw [field?, field?, h]
  cases g.value.get? key with
  | none => exact .none
  | some v => exact .some rfl

theorem forall₂_items_of_value_eq (h : f.value = g.value) :
    List.Forall₂ (fun a b : Fragment => a.value = b.value) f.items g.items := by
  refine map_eq_map_iff_forall₂.mp ?_
  rw [map_value_items, map_value_items, h]

theorem forall₂_fields_of_value_eq (h : f.value = g.value) :
    List.Forall₂ (fun raw raw' : String × Fragment => raw.1 = raw'.1 ∧ raw.2.value = raw'.2.value)
      f.fields g.fields := by
  rw [Fragment.fields, Fragment.fields, h, List.forall₂_map_left_iff,
    List.forall₂_map_right_iff, List.forall₂_same]
  exact fun _ _ => ⟨rfl, rfl⟩

theorem forall₂_heldUnder_of_value_eq (h : node.value = node'.value) (keyword : String) :
    List.Forall₂ (fun a b : Fragment => a.value = b.value)
      (heldUnder node keyword) (heldUnder node' keyword) := by
  have hrel := rel_field?_of_value_eq h keyword
  rw [heldUnder, heldUnder]
  generalize node.field? keyword = x at hrel
  generalize node'.field? keyword = y at hrel
  cases hrel with
  | none => exact .nil
  | @some f g hvalue =>
    simp only [membersOf, hvalue]
    split
    · exact forall₂_items_of_value_eq hvalue
    · exact .cons hvalue .nil

/-- From the same value the same is built, if the same is built from the same values below it. -/
theorem Built.copy {fields : Fields} {s : TypeSchema} (h : Built R node fields s)
    (hvalue : node.value = node'.value) (hRS : ∀ f g t, f.value = g.value → R f t → S g t) :
    Built S node' fields s where
  descriptor := h.descriptor
  allOf := forall₂_comp (forall₂_heldUnder_of_value_eq hvalue "allOf") hRS h.allOf
  oneOf := forall₂_comp (forall₂_heldUnder_of_value_eq hvalue "oneOf") hRS h.oneOf
  anyOf := forall₂_comp (forall₂_heldUnder_of_value_eq hvalue "anyOf") hRS h.anyOf
  negated := rel_comp (rel_field?_of_value_eq hvalue "not") h.negated hRS
  items := rel_comp (rel_field?_of_value_eq hvalue "items") h.items hRS
  properties := by
    refine rel_comp (rel_field?_of_value_eq hvalue "properties") h.properties ?_
    rintro f g built hfg ⟨hobj, hall⟩
    refine ⟨hfg ▸ hobj, forall₂_comp (forall₂_fields_of_value_eq hfg) ?_ hall⟩
    rintro raw raw' field ⟨hname, hraw⟩ ⟨hname', hR⟩
    exact ⟨hname.symm.trans hname', hRS _ _ _ hraw hR⟩
  additional := by
    refine rel_comp (rel_field?_of_value_eq hvalue "additionalProperties") h.additional ?_
    intro f g a hfg ha
    rw [IsAdditional, hfg] at ha
    rw [IsAdditional]
    split at ha
    · exact ha
    · obtain ⟨t, rfl, ht⟩ := ha
      exact ⟨t, rfl, hRS f g t hfg ht⟩

/-- A raw schema unfolds alike wherever it stands. -/
theorem UnfoldsTo.copy {depth : Nat} : ∀ {f g : Fragment} {s : TypeSchema},
    UnfoldsTo root depth f s → f.value = g.value → UnfoldsTo root depth g s := by
  induction depth with
  | zero => exact fun h _ => h.elim
  | succ depth ih =>
    rintro f g s ⟨node, fields, hnode, hfields, hbuilt⟩ hvalue
    cases href : f.value.reference? with
    | none =>
      rw [Reference.resolve_of_not_reference href] at hnode
      cases hnode
      exact ⟨g, fields, Reference.resolve_of_not_reference (hvalue ▸ href), hvalue ▸ hfields,
        hbuilt.copy hvalue fun _ _ _ hfg ht => ih ht hfg⟩
    | some pointer =>
      rw [Reference.resolve_copy hvalue href] at hnode
      exact ⟨node, fields, hnode, hfields, hbuilt⟩

/-- A schema of a document resolves to what its value resolves to beside the document. -/
theorem resolve_ofSupplied {raw : Fragment} (hroot : root.WellFormed) (hraw : raw.value.WellFormed)
    {location : String} {s : TypeSchema} (h : resolve root raw location = .ok s) (l : String) :
    resolve root (.ofSupplied raw.value) l = .ok s :=
  (resolve_eq_ok_iff_unfolds hroot hraw).mpr ⟨_, (unfoldsTo_of_resolveBelow h).copy rfl⟩

end Copies

end TypeSchema

end ApiGraph
