import Mathlib
import ApiGraph.Proofs.Reference.Order
import ApiGraph.Proofs.Schema.Descriptor
import ApiGraph.Proofs.Schema.Unfolding

/-!
# Schemas up to the order of keys

Every keyword of a schema is looked up by its name, and every pointer is walked by names, so a schema
does not see the order in which a document writes its keys. What shows the order again is only what
is taken over as it stands: the properties, one after the other, and the data under `default`,
`example` and `enum`.

Two runs of the resolution over reordered documents open objects at other places and in another
order, and may fail with other faults. They are compared by what the raw schemas unfold to, which
knows no places: the one unfolding is carried over to the other object by object.
-/

namespace ApiGraph

open Outcome

/-! ### Descriptors -/

namespace Descriptor

open Shape

/-- A descriptor without the data that it holds. -/
def withoutData (d : Descriptor) : Descriptor :=
  { d with defaultValue := none, sample := none, allowed := [] }

/-- Two descriptors that are equal up to the order of keys in the data that they hold. -/
structure Reordered (d e : Descriptor) : Prop where
  rest : d.withoutData = e.withoutData
  defaultValue : Option.Rel Json.Reordered d.defaultValue e.defaultValue
  sample : Option.Rel Json.Reordered d.sample e.sample
  allowed : List.Forall₂ Json.Reordered d.allowed e.allowed

theorem rel_reordered_refl (v : Option Json) : Option.Rel Json.Reordered v v := by
  cases v with
  | none => exact .none
  | some v => exact .some (.refl v)

theorem Reordered.refl (d : Descriptor) : d.Reordered d where
  rest := rfl
  defaultValue := rel_reordered_refl d.defaultValue
  sample := rel_reordered_refl d.sample
  allowed := List.forall₂_same.mpr fun v _ => .refl v

theorem withoutData_overlay (key : String) (new old : Descriptor) :
    withoutData (overlay key new old) = overlay key new.withoutData old.withoutData := by
  simp [withoutData, overlay]

theorem Reordered.overlay {new new' d e : Descriptor} (hnew : new.Reordered new')
    (h : d.Reordered e) (key : String) :
    (overlay key new d).Reordered (overlay key new' e) where
  rest := by rw [withoutData_overlay, withoutData_overlay, hnew.rest, h.rest]
  defaultValue := by
    simp only [Descriptor.overlay]
    split
    · exact hnew.defaultValue
    · exact h.defaultValue
  sample := by
    simp only [Descriptor.overlay]
    split
    · exact hnew.sample
    · exact h.sample
  allowed := by
    simp only [Descriptor.overlay]
    split
    · exact hnew.allowed
    · exact h.allowed

/-- A reader that finds the same in a value whose keys stand in another order. -/
class Orderless {α : Type} (reader : Json → Except ShapeFault α) : Prop where
  eq_ok : ∀ {v w a}, Json.Reordered v w → reader v = .ok a → reader w = .ok a

instance orderless_string : Orderless string where
  eq_ok h hv := by cases h <;> simp_all [string]

instance orderless_boolean : Orderless boolean where
  eq_ok h hv := by cases h <;> simp_all [boolean]

instance orderless_real : Orderless real where
  eq_ok h hv := by cases h <;> simp_all [real]

instance orderless_count : Orderless count where
  eq_ok h hv := by cases h <;> simp_all [count]

instance orderless_bound : Orderless ExclusiveBound.read where
  eq_ok h hv := by cases h <;> simp_all [ExclusiveBound.read]

instance orderless_optional {α : Type} {reader : Json → Except ShapeFault α} [Orderless reader] :
    Orderless (optional reader) where
  eq_ok h hv := by
    rw [optional_eq_ok_iff] at hv ⊢
    rw [ne_eq, ← h.eq_null_iff]
    rcases hv with hnull | ⟨hnull, b, hb, ha⟩
    · exact Or.inl hnull
    · exact Or.inr ⟨hnull, b, Orderless.eq_ok h hb, ha⟩

instance orderless_strings : Orderless strings where
  eq_ok h hv := by
    cases h with
    | arr hall =>
      have hstep : ∀ v w name, Json.Reordered v w → string v = .ok name → string w = .ok name :=
        fun _ _ _ => Orderless.eq_ok
      exact mapM_eq_ok_iff.mpr (forall₂_comp hall hstep (mapM_eq_ok_iff.mp hv))
    | _ => cases hv

/-- A choice is made by the one key of an object, which has no other place to stand. -/
instance orderless_choice {α : Type} {choices : List (String × α)} : Orderless (choice choices) where
  eq_ok h hv := by
    cases h with
    | obj hfields =>
      rw [choice_obj_eq_ok_iff] at hv ⊢
      obtain ⟨name, rfl, hname⟩ := hv
      refine ⟨name, ?_, hname⟩
      cases hfields with
      | intro hperm hall =>
        cases List.singleton_perm.mp hperm
        obtain ⟨field, rest, hfield, hnil, rfl⟩ := List.forall₂_cons_left_iff.mp hall
        cases hnil
        cases hfield with
        | intro hnull =>
          cases hnull
          rfl
    | arr _ => cases hv
    | _ => exact hv

section Keywords

variable {v w : Json}

/-- What is made of related results of two readers is related, if the making keeps the relation. -/
theorem exists_return_of_rel {α : Type} {S : α → α → Prop} {reader : Json → Except ShapeFault α}
    {f : α → Descriptor} (hread : ∀ a, reader v = .ok a → ∃ b, reader w = .ok b ∧ S a b)
    (hf : ∀ a b, S a b → (f a).Reordered (f b)) {new : Descriptor}
    (h : (do return f (← reader v) : Except ShapeFault Descriptor) = .ok new) :
    ∃ new', (do return f (← reader w) : Except ShapeFault Descriptor) = .ok new' ∧
      new.Reordered new' := by
  obtain ⟨a, ha, hout⟩ := bind_eq_ok_iff.mp h
  cases hout
  obtain ⟨b, hb, hS⟩ := hread a ha
  exact ⟨f b, bind_eq_ok_iff.mpr ⟨b, hb, rfl⟩, hf a b hS⟩

theorem exists_return {α : Type} {reader : Json → Except ShapeFault α} [Orderless reader]
    (hvw : v.Reordered w) {f : α → Descriptor} {new : Descriptor} :
    (do return f (← reader v) : Except ShapeFault Descriptor) = .ok new →
    ∃ new', (do return f (← reader w) : Except ShapeFault Descriptor) = .ok new' ∧
      new.Reordered new' :=
  exists_return_of_rel (S := Eq) (fun a ha => ⟨a, Orderless.eq_ok hvw ha, rfl⟩)
    (by rintro a _ rfl; exact .refl _)

theorem exists_data (hvw : v.Reordered w) (a : Option Json) (h : optional pure v = .ok a) :
    ∃ b, optional pure w = .ok b ∧ Option.Rel Json.Reordered a b := by
  rcases optional_eq_ok_iff.mp h with ⟨hnull, rfl⟩ | ⟨hnull, _, hpure, rfl⟩
  · exact ⟨none, optional_eq_ok_iff.mpr (Or.inl ⟨hvw.eq_null_iff.mp hnull, rfl⟩), .none⟩
  · cases hpure
    refine ⟨some w, optional_eq_ok_iff.mpr (Or.inr ⟨?_, w, rfl, rfl⟩), .some hvw⟩
    exact fun hw => hnull (hvw.eq_null_iff.mpr hw)

theorem exists_sequence (hvw : v.Reordered w) (a : List Json) (h : sequence v = .ok a) :
    ∃ b, sequence w = .ok b ∧ List.Forall₂ Json.Reordered a b := by
  cases hvw with
  | arr hall =>
    cases h
    exact ⟨_, rfl, hall⟩
  | _ => cases h

/-- A keyword says the same of a reordered value, up to the order of keys in data. -/
theorem exists_readKeyword (hvw : v.Reordered w) (key : String) {new : Descriptor} :
    readKeyword {} key v = .ok new → ∃ new', readKeyword {} key w = .ok new' ∧
      new.Reordered new' := by
  unfold readKeyword
  split
  case h_5 =>
    exact exists_return_of_rel (exists_data hvw) fun a b hab => ⟨rfl, hab, .none, .nil⟩
  case h_6 =>
    exact exists_return_of_rel (exists_data hvw) fun a b hab => ⟨rfl, .none, hab, .nil⟩
  case h_11 =>
    exact exists_return_of_rel (exists_sequence hvw) fun a b hab => ⟨rfl, .none, .none, hab⟩
  case h_26 => exact fun h => ⟨new, h, .refl new⟩
  all_goals exact exists_return hvw

theorem exists_readField {field field' : String × Json} (hfield : Named Json.Reordered field field')
    {d e d' : Descriptor} (hde : d.Reordered e) (h : readField d field = .ok d') :
    ∃ e', readField e field' = .ok e' ∧ d'.Reordered e' := by
  cases hfield with
  | @intro key v w hvw =>
    obtain ⟨new, hnew, rfl⟩ := readKeyword_eq_ok_iff.mp h
    obtain ⟨new', hnew', hsame⟩ := exists_readKeyword hvw key hnew
    exact ⟨_, readKeyword_eq_ok_iff.mpr ⟨new', hnew', rfl⟩, hsame.overlay hde key⟩

/-- The descriptor of a reordered object is the same, up to the order of keys in data. -/
theorem exists_read_reordered {fields fields' : Fields} (hnodup : (fields.map Prod.fst).Nodup)
    (h : Shuffled Json.Reordered fields fields') {d : Descriptor} (hd : read fields = .ok d) :
    ∃ e, read fields' = .ok e ∧ d.Reordered e := by
  cases h with
  | @intro mid _ _ hperm hall =>
    have hmid : mid.foldlM readField {} = .ok d := (read_perm hperm hnodup).mp hd
    have hrun : ∀ {start start' : Descriptor}, start.Reordered start' →
        mid.foldlM readField start = .ok d →
        ∃ e, fields'.foldlM readField start' = .ok e ∧ d.Reordered e := by
      clear hmid hperm hnodup hd
      induction hall with
      | nil =>
        intro start start' hstart h
        cases h
        exact ⟨start', rfl, hstart⟩
      | cons hfield _ ih =>
        intro start start' hstart h
        rw [List.foldlM_cons, bind_eq_ok_iff] at h
        obtain ⟨next, hnext, hrest⟩ := h
        obtain ⟨next', hnext', hsame⟩ := exists_readField hfield hstart hnext
        obtain ⟨e, he, hde⟩ := ih hsame hrest
        refine ⟨e, ?_, hde⟩
        rw [List.foldlM_cons, bind_eq_ok_iff]
        exact ⟨next', hnext', he⟩
    exact hrun (.refl {}) hmid

end Keywords

end Descriptor

/-! ### Schemas -/

/-- What an object may hold beside its properties, the schemas being related. -/
inductive Additional.Rel {α β : Type} (R : α → β → Prop) : Additional α → Additional β → Prop
  | allowed (yes : Bool) : Rel R (.allowed yes) (.allowed yes)
  | schema {a : α} {b : β} : R a b → Rel R (.schema a) (.schema b)

namespace TypeSchema

/-- Two schemas that are equal up to the order of their properties and of the keys in data, at every
depth. -/
inductive Reordered : TypeSchema → TypeSchema → Prop
  | intro {s t : TypeSchema} (descriptor : s.descriptor.Reordered t.descriptor)
      (allOf : List.Forall₂ Reordered s.allOf t.allOf)
      (oneOf : List.Forall₂ Reordered s.oneOf t.oneOf)
      (anyOf : List.Forall₂ Reordered s.anyOf t.anyOf)
      (negated : Option.Rel Reordered s.negated t.negated)
      (items : Option.Rel Reordered s.items t.items)
      (properties : Option.Rel (Shuffled Reordered) s.properties t.properties)
      (additional : Option.Rel (Additional.Rel Reordered) s.additional t.additional) :
      Reordered s t

section Building

variable {node node' : Fragment}

theorem membersOf_reordered {f g : Fragment} (h : f.Reordered g) :
    List.Forall₂ Fragment.Reordered (membersOf f) (membersOf g) := by
  have hitems := h.items
  obtain ⟨place, v⟩ := f
  obtain ⟨place', w⟩ := g
  cases h.values with
  | arr _ => exact hitems
  | _ => exact .cons h .nil

theorem heldUnder_reordered (h : node.Reordered node') (keyword : String) :
    List.Forall₂ Fragment.Reordered (heldUnder node keyword) (heldUnder node' keyword) := by
  have hrel := h.field? keyword
  rw [heldUnder, heldUnder]
  generalize node.field? keyword = x at hrel
  generalize node'.field? keyword = y at hrel
  cases hrel with
  | none => exact .nil
  | some hfg => exact membersOf_reordered hfg

variable {R S : Fragment → TypeSchema → Prop}

theorem exists_areProperties_reordered
    (hRS : ∀ f g s, f.Reordered g → R f s → ∃ t, S g t ∧ s.Reordered t) {f g : Fragment}
    {properties : List (String × TypeSchema)} (hfg : f.Reordered g)
    (h : AreProperties R f properties) :
    ∃ properties', AreProperties S g properties' ∧ Shuffled Reordered properties properties' := by
  obtain ⟨hobj, hall⟩ := h
  obtain ⟨properties', hall', hsame⟩ := hfg.fields.exists_forall₂ hall hRS
  exact ⟨properties', ⟨hfg.values.isObj_eq ▸ hobj, hall'⟩, hsame⟩

theorem exists_isAdditional_reordered
    (hRS : ∀ f g s, f.Reordered g → R f s → ∃ t, S g t ∧ s.Reordered t) {f g : Fragment}
    {a : Additional TypeSchema} (hfg : f.Reordered g) (h : IsAdditional R f a) :
    ∃ b, IsAdditional S g b ∧ Additional.Rel Reordered a b := by
  have hschema : ∀ s, R f s → ∃ t, S g t ∧ s.Reordered t := fun s => hRS f g s hfg
  obtain ⟨place, v⟩ := f
  obtain ⟨place', w⟩ := g
  cases hfg.values with
  | bool yes =>
    cases h
    exact ⟨.allowed yes, rfl, .allowed yes⟩
  | _ =>
    obtain ⟨s, rfl, hs⟩ := h
    obtain ⟨t, ht, hst⟩ := hschema s hs
    exact ⟨.schema t, ⟨t, rfl, ht⟩, .schema hst⟩

/-- From a reordered object a reordered schema is built, if that is so of its parts. -/
theorem Built.exists_reordered
    (hRS : ∀ f g s, f.Reordered g → R f s → ∃ t, S g t ∧ s.Reordered t)
    (hnode : node.Reordered node') {fields : Fields} (hvalue : node.value = .obj fields)
    {s : TypeSchema} (h : Built R node fields s) :
    ∃ fields' t, node'.value = .obj fields' ∧ Built S node' fields' t ∧ s.Reordered t := by
  have hfields : ∃ fields', node'.value = .obj fields' ∧ Shuffled Json.Reordered fields fields' := by
    have hvalues := hnode.values
    rw [hvalue] at hvalues
    generalize node'.value = w at hvalues
    cases hvalues with
    | obj hshuffled => exact ⟨_, rfl, hshuffled⟩
  obtain ⟨fields', hvalue', hshuffled⟩ := hfields
  have hnodup : (fields.map Prod.fst).Nodup := by
    have hwf := hnode.left
    rw [hvalue] at hwf
    exact hwf.1
  obtain ⟨descriptor, hread, hdescriptor⟩ := Descriptor.exists_read_reordered hnodup hshuffled h.descriptor
  obtain ⟨allOf, hallOf, hallOf'⟩ :=
    exists_forall₂_of_forall₂ (heldUnder_reordered hnode "allOf") h.allOf hRS
  obtain ⟨oneOf, honeOf, honeOf'⟩ :=
    exists_forall₂_of_forall₂ (heldUnder_reordered hnode "oneOf") h.oneOf hRS
  obtain ⟨anyOf, hanyOf, hanyOf'⟩ :=
    exists_forall₂_of_forall₂ (heldUnder_reordered hnode "anyOf") h.anyOf hRS
  obtain ⟨negated, hnegated, hnegated'⟩ := exists_rel_of_rel (hnode.field? "not") h.negated hRS
  obtain ⟨items, hitems, hitems'⟩ := exists_rel_of_rel (hnode.field? "items") h.items hRS
  obtain ⟨properties, hproperties, hproperties'⟩ := exists_rel_of_rel (hnode.field? "properties")
    h.properties fun _ _ _ hfg => exists_areProperties_reordered hRS hfg
  obtain ⟨additional, hadditional, hadditional'⟩ := exists_rel_of_rel
    (hnode.field? "additionalProperties") h.additional fun _ _ _ hfg => exists_isAdditional_reordered hRS hfg
  exact ⟨fields', ⟨descriptor, allOf, oneOf, anyOf, negated, items, properties, additional⟩,
    hvalue', ⟨hread, hallOf, honeOf, hanyOf, hnegated, hitems, hproperties, hadditional⟩,
    .intro hdescriptor hallOf' honeOf' hanyOf' hnegated' hitems' hproperties' hadditional'⟩

end Building

/-- An unfolding is carried over to reordered documents, object by object. -/
theorem exists_unfoldsTo_reordered {root root' : Json}
    (hroot : Fragment.Reordered (.ofDocument root) (.ofDocument root')) {depth : Nat} :
    ∀ {f g : Fragment} {s : TypeSchema}, f.Reordered g → UnfoldsTo root depth f s →
      ∃ t, UnfoldsTo root' depth g t ∧ s.Reordered t := by
  induction depth with
  | zero => exact fun _ h => h.elim
  | succ depth ih =>
    rintro f g s hfg ⟨node, fields, hnode, hvalue, hbuilt⟩
    obtain ⟨node', hnode', hsame⟩ := Reference.exists_resolve_reordered hroot hfg hnode
    obtain ⟨fields', t, hvalue', hbuilt', hst⟩ :=
      hbuilt.exists_reordered (fun _ _ _ => ih) hsame hvalue
    exact ⟨t, ⟨node', fields', hnode', hvalue', hbuilt'⟩, hst⟩

/-- Two raw schemas, in documents of their own, that are equal up to the order of keys, as their
documents are. Each stands at its place, in its document or in a value beside it. -/
structure AreReordered (root root' : Json) (raw raw' : Fragment) : Prop where
  documents : Fragment.Reordered (.ofDocument root) (.ofDocument root')
  schemas : raw.Reordered raw'
  placed : ∃ supplied, raw.Placed root supplied
  placed' : ∃ supplied, raw'.Placed root' supplied

theorem AreReordered.symm {root root' : Json} {raw raw' : Fragment}
    (h : AreReordered root root' raw raw') : AreReordered root' root raw' raw :=
  ⟨h.documents.symm, h.schemas.symm, h.placed', h.placed⟩

theorem AreReordered.exists_resolve {root root' : Json} {raw raw' : Fragment}
    (h : AreReordered root root' raw raw') {location : String} {s : TypeSchema}
    (hs : resolve root raw location = .ok s) (location' : String) :
    ∃ t, resolve root' raw' location' = .ok t ∧ s.Reordered t := by
  obtain ⟨_, hraw⟩ := h.placed
  obtain ⟨_, hraw'⟩ := h.placed'
  obtain ⟨depth, hunfolds⟩ := (resolve_eq_ok_iff_unfolds_of_placed h.documents.left hraw).mp hs
  obtain ⟨t, ht, hst⟩ := exists_unfoldsTo_reordered h.documents h.schemas hunfolds
  exact ⟨t, (resolve_eq_ok_iff_unfolds_of_placed h.documents.right hraw').mpr ⟨depth, ht⟩, hst⟩

/-- **The order of keys has no effect on what a schema resolves to.**  Of two raw schemas that are
equal up to the order of keys, in documents that are equal up to the order of keys, one resolves if
and only if the other does, and then to schemas that are equal up to the order of their properties
and of the keys in data. -/
theorem resolve_reordered {root root' : Json} {raw raw' : Fragment}
    (h : AreReordered root root' raw raw') (location location' : String) :
    ((∃ s, resolve root raw location = .ok s) ↔ ∃ t, resolve root' raw' location' = .ok t) ∧
    ∀ s t, resolve root raw location = .ok s → resolve root' raw' location' = .ok t →
      s.Reordered t := by
  refine ⟨⟨?_, ?_⟩, ?_⟩
  · rintro ⟨s, hs⟩
    obtain ⟨t, ht, _⟩ := h.exists_resolve hs location'
    exact ⟨t, ht⟩
  · rintro ⟨t, ht⟩
    obtain ⟨s, hs, _⟩ := h.symm.exists_resolve ht location
    exact ⟨s, hs⟩
  · intro s t hs ht
    obtain ⟨u, hu, hsu⟩ := h.exists_resolve hs location'
    cases hu.symm.trans ht
    exact hsu

/-- Keys that have moved in a document, in data and among properties, one of which is a reference. -/
theorem resolve_reordered_of_moved_keys :
    let root : Json := .obj [("names", .obj
      [("format", .str "uuid"), ("default", .obj [("a", .null), ("b", .null)])])]
    let root' : Json := .obj [("names", .obj
      [("default", .obj [("b", .null), ("a", .null)]), ("format", .str "uuid")])]
    let raw : Fragment := .ofSupplied (.obj
      [("properties", .obj [("x", .obj [("$ref", .str "#/names")]), ("y", .obj [])])])
    let raw' : Fragment := .ofSupplied (.obj
      [("properties", .obj [("y", .obj []), ("x", .obj [("$ref", .str "#/names")])])])
    AreReordered root root' raw raw' ∧ ∃ s t, resolve root raw "#" = .ok s ∧
      resolve root' raw' "#" = .ok t ∧ s.Reordered t := by
  intro root root' raw raw'
  have hroot : root.WellFormed := by simp [root, Json.WellFormed, Json.FieldsWellFormed]
  have hroot' : root'.WellFormed := by simp [root', Json.WellFormed, Json.FieldsWellFormed]
  have hraw : raw.value.WellFormed := by
    simp [raw, Fragment.ofSupplied, Json.WellFormed, Json.FieldsWellFormed]
  have hraw' : raw'.value.WellFormed := by
    simp [raw', Fragment.ofSupplied, Json.WellFormed, Json.FieldsWellFormed]
  have hdata : Json.Reordered (.obj [("a", .null), ("b", .null)])
      (.obj [("b", .null), ("a", .null)]) :=
    .obj (.intro (.swap _ _ _) (.cons (.intro .null) (.cons (.intro .null) .nil)))
  have hdocuments : root.Reordered root' :=
    .obj (.of_forall₂ (.cons (.intro (.obj (.intro (.swap _ _ _)
      (.cons (.intro hdata) (.cons (.intro (.str _)) .nil))))) .nil))
  have hvalues : raw.value.Reordered raw'.value :=
    .obj (.of_forall₂ (.cons (.intro (.obj (.intro (.swap _ _ _)
      (.cons (.intro (.refl _)) (.cons (.intro (.refl _)) .nil))))) .nil))
  have h : AreReordered root root' raw raw' :=
    ⟨.ofDocument hroot hroot' hdocuments, ⟨hraw, hraw', hvalues⟩,
      ⟨raw.value, Fragment.placed_ofSupplied hraw⟩, ⟨raw'.value, Fragment.placed_ofSupplied hraw'⟩⟩
  have hresolves : ∃ s, resolve root raw "#" = .ok s := by
    subst root raw
    refine ⟨?s, ?h⟩
    case h =>
      cbv
      rfl
  obtain ⟨hiff, hsame⟩ := resolve_reordered h "#" "#"
  obtain ⟨t, ht⟩ := hiff.mp hresolves
  obtain ⟨s, hs⟩ := hresolves
  exact ⟨h, s, t, hs, ht, hsame s t hs ht⟩

end TypeSchema

end ApiGraph
