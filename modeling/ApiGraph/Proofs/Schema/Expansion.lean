import Mathlib
import ApiGraph.Proofs.Schema.Cycle

/-!
# Writing references out

A raw schema can be written out in full: at every position that holds a schema, the
fragment that the position stands for takes the place of what stood there. Around a cycle
this never comes to an end, but a schema that resolves has none, and then what has been
written out is a finite value without references that resolves to the same schema in any
document.

So resolution sees a document only through what its references stand for. The converse
direction of the argument runs over two documents at once: in the first the objects that
may still be opened shrink from position to position, while in the second each of them
stands at a place of its own and nothing is ever opened twice.
-/

namespace ApiGraph

namespace Descriptor

/-- A keyword that holds schemas is no part of the descriptor, whatever its value. -/
def Ignores (key : String) : Prop := ∀ d v, readKeyword d key v = .ok d

theorem read_insert {key : String} (hkey : Ignores key) (v : Json) (fields : Fields) :
    read (fields.insert key v) = read fields := by
  let step : Descriptor → String × Json → Except ShapeFault Descriptor :=
    fun d field => readKeyword d field.1 field.2
  have hfold : ∀ d, (fields.insert key v).foldlM step d = fields.foldlM step d := by
    induction fields with
    | nil =>
      intro d
      rw [Fields.insert, List.foldlM_cons]
      show readKeyword d key v >>= _ = _
      rw [hkey]
      rfl
    | cons field rest ih =>
      intro d
      obtain ⟨k, w⟩ := field
      by_cases hk : k = key
      · rw [Fields.insert, if_pos hk, List.foldlM_cons, List.foldlM_cons]
        show readKeyword d k v >>= _ = readKeyword d k w >>= _
        rw [hk, hkey, hkey]
      · rw [Fields.insert, if_neg hk, List.foldlM_cons, List.foldlM_cons]
        congr 1
        funext d'
        exact ih d'
  exact hfold {}

end Descriptor

namespace TypeSchema

open Outcome

/-! ### The expansion of a raw schema -/

/-- The keywords that hold schemas. -/
def keywords : List String :=
  ["allOf", "oneOf", "anyOf", "not", "items", "properties", "additionalProperties"]

section Expanding

variable (expand : Fragment → Option Json)

def expandMembers (f : Fragment) : Option Json :=
  match f.value with
  | .arr _ => (f.items.mapM expand).map .arr
  | _ => expand f

def expandProperties (f : Fragment) : Option Json :=
  match f.value with
  | .obj _ =>
    let written : Option Fields :=
      f.fields.mapM fun property => (expand property.2).map fun v => (property.1, v)
    written.map .obj
  | v => some v

def expandAdditional (f : Fragment) : Option Json :=
  match f.value with
  | .bool yes => some (.bool yes)
  | _ => expand f

/-- The value of a keyword, every schema in it written out by `expand`. -/
def expandKeyword (keyword : String) (f : Fragment) : Option Json :=
  match keyword with
  | "not" | "items" => expand f
  | "properties" => expandProperties expand f
  | "additionalProperties" => expandAdditional expand f
  | _ => expandMembers expand f

/-- Writes out one keyword of an object, if it is there. -/
def writeKeyword (node : Fragment) (written : Fields) (keyword : String) : Option Fields :=
  match node.field? keyword with
  | none => some written
  | some f => (expandKeyword expand keyword f).map (written.insert keyword)

/-- The fields of an object, every keyword that holds schemas written out in its place. -/
def expandFields (node : Fragment) (fields : Fields) : Option Fields :=
  keywords.foldlM (writeKeyword expand node) fields

end Expanding

/-- What a raw schema stands for, with all positions written out down to a depth. -/
def expandTo (root : Json) : Nat → Fragment → Option Json
  | 0, _ => none
  | depth + 1, raw =>
    match Reference.resolve root raw with
    | .error _ => none
    | .ok node =>
      match node.value with
      | .obj fields => (expandFields (expandTo root depth) node fields).map .obj
      | v => some v

/-- `tree` is the raw schema written out in full. -/
def Expands (root : Json) (raw : Fragment) (tree : Json) : Prop :=
  ∃ depth, expandTo root depth raw = some tree

/-- No reference stands at any position of a value. -/
inductive ReferenceFree : Fragment → Prop
  | intro {f : Fragment} : f.value.reference? = none →
      (∀ g ∈ positions f, ReferenceFree g) → ReferenceFree f

/-! ### Deeper expansions agree -/

section Mono

variable {expand deeper : Fragment → Option Json}

theorem expandMembers_mono (h : ∀ f v, expand f = some v → deeper f = some v) {f : Fragment}
    {v : Json} (hv : expandMembers expand f = some v) : expandMembers deeper f = some v := by
  obtain ⟨place, value⟩ := f
  cases value with
  | arr items =>
    obtain ⟨vs, hvs, rfl⟩ := Option.map_eq_some_iff.mp hv
    have hall := (mapM_eq_some_iff.mp hvs).imp fun g w => h g w
    exact Option.map_eq_some_iff.mpr ⟨vs, mapM_eq_some_iff.mpr hall, rfl⟩
  | _ => exact h _ v hv

theorem expandProperties_mono (h : ∀ f v, expand f = some v → deeper f = some v) {f : Fragment}
    {v : Json} (hv : expandProperties expand f = some v) : expandProperties deeper f = some v := by
  obtain ⟨place, value⟩ := f
  cases value with
  | obj entries =>
    obtain ⟨out, hout, rfl⟩ := Option.map_eq_some_iff.mp hv
    have hall := (mapM_eq_some_iff.mp hout).imp fun property field hfield => by
      obtain ⟨w, hw, hpair⟩ := Option.map_eq_some_iff.mp hfield
      exact Option.map_eq_some_iff.mpr ⟨w, h property.2 w hw, hpair⟩
    exact Option.map_eq_some_iff.mpr ⟨out, mapM_eq_some_iff.mpr hall, rfl⟩
  | _ => exact hv

theorem expandAdditional_mono (h : ∀ f v, expand f = some v → deeper f = some v) {f : Fragment}
    {v : Json} (hv : expandAdditional expand f = some v) : expandAdditional deeper f = some v := by
  obtain ⟨place, value⟩ := f
  cases value with
  | bool yes => exact hv
  | _ => exact h _ v hv

theorem expandKeyword_mono (h : ∀ f v, expand f = some v → deeper f = some v) {keyword : String}
    {f : Fragment} {v : Json} (hv : expandKeyword expand keyword f = some v) :
    expandKeyword deeper keyword f = some v := by
  simp only [expandKeyword] at hv ⊢
  split at hv
  · exact h f v hv
  · exact h f v hv
  · exact expandProperties_mono h hv
  · exact expandAdditional_mono h hv
  · exact expandMembers_mono h hv

theorem foldlM_writeKeyword_mono (h : ∀ f v, expand f = some v → deeper f = some v)
    {node : Fragment} {keys : List String} : ∀ {start out : Fields},
      keys.foldlM (writeKeyword expand node) start = some out →
      keys.foldlM (writeKeyword deeper node) start = some out := by
  induction keys with
  | nil => exact fun hout => hout
  | cons key rest ih =>
    intro start out hout
    rw [List.foldlM_cons] at hout ⊢
    obtain ⟨next, hnext, hrest⟩ := Option.bind_eq_some_iff.mp hout
    refine Option.bind_eq_some_iff.mpr ⟨next, ?_, ih hrest⟩
    rw [writeKeyword] at hnext ⊢
    split
    · next hnone =>
      rw [hnone] at hnext
      exact hnext
    · next f hf =>
      rw [hf] at hnext
      obtain ⟨v, hv, heq⟩ := Option.map_eq_some_iff.mp hnext
      exact Option.map_eq_some_iff.mpr ⟨v, expandKeyword_mono h hv, heq⟩

end Mono

theorem expandTo_mono {root : Json} {m : Nat} : ∀ {n : Nat}, m ≤ n → ∀ f v,
    expandTo root m f = some v → expandTo root n f = some v := by
  induction m with
  | zero =>
    intro n _ f v h
    cases h
  | succ m ih =>
    intro n hmn f v h
    obtain ⟨n, rfl⟩ := Nat.exists_eq_add_of_le' (Nat.lt_of_lt_of_le (Nat.succ_pos m) hmn)
    rw [expandTo] at h ⊢
    cases hnode : Reference.resolve root f with
    | error fault =>
      rw [hnode] at h
      cases h
    | ok node =>
      rw [hnode] at h
      obtain ⟨place, value⟩ := node
      cases value with
      | obj fields =>
        obtain ⟨out, hout, heq⟩ := Option.map_eq_some_iff.mp h
        exact Option.map_eq_some_iff.mpr
          ⟨out, foldlM_writeKeyword_mono (ih (Nat.le_of_succ_le_succ hmn)) hout, heq⟩
      | _ => exact h

/-- A raw schema has one expansion only. -/
theorem Expands.unique {root : Json} {raw : Fragment} {tree other : Json}
    (h : Expands root raw tree) (h' : Expands root raw other) : tree = other := by
  obtain ⟨m, hm⟩ := h
  obtain ⟨n, hn⟩ := h'
  have hm' := expandTo_mono (Nat.le_max_left m n) raw tree hm
  rw [expandTo_mono (Nat.le_max_right m n) raw other hn] at hm'
  exact (Option.some.inj hm').symm

/-! ### What the expanded object holds -/

/-- `out` differs from `start` in that some keywords of `node` have been written out. -/
structure Written (expand : Fragment → Option Json) (node : Fragment) (keys : List String)
    (start out : Fields) : Prop where
  descriptor : Descriptor.read out = Descriptor.read start
  others : ∀ key ∉ keys, Fields.get? key out = Fields.get? key start
  absent : ∀ key, node.field? key = none → Fields.get? key out = Fields.get? key start
  present : ∀ key ∈ keys, ∀ f, node.field? key = some f →
    ∃ v, expandKeyword expand key f = some v ∧ Fields.get? key out = some v

section Written

variable {expand : Fragment → Option Json} {node : Fragment}

theorem Written.refl (fields : Fields) : Written expand node [] fields fields where
  descriptor := rfl
  others := fun _ _ => rfl
  absent := fun _ _ => rfl
  present := by
    intro key hkey
    cases hkey

/-- One keyword is written out before the others. -/
theorem Written.cons {key : String} {keys : List String} {start next out : Fields}
    (hignores : Descriptor.Ignores key) (hstep : writeKeyword expand node start key = some next)
    (h : Written expand node keys next out) : Written expand node (key :: keys) start out := by
  rw [writeKeyword] at hstep
  cases hf : node.field? key with
  | none =>
    rw [hf] at hstep
    cases hstep
    refine ⟨h.descriptor, fun k hk => h.others k fun hin => hk (List.mem_cons_of_mem _ hin),
      h.absent, ?_⟩
    intro k hk f hkf
    rcases List.mem_cons.mp hk with rfl | hk
    · rw [hf] at hkf
      cases hkf
    · exact h.present k hk f hkf
  | some f =>
    rw [hf] at hstep
    obtain ⟨v, hv, rfl⟩ := Option.map_eq_some_iff.mp hstep
    refine ⟨h.descriptor.trans (Descriptor.read_insert hignores v start), ?_, ?_, ?_⟩
    · intro k hk
      rw [List.mem_cons, not_or] at hk
      rw [h.others k hk.2, Fields.get?_insert_of_ne (Ne.symm hk.1)]
    · intro k hnone
      have hne : key ≠ k := by
        rintro rfl
        rw [hf] at hnone
        cases hnone
      rw [h.absent k hnone, Fields.get?_insert_of_ne hne]
    · intro k hk g hg
      by_cases hin : k ∈ keys
      · exact h.present k hin g hg
      · rcases List.mem_cons.mp hk with rfl | hk
        · rw [hf] at hg
          cases hg
          exact ⟨v, hv, by rw [h.others k hin, Fields.get?_insert_self]⟩
        · exact absurd hk hin

theorem exists_written {keys : List String} (hignores : ∀ key ∈ keys, Descriptor.Ignores key)
    (hexpand : ∀ key ∈ keys, ∀ f, node.field? key = some f →
      ∃ v, expandKeyword expand key f = some v) : ∀ start : Fields,
      ∃ out, keys.foldlM (writeKeyword expand node) start = some out ∧
        Written expand node keys start out := by
  induction keys with
  | nil => exact fun start => ⟨start, rfl, .refl start⟩
  | cons key rest ih =>
    intro start
    have hstep : ∃ next, writeKeyword expand node start key = some next := by
      rw [writeKeyword]
      cases hf : node.field? key with
      | none => exact ⟨start, rfl⟩
      | some f =>
        obtain ⟨v, hv⟩ := hexpand key List.mem_cons_self f hf
        exact ⟨start.insert key v, Option.map_eq_some_iff.mpr ⟨v, hv, rfl⟩⟩
    obtain ⟨next, hnext⟩ := hstep
    obtain ⟨out, hout, hwritten⟩ := ih (fun k hk => hignores k (List.mem_cons_of_mem _ hk))
      (fun k hk => hexpand k (List.mem_cons_of_mem _ hk)) next
    refine ⟨out, ?_, .cons (hignores key List.mem_cons_self) hnext hwritten⟩
    rw [List.foldlM_cons]
    exact Option.bind_eq_some_iff.mpr ⟨next, hnext, hout⟩

theorem ignores_of_mem_keywords {key : String} (h : key ∈ keywords) : Descriptor.Ignores key := by
  simp only [keywords, List.mem_cons, List.not_mem_nil, or_false] at h
  rcases h with rfl | rfl | rfl | rfl | rfl | rfl | rfl <;> exact fun _ _ => rfl

/-- A keyword holds in the new object what was written out for it, at a place of its own. -/
theorem Written.rel_field? {fields out : Fields} (h : Written expand node keywords fields out)
    (hvalue : node.value = .obj fields) (place : Place) {key : String} (hkey : key ∈ keywords) :
    Option.Rel (fun f g => ∃ v, expandKeyword expand key f = some v ∧
      g = ⟨place.child (.key key), v⟩) (node.field? key)
      (Fragment.field? ⟨place, .obj out⟩ key) := by
  show Option.Rel _ _ ((Fields.get? key out).map fun v => (⟨place.child (.key key), v⟩ : Fragment))
  cases hf : node.field? key with
  | none =>
    have hget : Fields.get? key fields = none := by
      rw [Fragment.field?, hvalue] at hf
      exact Option.map_eq_none_iff.mp hf
    rw [h.absent key hf, hget]
    exact .none
  | some f =>
    obtain ⟨v, hv, hget⟩ := h.present key hkey f hf
    rw [hget]
    exact .some ⟨v, hv, rfl⟩

end Written

/-! ### An expanded object is built from its expanded parts -/

section Parts

variable {expand : Fragment → Option Json} {P : Json → TypeSchema → Prop}

/-- What is written out for a fragment stands in relation `P` to the schema of the fragment. -/
def Through (expand : Fragment → Option Json) (P : Json → TypeSchema → Prop) (f : Fragment)
    (s : TypeSchema) : Prop :=
  ∃ v, expand f = some v ∧ P v s

theorem membersOf_arr_values (place : Place) (vs : List Json) :
    (membersOf ⟨place, .arr vs⟩).map Fragment.value = vs :=
  Fragment.map_value_items ⟨place, .arr vs⟩

theorem membersOf_of_isObj {f : Fragment} (h : f.value.isObj = true) : membersOf f = [f] := by
  obtain ⟨place, value⟩ := f
  cases value with
  | obj fields => rfl
  | _ => cases h

theorem expandMembers_spec (hobj : ∀ v t, P v t → v.isObj = true) {f : Fragment}
    {ts : List TypeSchema} (h : List.Forall₂ (Through expand P) (membersOf f) ts) :
    ∃ v, expandMembers expand f = some v ∧
      ∀ place, List.Forall₂ (fun g t => P g.value t) (membersOf ⟨place, v⟩) ts := by
  have hlone : ∀ t, Through expand P f t → ∃ v, expand f = some v ∧
      ∀ place, List.Forall₂ (fun g t => P g.value t) (membersOf ⟨place, v⟩) [t] := by
    rintro t ⟨v, hv, hP⟩
    refine ⟨v, hv, fun place => ?_⟩
    rw [membersOf_of_isObj (hobj v t hP)]
    exact .cons hP .nil
  obtain ⟨fplace, value⟩ := f
  cases value with
  | arr items =>
    obtain ⟨vs, hvs, hPs⟩ := exists_of_forall₂_exists h
    refine ⟨.arr vs, Option.map_eq_some_iff.mpr ⟨vs, mapM_eq_some_iff.mpr hvs, rfl⟩, ?_⟩
    intro place
    rw [← membersOf_arr_values place vs, List.forall₂_map_left_iff] at hPs
    exact hPs
  | _ =>
    obtain ⟨t, rest, hthrough, hnil, rfl⟩ := List.forall₂_cons_left_iff.mp h
    cases hnil
    exact hlone t hthrough

theorem expandProperties_spec {f : Fragment} {properties : List (String × TypeSchema)}
    (h : AreProperties (Through expand P) f properties) :
    ∃ v, expandProperties expand f = some v ∧
      ∀ place, AreProperties (fun g t => P g.value t) ⟨place, v⟩ properties := by
  obtain ⟨hvalue, hall⟩ := h
  obtain ⟨fplace, value⟩ := f
  cases value with
  | obj entries =>
    have hsplit : List.Forall₂ (fun raw built => ∃ field : String × Json,
        (expand raw.2).map (fun v => (raw.1, v)) = some field ∧
          field.1 = built.1 ∧ P field.2 built.2)
        (Fragment.fields ⟨fplace, .obj entries⟩) properties := by
      refine hall.imp fun raw built hraw => ?_
      obtain ⟨hname, v, hv, hP⟩ := hraw
      exact ⟨(raw.1, v), Option.map_eq_some_iff.mpr ⟨v, hv, rfl⟩, hname, hP⟩
    obtain ⟨out, hout, hPs⟩ := exists_of_forall₂_exists hsplit
    refine ⟨.obj out, Option.map_eq_some_iff.mpr ⟨out, mapM_eq_some_iff.mpr hout, rfl⟩, ?_⟩
    intro place
    refine ⟨rfl, ?_⟩
    show List.Forall₂ _ (out.map fun field =>
      (field.1, (⟨place.child (.key field.1), field.2⟩ : Fragment))) properties
    rw [List.forall₂_map_left_iff]
    exact hPs
  | _ => cases hvalue

theorem expandAdditional_spec (hobj : ∀ v t, P v t → v.isObj = true) {f : Fragment}
    {a : Additional TypeSchema} (h : IsAdditional (Through expand P) f a) :
    ∃ v, expandAdditional expand f = some v ∧
      ∀ place, IsAdditional (fun g t => P g.value t) ⟨place, v⟩ a := by
  obtain ⟨fplace, value⟩ := f
  cases value with
  | bool yes => exact ⟨.bool yes, rfl, fun _ => h⟩
  | _ =>
    obtain ⟨t, rfl, v, hv, hP⟩ := h
    refine ⟨v, hv, fun place => ?_⟩
    have hvobj := hobj v t hP
    cases v with
    | obj entries => exact ⟨t, rfl, hP⟩
    | _ => cases hvobj

theorem expandKeyword_of_composition {keyword : String}
    (h : keyword ∈ ["allOf", "oneOf", "anyOf"]) :
    expandKeyword expand keyword = expandMembers expand := by
  simp only [List.mem_cons, List.not_mem_nil, or_false] at h
  rcases h with rfl | rfl | rfl <;> rfl

section Built

variable {node : Fragment} {fields : Fields} {s : TypeSchema}

/-- Every keyword of a built object can be written out. -/
theorem Built.exists_expandKeyword (hobj : ∀ v t, P v t → v.isObj = true)
    (h : Built (Through expand P) node fields s) {keyword : String} (hkey : keyword ∈ keywords)
    {f : Fragment} (hf : node.field? keyword = some f) :
    ∃ v, expandKeyword expand keyword f = some v := by
  have hmembers : ∀ ts, List.Forall₂ (Through expand P) (heldUnder node keyword) ts →
      ∃ v, expandMembers expand f = some v := by
    intro ts hts
    rw [heldUnder, hf] at hts
    obtain ⟨v, hv, _⟩ := expandMembers_spec hobj hts
    exact ⟨v, hv⟩
  have hmember : ∀ t, Option.Rel (Through expand P) (node.field? keyword) t →
      ∃ v, expand f = some v := by
    intro t ht
    rw [hf] at ht
    obtain ⟨_, _, v, hv, _⟩ := exists_of_rel_some ht
    exact ⟨v, hv⟩
  simp only [keywords, List.mem_cons, List.not_mem_nil, or_false] at hkey
  rcases hkey with rfl | rfl | rfl | rfl | rfl | rfl | rfl
  · exact hmembers _ h.allOf
  · exact hmembers _ h.oneOf
  · exact hmembers _ h.anyOf
  · exact hmember _ h.negated
  · exact hmember _ h.items
  · obtain ⟨_, _, hprops⟩ := exists_of_rel_some (hf ▸ h.properties)
    obtain ⟨v, hv, _⟩ := expandProperties_spec hprops
    exact ⟨v, hv⟩
  · obtain ⟨_, _, hadd⟩ := exists_of_rel_some (hf ▸ h.additional)
    obtain ⟨v, hv, _⟩ := expandAdditional_spec hobj hadd
    exact ⟨v, hv⟩

theorem Written.forall₂_heldUnder {out : Fields} (hobj : ∀ v t, P v t → v.isObj = true)
    (hwritten : Written expand node keywords fields out) (hvalue : node.value = .obj fields)
    (place : Place) {keyword : String} (hkey : keyword ∈ ["allOf", "oneOf", "anyOf"])
    {ts : List TypeSchema} (h : List.Forall₂ (Through expand P) (heldUnder node keyword) ts) :
    List.Forall₂ (fun g t => P g.value t) (heldUnder ⟨place, .obj out⟩ keyword) ts := by
  have hmem : keyword ∈ keywords := List.mem_append_left _ hkey
  have hrel := hwritten.rel_field? hvalue place hmem
  rw [heldUnder] at h ⊢
  cases hf : node.field? keyword with
  | none =>
    rw [hf] at h hrel
    cases hg : Fragment.field? ⟨place, .obj out⟩ keyword with
    | none => cases h with | nil => exact .nil
    | some g =>
      rw [hg] at hrel
      cases hrel
  | some f =>
    rw [hf] at h hrel
    obtain ⟨g, hg, v, hv, rfl⟩ := exists_of_rel_some hrel
    rw [hg]
    obtain ⟨w, hw, hPs⟩ := expandMembers_spec hobj h
    rw [expandKeyword_of_composition hkey, hw] at hv
    cases hv
    exact hPs _

/-- The object that is written out is built from what is written out for the positions. -/
theorem Built.expanded (hobj : ∀ v t, P v t → v.isObj = true) (hvalue : node.value = .obj fields)
    (h : Built (Through expand P) node fields s) :
    ∃ out, expandFields expand node fields = some out ∧
      Fields.get? "$ref" out = Fields.get? "$ref" fields ∧
      ∀ place, Built (fun g t => P g.value t) ⟨place, .obj out⟩ out s := by
  obtain ⟨out, hout, hwritten⟩ := exists_written (fun _ => ignores_of_mem_keywords)
    (fun _ hkey _ => h.exists_expandKeyword hobj hkey) fields
  refine ⟨out, hout, hwritten.others "$ref" (by decide), fun place => ?_⟩
  have hrel : ∀ key ∈ keywords, _ := fun key hkey => hwritten.rel_field? hvalue place hkey
  have hmember : ∀ keyword ∈ ["not", "items"], ∀ t,
      Option.Rel (Through expand P) (node.field? keyword) t →
      Option.Rel (fun g t => P g.value t) (Fragment.field? ⟨place, .obj out⟩ keyword) t := by
    intro keyword hkey t ht
    have hmem : keyword ∈ keywords := by
      simp only [List.mem_cons, List.not_mem_nil, or_false] at hkey
      rcases hkey with rfl | rfl <;> decide
    refine rel_comp (hrel keyword hmem) ht ?_
    rintro f g t ⟨v, hv, rfl⟩ ⟨w, hw, hP⟩
    have hexpand : expandKeyword expand keyword f = expand f := by
      simp only [List.mem_cons, List.not_mem_nil, or_false] at hkey
      rcases hkey with rfl | rfl <;> rfl
    rw [hexpand, hw] at hv
    cases hv
    exact hP
  exact {
    descriptor := hwritten.descriptor.trans h.descriptor
    allOf := hwritten.forall₂_heldUnder hobj hvalue place (by decide) h.allOf
    oneOf := hwritten.forall₂_heldUnder hobj hvalue place (by decide) h.oneOf
    anyOf := hwritten.forall₂_heldUnder hobj hvalue place (by decide) h.anyOf
    negated := hmember "not" (by decide) _ h.negated
    items := hmember "items" (by decide) _ h.items
    properties := by
      refine rel_comp (hrel "properties" (by decide)) h.properties ?_
      rintro f g properties ⟨v, hv, rfl⟩ hprops
      obtain ⟨w, hw, hPs⟩ := expandProperties_spec hprops
      have heq : some w = some v := hw.symm.trans hv
      cases heq
      exact hPs _
    additional := by
      refine rel_comp (hrel "additionalProperties" (by decide)) h.additional ?_
      rintro f g a ⟨v, hv, rfl⟩ hadd
      obtain ⟨w, hw, hPs⟩ := expandAdditional_spec hobj hadd
      have heq : some w = some v := hw.symm.trans hv
      cases heq
      exact hPs _ }

end Built

end Parts

/-! ### What is written out resolves anywhere -/

/-- A value without references that resolves to `s` in any document and at any place, as long as
its own objects are unopened. -/
structure Stands (tree : Json) (s : TypeSchema) : Prop where
  isObj : tree.isObj = true
  referenceFree : ∀ place, ReferenceFree ⟨place, tree⟩
  resolves : ∀ root unopened place l, Fragment.objectPlaces place tree ⊆ unopened →
    resolveBelow root unopened (⟨place, tree⟩, l) = .ok s

theorem stands_of_built {out : Fields} {s : TypeSchema} (href : (Json.obj out).reference? = none)
    (h : ∀ place, Built (fun g t => Stands g.value t) ⟨place, .obj out⟩ out s) :
    Stands (.obj out) s where
  isObj := rfl
  referenceFree := by
    intro place
    refine .intro href fun g hg => ?_
    obtain ⟨t, ht⟩ := (h place).exists_child hg
    exact ht.referenceFree g.place
  resolves := by
    intro root unopened place l hsub
    have hself : Reference.resolve root ⟨place, .obj out⟩ = .ok ⟨place, .obj out⟩ := by
      simp only [Reference.resolve, href]
    refine resolveBelow_of_built hself rfl (hsub List.mem_cons_self) ?_ l
    refine (h place).mono fun g hg t ht l' => ?_
    -- The objects of a part stand at places other than the object's own.
    refine ht.resolves root _ g.place l' fun p hp => ?_
    have hinside := inside_of_mem_positions hg
    rw [mem_afterVisit]
    refine ⟨hsub (hinside.objects_subset hp), ?_⟩
    rintro rfl
    exact hinside.place_not_mem_objects hp

theorem expansion_of_resolveBelow {root : Json} {unopened : List Place} {raw : Fragment}
    {l : String} {s : TypeSchema} (h : resolveBelow root unopened (raw, l) = .ok s) :
    ∃ tree, expandTo root (unopened.length + 1) raw = some tree ∧ Stands tree s := by
  refine @resolveBelow_induction root (fun unopened raw s =>
    ∃ tree, expandTo root (unopened.length + 1) raw = some tree ∧ Stands tree s) ?_ _ _ _ _ h
  intro unopened raw node fields s hnode hvalue hmem hbuilt
  have hparts : Built (Through (expandTo root unopened.length) Stands) node fields s := by
    refine hbuilt.mono fun f _ t ht => ?_
    obtain ⟨_, v, hv, hstands⟩ := ht
    exact ⟨v, expandTo_mono (length_afterVisit_lt hmem) f v hv, hstands⟩
  obtain ⟨out, hout, href, hexpanded⟩ :=
    hparts.expanded (fun _ _ hstands => hstands.isObj) hvalue
  refine ⟨.obj out, ?_, stands_of_built ?_ hexpanded⟩
  · rw [expandTo, hnode]
    simp only [hvalue, hout, Option.map_some]
  · have hnone := (Reference.resolve_eq_ok_iff.mp hnode).2
    rw [hvalue] at hnone
    show (Fields.get? "$ref" out).bind Json.str? = none
    rw [href]
    exact hnone

/-! ### A schema is the same below any ancestors -/

/-- Which other places are unopened, and how the position is called, has no effect. -/
theorem resolveBelow_of_paths {root : Json} {unopened others : List Place} {raw : Fragment}
    {l : String} {s : TypeSchema} (h : resolveBelow root unopened (raw, l) = .ok s)
    (hpaths : ∀ nodes, IsPath root raw nodes → ∀ node ∈ nodes, node.place ∈ others) (l' : String) :
    resolveBelow root others (raw, l') = .ok s := by
  refine @resolveBelow_induction root (fun _ raw s => ∀ others,
    (∀ nodes, IsPath root raw nodes → ∀ node ∈ nodes, node.place ∈ others) →
    ∀ l', resolveBelow root others (raw, l') = .ok s) ?_ _ _ _ _ h others hpaths l'
  intro unopened raw node fields s hnode hvalue _ hbuilt others hpaths l'
  have hopens : Opens root raw node := ⟨hnode, fields, hvalue⟩
  have hother : node.place ∈ others := hpaths [node] (.singleton hopens) node List.mem_cons_self
  refine resolveBelow_of_built hnode hvalue hother ?_ l'
  refine hbuilt.mono fun child hchild t ht => ?_
  obtain ⟨⟨lchild, hresolved⟩, hinherits⟩ := ht
  refine hinherits _ fun nodes hpath m hm => ?_
  rw [mem_afterVisit]
  refine ⟨hpaths (node :: nodes) (hpath.cons hopens hchild) m (List.mem_cons_of_mem _ hm), ?_⟩
  exact (mem_afterVisit.mp ((path_of_resolveBelow_eq_ok hresolved hpath).1 m hm)).2

theorem resolve_of_resolveBelow {root : Json} {unopened : List Place} {raw : Fragment}
    {l : String} {s : TypeSchema} (h : resolveBelow root unopened (raw, l) = .ok s)
    (location : String) : resolve root raw location = .ok s :=
  resolveBelow_of_paths h (fun _ hpath node hnode =>
    hpath.place_mem (List.subset_append_right _ _) (List.subset_append_left _ _) node hnode)
    location

/-! ### Resolution is writing out -/

/-- `tree` is a raw schema written out, and means what the raw schema means. -/
structure IsExpansion (root : Json) (raw : Fragment) (s : TypeSchema) (tree : Json) : Prop where
  expands : Expands root raw tree
  referenceFree : ∀ place, ReferenceFree ⟨place, tree⟩
  resolves : ∀ other place location, resolve other ⟨place, tree⟩ location = .ok s
  determines : ∀ other raw' location s', Expands other raw' tree →
    resolve other raw' location = .ok s' → s' = s

/-- `s` has one child for each position of the object that a raw schema stands for, keyword by
keyword and in order, and each child is what its own position resolves to. -/
def Mirrors (root : Json) (raw : Fragment) (s : TypeSchema) : Prop :=
  ∃ node fields, Reference.resolve root raw = .ok node ∧ node.value = .obj fields ∧
    Built (fun child t => ∀ location, resolve root child location = .ok t) node fields s

theorem isExpansion_of_stands {root : Json} {raw : Fragment} {s : TypeSchema} {tree : Json}
    (hexpands : Expands root raw tree) (hstands : Stands tree s) : IsExpansion root raw s tree where
  expands := hexpands
  referenceFree := hstands.referenceFree
  resolves := fun other place location =>
    hstands.resolves other _ place location (List.subset_append_left _ _)
  determines := by
    intro other raw' location s' hother hresolved
    obtain ⟨tree', hdepth, hstands'⟩ := expansion_of_resolveBelow hresolved
    cases hother.unique ⟨_, hdepth⟩
    have hs := hstands.resolves .null _ raw'.place location (List.Subset.refl _)
    rw [hstands'.resolves .null _ raw'.place location (List.Subset.refl _)] at hs
    exact Except.ok.inj hs

/-- **Resolution dereferences completely and does nothing else.**  The references of a raw schema
that resolves can all be written out; what results is free of them, resolves to the same schema in
any document, and determines it.  The schema mirrors the object that the raw schema stands for. -/
theorem resolve_expansion {root : Json} {raw : Fragment} {location : String} {s : TypeSchema}
    (h : resolve root raw location = .ok s) :
    (∃ tree, IsExpansion root raw s tree) ∧ Mirrors root raw s := by
  obtain ⟨tree, hdepth, hstands⟩ := expansion_of_resolveBelow h
  refine ⟨⟨tree, isExpansion_of_stands ⟨_, hdepth⟩ hstands⟩, ?_⟩
  obtain ⟨node, fields, hnode, hvalue, _, hbuilt⟩ := resolveBelow_eq_ok h
  refine ⟨node, fields, hnode, hvalue, hbuilt.mono fun child _ t ht l => ?_⟩
  obtain ⟨_, hresolved⟩ := ht
  exact resolve_of_resolveBelow hresolved l

/-- Two siblings stand for one object, one of them by way of another reference. -/
theorem resolve_expansion_of_shared_object :
    let root : Json := .obj [("a", .obj []), ("b", .obj [("$ref", .str "#/a")])]
    let raw : Fragment := .ofSupplied
      (.obj [("anyOf", .arr [.obj [("$ref", .str "#/a")], .obj [("$ref", .str "#/b")]])])
    ∃ s, resolve root raw "#" = .ok s ∧ (∃ tree, IsExpansion root raw s tree) ∧
      Mirrors root raw s := by
  intro root raw
  have hresolves : ∃ s, resolve root raw "#" = .ok s := by
    subst raw root
    refine ⟨?s, ?h⟩
    case h =>
      cbv
      rfl
  obtain ⟨s, h⟩ := hresolves
  exact ⟨s, h, resolve_expansion h⟩

end TypeSchema

end ApiGraph
