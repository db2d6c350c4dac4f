import ApiGraph.Proofs.Fragment.Parts
import ApiGraph.Proofs.Outcome
import ApiGraph.Proofs.Reference.Pointer
import ApiGraph.Schema.Resolution

/-!
# Positions of a schema

Seven keywords of a schema object hold further schemas. `positions` lists the fragments
they hold; where each of them stands in a message plays no part. A schema built from an
object has one child for each position, in order, and `Built` says so keyword by keyword
for any relation between a raw child and its schema.

Everything else about resolution follows from three facts: what a successful `build` has
built, that `Built` is enough for success, and where the fault of a failed one comes from.
-/

namespace ApiGraph

namespace TypeSchema

open Outcome

/-- The members of a composition: the items of a list, or one lone schema. -/
def membersOf (f : Fragment) : List Fragment :=
  match f.value with
  | .arr _ => f.items
  | _ => [f]

/-- The fragments under a composition keyword. -/
def heldUnder (node : Fragment) (keyword : String) : List Fragment :=
  match node.field? keyword with
  | none => []
  | some f => membersOf f

/-- The fragments under `properties`. -/
def propertyFragments (node : Fragment) : List Fragment :=
  match node.field? "properties" with
  | none => []
  | some f => f.fields.map Prod.snd

/-- The fragment under `additionalProperties`, unless it is a boolean. -/
def additionalFragment (node : Fragment) : List Fragment :=
  match node.field? "additionalProperties" with
  | none => []
  | some f => if f.value.bool?.isSome then [] else [f]

/-- The fragments of an object that hold schemas. -/
def positions (node : Fragment) : List Fragment :=
  ["allOf", "oneOf", "anyOf"].flatMap (heldUnder node) ++
    ["not", "items"].filterMap node.field? ++ propertyFragments node ++ additionalFragment node

/-- What stands under `additionalProperties`: a boolean for itself, anything else for a schema. -/
def IsAdditional (R : Fragment → TypeSchema → Prop) (f : Fragment) (a : Additional TypeSchema) :
    Prop :=
  match f.value with
  | .bool yes => a = .allowed yes
  | _ => ∃ s, a = .schema s ∧ R f s

/-- The property schemas of an object of them, under the same names and in the same order. -/
def AreProperties (R : Fragment → TypeSchema → Prop) (f : Fragment)
    (properties : List (String × TypeSchema)) : Prop :=
  f.value.isObj = true ∧
    List.Forall₂ (fun raw built => raw.1 = built.1 ∧ R raw.2 built.2) f.fields properties

/-- `s` is built from an object, its children standing in relation `R` to the raw ones. -/
structure Built (R : Fragment → TypeSchema → Prop) (node : Fragment) (fields : Fields)
    (s : TypeSchema) : Prop where
  descriptor : Descriptor.read fields = .ok s.descriptor
  allOf : List.Forall₂ R (heldUnder node "allOf") s.allOf
  oneOf : List.Forall₂ R (heldUnder node "oneOf") s.oneOf
  anyOf : List.Forall₂ R (heldUnder node "anyOf") s.anyOf
  negated : Option.Rel R (node.field? "not") s.negated
  items : Option.Rel R (node.field? "items") s.items
  properties : Option.Rel (AreProperties R) (node.field? "properties") s.properties
  additional : Option.Rel (IsAdditional R) (node.field? "additionalProperties") s.additional

/-! ### Positions are parts -/

theorem mem_propertyFragments_iff {node g : Fragment} :
    g ∈ propertyFragments node ↔
      ∃ f name, node.field? "properties" = some f ∧ (name, g) ∈ f.fields := by
  rw [propertyFragments]
  cases node.field? "properties" <;> simp

theorem mem_additionalFragment_iff {node f : Fragment} :
    f ∈ additionalFragment node ↔
      node.field? "additionalProperties" = some f ∧ f.value.bool? = none := by
  rw [additionalFragment]
  cases node.field? "additionalProperties" with
  | none => simp
  | some g =>
    cases hbool : g.value.bool? with
    | none =>
      simp only [hbool, Option.isSome_none, Bool.false_eq_true, if_false, List.mem_singleton,
        Option.some.injEq]
      constructor
      · rintro rfl
        exact ⟨rfl, hbool⟩
      · exact fun h => h.1.symm
    | some b =>
      simp only [hbool, Option.isSome_some, if_true, List.not_mem_nil, Option.some.injEq, false_iff]
      rintro ⟨rfl, hnone⟩
      rw [hbool] at hnone
      cases hnone

theorem mem_positions_iff {node f : Fragment} :
    f ∈ positions node ↔
      (∃ keyword ∈ ["allOf", "oneOf", "anyOf"], f ∈ heldUnder node keyword) ∨
      (∃ keyword ∈ ["not", "items"], node.field? keyword = some f) ∨
      (∃ g name, node.field? "properties" = some g ∧ (name, f) ∈ g.fields) ∨
      (node.field? "additionalProperties" = some f ∧ f.value.bool? = none) := by
  rw [positions, List.mem_append, List.mem_append, List.mem_append, List.mem_flatMap,
    List.mem_filterMap, mem_propertyFragments_iff, mem_additionalFragment_iff, or_assoc, or_assoc]

theorem inside_of_mem_heldUnder {node f : Fragment} {keyword : String}
    (h : f ∈ heldUnder node keyword) : Fragment.Inside f node := by
  rw [heldUnder] at h
  split at h
  · cases h
  · next list hlist =>
    have hpart := Fragment.part_of_field? hlist
    rw [membersOf] at h
    split at h
    · exact .tail (.single (Fragment.part_of_mem_items h)) hpart
    · rw [List.mem_singleton.mp h]
      exact .single hpart

theorem inside_of_mem_positions {node f : Fragment} (h : f ∈ positions node) :
    Fragment.Inside f node := by
  rcases mem_positions_iff.mp h with ⟨_, _, hheld⟩ | ⟨_, _, hf⟩ | ⟨g, name, hg, hf⟩ | ⟨hf, _⟩
  · exact inside_of_mem_heldUnder hheld
  · exact .single (Fragment.part_of_field? hf)
  · exact .tail (.single (Fragment.part_of_mem_fields hf)) (Fragment.part_of_field? hg)
  · exact .single (Fragment.part_of_field? hf)

/-! ### Laws of `Built` -/

section Built

variable {R S : Fragment → TypeSchema → Prop} {node : Fragment} {fields : Fields} {s : TypeSchema}

theorem IsAdditional.mono {f : Fragment} {a : Additional TypeSchema} (h : IsAdditional R f a)
    (hRS : f.value.bool? = none → ∀ t, R f t → S f t) : IsAdditional S f a := by
  obtain ⟨place, value⟩ := f
  cases value with
  | bool yes => exact h
  | _ =>
    obtain ⟨t, ha, hR⟩ := h
    exact ⟨t, ha, hRS rfl t hR⟩

theorem IsAdditional.exists_child {f : Fragment} {a : Additional TypeSchema}
    (h : IsAdditional R f a) (hbool : f.value.bool? = none) : ∃ t, R f t := by
  obtain ⟨place, value⟩ := f
  cases value with
  | bool yes => cases hbool
  | _ =>
    obtain ⟨t, _, hR⟩ := h
    exact ⟨t, hR⟩

/-- The relation between children may be weakened at the positions of the object. -/
theorem Built.mono (h : Built R node fields s) (hRS : ∀ f ∈ positions node, ∀ t, R f t → S f t) :
    Built S node fields s := by
  have hmembers : ∀ keyword ∈ ["allOf", "oneOf", "anyOf"], ∀ f ∈ heldUnder node keyword,
      ∀ t, R f t → S f t := fun keyword hk f hf =>
    hRS f (mem_positions_iff.mpr (Or.inl ⟨keyword, hk, hf⟩))
  have hmember : ∀ keyword ∈ ["not", "items"], ∀ f t, node.field? keyword = some f →
      R f t → S f t := fun keyword hk f t hf =>
    hRS f (mem_positions_iff.mpr (Or.inr (Or.inl ⟨keyword, hk, hf⟩))) t
  exact {
    descriptor := h.descriptor
    allOf := forall₂_mono h.allOf (hmembers "allOf" (by simp))
    oneOf := forall₂_mono h.oneOf (hmembers "oneOf" (by simp))
    anyOf := forall₂_mono h.anyOf (hmembers "anyOf" (by simp))
    negated := rel_mono h.negated (hmember "not" (by simp))
    items := rel_mono h.items (hmember "items" (by simp))
    properties := by
      refine rel_mono h.properties fun g _ hg hprops => ⟨hprops.1, ?_⟩
      refine forall₂_mono hprops.2 fun raw hraw built hR => ⟨hR.1, ?_⟩
      exact hRS raw.2 (mem_positions_iff.mpr (Or.inr (Or.inr (Or.inl ⟨g, raw.1, hg, hraw⟩))))
        built.2 hR.2
    additional := by
      refine rel_mono h.additional fun f _ hf hadd => hadd.mono fun hbool => ?_
      exact hRS f (mem_positions_iff.mpr (Or.inr (Or.inr (Or.inr ⟨hf, hbool⟩)))) }

theorem Built.exists_child_of_mem_heldUnder (h : Built R node fields s) {f : Fragment}
    {keyword : String} (hk : keyword ∈ ["allOf", "oneOf", "anyOf"])
    (hf : f ∈ heldUnder node keyword) : ∃ t, R f t := by
  simp only [List.mem_cons, List.not_mem_nil, or_false] at hk
  rcases hk with rfl | rfl | rfl
  · obtain ⟨t, _, hR⟩ := exists_of_forall₂_mem h.allOf hf
    exact ⟨t, hR⟩
  · obtain ⟨t, _, hR⟩ := exists_of_forall₂_mem h.oneOf hf
    exact ⟨t, hR⟩
  · obtain ⟨t, _, hR⟩ := exists_of_forall₂_mem h.anyOf hf
    exact ⟨t, hR⟩

theorem Built.exists_child_of_field? (h : Built R node fields s) {f : Fragment}
    {keyword : String} (hk : keyword ∈ ["not", "items"]) (hf : node.field? keyword = some f) :
    ∃ t, R f t := by
  simp only [List.mem_cons, List.not_mem_nil, or_false] at hk
  rcases hk with rfl | rfl
  · obtain ⟨t, _, hR⟩ := exists_of_rel_some (hf ▸ h.negated)
    exact ⟨t, hR⟩
  · obtain ⟨t, _, hR⟩ := exists_of_rel_some (hf ▸ h.items)
    exact ⟨t, hR⟩

/-- Every position has a child. -/
theorem Built.exists_child (h : Built R node fields s) {f : Fragment} (hf : f ∈ positions node) :
    ∃ t, R f t := by
  rcases mem_positions_iff.mp hf with ⟨_, hk, hheld⟩ | ⟨_, hk, hfield⟩ | ⟨g, name, hg, hprop⟩ |
    ⟨hfield, hbool⟩
  · exact h.exists_child_of_mem_heldUnder hk hheld
  · exact h.exists_child_of_field? hk hfield
  · obtain ⟨properties, _, hprops⟩ := exists_of_rel_some (hg ▸ h.properties)
    obtain ⟨built, _, hR⟩ := exists_of_forall₂_mem hprops.2 hprop
    exact ⟨built.2, hR.2⟩
  · obtain ⟨a, _, hadd⟩ := exists_of_rel_some (hfield ▸ h.additional)
    exact hadd.exists_child hbool

end Built

/-! ### What is built, and when -/

section Building

variable {child : Position → Except Fault TypeSchema} {node : Fragment} {fields : Fields}
  {location : String} {s : TypeSchema}

theorem members_map_fst (node : Fragment) (location keyword : String) :
    (members node location keyword).map Prod.fst = heldUnder node keyword := by
  rw [members, heldUnder]
  cases node.field? keyword with
  | none => rfl
  | some list =>
    obtain ⟨place, value⟩ := list
    cases value with
    | arr vs =>
      apply List.ext_getElem?
      intro i
      simp [membersOf, Function.comp_def]
    | _ => rfl

theorem forall₂_of_members_mapM {keyword : String} {ts : List TypeSchema}
    (h : (members node location keyword).mapM child = .ok ts) :
    List.Forall₂ (fun f t => ∃ l, child (f, l) = .ok t) (heldUnder node keyword) ts := by
  rw [← members_map_fst node location, List.forall₂_map_left_iff]
  exact (mapM_eq_ok_iff.mp h).imp fun at_ _ hat => ⟨at_.2, hat⟩

theorem members_mapM_of_forall₂ {keyword : String} {ts : List TypeSchema}
    (h : List.Forall₂ (fun f t => ∀ l, child (f, l) = .ok t) (heldUnder node keyword) ts) :
    (members node location keyword).mapM child = .ok ts := by
  rw [← members_map_fst node location, List.forall₂_map_left_iff] at h
  exact mapM_eq_ok_iff.mpr (h.imp fun at_ _ hat => hat at_.2)

theorem rel_of_member?_mapM {keyword : String} {t : Option TypeSchema}
    (h : (member? node location keyword).mapM child = .ok t) :
    Option.Rel (fun f t => ∃ l, child (f, l) = .ok t) (node.field? keyword) t := by
  have hrel := option_mapM_eq_ok_iff.mp h
  rw [member?, rel_map_left_iff] at hrel
  exact rel_mono hrel fun f _ _ hat => ⟨_, hat⟩

theorem member?_mapM_of_rel {keyword : String} {t : Option TypeSchema}
    (h : Option.Rel (fun f t => ∀ l, child (f, l) = .ok t) (node.field? keyword) t) :
    (member? node location keyword).mapM child = .ok t := by
  rw [option_mapM_eq_ok_iff, member?, rel_map_left_iff]
  exact rel_mono h fun f _ _ hat => hat _

theorem namedChild_eq_ok_iff (name : String) (at_ : Position) {built : String × TypeSchema} :
    (do return (name, ← child at_) : Except Fault (String × TypeSchema)) = .ok built ↔
      name = built.1 ∧ child at_ = .ok built.2 := by
  rw [bind_eq_ok_iff]
  constructor
  · rintro ⟨t, ht, hout⟩
    cases hout
    exact ⟨rfl, ht⟩
  · rintro ⟨hname, ht⟩
    exact ⟨built.2, ht, by rw [hname]; rfl⟩

theorem properties?_of_isObj {f : Fragment} (hf : node.field? "properties" = some f)
    (hobj : f.value.isObj = true) :
    properties? node location = .ok (some (f.fields.map fun raw =>
      (raw.1, raw.2, Pointer.child (Pointer.child location "properties") raw.1))) := by
  obtain ⟨place, value⟩ := f
  cases value with
  | obj entries => simp only [properties?, hf]
  | _ => cases hobj

theorem properties?_of_not_isObj {f : Fragment} (hf : node.field? "properties" = some f)
    (hobj : f.value.isObj = false) : properties? node location =
      .error (.invalidInput (.expectedObject (Pointer.child location "properties"))) := by
  obtain ⟨place, value⟩ := f
  cases value with
  | obj entries => cases hobj
  | _ => simp only [properties?, hf]

theorem rel_of_buildProperties {properties : Option (List (String × TypeSchema))}
    (h : buildProperties child node location = .ok properties) :
    Option.Rel (AreProperties fun f t => ∃ l, child (f, l) = .ok t) (node.field? "properties")
      properties := by
  rw [buildProperties, bind_eq_ok_iff] at h
  obtain ⟨raws, hraws, hbuilt⟩ := h
  cases hf : node.field? "properties" with
  | none =>
    rw [properties?, hf] at hraws
    cases hraws
    cases option_mapM_eq_ok_iff.mp hbuilt
    exact .none
  | some f =>
    have hobj : f.value.isObj = true := by
      by_contra hnot
      rw [properties?_of_not_isObj hf (by simpa using hnot)] at hraws
      cases hraws
    rw [properties?_of_isObj hf hobj] at hraws
    cases hraws
    obtain ⟨built, rfl, hall⟩ := exists_of_rel_some (option_mapM_eq_ok_iff.mp hbuilt)
    refine .some ⟨hobj, ?_⟩
    have hpairs := mapM_eq_ok_iff.mp hall
    rw [List.forall₂_map_left_iff] at hpairs
    refine hpairs.imp fun raw b hb => ?_
    obtain ⟨hname, ht⟩ := (namedChild_eq_ok_iff raw.1 (raw.2, _)).mp hb
    exact ⟨hname, _, ht⟩

theorem buildProperties_of_rel {properties : Option (List (String × TypeSchema))}
    (h : Option.Rel (AreProperties fun f t => ∀ l, child (f, l) = .ok t)
      (node.field? "properties") properties) :
    buildProperties child node location = .ok properties := by
  rw [buildProperties, bind_eq_ok_iff]
  cases hf : node.field? "properties" with
  | none =>
    rw [hf] at h
    cases h
    exact ⟨none, by rw [properties?, hf], rfl⟩
  | some f =>
    rw [hf] at h
    obtain ⟨built, rfl, hobj, hall⟩ := exists_of_rel_some h
    refine ⟨_, properties?_of_isObj hf hobj, ?_⟩
    rw [option_mapM_eq_ok_iff]
    refine .some (mapM_eq_ok_iff.mpr ?_)
    rw [List.forall₂_map_left_iff]
    exact hall.imp fun raw b hb => (namedChild_eq_ok_iff raw.1 (raw.2, _)).mpr ⟨hb.1, hb.2 _⟩

theorem buildAdditional_eq_ok_iff {f : Fragment} {l : String} {a : Additional TypeSchema} :
    buildAdditional child (f, l) = .ok a ↔ IsAdditional (fun g t => child (g, l) = .ok t) f a := by
  obtain ⟨place, value⟩ := f
  cases value with
  | bool yes =>
    show Except.ok (Additional.allowed yes) = Except.ok a ↔ a = .allowed yes
    rw [Except.ok.injEq, eq_comm]
  | _ =>
    simp only [buildAdditional, IsAdditional]
    rw [bind_eq_ok_iff]
    constructor
    · rintro ⟨t, ht, hout⟩
      cases hout
      exact ⟨t, rfl, ht⟩
    · rintro ⟨t, rfl, ht⟩
      exact ⟨t, ht, rfl⟩

theorem mem_heldUnder_of_mem_members {keyword : String} {at_ : Position}
    (h : at_ ∈ members node location keyword) : at_.1 ∈ heldUnder node keyword := by
  rw [← members_map_fst node location]
  exact List.mem_map_of_mem h

theorem position_of_member? {keyword : String} {at_ : Position}
    (h : member? node location keyword = some at_) : node.field? keyword = some at_.1 := by
  rw [member?, Option.map_eq_some_iff] at h
  obtain ⟨f, hf, rfl⟩ := h
  exact hf

/-- The schema of an object depends only on how the positions of the object are resolved. -/
theorem build_congr {child' : Position → Except Fault TypeSchema}
    (h : ∀ f ∈ positions node, ∀ l, child (f, l) = child' (f, l)) :
    build child node fields location = build child' node fields location := by
  have hmembers : ∀ keyword ∈ ["allOf", "oneOf", "anyOf"],
      (members node location keyword).mapM child = (members node location keyword).mapM child' := by
    intro keyword hk
    refine mapM_congr fun at_ hat => h at_.1 (mem_positions_iff.mpr ?_) at_.2
    exact Or.inl ⟨keyword, hk, mem_heldUnder_of_mem_members hat⟩
  have hmember : ∀ keyword ∈ ["not", "items"],
      (member? node location keyword).mapM child = (member? node location keyword).mapM child' := by
    intro keyword hk
    refine option_mapM_congr fun at_ hat => h at_.1 (mem_positions_iff.mpr ?_) at_.2
    exact Or.inr (Or.inl ⟨keyword, hk, position_of_member? hat⟩)
  have hproperties : buildProperties child node location =
      buildProperties child' node location := by
    refine bind_congr_of_ok fun raws hraws => option_mapM_congr ?_
    rintro pairs rfl
    refine mapM_congr fun pair hpair => ?_
    cases hf : node.field? "properties" with
    | none =>
      rw [properties?, hf] at hraws
      cases hraws
    | some f =>
      cases hobj : f.value.isObj with
      | false =>
        rw [properties?_of_not_isObj hf hobj] at hraws
        cases hraws
      | true =>
        rw [properties?_of_isObj hf hobj] at hraws
        cases hraws
        obtain ⟨raw, hraw, rfl⟩ := List.mem_map.mp hpair
        have hposition : raw.2 ∈ positions node :=
          mem_positions_iff.mpr (Or.inr (Or.inr (Or.inl ⟨f, raw.1, hf, hraw⟩)))
        dsimp only
        rw [h raw.2 hposition]
  have hadditional : (member? node location "additionalProperties").mapM (buildAdditional child) =
      (member? node location "additionalProperties").mapM (buildAdditional child') := by
    refine option_mapM_congr fun at_ hat => ?_
    have hfield := position_of_member? hat
    obtain ⟨⟨place, value⟩, l⟩ := at_
    cases value with
    | bool yes => rfl
    | _ =>
      simp only [buildAdditional]
      rw [h _ (mem_positions_iff.mpr (Or.inr (Or.inr (Or.inr ⟨hfield, rfl⟩))))]
  rw [build, build, hmembers "allOf" (by simp), hmembers "oneOf" (by simp),
    hmembers "anyOf" (by simp), hmember "not" (by simp), hmember "items" (by simp), hproperties,
    hadditional]

/-- What an object itself can be refused for: the shape of a keyword, or its properties. -/
inductive OwnCause (location : String) : InputFault → Prop
  | keyword (shape : ShapeFault) : OwnCause location (.malformed location shape)
  | properties : OwnCause location (.expectedObject (Pointer.child location "properties"))

/-- One of the positions of an object fails, at a location below that of the object. -/
def PositionFails (child : Position → Except Fault TypeSchema) (node : Fragment)
    (location : String) (e : Fault) : Prop :=
  ∃ f ∈ positions node, ∃ l, Pointer.depth location < Pointer.depth l ∧ child (f, l) = .error e

theorem fault_of_readDescriptor {e : Fault} (h : readDescriptor fields location = .error e) :
    ∃ cause, OwnCause location cause ∧ e = .invalidInput cause := by
  obtain ⟨shape, _, rfl⟩ := mapError_eq_error_iff.mp h
  exact ⟨_, .keyword shape, rfl⟩

theorem fault_of_buildProperties {e : Fault}
    (h : buildProperties child node location = .error e) :
    (∃ cause, OwnCause location cause ∧ e = .invalidInput cause) ∨
      PositionFails child node location e := by
  rw [buildProperties, bind_eq_error_iff] at h
  cases hf : node.field? "properties" with
  | none =>
    rw [properties?, hf] at h
    rcases h with h | ⟨raws, hraws, h⟩
    · cases h
    · cases hraws
      cases h
  | some f =>
    cases hobj : f.value.isObj with
    | false =>
      rw [properties?_of_not_isObj hf hobj] at h
      left
      rcases h with h | ⟨raws, hraws, _⟩
      · cases h
        exact ⟨_, .properties, rfl⟩
      · cases hraws
    | true =>
      rw [properties?_of_isObj hf hobj] at h
      right
      rcases h with h | ⟨raws, hraws, h⟩
      · cases h
      · cases hraws
        obtain ⟨pairs, hpairs, hall⟩ := exists_of_option_mapM_eq_error h
        cases hpairs
        obtain ⟨pair, hpair, hfail⟩ := exists_of_mapM_eq_error hall
        obtain ⟨raw, hraw, rfl⟩ := List.mem_map.mp hpair
        refine ⟨raw.2, mem_positions_iff.mpr (Or.inr (Or.inr (Or.inl ⟨f, raw.1, hf, hraw⟩))),
          Pointer.child (Pointer.child location "properties") raw.1, ?_, ?_⟩
        · simp only [Pointer.depth_child]
          omega
        rcases bind_eq_error_iff.mp hfail with hchild | ⟨_, _, hout⟩
        · exact hchild
        · cases hout

theorem fault_of_buildAdditional {f : Fragment} {l : String} {e : Fault}
    (h : buildAdditional child (f, l) = .error e) :
    f.value.bool? = none ∧ child (f, l) = .error e := by
  obtain ⟨place, value⟩ := f
  cases value with
  | bool yes => cases h
  | _ =>
    simp only [buildAdditional, bind_eq_error_iff] at h
    rcases h with h | ⟨_, _, hout⟩
    · exact ⟨rfl, h⟩
    · cases hout

/-- A successful `build` has resolved every position, and has put the results in their places. -/
theorem built_of_build (h : build child node fields location = .ok s) :
    Built (fun f t => ∃ l, child (f, l) = .ok t) node fields s := by
  simp only [build, bind_eq_ok_iff] at h
  obtain ⟨descriptor, hdesc, allOf, hall, oneOf, hone, anyOf, hany, negated, hnot, items, hitems,
    properties, hprops, additional, hadd, hout⟩ := h
  cases hout
  rw [option_mapM_eq_ok_iff, member?, rel_map_left_iff] at hadd
  exact {
    descriptor := mapError_eq_ok_iff.mp hdesc
    allOf := forall₂_of_members_mapM hall
    oneOf := forall₂_of_members_mapM hone
    anyOf := forall₂_of_members_mapM hany
    negated := rel_of_member?_mapM hnot
    items := rel_of_member?_mapM hitems
    properties := rel_of_buildProperties hprops
    additional := rel_mono hadd fun f a _ ha =>
      (buildAdditional_eq_ok_iff.mp ha).mono fun _ t ht => ⟨_, ht⟩ }

/-- Where every position resolves, whatever its location, `build` succeeds. -/
theorem build_of_built (h : Built (fun f t => ∀ l, child (f, l) = .ok t) node fields s) :
    build child node fields location = .ok s := by
  obtain ⟨descriptor, allOf, oneOf, anyOf, negated, items, properties, additional⟩ := s
  simp only [build, bind_eq_ok_iff]
  refine ⟨descriptor, mapError_eq_ok_iff.mpr h.descriptor,
    allOf, members_mapM_of_forall₂ h.allOf, oneOf, members_mapM_of_forall₂ h.oneOf,
    anyOf, members_mapM_of_forall₂ h.anyOf, negated, member?_mapM_of_rel h.negated,
    items, member?_mapM_of_rel h.items, properties, buildProperties_of_rel h.properties,
    additional, ?_, rfl⟩
  rw [option_mapM_eq_ok_iff, member?, rel_map_left_iff]
  exact rel_mono h.additional fun f a _ ha =>
    buildAdditional_eq_ok_iff.mpr (ha.mono fun _ t ht => ht _)

theorem depth_lt_of_mem_members {keyword : String} {at_ : Position}
    (h : at_ ∈ members node location keyword) :
    Pointer.depth location < Pointer.depth at_.2 := by
  rw [members] at h
  split at h
  · cases h
  · split at h
    · obtain ⟨i, _, rfl⟩ := List.mem_mapIdx.mp h
      simp only [Pointer.depth_item, Pointer.depth_child]
      omega
    · rw [List.mem_singleton.mp h, Pointer.depth_child]
      exact Nat.lt_succ_self _

/-- The fault of a failed `build` is the object's own, and then never a cycle, or comes from a
position. -/
theorem fault_of_build {e : Fault} (h : build child node fields location = .error e) :
    (∃ cause, OwnCause location cause ∧ e = .invalidInput cause) ∨
      PositionFails child node location e := by
  have hmembers : ∀ keyword ∈ ["allOf", "oneOf", "anyOf"],
      (members node location keyword).mapM child = .error e →
        PositionFails child node location e := by
    intro keyword hk hfail
    obtain ⟨at_, hat, hchild⟩ := exists_of_mapM_eq_error hfail
    have hheld := mem_heldUnder_of_mem_members hat
    exact ⟨at_.1, mem_positions_iff.mpr (Or.inl ⟨keyword, hk, hheld⟩), at_.2,
      depth_lt_of_mem_members hat, hchild⟩
  have hmember : ∀ keyword ∈ ["not", "items"],
      (member? node location keyword).mapM child = .error e →
        PositionFails child node location e := by
    intro keyword hk hfail
    obtain ⟨at_, hat, hchild⟩ := exists_of_option_mapM_eq_error hfail
    rw [member?, Option.map_eq_some_iff] at hat
    obtain ⟨f, hf, rfl⟩ := hat
    exact ⟨f, mem_positions_iff.mpr (Or.inr (Or.inl ⟨keyword, hk, hf⟩)), _, by simp, hchild⟩
  simp only [build, bind_eq_error_iff] at h
  rcases h with h | ⟨_, _, h | ⟨_, _, h | ⟨_, _, h | ⟨_, _, h | ⟨_, _, h | ⟨_, _, h | ⟨_, _, h |
    ⟨_, _, h⟩⟩⟩⟩⟩⟩⟩⟩
  · exact Or.inl (fault_of_readDescriptor h)
  · exact Or.inr (hmembers "allOf" (by simp) h)
  · exact Or.inr (hmembers "oneOf" (by simp) h)
  · exact Or.inr (hmembers "anyOf" (by simp) h)
  · exact Or.inr (hmember "not" (by simp) h)
  · exact Or.inr (hmember "items" (by simp) h)
  · exact fault_of_buildProperties h
  · right
    obtain ⟨at_, hat, hchild⟩ := exists_of_option_mapM_eq_error h
    rw [member?, Option.map_eq_some_iff] at hat
    obtain ⟨f, hf, rfl⟩ := hat
    obtain ⟨hbool, ht⟩ := fault_of_buildAdditional hchild
    exact ⟨f, mem_positions_iff.mpr (Or.inr (Or.inr (Or.inr ⟨hf, hbool⟩))), _, by simp, ht⟩
  · cases h

end Building

end TypeSchema

end ApiGraph
