import ApiGraph.Proofs.Legacy.Renewal

/-!
# Definitions keep their meaning

A schema that points into the definitions of a legacy document is rewritten together with
the document: its pointers, and its extension for null. What the new schema resolves to in
the new document is what the old one resolved to in the old document, with the extension
taken at its word; and the one resolves exactly if the other does.

Both sides are taken as unfoldings, which know of no places, so nothing has to be said about
where in the new document an old object has gone. The induction is on the depth.
-/

namespace ApiGraph

open Fragment Outcome

namespace TypeSchema

mutual

/-- A schema with the flags of the objects that it was resolved from: where such an object has the
extension, its schema is nullable as the extension says. -/
def withFlags (root : Json) (raw : Fragment) : TypeSchema → TypeSchema
  | ⟨d, allOf, oneOf, anyOf, negated, items, properties, additional⟩ =>
    match Reference.resolve root raw with
    | .error _ => ⟨d, allOf, oneOf, anyOf, negated, items, properties, additional⟩
    | .ok node =>
      { descriptor := { d with nullable := (node.value.boolAt? "x-nullable").getD d.nullable }
        allOf := withFlagsOfList root (heldUnder node "allOf") allOf
        oneOf := withFlagsOfList root (heldUnder node "oneOf") oneOf
        anyOf := withFlagsOfList root (heldUnder node "anyOf") anyOf
        negated := withFlagsOfOption root (node.field? "not") negated
        items := withFlagsOfOption root (node.field? "items") items
        properties := match properties, node.field? "properties" with
          | some fields, some f => some (withFlagsOfFields root f.fields fields)
          | other, _ => other
        additional := match additional, node.field? "additionalProperties" with
          | some (.schema s), some f => some (.schema (withFlags root f s))
          | other, _ => other }

def withFlagsOfList (root : Json) : List Fragment → List TypeSchema → List TypeSchema
  | f :: raws, s :: rest => withFlags root f s :: withFlagsOfList root raws rest
  | _, rest => rest

def withFlagsOfOption (root : Json) : Option Fragment → Option TypeSchema → Option TypeSchema
  | some f, some s => some (withFlags root f s)
  | _, s => s

def withFlagsOfFields (root : Json) :
    List (String × Fragment) → List (String × TypeSchema) → List (String × TypeSchema)
  | (_, f) :: raws, (name, s) :: rest => (name, withFlags root f s) :: withFlagsOfFields root raws rest
  | _, rest => rest

end

/-! ### Children that differ in their flags -/

/-- A raw child has a schema in one document exactly if another has one in another document, and
the second schema is the first one with its flags. -/
def Alike (root : Json) (R S : Fragment → TypeSchema → Prop) (f g : Fragment) : Prop :=
  ∀ t, S g t ↔ ∃ s, R f s ∧ t = withFlags root f s

section Children

variable {root : Json} {R S : Fragment → TypeSchema → Prop}

theorem forall₂_alike {fs gs : List Fragment} (h : List.Forall₂ (Alike root R S) fs gs) :
    ∀ ts, List.Forall₂ S gs ts ↔
      ∃ ss, List.Forall₂ R fs ss ∧ ts = withFlagsOfList root fs ss := by
  induction h with
  | nil =>
    intro ts
    simp only [List.forall₂_nil_left_iff, exists_eq_left, withFlagsOfList]
  | cons hfg _ ih =>
    intro ts
    simp only [List.forall₂_cons_left_iff, hfg _, ih]
    constructor
    · rintro ⟨_, _, ⟨s, hs, rfl⟩, ⟨ss, hss, rfl⟩, rfl⟩
      exact ⟨s :: ss, ⟨s, ss, hs, hss, rfl⟩, rfl⟩
    · rintro ⟨_, ⟨s, ss, hs, hss, rfl⟩, rfl⟩
      exact ⟨_, _, ⟨s, hs, rfl⟩, ⟨ss, hss, rfl⟩, rfl⟩

theorem rel_alike {x y : Option Fragment} (h : Option.Rel (Alike root R S) x y)
    (t : Option TypeSchema) :
    Option.Rel S y t ↔ ∃ s, Option.Rel R x s ∧ t = withFlagsOfOption root x s := by
  cases h with
  | none =>
    constructor
    · intro ht
      cases ht
      exact ⟨none, .none, rfl⟩
    · rintro ⟨_, hs, rfl⟩
      cases hs
      exact .none
  | some hfg =>
    constructor
    · intro hrel
      obtain ⟨t, rfl, ht⟩ := exists_of_rel_some hrel
      obtain ⟨s, hs, rfl⟩ := (hfg t).mp ht
      exact ⟨some s, .some hs, rfl⟩
    · rintro ⟨_, hrel, rfl⟩
      obtain ⟨s, rfl, hs⟩ := exists_of_rel_some hrel
      exact .some ((hfg _).mpr ⟨s, hs, rfl⟩)

theorem forall₂_fields_alike {raws raws' : List (String × Fragment)}
    (h : List.Forall₂ (fun raw raw' => raw.1 = raw'.1 ∧ Alike root R S raw.2 raw'.2) raws raws') :
    ∀ ts, List.Forall₂ (fun raw built => raw.1 = built.1 ∧ S raw.2 built.2) raws' ts ↔
      ∃ ss, List.Forall₂ (fun raw built => raw.1 = built.1 ∧ R raw.2 built.2) raws ss ∧
        ts = withFlagsOfFields root raws ss := by
  induction h with
  | nil =>
    intro ts
    simp only [List.forall₂_nil_left_iff, exists_eq_left, withFlagsOfFields]
  | @cons raw raw' _ _ hraw _ ih =>
    obtain ⟨name, f⟩ := raw
    obtain ⟨name', g⟩ := raw'
    obtain ⟨hname, hfg⟩ := hraw
    cases hname
    intro ts
    simp only [List.forall₂_cons_left_iff, ih]
    constructor
    · rintro ⟨⟨_, t⟩, _, ⟨rfl, ht⟩, ⟨ss, hss, rfl⟩, rfl⟩
      obtain ⟨s, hs, rfl⟩ := (hfg t).mp ht
      exact ⟨(name, s) :: ss, ⟨(name, s), ss, ⟨rfl, hs⟩, hss, rfl⟩, rfl⟩
    · rintro ⟨_, ⟨⟨_, s⟩, ss, ⟨rfl, hs⟩, hss, rfl⟩, rfl⟩
      exact ⟨_, _, ⟨rfl, (hfg _).mpr ⟨s, hs, rfl⟩⟩, ⟨ss, hss, rfl⟩, rfl⟩

end Children

end TypeSchema

namespace Legacy

open TypeSchema

section Objects

variable {root : Json} {R S : Fragment → TypeSchema → Prop} {node node' : Fragment}

/-- What stands under `properties` is alike, since only objects have schemas. -/
theorem rel_properties (h : Renews node node') (hR : ∀ f s, R f s → f.value.isObj = true)
    (hS : ∀ f s, S f s → f.value.isObj = true)
    (halike : ∀ f ∈ positions node, ∀ g, Renews f g → Alike root R S f g)
    (ts : Option (List (String × TypeSchema))) :
    Option.Rel (AreProperties S) (node'.field? "properties") ts ↔
      ∃ ss, Option.Rel (AreProperties R) (node.field? "properties") ss ∧
        ts = match ss, node.field? "properties" with
          | some fields, some f => some (withFlagsOfFields root f.fields fields)
          | other, _ => other := by
  have hrel : Option.Rel Renews (node.field? "properties") (node'.field? "properties") :=
    rel_field? h (by decide)
  cases hf : node.field? "properties" with
  | none =>
    rw [hf] at hrel
    generalize node'.field? "properties" = y at hrel
    cases hrel
    constructor
    · intro ht
      cases ht
      exact ⟨none, .none, rfl⟩
    · rintro ⟨_, hs, rfl⟩
      cases hs
      exact .none
  | some f =>
    rw [hf] at hrel
    obtain ⟨g, hg, hfg⟩ := exists_of_rel_some hrel
    rw [hg]
    have hobj : g.value.isObj = f.value.isObj := by rw [hfg.value, isObj_modernize]
    have hall : (∀ raw ∈ f.fields, raw.2.value.isObj = true) ∨
        (∀ raw ∈ g.fields, raw.2.value.isObj = true) →
        List.Forall₂ (fun raw raw' => raw.1 = raw'.1 ∧ Alike root R S raw.2 raw'.2)
          f.fields g.fields := fun hfields =>
      forall₂_mono (forall₂_fields hfg hfields) fun raw hraw raw' hrenews =>
        ⟨hrenews.1, halike raw.2
          (mem_positions_iff.mpr (Or.inr (Or.inr (Or.inl ⟨f, raw.1, hf, hraw⟩)))) raw'.2 hrenews.2⟩
    constructor
    · intro hrel
      obtain ⟨ts, rfl, hisObj, hts⟩ := exists_of_rel_some hrel
      have hobjects : ∀ raw ∈ g.fields, raw.2.value.isObj = true := fun raw hraw => by
        obtain ⟨_, _, _, hchild⟩ := exists_of_forall₂_mem hts hraw
        exact hS _ _ hchild
      obtain ⟨ss, hss, rfl⟩ := (forall₂_fields_alike (hall (Or.inr hobjects)) ts).mp hts
      exact ⟨some ss, .some ⟨hobj.symm.trans hisObj, hss⟩, rfl⟩
    · rintro ⟨_, hrel, rfl⟩
      obtain ⟨ss, rfl, hisObj, hss⟩ := exists_of_rel_some hrel
      have hobjects : ∀ raw ∈ f.fields, raw.2.value.isObj = true := fun raw hraw => by
        obtain ⟨_, _, _, hchild⟩ := exists_of_forall₂_mem hss hraw
        exact hR _ _ hchild
      exact .some ⟨hobj.trans hisObj,
        (forall₂_fields_alike (hall (Or.inl hobjects)) _).mpr ⟨ss, hss, rfl⟩⟩

theorem isAdditional_alike {f g : Fragment} (h : Renews f g)
    (halike : f.value.bool? = none → Alike root R S f g) (a : Additional TypeSchema) :
    IsAdditional S g a ↔ ∃ b, IsAdditional R f b ∧
      a = match b with
        | .schema s => .schema (withFlags root f s)
        | other => other := by
  obtain ⟨place, v⟩ := f
  obtain ⟨place', w⟩ := g
  have hw : w = modernize v := h.value
  subst hw
  cases v with
  | bool yes =>
    constructor
    · rintro rfl
      exact ⟨.allowed yes, rfl, rfl⟩
    · rintro ⟨_, rfl, rfl⟩
      rfl
  | _ =>
    constructor
    · rintro ⟨t, rfl, ht⟩
      obtain ⟨s, hs, rfl⟩ := (halike rfl t).mp ht
      exact ⟨.schema s, ⟨s, rfl, hs⟩, rfl⟩
    · rintro ⟨_, ⟨s, rfl, hs⟩, rfl⟩
      exact ⟨_, rfl, (halike rfl _).mpr ⟨s, hs, rfl⟩⟩

theorem rel_additional (h : Renews node node')
    (halike : ∀ f ∈ positions node, ∀ g, Renews f g → Alike root R S f g)
    (ts : Option (Additional TypeSchema)) :
    Option.Rel (IsAdditional S) (node'.field? "additionalProperties") ts ↔
      ∃ ss, Option.Rel (IsAdditional R) (node.field? "additionalProperties") ss ∧
        ts = match ss, node.field? "additionalProperties" with
          | some (.schema s), some f => some (.schema (withFlags root f s))
          | other, _ => other := by
  have hrel : Option.Rel Renews (node.field? "additionalProperties")
      (node'.field? "additionalProperties") := rel_field? h (by decide)
  cases hf : node.field? "additionalProperties" with
  | none =>
    rw [hf] at hrel
    generalize node'.field? "additionalProperties" = y at hrel
    cases hrel
    constructor
    · intro ht
      cases ht
      exact ⟨none, .none, rfl⟩
    · rintro ⟨_, hs, rfl⟩
      cases hs
      exact .none
  | some f =>
    rw [hf] at hrel
    obtain ⟨g, hg, hfg⟩ := exists_of_rel_some hrel
    rw [hg]
    have hbelow := isAdditional_alike hfg fun hbool =>
      halike f (mem_positions_iff.mpr (Or.inr (Or.inr (Or.inr ⟨hf, hbool⟩)))) g hfg
    constructor
    · intro hrel
      obtain ⟨a, rfl, ha⟩ := exists_of_rel_some hrel
      obtain ⟨b, hb, rfl⟩ := (hbelow a).mp ha
      exact ⟨some b, .some hb, by cases b <;> rfl⟩
    · rintro ⟨_, hrel, rfl⟩
      obtain ⟨b, rfl, hb⟩ := exists_of_rel_some hrel
      cases b with
      | allowed yes => exact .some ((hbelow _).mpr ⟨_, hb, rfl⟩)
      | schema s => exact .some ((hbelow _).mpr ⟨_, hb, rfl⟩)

/-- From alike children, alike schemas are built. -/
theorem built_alike {raw : Fragment} {fields : Fields} (h : Renews node node')
    (hresolve : Reference.resolve root raw = .ok node) (hfields : node.value = .obj fields)
    (hdata : KeepsData fields) (hR : ∀ f s, R f s → f.value.isObj = true)
    (hS : ∀ f s, S f s → f.value.isObj = true)
    (halike : ∀ f ∈ positions node, ∀ g, Renews f g → Alike root R S f g) (t : TypeSchema) :
    Built S node' (promoteNullable (modernizeFields fields)) t ↔
      ∃ s, Built R node fields s ∧ t = withFlags root raw s := by
  have hrenewable := h.renewable
  rw [hfields] at hrenewable
  have hread : ∀ d', Descriptor.read (promoteNullable (modernizeFields fields)) = .ok d' ↔
      ∃ d, Descriptor.read fields = .ok d ∧
        d' = { d with nullable := (node.value.boolAt? "x-nullable").getD d.nullable } := by
    rw [hfields]
    exact fun d' => read_modernize hrenewable.wellFormed.1 hdata hrenewable.movable.1.flag
  have hheld : ∀ keyword ∈ ["allOf", "oneOf", "anyOf"],
      List.Forall₂ (Alike root R S) (heldUnder node keyword) (heldUnder node' keyword) :=
    fun keyword hk => forall₂_mono (forall₂_heldUnder h hk) fun f hf g =>
      halike f (mem_positions_iff.mpr (Or.inl ⟨keyword, hk, hf⟩)) g
  have hsingle : ∀ keyword ∈ ["not", "items"],
      Option.Rel (Alike root R S) (node.field? keyword) (node'.field? keyword) := by
    intro keyword hk
    have hlegacy : keyword ∉ ["$ref", "x-nullable", "nullable"] := by
      simp only [List.mem_cons, List.not_mem_nil, or_false] at hk
      rcases hk with rfl | rfl <;> decide
    exact rel_mono (rel_field? h hlegacy) fun f g hf =>
      halike f (mem_positions_iff.mpr (Or.inr (Or.inl ⟨keyword, hk, hf⟩))) g
  have hall := forall₂_alike (hheld "allOf" (by decide))
  have hone := forall₂_alike (hheld "oneOf" (by decide))
  have hany := forall₂_alike (hheld "anyOf" (by decide))
  have hnot := rel_alike (hsingle "not" (by decide))
  have hitems := rel_alike (hsingle "items" (by decide))
  have hproperties := rel_properties h hR hS halike
  have hadditional := rel_additional h halike
  constructor
  · intro hbuilt
    obtain ⟨d, hd, hdescriptor⟩ := (hread _).mp hbuilt.descriptor
    obtain ⟨allOf, hallOf, hallEq⟩ := (hall _).mp hbuilt.allOf
    obtain ⟨oneOf, honeOf, honeEq⟩ := (hone _).mp hbuilt.oneOf
    obtain ⟨anyOf, hanyOf, hanyEq⟩ := (hany _).mp hbuilt.anyOf
    obtain ⟨negated, hnegated, hnotEq⟩ := (hnot _).mp hbuilt.negated
    obtain ⟨items, hitem, hitemsEq⟩ := (hitems _).mp hbuilt.items
    obtain ⟨properties, hprops, hpropertiesEq⟩ := (hproperties _).mp hbuilt.properties
    obtain ⟨additional, hadd, hadditionalEq⟩ := (hadditional _).mp hbuilt.additional
    refine ⟨⟨d, allOf, oneOf, anyOf, negated, items, properties, additional⟩,
      ⟨hd, hallOf, honeOf, hanyOf, hnegated, hitem, hprops, hadd⟩, ?_⟩
    rw [withFlags, hresolve]
    obtain ⟨_, _, _, _, _, _, _, _⟩ := t
    dsimp only at *
    rw [hdescriptor, hallEq, honeEq, hanyEq, hnotEq, hitemsEq, hpropertiesEq, hadditionalEq]
  · rintro ⟨⟨d, allOf, oneOf, anyOf, negated, items, properties, additional⟩, hbuilt, rfl⟩
    rw [withFlags, hresolve]
    exact {
      descriptor := (hread _).mpr ⟨d, hbuilt.descriptor, rfl⟩
      allOf := (hall _).mpr ⟨allOf, hbuilt.allOf, rfl⟩
      oneOf := (hone _).mpr ⟨oneOf, hbuilt.oneOf, rfl⟩
      anyOf := (hany _).mpr ⟨anyOf, hbuilt.anyOf, rfl⟩
      negated := (hnot _).mpr ⟨negated, hbuilt.negated, rfl⟩
      items := (hitems _).mpr ⟨items, hbuilt.items, rfl⟩
      properties := (hproperties _).mpr ⟨properties, hbuilt.properties, rfl⟩
      additional := (hadditional _).mpr ⟨additional, hbuilt.additional, rfl⟩ }

end Objects

/-! ### Schemas of the two documents -/

theorem isObj_of_unfoldsTo {root : Json} {depth : Nat} {raw : Fragment} {s : TypeSchema}
    (h : UnfoldsTo root depth raw s) : raw.value.isObj = true := by
  cases depth with
  | zero => exact h.elim
  | succ depth =>
    obtain ⟨node, fields, hnode, hfields, _⟩ := h
    cases href : raw.value.reference? with
    | none =>
      rw [Reference.resolve_of_not_reference href] at hnode
      cases hnode
      rw [hfields]
      rfl
    | some pointer =>
      obtain ⟨place, value⟩ := raw
      cases value with
      | obj _ => rfl
      | _ => cases href

/-- Nothing in the data of the objects below a raw schema is rewritten. -/
def LeavesData (root : Json) (raw : Fragment) : Prop :=
  ∀ position node fields, Reached root raw position → Opens root position node →
    node.value = .obj fields → KeepsData fields

/-- It is enough that no object at all has a legacy key in what stands under a data keyword. -/
theorem leavesData_of_everyObject {root v : Json} (hroot : root.EveryObject KeepsData)
    (hv : v.EveryObject KeepsData) : LeavesData root (.ofSupplied v) := by
  have hpart : ∀ f g : Fragment, Part g f →
      f.value.EveryObject KeepsData → g.value.EveryObject KeepsData :=
    fun _ _ h hf => h.everyObject hf
  intro position node fields hreached hopens hfields
  have hposition : position.value.EveryObject KeepsData :=
    hreached.keeps (P := fun f => f.value.EveryObject KeepsData) hpart hroot hv
  have hnode : node.value.EveryObject KeepsData :=
    hopens.keeps (P := fun f => f.value.EveryObject KeepsData) hpart hroot hposition
  rw [hfields] at hnode
  exact hnode.1

/-- At every depth, a raw schema and its copy unfold alike. -/
theorem unfoldsTo_alike {version : String} {doc : Fields} (h : Upgradable doc) {raw : Fragment}
    (hdata : LeavesData (.obj doc) raw) {depth : Nat} : ∀ {f g : Fragment}, Renews f g →
      Reached (.obj doc) raw f →
      Alike (.obj doc) (UnfoldsTo (.obj doc) depth) (UnfoldsTo (upgrade version doc) depth) f g := by
  induction depth with
  | zero =>
    intro f g _ _ t
    constructor
    · exact fun ht => ht.elim
    · rintro ⟨_, hs, _⟩
      exact hs.elim
  | succ depth ih =>
    intro f g hfg hreached t
    have hbuilt : ∀ {node node' : Fragment} {fields : Fields}, Opens (.obj doc) f node →
        Renews node node' → node.value = .obj fields →
        (Built (UnfoldsTo (upgrade version doc) depth) node'
          (promoteNullable (modernizeFields fields)) t ↔
        ∃ s, Built (UnfoldsTo (.obj doc) depth) node fields s ∧ t = withFlags (.obj doc) f s) :=
      fun hopens hrenews hfields => built_alike hrenews hopens.1 hfields
        (hdata f _ _ hreached hopens hfields) (fun _ _ => isObj_of_unfoldsTo)
        (fun _ _ => isObj_of_unfoldsTo)
        (fun child hchild _ hcopy => ih hcopy (hreached.down hopens hchild)) t
    constructor
    · rintro ⟨node', fields', hnode', hfields', hb⟩
      obtain ⟨node, hopens, hrenews⟩ := opens_back h hfg ⟨hnode', fields', hfields'⟩
      obtain ⟨fields, hfields⟩ := hopens.2
      rw [hrenews.value, hfields] at hfields'
      cases hfields'
      obtain ⟨s, hs, rfl⟩ := (hbuilt hopens hrenews hfields).mp hb
      exact ⟨s, ⟨node, fields, hopens.1, hfields, hs⟩, rfl⟩
    · rintro ⟨s, ⟨node, fields, hnode, hfields, hs⟩, rfl⟩
      have hopens : Opens (.obj doc) f node := ⟨hnode, fields, hfields⟩
      obtain ⟨node', hopens', hrenews⟩ : ∃ node', Opens (upgrade version doc) g node' ∧
          Renews node node' := opens_forth h hfg hopens
      refine ⟨node', _, hopens'.1, ?_, (hbuilt hopens hrenews hfields).mpr ⟨s, hs, rfl⟩⟩
      rw [hrenews.value, hfields]
      rfl

/-- **Upgrading keeps the meaning of definitions.**  Take a legacy document without components and
a schema, both of whose string references point into the definitions and whose extensions for null
are flags beside which there is no `nullable`, and let no legacy key stand in the data of a schema.
The rewritten schema resolves in the upgraded document exactly if the schema resolves in the
document, and then to the same tree with the flags put in. -/
theorem resolve_upgrade {version : String} {doc : Fields} {v : Json}
    (hdoc : (Json.obj doc).WellFormed) (hv : v.WellFormed)
    (hcomponents : doc.get? "components" = none)
    (hdefinitions : ∀ w, doc.get? "definitions" = some w → w.EveryObject Movable)
    (hmovable : v.EveryObject Movable) (hdata : LeavesData (.obj doc) (.ofSupplied v))
    (location location' : String) :
    ((∃ t, resolve (upgrade version doc) (.ofSupplied (modernize v)) location = .ok t) ↔
      ∃ s, resolve (.obj doc) (.ofSupplied v) location' = .ok s) ∧
    ∀ s t, resolve (.obj doc) (.ofSupplied v) location' = .ok s →
      resolve (upgrade version doc) (.ofSupplied (modernize v)) location = .ok t →
      t = withFlags (.obj doc) (.ofSupplied v) s := by
  have hupgradable : Upgradable doc := ⟨hdoc, hcomponents, hdefinitions⟩
  have hcopy : Renews (.ofSupplied v) (.ofSupplied (modernize v)) := ⟨⟨hv, hmovable⟩, rfl⟩
  have halike : ∀ t,
      resolve (upgrade version doc) (.ofSupplied (modernize v)) location = .ok t ↔
        ∃ s, resolve (.obj doc) (.ofSupplied v) location' = .ok s ∧
          t = withFlags (.obj doc) (.ofSupplied v) s := by
    intro t
    rw [resolve_eq_ok_iff_unfolds (wellFormed_upgrade hdoc) (wellFormed_modernize hv)]
    simp only [resolve_eq_ok_iff_unfolds hdoc hv]
    constructor
    · rintro ⟨depth, ht⟩
      obtain ⟨s, hs, heq⟩ := (unfoldsTo_alike hupgradable hdata hcopy .start t).mp ht
      exact ⟨s, ⟨depth, hs⟩, heq⟩
    · rintro ⟨s, ⟨depth, hs⟩, heq⟩
      exact ⟨depth, (unfoldsTo_alike hupgradable hdata hcopy .start t).mpr ⟨s, hs, heq⟩⟩
  refine ⟨⟨?_, ?_⟩, ?_⟩
  · rintro ⟨t, ht⟩
    obtain ⟨s, hs, _⟩ := (halike t).mp ht
    exact ⟨s, hs⟩
  · rintro ⟨s, hs⟩
    exact ⟨_, (halike _).mpr ⟨s, hs, rfl⟩⟩
  · intro s t hs ht
    obtain ⟨s', hs', rfl⟩ := (halike t).mp ht
    rw [hs] at hs'
    cases hs'
    rfl

/-- A legacy document with one definition, which may be null. -/
def taggedDocument : Fields :=
  [("swagger", .str "2.0"), ("definitions", .obj [
    ("Tag", .obj [("type", .str "string"), ("x-nullable", .bool true)])])]

/-- Lists of what is defined there. -/
def tagList : Json :=
  .obj [("type", .str "array"), ("items", .obj [("$ref", .str "#/definitions/Tag")])]

/-- The items are not nullable for a reader of the old document, and are for one of the new. -/
theorem resolve_upgrade_of_tagList :
    ∃ s t, resolve (.obj taggedDocument) (.ofSupplied tagList) "#" = .ok s ∧
      resolve (upgrade "3.0.0" taggedDocument) (.ofSupplied (modernize tagList)) "#" = .ok t ∧
      t = withFlags (.obj taggedDocument) (.ofSupplied tagList) s ∧
      s.items.map (·.descriptor.nullable) = some false ∧
      t.items.map (·.descriptor.nullable) = some true := by
  have hdoc : (Json.obj taggedDocument).WellFormed := by
    simp [taggedDocument, Json.WellFormed, Json.FieldsWellFormed]
  have hlist : tagList.WellFormed := by
    simp [tagList, Json.WellFormed, Json.FieldsWellFormed]
  have hdefinitions : ∀ w, taggedDocument.get? "definitions" = some w →
      w.EveryObject Movable := by
    intro w hw
    cases hw
    simp [Json.EveryObject, Json.EveryObjectOfFields, movable_iff, HasFlag, Fields.get?]
  have hmovable : tagList.EveryObject Movable := by
    have htext : ∃ rest, "#/definitions/Tag" = "#/definitions/" ++ rest := ⟨"Tag", rfl⟩
    simpa [tagList, Json.EveryObject, Json.EveryObjectOfFields, movable_iff, HasFlag, Fields.get?]
      using htext
  have hdata : LeavesData (.obj taggedDocument) (.ofSupplied tagList) :=
    leavesData_of_everyObject
      (by simp [taggedDocument, Json.EveryObject, Json.EveryObjectOfFields, KeepsData,
        dataKeywords, Fields.get?])
      (by simp [tagList, Json.EveryObject, Json.EveryObjectOfFields, KeepsData, dataKeywords,
        Fields.get?])
  obtain ⟨hsuccess, hsame⟩ := @resolve_upgrade "3.0.0" taggedDocument tagList hdoc hlist rfl
    hdefinitions hmovable hdata "#" "#"
  let reference : Fragment :=
    ⟨⟨.supplied, [.key "items"]⟩, .obj [("$ref", .str "#/definitions/Tag")]⟩
  let definition : Fragment := ⟨⟨.document, [.key "definitions", .key "Tag"]⟩,
    .obj [("type", .str "string"), ("x-nullable", .bool true)]⟩
  let tag : TypeSchema := ⟨{ kind := some .string }, [], [], [], none, none, none, none⟩
  have hself : Reference.resolve (.obj taggedDocument) (.ofSupplied tagList) =
      .ok (.ofSupplied tagList) := Reference.resolve_of_not_reference rfl
  have htarget : Reference.resolve (.obj taggedDocument) reference = .ok definition :=
    Reference.resolve_eq_ok_iff.mpr ⟨⟨1, rfl⟩, rfl⟩
  have htag : UnfoldsTo (.obj taggedDocument) 1 reference tag :=
    ⟨definition, _, htarget, rfl, rfl, .nil, .nil, .nil, .none, .none, .none, .none⟩
  have hs : resolve (.obj taggedDocument) (.ofSupplied tagList) "#" =
      .ok ⟨{ kind := some .array }, [], [], [], none, some tag, none, none⟩ :=
    (resolve_eq_ok_iff_unfolds hdoc hlist).mpr
      ⟨2, _, _, hself, rfl, rfl, .nil, .nil, .nil, .none, .some htag, .none, .none⟩
  obtain ⟨t, ht⟩ := hsuccess.mpr ⟨_, hs⟩
  have heq := hsame _ t hs ht
  refine ⟨_, t, hs, ht, heq, rfl, ?_⟩
  rw [heq, withFlags, hself]
  show some (withFlags (.obj taggedDocument) reference tag).descriptor.nullable = some true
  rw [withFlags, htarget]
  rfl

end Legacy

end ApiGraph
