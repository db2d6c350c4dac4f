import ApiGraph.Proofs.Schema.Expansion
import ApiGraph.Proofs.Schema.Keywords

/-!
# Schemas read back from their keyword form

The keyword form of a schema is itself a raw schema. It repeats no keyword and holds no reference
where a schema is looked for, whatever its properties are called, since a pointer under `$ref` would
have to be a text and what is written there is an object. So wherever the keyword form of a resolved
schema is put, it resolves to that schema again.
-/

namespace ApiGraph

namespace TypeSchema

open Outcome

/-- A list of members is written unless it is empty. -/
def listValue (members : List TypeSchema) : Option Json :=
  if members.isEmpty then none else some (.arr (members.map toJson))

def additionalValue : Additional TypeSchema → Json
  | .allowed yes => .bool yes
  | .schema s => s.toJson

/-- The schemas that a schema holds, and under which keywords it holds none. -/
def childEntries (s : TypeSchema) : List (String × Option Json) :=
  [("allOf", listValue s.allOf),
   ("oneOf", listValue s.oneOf),
   ("anyOf", listValue s.anyOf),
   ("not", s.negated.map toJson),
   ("items", s.items.map toJson),
   ("properties", s.properties.map fun named => .obj (named.map fun p => (p.1, p.2.toJson))),
   ("additionalProperties", s.additional.map additionalValue)]

/-- Everything that a schema says. -/
def entries (s : TypeSchema) : List (String × Option Json) :=
  s.descriptor.entries ++ s.childEntries

theorem nodup_entries (s : TypeSchema) : (s.entries.map Prod.fst).Nodup := by
  show (Descriptor.keywords ++ keywords).Nodup
  decide

theorem toJsonList_eq_map (members : List TypeSchema) : toJsonList members = members.map toJson := by
  induction members with
  | nil => rfl
  | cons s rest ih => rw [toJsonList, ih, List.map_cons]

theorem toJsonFields_eq_map (named : List (String × TypeSchema)) :
    toJsonFields named = named.map fun p => (p.1, p.2.toJson) := by
  induction named with
  | nil => rfl
  | cons p rest ih => rw [toJsonFields, ih, List.map_cons]

theorem listField_toJsonList (key : String) (members : List TypeSchema) :
    listField key (toJsonList members) = Fields.present [(key, listValue members)] := by
  rw [toJsonList_eq_map, listField, listValue]
  cases members <;> rfl

theorem toJsonOption_eq (key : String) (s : Option TypeSchema) :
    toJsonOption key s = Fields.present [(key, s.map toJson)] := by
  cases s <;> rfl

/-- The keyword form of a schema is what is present in its table. -/
theorem toJson_eq (s : TypeSchema) : s.toJson = .obj (Fields.present s.entries) := by
  obtain ⟨d, allOf, oneOf, anyOf, negated, items, properties, additional⟩ := s
  have htable : Fields.present (entries
      ⟨d, allOf, oneOf, anyOf, negated, items, properties, additional⟩) =
      d.toFields ++ (listField "allOf" (toJsonList allOf) ++ (listField "oneOf" (toJsonList oneOf) ++
        (listField "anyOf" (toJsonList anyOf) ++ (toJsonOption "not" negated ++
          (toJsonOption "items" items ++ Fields.present
            [("properties", properties.map fun named => .obj (toJsonFields named)),
             ("additionalProperties", additional.map additionalValue)]))))) := by
    simp only [Descriptor.toFields_eq, listField_toJsonList, toJsonOption_eq, toJsonFields_eq_map,
      ← Fields.present_append]
    rfl
  rw [htable]
  cases properties <;> rcases additional with _ | ⟨yes⟩ | ⟨t⟩ <;>
    simp [toJson, Fields.present, additionalValue]

/-- A keyword leads to what the table has under it. -/
theorem field?_toJson {s : TypeSchema} {key : String} {v : Option Json} (h : (key, v) ∈ s.childEntries)
    (place : Place) : Fragment.field? ⟨place, s.toJson⟩ key =
      v.map fun w => ⟨place.child (.key key), w⟩ := by
  rw [toJson_eq]
  show (Fields.get? key (Fields.present s.entries)).map _ = _
  rw [Fields.get?_present (nodup_entries s) (List.mem_append_right _ h)]

/-- No keyword is called `$ref`. -/
theorem reference?_present_entries (s : TypeSchema) :
    (Json.obj (Fields.present s.entries)).reference? = none := by
  have hkey : "$ref" ∉ s.entries.map Prod.fst := by
    show "$ref" ∉ Descriptor.keywords ++ keywords
    decide
  show (Fields.get? "$ref" (Fields.present s.entries)).bind Json.str? = none
  rw [Fields.get?_present_of_not_mem hkey]
  rfl

/-- The keywords that hold schemas are no part of what is read as the descriptor. -/
theorem read_present_entries {s : TypeSchema} (h : s.descriptor.HoldsNoNull) :
    Descriptor.read (Fields.present s.entries) = .ok s.descriptor := by
  have hignored : ∀ fields : Fields, (∀ field ∈ fields, Descriptor.Ignores field.1) →
      ∀ d, fields.foldlM Descriptor.readField d = .ok d := by
    intro fields hfields
    induction fields with
    | nil => exact fun _ => rfl
    | cons field rest ih =>
      obtain ⟨hfield, hrest⟩ := List.forall_mem_cons.mp hfields
      intro d
      rw [List.foldlM_cons, Descriptor.readField, hfield]
      exact ih hrest d
  have hchildren : ∀ field ∈ Fields.present s.childEntries, Descriptor.Ignores field.1 := by
    intro field hfield
    refine ignores_of_mem_keywords ?_
    show field.1 ∈ s.childEntries.map Prod.fst
    by_contra hnot
    exact Fields.get?_eq_none_iff.mp (Fields.get?_present_of_not_mem hnot)
      (List.mem_map_of_mem hfield)
  have hdescriptor := Descriptor.read_toFields h
  rw [Descriptor.toFields_eq, Descriptor.read_eq] at hdescriptor
  rw [entries, Fields.present_append, Descriptor.read_eq, List.foldlM_append, hdescriptor]
  exact hignored _ hchildren _

/-- Every schema directly below a schema has a property. -/
structure EveryChild (P : TypeSchema → Prop) (s : TypeSchema) : Prop where
  allOf : ∀ t ∈ s.allOf, P t
  oneOf : ∀ t ∈ s.oneOf, P t
  anyOf : ∀ t ∈ s.anyOf, P t
  negated : ∀ t, s.negated = some t → P t
  items : ∀ t, s.items = some t → P t
  properties : ∀ named, s.properties = some named → ∀ p ∈ named, P p.2
  additional : ∀ t, s.additional = some (.schema t) → P t

/-- What the relation to a raw schema says of a child holds of every child that has been built. -/
theorem Built.everyChild {R : Fragment → TypeSchema → Prop} {P : TypeSchema → Prop} {node : Fragment}
    {fields : Fields} {s : TypeSchema} (h : Built R node fields s) (hRP : ∀ f t, R f t → P t) :
    EveryChild P s := by
  have hmembers : ∀ {fs : List Fragment} {ts : List TypeSchema}, List.Forall₂ R fs ts →
      ∀ t ∈ ts, P t := by
    intro fs ts hall t ht
    obtain ⟨f, _, hR⟩ := exists_of_forall₂_mem hall.flip ht
    exact hRP f t hR
  have hmember : ∀ {f : Option Fragment} {o : Option TypeSchema}, Option.Rel R f o →
      ∀ t, o = some t → P t := by
    intro f o hrel t ht
    obtain ⟨_, _, hR⟩ := exists_of_rel_some_right (ht ▸ hrel)
    exact hRP _ t hR
  refine ⟨hmembers h.allOf, hmembers h.oneOf, hmembers h.anyOf, hmember h.negated, hmember h.items,
    ?_, ?_⟩
  · intro named hnamed p hp
    obtain ⟨_, _, hprops⟩ := exists_of_rel_some_right (hnamed ▸ h.properties)
    obtain ⟨raw, _, hR⟩ := exists_of_forall₂_mem hprops.2.flip hp
    exact hRP _ _ hR.2
  · intro t ht
    obtain ⟨⟨place, value⟩, _, hadd⟩ := exists_of_rel_some_right (ht ▸ h.additional)
    cases value with
    | bool yes => cases hadd
    | _ =>
      obtain ⟨_, heq, hR⟩ := hadd
      cases heq
      exact hRP _ t hR

section Written

variable {P : Json → TypeSchema → Prop} {s : TypeSchema}

theorem forall₂_heldUnder_toJson {key : String} {members : List TypeSchema}
    (hkey : (key, listValue members) ∈ s.childEntries) (h : ∀ t ∈ members, P t.toJson t)
    (place : Place) :
    List.Forall₂ (fun g t => P g.value t) (heldUnder ⟨place, s.toJson⟩ key) members := by
  rw [heldUnder, field?_toJson hkey]
  cases members with
  | nil => exact .nil
  | cons first rest =>
    have hall : List.Forall₂ P ((first :: rest).map toJson) (first :: rest) := by
      rw [List.forall₂_map_left_iff]
      exact List.forall₂_same.mpr h
    rw [← membersOf_arr_values (place.child (.key key)) ((first :: rest).map toJson),
      List.forall₂_map_left_iff] at hall
    exact hall

theorem rel_field?_toJson {key : String} {t : Option TypeSchema}
    (hkey : (key, t.map toJson) ∈ s.childEntries) (h : ∀ u, t = some u → P u.toJson u)
    (place : Place) :
    Option.Rel (fun g t => P g.value t) (Fragment.field? ⟨place, s.toJson⟩ key) t := by
  rw [field?_toJson hkey]
  cases t with
  | none => exact .none
  | some u => exact .some (h u rfl)

theorem areProperties_toJson {named : List (String × TypeSchema)} (h : ∀ p ∈ named, P p.2.toJson p.2)
    (place : Place) : AreProperties (fun g t => P g.value t)
      ⟨place, .obj (named.map fun p => (p.1, p.2.toJson))⟩ named := by
  refine ⟨rfl, ?_⟩
  show List.Forall₂ _ ((named.map fun p => (p.1, p.2.toJson)).map fun field =>
    (field.1, (⟨place.child (.key field.1), field.2⟩ : Fragment))) named
  rw [List.map_map, List.forall₂_map_left_iff]
  exact List.forall₂_same.mpr fun p hp => ⟨rfl, h p hp⟩

theorem isAdditional_toJson {a : Additional TypeSchema} (h : ∀ t, a = .schema t → P t.toJson t)
    (place : Place) : IsAdditional (fun g t => P g.value t) ⟨place, additionalValue a⟩ a := by
  cases a with
  | allowed yes => rfl
  | schema t =>
    have hP := h t rfl
    rw [additionalValue]
    rw [toJson_eq] at hP ⊢
    exact ⟨t, rfl, hP⟩

/-- The keyword form of a schema is an object from which the schema is built. -/
theorem EveryChild.built (h : EveryChild (fun t => P t.toJson t) s)
    (hdata : s.descriptor.HoldsNoNull) (place : Place) :
    Built (fun g t => P g.value t) ⟨place, s.toJson⟩ (Fields.present s.entries) s where
  descriptor := read_present_entries hdata
  allOf := forall₂_heldUnder_toJson (by simp [childEntries]) h.allOf place
  oneOf := forall₂_heldUnder_toJson (by simp [childEntries]) h.oneOf place
  anyOf := forall₂_heldUnder_toJson (by simp [childEntries]) h.anyOf place
  negated := rel_field?_toJson (by simp [childEntries]) h.negated place
  items := rel_field?_toJson (by simp [childEntries]) h.items place
  properties := by
    rw [field?_toJson (v := s.properties.map fun named => .obj (named.map fun p =>
      (p.1, p.2.toJson))) (by simp [childEntries])]
    cases hnamed : s.properties with
    | none => exact .none
    | some named => exact .some (areProperties_toJson (h.properties named hnamed) _)
  additional := by
    rw [field?_toJson (v := s.additional.map additionalValue) (by simp [childEntries])]
    cases hadd : s.additional with
    | none => exact .none
    | some a => exact .some (isAdditional_toJson (fun t ha => h.additional t (ha ▸ hadd)) _)

end Written

/-- What has been resolved resolves to itself, by induction over its positions. -/
theorem stands_toJson {root : Json} {unopened : List Place} {raw : Fragment} {l : String}
    {s : TypeSchema} (h : resolveBelow root unopened (raw, l) = .ok s) : Stands s.toJson s := by
  refine @resolveBelow_induction root (fun _ _ s => Stands s.toJson s) ?_ _ _ _ _ h
  intro _ _ node fields s _ _ _ hbuilt
  have hchildren : EveryChild (fun t => Stands t.toJson t) s := hbuilt.everyChild fun _ _ h => h.2
  have hwritten := hchildren.built (Descriptor.holdsNoNull_of_read hbuilt.descriptor)
  rw [toJson_eq] at hwritten ⊢
  exact stands_of_built (reference?_present_entries s) hwritten

/-- **A resolved schema is a self-contained fixed point.**  Its keyword form holds no reference where
a schema is looked for, and resolves to the same schema, with its properties in the same order, in
every document, wherever it is put and whatever its position is called. -/
theorem resolve_toJson {root : Json} {raw : Fragment} {location : String} {s : TypeSchema}
    (h : resolve root raw location = .ok s) (place : Place) :
    ReferenceFree ⟨place, s.toJson⟩ ∧
    ∀ other location', resolve other ⟨place, s.toJson⟩ location' = .ok s := by
  have hstands := stands_toJson h
  refine ⟨hstands.referenceFree place, fun other location' => ?_⟩
  exact hstands.resolves other _ place location' (List.subset_append_left _ _)

/-- Properties that are called like a keyword and like a reference, one of them being a reference, and
data that is `null`. -/
theorem resolve_toJson_of_keyword_names :
    let root : Json := .obj [("names", .obj [("format", .str "uuid")])]
    let raw : Fragment := .ofSupplied (.obj
      [("default", .null),
       ("properties", .obj [("type", .obj []), ("$ref", .obj [("$ref", .str "#/names")])])])
    let s : TypeSchema := ⟨{}, [], [], [], none, none,
      some [("type", ⟨{}, [], [], [], none, none, none, none⟩),
        ("$ref", ⟨{ format := some "uuid" }, [], [], [], none, none, none, none⟩)], none⟩
    resolve root raw "#" = .ok s ∧ ReferenceFree (.ofSupplied s.toJson) ∧
      resolve .null (.ofSupplied s.toJson) "#/again" = .ok s := by
  intro root raw s
  have h : resolve root raw "#" = .ok s := by
    subst root raw s
    cbv
  obtain ⟨hfree, hresolves⟩ := resolve_toJson h ⟨.supplied, []⟩
  exact ⟨h, hfree, hresolves .null "#/again"⟩

end TypeSchema

end ApiGraph
