import ApiGraph.Proofs.Legacy.WellFormed
import ApiGraph.Proofs.Reference.Pointer
import ApiGraph.Proofs.Schema.Unfolding

/-!
# Renewed fragments

In an upgraded document the definitions stand in another place, and hold rewritten what they
held before. A fragment and its rewritten copy lead, key by key and reference by reference,
to a fragment and its rewritten copy again. Where they do not, what they lead to has no parts:
a flag that has changed its name or the text of a pointer, neither of which is an object.

So a position stands for an object in the old document exactly if its copy stands for one in
the new document, and the two objects have the same positions.
-/

namespace ApiGraph

/-- Whether there is anything below a value. -/
def Json.hasParts : Json → Bool
  | .arr _ => true
  | .obj _ => true
  | _ => false

theorem Fragment.hasParts_of_step? {f g : Fragment} {key : String} (h : f.step? key = some g) :
    f.value.hasParts = true := by
  obtain ⟨place, value⟩ := f
  cases value with
  | arr _ => rfl
  | obj _ => rfl
  | _ => cases h

/-- What leads to something with parts has parts. -/
theorem Fragment.hasParts_of_walk? {f g : Fragment} {keys : List String}
    (h : f.walk? keys = some g) (hg : g.value.hasParts = true) : f.value.hasParts = true := by
  cases keys with
  | nil =>
    cases h
    exact hg
  | cons key rest =>
    obtain ⟨_, hstep, _⟩ := Option.bind_eq_some_iff.mp h
    exact hasParts_of_step? hstep

namespace Legacy

open Fragment Outcome TypeSchema

/-- The legacy keywords of an object can be rewritten without loss. -/
@[mk_iff]
structure Movable (fields : Fields) : Prop where
  reference : ∀ pointer, fields.get? "$ref" = some (.str pointer) →
    ∃ rest, pointer = "#/definitions/" ++ rest
  flag : HasFlag fields

/-- A value with legacy keywords that can be rewritten without loss. -/
structure Renewable (v : Json) : Prop where
  wellFormed : v.WellFormed
  movable : v.EveryObject Movable

/-- The second fragment holds rewritten what the first one holds. -/
structure Renews (f g : Fragment) : Prop where
  renewable : Renewable f.value
  value : g.value = modernize f.value

theorem Renewable.part {f g : Fragment} (hf : Renewable f.value) (h : Part g f) :
    Renewable g.value :=
  ⟨h.wellFormed hf.wellFormed, h.everyObject hf.movable⟩

theorem hasParts_modernize (v : Json) : (modernize v).hasParts = v.hasParts := by
  cases v <;> rfl

theorem retargetField_of_hasParts {key : String} {v : Json} (h : v.hasParts = true) :
    retargetField key v = v := by
  cases v with
  | str _ => cases h
  | _ => rfl

/-! ### Fields of a rewritten object -/

theorem hasFlag_modernizeFields {fields : Fields} (h : HasFlag fields) :
    HasFlag (modernizeFields fields) := by
  intro v hv
  rw [get?_modernizeFields, Option.map_eq_some_iff] at hv
  obtain ⟨w, hw, rfl⟩ := hv
  obtain ⟨⟨b, rfl⟩, hnone⟩ := h w hw
  refine ⟨⟨b, rfl⟩, ?_⟩
  rw [get?_modernizeFields, hnone]
  rfl

/-- The flag has no parts, so what has parts does not see it change its name. -/
theorem get?_promoteNullable_of_hasParts {fields : Fields}
    (hnodup : (fields.map Prod.fst).Nodup) (hflag : HasFlag fields) {key : String} {v : Json}
    (hv : v.hasParts = true) :
    Fields.get? key (promoteNullable fields) = some v ↔ fields.get? key = some v := by
  cases hold : fields.get? "x-nullable" with
  | none => rw [promoteNullable_of_none hold]
  | some flag =>
    obtain ⟨⟨b, rfl⟩, hnone⟩ := hflag flag hold
    by_cases hkey : key ≠ "x-nullable" ∧ key ≠ "nullable"
    · rw [get?_promoteNullable hnodup hkey.1 hkey.2]
    · -- Under the two names of the flag there is nothing with parts, before or after.
      have hbool : ∀ w, (w = none ∨ w = some (Json.bool b)) → (w = some v ↔ False) := by
        rintro w (rfl | rfl)
        · simp
        · simp only [Option.some.injEq, iff_false]
          rintro rfl
          cases hv
      rw [promoteNullable_of_some hnodup hold hnone, Fields.get?_append]
      rw [not_and_or, not_not, not_not] at hkey
      rcases hkey with rfl | rfl
      · rw [Fields.get?_erase_self hnodup, hold, hbool _ (Or.inr rfl)]
        exact hbool _ (Or.inl rfl)
      · rw [Fields.get?_erase_of_ne hnodup (by decide), hnone, hbool none (Or.inl rfl)]
        exact hbool _ (Or.inr rfl)

theorem get?_modernize_of_hasParts {fields : Fields} (h : Renewable (.obj fields)) {key : String}
    {w : Json} (hw : w.hasParts = true) :
    Fields.get? key (promoteNullable (modernizeFields fields)) = some w ↔
      ∃ v, fields.get? key = some v ∧ w = modernize v := by
  rw [get?_promoteNullable_of_hasParts (nodup_modernizeFields h.wellFormed.1)
    (hasFlag_modernizeFields h.movable.1.flag) hw, get?_modernizeFields, Option.map_eq_some_iff]
  refine exists_congr fun v => and_congr_right fun _ => ?_
  constructor
  · rintro rfl
    cases hm : modernize v with
    | str pointer =>
      rw [hm, retargetField] at hw
      split at hw <;> cases hw
    | _ => rfl
  · rintro rfl
    exact retargetField_of_hasParts hw

/-! ### Walks -/

/-- Two lookups find a fragment and its copy, as far as they find something with parts. -/
structure Meet (x y : Option Fragment) : Prop where
  forth : ∀ f, x = some f → f.value.hasParts = true → ∃ g, y = some g ∧ Renews f g
  back : ∀ g, y = some g → g.value.hasParts = true → ∃ f, x = some f ∧ Renews f g

theorem Meet.of_renews {f g : Fragment} (h : Renews f g) : Meet (some f) (some g) where
  forth _ hf _ := ⟨g, rfl, Option.some.inj hf ▸ h⟩
  back _ hg _ := ⟨f, rfl, Option.some.inj hg ▸ h⟩

theorem Meet.none : Meet none none where
  forth _ hf := by cases hf
  back _ hg := by cases hg

/-- Lookups go on from what has parts only, so they may be put in a row. -/
theorem Meet.bind {x y : Option Fragment} {next next' : Fragment → Option Fragment}
    (h : Meet x y) (hnext : ∀ f g, Renews f g → Meet (next f) (next' g))
    (hparts : ∀ f f', next f = some f' → f'.value.hasParts = true → f.value.hasParts = true)
    (hparts' : ∀ g g', next' g = some g' → g'.value.hasParts = true → g.value.hasParts = true) :
    Meet (x.bind next) (y.bind next') where
  forth f' hf' hhas := by
    obtain ⟨f, hf, hstep⟩ := Option.bind_eq_some_iff.mp hf'
    obtain ⟨g, hg, hrenews⟩ := h.forth f hf (hparts f f' hstep hhas)
    obtain ⟨g', hg', hrenews'⟩ := (hnext f g hrenews).forth f' hstep hhas
    exact ⟨g', Option.bind_eq_some_iff.mpr ⟨g, hg, hg'⟩, hrenews'⟩
  back g' hg' hhas := by
    obtain ⟨g, hg, hstep⟩ := Option.bind_eq_some_iff.mp hg'
    obtain ⟨f, hf, hrenews⟩ := h.back g hg (hparts' g g' hstep hhas)
    obtain ⟨f', hf', hrenews'⟩ := (hnext f g hrenews).back g' hstep hhas
    exact ⟨f', Option.bind_eq_some_iff.mpr ⟨f, hf, hf'⟩, hrenews'⟩

theorem meet_field? {place place' : Place} {fields : Fields} (h : Renewable (.obj fields))
    (key : String) : Meet (Fragment.field? ⟨place, .obj fields⟩ key)
      (Fragment.field? ⟨place', modernize (.obj fields)⟩ key) where
  forth f hf hhas := by
    have hpart := Fragment.part_of_field? hf
    obtain ⟨v, hv, rfl⟩ := Fragment.field?_eq_some_iff.mp hf
    have hget : Fields.get? key (promoteNullable (modernizeFields fields)) = some (modernize v) :=
      (get?_modernize_of_hasParts h ((hasParts_modernize v).trans hhas)).mpr ⟨v, hv, rfl⟩
    exact ⟨_, Fragment.field?_eq_some_iff.mpr ⟨_, hget, rfl⟩, Renewable.part h hpart, rfl⟩
  back g hg hhas := by
    obtain ⟨w, hw, rfl⟩ := Fragment.field?_eq_some_iff.mp hg
    obtain ⟨v, hv, rfl⟩ := (get?_modernize_of_hasParts h hhas).mp hw
    have hf : Fragment.field? ⟨place, .obj fields⟩ key = some ⟨place.child (.key key), v⟩ :=
      Fragment.field?_eq_some_iff.mpr ⟨v, hv, rfl⟩
    exact ⟨_, hf, Renewable.part h (Fragment.part_of_field? hf), rfl⟩

theorem meet_step? {f g : Fragment} (h : Renews f g) (key : String) :
    Meet (f.step? key) (g.step? key) := by
  obtain ⟨place, v⟩ := f
  obtain ⟨place', w⟩ := g
  obtain ⟨hrenewable, hw⟩ := h
  cases hw
  cases v with
  | obj fields => exact meet_field? hrenewable key
  | arr items =>
    show Meet
      ((Text.natural? key).bind fun i =>
        (items[i]?).bind fun v => some ⟨place.child (.index i), v⟩)
      ((Text.natural? key).bind fun i =>
        ((modernizeItems items)[i]?).bind fun v => some ⟨place'.child (.index i), v⟩)
    cases Text.natural? key with
    | none => exact .none
    | some i =>
      rw [Option.bind_some, Option.bind_some, modernizeItems_eq_map, List.getElem?_map]
      cases hi : items[i]? with
      | none => exact .none
      | some v => exact .of_renews ⟨Renewable.part hrenewable (.item hi), rfl⟩
  | _ => exact .none

theorem meet_walk? {keys : List String} : ∀ {f g : Fragment}, Renews f g →
    Meet (f.walk? keys) (g.walk? keys) := by
  induction keys with
  | nil => exact fun h => .of_renews h
  | cons key rest ih =>
    exact fun h => (meet_step? h key).bind (fun _ _ => ih) (fun _ _ => hasParts_of_walk?)
      fun _ _ => hasParts_of_walk?

/-! ### The two documents -/

/-- A document whose definitions can be moved. -/
structure Upgradable (doc : Fields) : Prop where
  wellFormed : (Json.obj doc).WellFormed
  components : doc.get? "components" = none
  definitions : ∀ v, doc.get? "definitions" = some v → v.EveryObject Movable

section Documents

variable {version : String} {doc : Fields}

/-- The definitions stand, rewritten, among the schemas of the upgraded document. -/
theorem walk?_schemas (h : Upgradable doc) :
    (Fragment.ofDocument (upgrade version doc)).walk? ["components", "schemas"] =
      (doc.get? "definitions").map fun v =>
        ⟨⟨.document, [.key "components", .key "schemas"]⟩, modernize v⟩ := by
  have hcomponents : (upgrade version doc).get? "components" =
      (Fields.get? "components" (assembled version doc)).map fun v =>
        retargetField "components" (modernize v) :=
    get?_modernize (wellFormed_assembled h.wellFormed) (by decide) (by decide)
  have hwalk : (Fragment.ofDocument (upgrade version doc)).walk? ["components", "schemas"] =
      (((upgrade version doc).get? "components").map fun v =>
        (⟨⟨.document, [.key "components"]⟩, v⟩ : Fragment)).bind fun f =>
          (f.step? "schemas").bind some := rfl
  rw [hwalk, hcomponents, get?_assembled_components h.wellFormed h.components]
  have hschemas := get?_components_schemas (surroundings doc) doc
  by_cases hempty : components (surroundings doc) doc = []
  · rw [hempty] at hschemas ⊢
    rw [← hschemas]
    rfl
  · have hsome : (components (surroundings doc) doc).isEmpty = false := by
      simpa using hempty
    have hget : (modernize (.obj (components (surroundings doc) doc))).get? "schemas" =
        (doc.get? "definitions").map fun v => retargetField "schemas" (modernize v) := by
      rw [get?_modernize (wellFormed_components h.wellFormed) (by decide) (by decide)]
      exact congrArg _ hschemas
    rw [hsome]
    show (((modernize (.obj (components (surroundings doc) doc))).get? "schemas").map _).bind some = _
    rw [hget]
    cases doc.get? "definitions" with
    | none => rfl
    | some v =>
      rw [Option.map_some, retargetField_of_ne (by decide)]
      rfl

theorem walk?_definitions (doc : Fields) :
    (Fragment.ofDocument (.obj doc)).walk? ["definitions"] =
      (doc.get? "definitions").map fun v => ⟨⟨.document, [.key "definitions"]⟩, v⟩ := by
  show ((doc.get? "definitions").map _).bind some = _
  cases doc.get? "definitions" <;> rfl

/-- A pointer into the definitions and its new text lead to a fragment and its copy. -/
theorem meet_definitions (h : Upgradable doc) (keys : List String) :
    Meet ((Fragment.ofDocument (.obj doc)).walk? ("definitions" :: keys))
      ((Fragment.ofDocument (upgrade version doc)).walk? ("components" :: "schemas" :: keys)) := by
  rw [show "definitions" :: keys = ["definitions"] ++ keys from rfl,
    show "components" :: "schemas" :: keys = ["components", "schemas"] ++ keys from rfl,
    walk?_append, walk?_append, walk?_schemas h, walk?_definitions]
  cases hget : doc.get? "definitions" with
  | none => exact .none
  | some v =>
    have hv : Renewable v := ⟨h.wellFormed.get? (v := .obj doc) hget, h.definitions v hget⟩
    exact meet_walk? ⟨hv, rfl⟩

theorem hasParts_of_next? {root : Json} {f f' : Fragment}
    (h : Reference.next? root f = some f') : f.value.hasParts = true := by
  obtain ⟨pointer, href, _⟩ := Reference.next?_eq_some_iff.mp h
  obtain ⟨place, value⟩ := f
  cases value with
  | obj _ => rfl
  | _ => cases href

theorem meet_next? (h : Upgradable doc) {f g : Fragment} (hfg : Renews f g) :
    Meet (Reference.next? (.obj doc) f) (Reference.next? (upgrade version doc) g) := by
  have href : g.value.reference? = f.value.reference?.map retarget := by
    rw [hfg.value]
    exact reference?_modernize hfg.renewable.wellFormed
  cases hf : f.value.reference? with
  | none =>
    rw [hf] at href
    rw [Reference.next?_of_not_reference hf, Reference.next?_of_not_reference href]
    exact .none
  | some pointer =>
    obtain ⟨rest, rfl⟩ : ∃ rest, pointer = "#/definitions/" ++ rest := by
      obtain ⟨place, v⟩ := f
      cases v with
      | obj fields =>
        obtain ⟨w, hw, hstr⟩ := Option.bind_eq_some_iff.mp hf
        cases w with
        | str s =>
          cases hstr
          exact hfg.renewable.movable.1.reference pointer hw
        | _ => cases hstr
      | _ => cases hf
    rw [hf, Option.map_some, retarget_append "#/definitions/" List.mem_cons_self] at href
    have hnext : Reference.next? (.obj doc) f =
        (Fragment.ofDocument (.obj doc)).walk? ("definitions" :: Pointer.segments rest) := by
      rw [Reference.next?_of_isLocal hf (Pointer.isLocal_append rfl rest), Pointer.keys_definitions]
    have hnext' : Reference.next? (upgrade version doc) g =
        (Fragment.ofDocument (upgrade version doc)).walk?
          ("components" :: "schemas" :: Pointer.segments rest) := by
      rw [Reference.next?_of_isLocal href (Pointer.isLocal_append rfl rest), Pointer.keys_schemas]
    rw [hnext, hnext']
    exact meet_definitions h _

theorem meet_after (h : Upgradable doc) {f g : Fragment} (hfg : Renews f g) (n : Nat) :
    Meet (Reference.after (.obj doc) f n) (Reference.after (upgrade version doc) g n) := by
  induction n with
  | zero => exact .of_renews hfg
  | succ n ih =>
    exact ih.bind (fun _ _ => meet_next? h) (fun _ _ hnext _ => hasParts_of_next? hnext)
      fun _ _ hnext _ => hasParts_of_next? hnext

theorem hasParts_of_opens {root : Json} {f node : Fragment} (h : Opens root f node) :
    node.value.hasParts = true := by
  obtain ⟨_, fields, hfields⟩ := h
  rw [hfields]
  rfl

/-- Where a position stands for an object, its copy stands for the copy of the object. -/
theorem opens_forth (h : Upgradable doc) {f g node : Fragment} (hfg : Renews f g)
    (hopens : Opens (.obj doc) f node) :
    ∃ node', Opens (upgrade version doc) g node' ∧ Renews node node' := by
  obtain ⟨⟨n, hn⟩, hend⟩ := Reference.resolve_eq_ok_iff.mp hopens.1
  obtain ⟨node', hn', hrenews⟩ := (meet_after h hfg n).forth node hn (hasParts_of_opens hopens)
  obtain ⟨fields, hfields⟩ := hopens.2
  refine ⟨node', ⟨Reference.resolve_eq_ok_iff.mpr ⟨⟨n, hn'⟩, ?_⟩, ?_⟩, hrenews⟩
  · rw [hrenews.value, reference?_modernize hrenews.renewable.wellFormed, hend]
    rfl
  · rw [hrenews.value, hfields]
    exact ⟨_, rfl⟩

theorem opens_back (h : Upgradable doc) {f g node' : Fragment} (hfg : Renews f g)
    (hopens : Opens (upgrade version doc) g node') :
    ∃ node, Opens (.obj doc) f node ∧ Renews node node' := by
  obtain ⟨⟨n, hn'⟩, hend⟩ := Reference.resolve_eq_ok_iff.mp hopens.1
  obtain ⟨node, hn, hrenews⟩ := (meet_after h hfg n).back node' hn' (hasParts_of_opens hopens)
  obtain ⟨fields', hfields'⟩ := hopens.2
  refine ⟨node, ⟨Reference.resolve_eq_ok_iff.mpr ⟨⟨n, hn⟩, ?_⟩, ?_⟩, hrenews⟩
  · rw [hrenews.value, reference?_modernize hrenews.renewable.wellFormed] at hend
    exact Option.map_eq_none_iff.mp hend
  · rw [hrenews.value] at hfields'
    obtain ⟨place, v⟩ := node
    cases v with
    | obj fields => exact ⟨fields, rfl⟩
    | _ => cases hfields'

end Documents

/-! ### Positions of a renewed object -/

section Positions

variable {node node' : Fragment}

/-- A keyword other than the legacy ones holds the copy of what it held. -/
theorem rel_field? (h : Renews node node') {key : String}
    (hkey : key ∉ ["$ref", "x-nullable", "nullable"]) :
    Option.Rel Renews (node.field? key) (node'.field? key) := by
  simp only [List.mem_cons, List.not_mem_nil, or_false, not_or] at hkey
  have hget : node'.value.get? key = (node.value.get? key).map modernize := by
    rw [h.value, get?_modernize h.renewable.wellFormed hkey.2.1 hkey.2.2]
    congr 1
    funext v
    exact retargetField_of_ne hkey.1 _
  rw [Fragment.field?, Fragment.field?, hget]
  cases hv : node.value.get? key with
  | none => exact .none
  | some v =>
    have hfield : node.field? key = some ⟨node.place.child (.key key), v⟩ :=
      Fragment.field?_eq_some_iff.mpr ⟨v, hv, rfl⟩
    exact .some ⟨h.renewable.part (Fragment.part_of_field? hfield), rfl⟩

theorem forall₂_items {f g : Fragment} (h : Renews f g) :
    List.Forall₂ Renews f.items g.items := by
  have hvalues : List.Forall₂ (fun a b : Fragment => modernize a.value = b.value)
      f.items g.items := by
    have hitems : f.items.map (modernize ∘ Fragment.value) = g.items.map Fragment.value := by
      rw [← List.map_map, map_value_items, map_value_items, h.value]
      cases f.value with
      | arr items => exact (modernizeItems_eq_map items).symm
      | _ => rfl
    exact map_eq_map_iff_forall₂.mp hitems
  exact forall₂_mono hvalues fun a ha b hb =>
    ⟨h.renewable.part (Fragment.part_of_mem_items ha), hb.symm⟩

theorem forall₂_heldUnder (h : Renews node node') {keyword : String}
    (hkey : keyword ∈ ["allOf", "oneOf", "anyOf"]) :
    List.Forall₂ Renews (heldUnder node keyword) (heldUnder node' keyword) := by
  have hlegacy : keyword ∉ ["$ref", "x-nullable", "nullable"] := by
    simp only [List.mem_cons, List.not_mem_nil, or_false] at hkey
    rcases hkey with rfl | rfl | rfl <;> decide
  have hrel := rel_field? h hlegacy
  rw [heldUnder, heldUnder]
  cases hf : node.field? keyword with
  | none =>
    rw [hf] at hrel
    generalize node'.field? keyword = y at hrel
    cases hrel
    exact .nil
  | some f =>
    rw [hf] at hrel
    obtain ⟨g, hg, hfg⟩ := exists_of_rel_some hrel
    rw [hg]
    have hitems := forall₂_items hfg
    obtain ⟨place, v⟩ := f
    obtain ⟨place', w⟩ := g
    have hw : w = modernize v := hfg.value
    subst hw
    cases v with
    | arr items => exact hitems
    | _ => exact .cons hfg .nil

/-- Every field of an object holds an object. -/
def HoldsObjects (fields : Fields) : Prop := ∀ field ∈ fields, field.2.isObj = true

/-- An object of objects has no flag to change its name. -/
theorem HoldsObjects.promoteNullable_eq {fields : Fields} (h : HoldsObjects fields)
    (hflag : HasFlag fields) : promoteNullable (modernizeFields fields) = modernizeFields fields := by
  refine promoteNullable_of_none ?_
  rw [get?_modernizeFields]
  cases hold : fields.get? "x-nullable" with
  | none => rfl
  | some flag =>
    obtain ⟨⟨b, rfl⟩, _⟩ := hflag flag hold
    cases h _ (Fields.mem_of_get?_eq_some hold)

/-- Only an object of objects becomes one. -/
theorem holdsObjects_of_modernize {fields : Fields} (hnodup : (fields.map Prod.fst).Nodup)
    (hflag : HasFlag fields) (h : HoldsObjects (promoteNullable (modernizeFields fields))) :
    HoldsObjects fields := by
  cases hold : Fields.get? "x-nullable" (modernizeFields fields) with
  | none =>
    rw [promoteNullable_of_none hold, modernizeFields_eq_map] at h
    intro field hfield
    have hobj := h _ (List.mem_map_of_mem hfield)
    rw [isObj_retargetField, isObj_modernize] at hobj
    exact hobj
  | some flag =>
    obtain ⟨⟨b, rfl⟩, hnone⟩ := hasFlag_modernizeFields hflag flag hold
    rw [promoteNullable_of_some (nodup_modernizeFields hnodup) hold hnone] at h
    cases h ("nullable", .bool b) (by simp)

theorem holdsObjects_of_fields {place : Place} {fields : Fields}
    (h : ∀ raw ∈ Fragment.fields ⟨place, .obj fields⟩, raw.2.value.isObj = true) :
    HoldsObjects fields := fun field hfield =>
  h (field.1, ⟨place.child (.key field.1), field.2⟩) (List.mem_map.mpr ⟨field, hfield, rfl⟩)

/-- If all fields of an object, before or after, hold objects, then they are the same ones. -/
theorem forall₂_fields {f g : Fragment} (h : Renews f g)
    (hfields : (∀ raw ∈ f.fields, raw.2.value.isObj = true) ∨
      ∀ raw ∈ g.fields, raw.2.value.isObj = true) :
    List.Forall₂ (fun raw raw' => raw.1 = raw'.1 ∧ Renews raw.2 raw'.2) f.fields g.fields := by
  obtain ⟨place, v⟩ := f
  obtain ⟨place', w⟩ := g
  obtain ⟨hrenewable, hw⟩ := h
  cases hw
  cases v with
  | obj fields =>
    have hflag := hrenewable.movable.1.flag
    have hobjects : HoldsObjects fields := hfields.elim holdsObjects_of_fields fun hall =>
      holdsObjects_of_modernize hrenewable.wellFormed.1 hflag (holdsObjects_of_fields hall)
    show List.Forall₂ _ (fields.map fun field =>
        (field.1, (⟨place.child (.key field.1), field.2⟩ : Fragment)))
      ((promoteNullable (modernizeFields fields)).map fun field =>
        (field.1, (⟨place'.child (.key field.1), field.2⟩ : Fragment)))
    rw [hobjects.promoteNullable_eq hflag, modernizeFields_eq_map, List.map_map,
      List.forall₂_map_left_iff, List.forall₂_map_right_iff, List.forall₂_same]
    intro field hfield
    refine ⟨rfl, hrenewable.part (.field hfield), retargetField_of_hasParts ?_⟩
    have hobj := hobjects field hfield
    rw [hasParts_modernize]
    generalize field.2 = v at hobj
    cases v with
    | obj _ => rfl
    | _ => cases hobj
  | _ => exact .nil

end Positions

end Legacy

end ApiGraph
