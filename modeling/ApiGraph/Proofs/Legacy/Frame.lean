import ApiGraph.Proofs.Legacy.Modern
import ApiGraph.Proofs.Legacy.Paths

/-!
# What the upgrade leaves alone

The upgrade takes keys out of the document, of its path items and of their operations, puts others
in and rewrites the legacy keywords of the result. A key that belongs to none of these steps is
there afterwards if and only if it was there before, and holds its old value, rewritten; and no path
comes to stand elsewhere among the others.
-/

namespace ApiGraph.Legacy

open Json

/-- The keys that the rewriting of the legacy keywords gives other values. -/
def rewrittenKeys : List String := ["$ref", "x-nullable", "nullable"]

/-- The keys that the upgrade reads or writes in a document. -/
def documentKeys : List String := consumedKeys ++ ["paths", "openapi", "servers", "components"]

/-- The keys that the upgrade reads or writes in a path item. -/
def itemKeys : List String := "parameters" :: Method.all.map Method.name

/-- The keys that the upgrade reads or writes in an operation. -/
def operationKeys : List String :=
  ["produces", "consumes", "parameters", "requestBody", "responses"]

/-- Apart from the given keys an object has the keys of an old one, under which it holds the old
values, rewritten. -/
def KeepsExcept (keys : List String) (old new : Fields) : Prop :=
  ∀ key, key ∉ keys → key ∉ rewrittenKeys → new.get? key = (old.get? key).map modernize

/-- Where an object stands in the old document, one that keeps it stands in the new one. -/
def KeepsAt (keys place : List String) (doc : Fields) (out : Json) : Prop :=
  ∀ old, place.foldlM Json.get? (.obj doc) = some (.obj old) →
    ∃ new, place.foldlM Json.get? out = some (.obj new) ∧ KeepsExcept keys old new

/-- What is kept of a document, from the outside in. A path named like the extension for null is
taken for the extension, so it is left aside. -/
structure KeepsRest (doc : Fields) (out : Json) : Prop where
  document : KeepsAt documentKeys [] doc out
  paths : ∀ paths : Fields, doc.get? "paths" = some (.obj paths) →
    "x-nullable" ∉ paths.map Prod.fst →
      ∃ new : Fields, out.get? "paths" = some (.obj new) ∧ new.map Prod.fst = paths.map Prod.fst
  items : ∀ path ≠ "x-nullable", KeepsAt itemKeys ["paths", path] doc out
  operations : ∀ path ≠ "x-nullable", ∀ method : Method,
    KeepsAt operationKeys ["paths", path, method.name] doc out

/-- An object keeps what it held before the rewriting. -/
theorem keepsExcept_modernize {keys : List String} {old kept : Fields}
    (hnodup : (kept.map Prod.fst).Nodup)
    (h : ∀ key, key ∉ keys → kept.get? key = old.get? key) :
    KeepsExcept keys old (promoteNullable (modernizeFields kept)) := by
  intro key hkey hrewritten
  simp only [rewrittenKeys, List.mem_cons, List.not_mem_nil, or_false, not_or] at hrewritten
  obtain ⟨href, hold, hnew⟩ := hrewritten
  rw [get?_promoteNullable (nodup_modernizeFields hnodup) hold hnew, get?_modernizeFields, h key hkey]
  simp only [retargetField_of_ne href]

/-! ### One level after the other -/

section Levels

variable {version : String} {doc : Fields}

theorem get?_assembled {key : String} (hdoc : (obj doc).WellFormed) (hkey : key ∉ documentKeys) :
    Fields.get? key (assembled version doc) = doc.get? key := by
  simp only [documentKeys, List.mem_append, List.mem_cons, List.not_mem_nil, or_false, not_or] at hkey
  obtain ⟨hconsumed, hpaths, hversion, hservers, hcomponents⟩ := hkey
  rw [assembled, get?_withValue_of_ne (Ne.symm hcomponents), get?_withValue_of_ne (Ne.symm hservers),
    get?_headed hdoc hconsumed hversion]
  simp only [if_neg hpaths, Option.map_id']

theorem get?_upgradedItem_of_not_mem {around : Surroundings} {item : Fields}
    (hnodup : (item.map Prod.fst).Nodup) {key : String} (hkey : key ∉ itemKeys) :
    Fields.get? key (upgradedItem around item) = item.get? key := by
  rw [itemKeys, List.mem_cons, not_or] at hkey
  rw [get?_upgradedItem, resorted, get?_withPlain_of_ne hnodup hkey.1]
  simp only [if_neg hkey.2, Option.map_id']

theorem get?_upgradeOperation_of_not_mem {around : Surroundings} {shared : Sorted} {op : Fields}
    (hnodup : (op.map Prod.fst).Nodup) {key : String} (hkey : key ∉ operationKeys) :
    Fields.get? key (upgradeOperation around shared op) = op.get? key := by
  simp only [operationKeys, List.mem_cons, List.not_mem_nil, or_false, not_or] at hkey
  obtain ⟨hproduces, hconsumes, hparameters, hbody, hresponses⟩ := hkey
  rw [get?_upgradeOperation hnodup (by simp [hproduces, hconsumes, hbody, hresponses]), resorted,
    get?_withPlain_of_ne hnodup hparameters]

/-- The paths of a document, if an object stands under a path or below it. -/
theorem exists_paths {path : String} {rest : List String} {old : Fields}
    (h : ("paths" :: path :: rest).foldlM Json.get? (.obj doc) = some (.obj old)) :
    ∃ (paths : Fields) (item : Json), doc.get? "paths" = some (.obj paths) ∧
      paths.get? path = some item ∧ rest.foldlM Json.get? item = some (.obj old) := by
  rw [List.foldlM_cons] at h
  obtain ⟨v, hv, hrest⟩ := Option.bind_eq_some_iff.mp h
  rw [List.foldlM_cons] at hrest
  obtain ⟨item, hitem, hold⟩ := Option.bind_eq_some_iff.mp hrest
  cases v with
  | obj paths => exact ⟨paths, item, hv, hitem, hold⟩
  | _ => cases hitem

/-- The upgraded path item stands under the same path. -/
theorem foldlM_paths (hdoc : (obj doc).WellFormed) {paths item : Fields} {path : String}
    (hpaths : doc.get? "paths" = some (.obj paths)) (hpath : path ≠ "x-nullable")
    (hitem : paths.get? path = some (.obj item)) (rest : List String) :
    ("paths" :: path :: rest).foldlM Json.get? (upgrade version doc) =
      rest.foldlM Json.get? (modernize (.obj (upgradedItem (surroundings doc) item))) := by
  rw [List.foldlM_cons, get?_upgrade_paths hdoc hpaths, Option.bind_eq_bind, Option.bind_some,
    List.foldlM_cons, get?_upgradePaths hdoc hpaths hpath hitem, Option.bind_eq_bind,
    Option.bind_some]

theorem keepsAt_document (hdoc : (obj doc).WellFormed) :
    KeepsAt documentKeys [] doc (upgrade version doc) := by
  intro old hold
  cases hold
  exact ⟨_, rfl, keepsExcept_modernize (wellFormed_assembled hdoc).1 fun _ => get?_assembled hdoc⟩

/-- The paths keep their order, since no extension among them is promoted. -/
theorem keys_paths (hdoc : (obj doc).WellFormed) {paths : Fields}
    (hpaths : doc.get? "paths" = some (.obj paths)) (hextension : "x-nullable" ∉ paths.map Prod.fst) :
    ∃ new : Fields, (upgrade version doc).get? "paths" = some (.obj new) ∧
      new.map Prod.fst = paths.map Prod.fst := by
  refine ⟨_, get?_upgrade_paths hdoc hpaths, ?_⟩
  have hkeys : (modernizeFields (paths.map fun entry =>
      (entry.1, upgradePath (surroundings doc) entry.2))).map Prod.fst = paths.map Prod.fst := by
    rw [keys_modernizeFields, List.map_map]
    rfl
  rw [promoteNullable_of_none (Fields.get?_eq_none_iff.mpr (hkeys ▸ hextension)), hkeys]

theorem keepsAt_item (hdoc : (obj doc).WellFormed) {path : String} (hpath : path ≠ "x-nullable") :
    KeepsAt itemKeys ["paths", path] doc (upgrade version doc) := by
  intro item h
  obtain ⟨paths, _, hpaths, hitem, hsame⟩ := exists_paths h
  cases hsame
  have hwf : (obj item).WellFormed :=
    (hdoc.get? (v := .obj doc) hpaths).get? (v := .obj paths) hitem
  refine ⟨_, foldlM_paths hdoc hpaths hpath hitem [], keepsExcept_modernize
    (wellFormed_upgradedItem (wellFormed_forms hdoc) hwf).1 fun _ => ?_⟩
  exact get?_upgradedItem_of_not_mem hwf.1

theorem keepsAt_operation (hdoc : (obj doc).WellFormed) {path : String} (hpath : path ≠ "x-nullable")
    (method : Method) :
    KeepsAt operationKeys ["paths", path, method.name] doc (upgrade version doc) := by
  intro op h
  obtain ⟨paths, v, hpaths, hv, hrest⟩ := exists_paths h
  rw [List.foldlM_cons] at hrest
  obtain ⟨_, hop, hsame⟩ := Option.bind_eq_some_iff.mp hrest
  cases hsame
  cases v with
  | obj item =>
    have hitem : (obj item).WellFormed :=
      (hdoc.get? (v := .obj doc) hpaths).get? (v := .obj paths) hv
    have hopWf : (obj op).WellFormed := hitem.get? (v := .obj item) hop
    have hforms := wellFormed_forms hdoc
    have hname : method.name ≠ "x-nullable" := by
      cases method <;> decide
    have hget := get?_modernize_of_get? (wellFormed_upgradedItem hforms hitem).1 hname
      (get?_name_upgradedItem hitem.1 hop)
    have hnew := wellFormed_upgradeOperation hforms
      (wellFormed_sortParameters hforms (wellFormed_entriesAt hitem "parameters")) hopWf
    refine ⟨_, ?_, keepsExcept_modernize hnew.1 fun _ => get?_upgradeOperation_of_not_mem hopWf.1⟩
    rw [foldlM_paths hdoc hpaths hpath hv, List.foldlM_cons, hget]
    rfl
  | _ => cases hop

end Levels

/-- **The upgrade touches nothing else.**  In the document, in each path item and in each operation
a key that the upgrade neither reads nor writes is there if and only if it was there, and holds its
old value, rewritten; the paths stand in their old order; and rewriting changes no value that has
neither the extension nor a pointer into a section that has moved. -/
theorem keepsRest_upgrade_and_modernize_eq_self :
    (∀ (version : String) (doc : Fields), (obj doc).WellFormed →
      KeepsRest doc (upgrade version doc)) ∧
    ∀ v : Json, v.EveryObject Modern → modernize v = v := by
  constructor
  · intro version doc hdoc
    exact ⟨keepsAt_document hdoc, fun _ hpaths => keys_paths hdoc hpaths,
      fun _ => keepsAt_item hdoc, fun _ => keepsAt_operation hdoc⟩
  · intro v hv
    exact modernize_of_modern hv

/-- A document with keys of its own at every level, beside those that the upgrade takes out. -/
def vendorDocument : Fields :=
  [("swagger", .str "2.0"),
   ("x-origin", .obj [("$ref", .str "#/definitions/Tag")]),
   ("info", .obj [("title", .str "Tags")]),
   ("paths", .obj
     [("/tags", .obj
       [("parameters", .arr []),
        ("x-route", .obj [("x-nullable", .bool true)]),
        ("get", .obj
          [("produces", .arr [.str "text/plain"]),
           ("summary", .str "all tags"),
           ("operationId", .str "listTags"),
           ("responses", .obj [])])]),
      ("x-later", .null)])]

/-- A value that says in the words of 3.0 what the keys of the document say in those of 2.0. -/
def modernValue : Json :=
  .obj [("nullable", .bool true), ("items", .arr [.obj [("$ref", .str "#/components/schemas/Tag")]])]

/-- The values of these keys have been rewritten, and some of the keys have moved within their
objects. -/
theorem keepsRest_upgrade_vendorDocument :
    (obj vendorDocument).WellFormed ∧ KeepsRest vendorDocument (upgrade "3.0.0" vendorDocument) ∧
    modernValue.EveryObject Modern ∧ modernize modernValue = modernValue ∧
    upgrade "3.0.0" vendorDocument = .obj
      [("openapi", .str "3.0.0"),
       ("paths", .obj
         [("/tags", .obj
           [("get", .obj
             [("responses", .obj []),
              ("summary", .str "all tags"),
              ("operationId", .str "listTags")]),
            ("x-route", .obj [("nullable", .bool true)])]),
          ("x-later", .null)]),
       ("x-origin", .obj [("$ref", .str "#/components/schemas/Tag")]),
       ("info", .obj [("title", .str "Tags")])] := by
  have hdoc : (obj vendorDocument).WellFormed := by
    simp [vendorDocument, WellFormed, FieldsWellFormed, AllWellFormed]
  have hpointer : ¬ IsLegacyPointer "#/components/schemas/Tag" :=
    not_legacy_of_mem_sections List.mem_cons_self "Tag"
  have hmodern : modernValue.EveryObject Modern := by
    refine ⟨⟨by decide, by simp⟩, trivial, ⟨⟨⟨by decide, ?_⟩, trivial, trivial⟩, trivial⟩, trivial⟩
    simp [hpointer]
  exact ⟨hdoc, keepsRest_upgrade_and_modernize_eq_self.1 _ _ hdoc, hmodern,
    keepsRest_upgrade_and_modernize_eq_self.2 _ hmodern, rfl⟩

end ApiGraph.Legacy
