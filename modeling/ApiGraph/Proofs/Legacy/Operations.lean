import ApiGraph.Loading
import ApiGraph.Proofs.Graph.Listing
import ApiGraph.Proofs.Legacy.Paths
import ApiGraph.Proofs.Normalization

/-!
# Operations of a loaded document

The graph of a legacy document is built from the upgraded document. Where an operation stands
in the old one, the upgraded operation stands in the new one, under the same path and method,
and there it is found by the builder: neither a path, unless it is named like the extension for
null, nor an operation gets lost on the way.
-/

namespace ApiGraph.Legacy

open Outcome Fragment

/-- A legacy document is loaded by way of its upgrade. -/
theorem load_eq_ok_iff [Pattern.Checker] {doc : Fields} {options : NormalizeOptions} {g : Graph}
    (hversion : declaredVersion doc = .ok .legacy) :
    Graph.load options (.obj doc) = .ok g ↔ options.upgradeLegacy = true ∧
      Validation.validate (upgrade options.targetVersion doc) = .ok () ∧
      Graph.ofDocument (upgrade options.targetVersion doc) = .ok g := by
  have hnormal : ∀ normal, normalize options (.obj doc) = .ok normal ↔
      options.upgradeLegacy = true ∧ normal = upgrade options.targetVersion doc ∧
        Validation.issues normal = [] := by
    intro normal
    simp only [normalize_eq_ok_iff, Json.obj.injEq, exists_eq_left', upgraded_eq_ok_iff, hversion,
      Except.ok.injEq, reduceCtorEq, false_and, false_or, true_and, and_assoc]
  simp only [Graph.load, bind_eq_ok_iff, hnormal, validate_eq_ok_iff]
  constructor
  · rintro ⟨_, ⟨hallowed, rfl, hvalid⟩, hg⟩
    exact ⟨hallowed, hvalid, hg⟩
  · rintro ⟨hallowed, hvalid, hg⟩
    exact ⟨_, ⟨hallowed, rfl, hvalid⟩, hg⟩

/-- The operation that stands in a document under a path and a method, where neither it nor its path
item is a reference. -/
structure StandsAt (doc : Fields) (path : String) (method : Method) (item op : Fields) : Prop where
  inPaths : ∃ paths : Fields,
    doc.get? "paths" = some (.obj paths) ∧ paths.get? path = some (.obj item)
  inItem : item.get? method.name = some (.obj op)
  inlineItem : (Json.obj item).reference? = none
  inlineOperation : (Json.obj op).reference? = none

/-- The path item of an upgraded document. -/
def newItem (doc item : Fields) : Json := modernize (.obj (upgradedItem (surroundings doc) item))

/-- The operation of an upgraded document. -/
def newOperation (doc item op : Fields) : Json :=
  modernize (.obj (upgradeOperation (surroundings doc)
    (sortParameters (surroundings doc) (entriesAt item "parameters")) op))

/-- An operation of a graph that has been read from the upgraded form of an operation and of its
path item. -/
def ReadFrom (version : String) (doc item op : Fields) (method : Method) (g : Graph)
    (o : Operation) : Prop :=
  ∃ rawItem raw shared location location' d,
    rawItem.value = newItem doc item ∧ raw.value = newOperation doc item op ∧
    raw.Placed (upgrade version doc) (upgrade version doc) ∧
    Declaration.readParameters (upgrade version doc) rawItem location = .ok shared ∧
    Declaration.operation (upgrade version doc) shared location' method raw = .ok d ∧
    g.ListsOperation o d

theorem keys_of_mem_sections {old new : String} (h : (old, new) ∈ sections) (text : String) :
    ∃ key ∈ ["definitions", "parameters", "responses"],
      Pointer.keys (old ++ text) = key :: Pointer.segments text := by
  simp only [sections, List.mem_cons, Prod.mk.injEq, List.not_mem_nil, or_false] at h
  rcases h with ⟨rfl, _⟩ | ⟨rfl, _⟩ | ⟨rfl, _⟩
  · exact ⟨"definitions", by decide, Pointer.keys_append "#/definitions" text⟩
  · exact ⟨"parameters", by decide, Pointer.keys_append "#/parameters" text⟩
  · exact ⟨"responses", by decide, Pointer.keys_append "#/responses" text⟩

/-- A pointer that leads into no section that is moved keeps its text. -/
theorem retarget_of_keys {pointer key : String} {rest : List String}
    (hkeys : Pointer.keys pointer = key :: rest)
    (hkey : key ∉ ["definitions", "parameters", "responses"]) : retarget pointer = pointer := by
  refine retarget_of_not_legacy ?_
  rintro ⟨old, new, text, hmem, rfl⟩
  obtain ⟨head, hhead, hsection⟩ := keys_of_mem_sections hmem text
  rw [hkeys] at hsection
  cases hsection
  exact hkey hhead

/-- An object that stands in the paths of a document. -/
def HasPath (doc : Fields) (path : String) (item : Fields) : Prop :=
  ∃ paths : Fields, doc.get? "paths" = some (.obj paths) ∧ paths.get? path = some (.obj item)

/-- The paths that stand for a path: itself, and every one whose item is a reference to the item of
one that stands for it. None of them is named like the extension for null. -/
inductive PathFor (doc : Fields) (path : String) : String → Prop
  | self (hordinary : path ≠ "x-nullable") : PathFor doc path path
  | reference {name next pointer : String} {entry : Fields} (hordinary : name ≠ "x-nullable")
      (hentry : HasPath doc name entry) (hpointer : (Json.obj entry).reference? = some pointer)
      (hlocal : Pointer.isLocal pointer = true) (hkeys : Pointer.keys pointer = ["paths", next])
      (h : PathFor doc path next) : PathFor doc path name

section Entries

variable {version : String} {doc item : Fields} {path : String}

theorem wellFormed_entry (hdoc : (Json.obj doc).WellFormed) (h : HasPath doc path item) :
    (Json.obj item).WellFormed := by
  obtain ⟨paths, hpaths, hitem⟩ := h
  exact (hdoc.get? (v := .obj doc) hpaths).get? (v := .obj paths) hitem

/-- An object of the paths stands, upgraded, under the same path. -/
theorem exists_entry (hdoc : (Json.obj doc).WellFormed) (h : HasPath doc path item)
    (hpath : path ≠ "x-nullable") :
    ∃ paths raw, (Fragment.ofDocument (upgrade version doc)).field? "paths" = some paths ∧
      paths.field? path = some raw ∧ raw.value = newItem doc item := by
  obtain ⟨paths, hpaths, hitem⟩ := h
  refine ⟨_, _, field?_eq_some_iff.mpr ⟨_, get?_upgrade_paths hdoc hpaths, rfl⟩,
    field?_eq_some_iff.mpr ⟨_, get?_upgradePaths hdoc hpaths hpath hitem, rfl⟩, rfl⟩

end Entries

namespace StandsAt

variable {version : String} {doc item op : Fields} {path : String} {method : Method}

theorem wellFormed (hdoc : (Json.obj doc).WellFormed) (h : StandsAt doc path method item op) :
    (Json.obj item).WellFormed ∧ (Json.obj op).WellFormed := by
  have hitem := wellFormed_entry hdoc h.inPaths
  exact ⟨hitem, hitem.get? (v := .obj item) h.inItem⟩

theorem wellFormed_new (hdoc : (Json.obj doc).WellFormed) (h : StandsAt doc path method item op) :
    (Json.obj (upgradedItem (surroundings doc) item)).WellFormed ∧
    (Json.obj (upgradeOperation (surroundings doc)
      (sortParameters (surroundings doc) (entriesAt item "parameters")) op)).WellFormed := by
  obtain ⟨hitem, hop⟩ := h.wellFormed hdoc
  have hforms := wellFormed_forms hdoc
  exact ⟨wellFormed_upgradedItem hforms hitem, wellFormed_upgradeOperation hforms
    (wellFormed_sortParameters hforms (wellFormed_entriesAt hitem "parameters")) hop⟩

theorem reference?_newItem (hdoc : (Json.obj doc).WellFormed)
    (h : StandsAt doc path method item op) : (newItem doc item).reference? = none := by
  rw [newItem, reference?_modernize (h.wellFormed_new hdoc).1,
    reference?_upgradedItem (h.wellFormed hdoc).1.1, h.inlineItem]
  rfl

theorem reference?_newOperation (hdoc : (Json.obj doc).WellFormed)
    (h : StandsAt doc path method item op) : (newOperation doc item op).reference? = none := by
  rw [newOperation, reference?_modernize (h.wellFormed_new hdoc).2,
    reference?_upgradeOperation (h.wellFormed hdoc).2.1, h.inlineOperation]
  rfl

/-- The operation stands, upgraded, under the same method. -/
theorem exists_raw (hdoc : (Json.obj doc).WellFormed) (h : StandsAt doc path method item op)
    {raw : Fragment} (hraw : raw.value = newItem doc item) :
    ∃ rawOp, raw.field? method.name = some rawOp ∧ rawOp.value = newOperation doc item op := by
  have hname : ∀ m : Method, m.name ≠ "x-nullable" := by
    intro m
    cases m <;> decide
  have hget := get?_modernize_of_get? (h.wellFormed_new hdoc).1.1 (hname method)
    (get?_name_upgradedItem (h.wellFormed hdoc).1.1 h.inItem)
  rw [← newItem, ← hraw] at hget
  exact ⟨_, field?_eq_some_iff.mpr ⟨_, hget, rfl⟩, rfl⟩

/-- In a route whose entry stands for the path item the operation is found. -/
theorem exists_operation (hdoc : (Json.obj doc).WellFormed) (h : StandsAt doc path method item op)
    {raw node : Fragment} (hnode : Reference.resolve (upgrade version doc) raw = .ok node)
    (hvalue : node.value = newItem doc item)
    (hplaced : raw.Placed (upgrade version doc) (upgrade version doc)) {name : String}
    {d : PathDeclaration} (hread : Declaration.path (upgrade version doc) name raw = .ok d)
    {g : Graph} {r : Route} (hlists : g.ListsRoute r d) :
    ∃ o, g.operationFor? r method = some o ∧ ReadFrom version doc item op method g o := by
  obtain ⟨_, shared, operations, hnode', _, hshared, hoperations, rfl⟩ :=
    Declaration.path_eq_ok_iff.mp hread
  cases hnode.symm.trans hnode'
  obtain ⟨rawOp, hfield, hvalueOp⟩ := h.exists_raw hdoc hvalue
  obtain ⟨o, d, ho, hlistsOp, hreadOp⟩ := Graph.exists_operationFor?
    (fun method => Pointer.child (Pointer.child "#/paths" name) method.name) hoperations
    hlists.operations hfield
  have hplacedNode := hplaced.resolve (wellFormed_upgrade hdoc) hnode
  exact ⟨o, ho, node, rawOp, shared, _, _, d, hvalue, hvalueOp,
    hplacedNode.part (Fragment.part_of_field? hfield), hshared, hreadOp, hlistsOp⟩

/-- The entry of a path that stands for another one has, upgraded, the path item of that one. -/
theorem exists_resolve (version : String) (hdoc : (Json.obj doc).WellFormed)
    (h : StandsAt doc path method item op) {name : String} (hname : PathFor doc path name) :
    ∃ paths raw node, (Fragment.ofDocument (upgrade version doc)).field? "paths" = some paths ∧
      paths.field? name = some raw ∧ Reference.resolve (upgrade version doc) raw = .ok node ∧
      node.value = newItem doc item := by
  induction hname with
  | self hordinary =>
    obtain ⟨paths, raw, hpaths, hraw, hvalue⟩ := exists_entry hdoc h.inPaths hordinary
    exact ⟨paths, raw, raw, hpaths, hraw,
      Reference.resolve_of_not_reference (hvalue ▸ h.reference?_newItem hdoc), hvalue⟩
  | @reference name next pointer entry hordinary hentry hpointer hlocal hkeys _ ih =>
    obtain ⟨paths, raw, hpaths, hraw, hvalue⟩ := exists_entry hdoc hentry hordinary
    obtain ⟨_, target, node, hpaths', htarget, hnode, hvalueNode⟩ := ih
    cases hpaths.symm.trans hpaths'
    have hwf := wellFormed_entry hdoc hentry
    have href : raw.value.reference? = some pointer := by
      have hnew := wellFormed_upgradedItem (wellFormed_forms hdoc) hwf
      rw [hvalue, newItem, reference?_modernize hnew, reference?_upgradedItem hwf.1, hpointer,
        Option.map_some, retarget_of_keys hkeys (by decide)]
    have hwalk : (Fragment.ofDocument (upgrade version doc)).walk? (Pointer.keys pointer) =
        some target := by
      obtain ⟨_, hget, rfl⟩ := field?_eq_some_iff.mp hpaths
      obtain ⟨_, hget', rfl⟩ := field?_eq_some_iff.mp htarget
      rw [hkeys, Fragment.walk?_of_get? hget, Fragment.walk?_of_get? hget']
      rfl
    exact ⟨paths, raw, node, hpaths, hraw, Reference.resolve_of_next?
      ((Reference.next?_of_isLocal href hlocal).trans hwalk) hnode, hvalueNode⟩

/-- The graph of a document that loads has every path that stands for the one of the operation, and
every route for it has the operation. -/
theorem operationFor?_of_pathFor [Pattern.Checker] {options : NormalizeOptions} {g : Graph}
    (hdoc : (Json.obj doc).WellFormed) (hversion : declaredVersion doc = .ok .legacy)
    (hload : Graph.load options (.obj doc) = .ok g) (h : StandsAt doc path method item op)
    {name : String} (hname : PathFor doc path name) :
    (∃ r ∈ g.routes, r.path = name) ∧ ∀ r ∈ g.routes, r.path = name →
      ∃ o, g.operationFor? r method = some o ∧
        ReadFrom options.targetVersion doc item op method g o := by
  obtain ⟨_, _, hbuilt⟩ := (load_eq_ok_iff hversion).mp hload
  obtain ⟨declared, hdeclared, _, hlists⟩ := Graph.exists_declarations hbuilt
  obtain ⟨paths, raw, node, hpaths, hraw, hnode, hvalue⟩ :=
    h.exists_resolve options.targetVersion hdoc hname
  obtain ⟨_, hall⟩ := (Declaration.paths_eq_ok_iff hpaths).mp hdeclared
  have hroot : (Fragment.ofDocument (upgrade options.targetVersion doc)).Placed
      (upgrade options.targetVersion doc) (upgrade options.targetVersion doc) :=
    Fragment.placed_ofDocument (wellFormed_upgrade hdoc)
  have hplaced := hroot.part (Fragment.part_of_field? hpaths)
  constructor
  · obtain ⟨d, hd, hread⟩ := exists_of_forall₂_mem hall (mem_fields_of_field? hraw)
    obtain ⟨r, hr, hlisted⟩ := exists_of_forall₂_mem hlists.flip hd
    obtain ⟨_, _, _, _, _, _, _, rfl⟩ := Declaration.path_eq_ok_iff.mp hread
    exact ⟨r, hr, hlisted.path⟩
  · intro r hr hrpath
    obtain ⟨d, hd, hlisted⟩ := exists_of_forall₂_mem hlists hr
    obtain ⟨⟨other, raw'⟩, hentry, hread⟩ := exists_of_forall₂_mem hall.flip hd
    have hother : other = name := by
      rw [← hrpath, hlisted.path]
      obtain ⟨_, _, _, _, _, _, _, rfl⟩ := Declaration.path_eq_ok_iff.mp hread
      rfl
    subst hother
    cases hraw.symm.trans (field?_of_mem_fields hplaced.wellFormed hentry)
    exact h.exists_operation hdoc hnode hvalue (hplaced.part (Fragment.part_of_field? hraw)) hread
      hlisted

/-- The graph of a document that loads has the path, and every route for it has the operation. -/
theorem operationFor? [Pattern.Checker] {options : NormalizeOptions} {g : Graph}
    (hdoc : (Json.obj doc).WellFormed)
    (hversion : declaredVersion doc = .ok .legacy) (hload : Graph.load options (.obj doc) = .ok g)
    (hpath : path ≠ "x-nullable") (h : StandsAt doc path method item op) :
    (∃ r ∈ g.routes, r.path = path) ∧ ∀ r ∈ g.routes, r.path = path →
      ∃ o, g.operationFor? r method = some o ∧
        ReadFrom options.targetVersion doc item op method g o :=
  h.operationFor?_of_pathFor hdoc hversion hload (.self hpath)

end StandsAt

end ApiGraph.Legacy
