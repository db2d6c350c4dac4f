import ApiGraph.Proofs.Graph.Contents

/-!
# Inherited parameters

An operation has a parameter for each entry of its own list, and then one for each entry of the
list of its path item that it does not override. What tells parameters apart is the name together
with the carrier, and both are known only when the references have been followed.

The reader of a list remembers what it has read and stops at the first repetition. So a list that
has been read repeats nothing, and a list that does repeat something cannot be read, nor can a
document that it belongs to.
-/

namespace ApiGraph

open Outcome

/-! ### Parameters by their keywords -/

namespace ParameterHead

open Shape

/-- The keywords of a parameter: the fields of an object, or the items of a list under the keywords
that they stand for. -/
def keywordsOf : Json → Fields
  | .obj fields => fields
  | .arr items => positions.zip items
  | _ => []

theorem nodup_keywordsOf {v : Json} (hwf : v.WellFormed) :
    ((keywordsOf v).map Prod.fst).Nodup := by
  cases v with
  | obj fields => exact hwf.1
  | arr items =>
    have hsub : ((positions.zip items).map Prod.fst).Sublist positions := by
      rw [List.zip_eq_zip_take_min, List.map_fst_zip (by simp)]
      exact List.take_sublist _ _
    exact .sublist hsub (by decide)
  | _ => exact List.nodup_nil

/-- A list is read like the object with the same keywords, as long as it is not too long. -/
theorem read_keywordsOf {v : Json} {head : ParameterHead} (h : read v = .ok head) :
    read (.obj (keywordsOf v)) = .ok head := by
  cases v with
  | obj fields => exact h
  | arr items =>
    simp only [read, bind_eq_ok_iff] at h ⊢
    obtain ⟨p, hp, other, hfinish, h⟩ := h
    have hhead : other = head := by
      split at h
      · cases h
      · exact Except.ok.inj h
    subst hhead
    refine ⟨p, hp, ?_⟩
    obtain ⟨name, carrier, required, deprecated, description⟩ := p
    cases name with
    | none => cases hfinish
    | some name =>
      cases carrier with
      | none => cases hfinish
      | some carrier => exact hfinish
  | _ => cases h

theorem says_keywordsOf {v : Json} {head : ParameterHead} (hwf : v.WellFormed)
    (h : read v = .ok head) : Says (keywordsOf v) head :=
  says_of_read (nodup_keywordsOf hwf) (read_keywordsOf h)

/-- What tells a parameter apart from others: its name together with its carrier. -/
def identity? (v : Json) : Option (String × Carrier) :=
  match (keywordsOf v).get? "name", (keywordsOf v).get? "in" with
  | some (.str name), some w =>
    match choice Carrier.choices w with
    | .ok carrier => some (name, carrier)
    | .error _ => none
  | _, _ => none

theorem identity?_of_read {v : Json} {head : ParameterHead} (hwf : v.WellFormed)
    (h : read v = .ok head) : identity? v = some (head.name, head.carrier) := by
  have hsaid := says_keywordsOf hwf h
  obtain ⟨w, hw, hcarrier⟩ := hsaid.carrier
  simp only [identity?, hsaid.name, hw, hcarrier]

end ParameterHead

namespace Declaration

variable {root : Json}

/-! ### Lists of parameters -/

/-- The identity of what an entry of a parameter list stands for. -/
def identity? (root : Json) (raw : Fragment) : Option (String × Carrier) :=
  match Reference.resolve root raw with
  | .ok entry => ParameterHead.identity? entry.value
  | .error _ => none

/-- Of the parameters of a list, none repeats another one or one that was there before. -/
theorem nodup_of_readEntries {location : String} {raws : List Fragment} :
    ∀ {seen : List (String × Carrier)} {index : Nat} {ps : List PendingParameter},
      readEntries root location seen index raws = .ok ps →
        (ps.map PendingParameter.key).Nodup ∧ ∀ p ∈ ps, p.key ∉ seen := by
  induction raws with
  | nil =>
    intro seen index ps h
    cases h
    exact ⟨List.nodup_nil, fun p hp => absurd hp List.not_mem_nil⟩
  | cons raw rest ih =>
    intro seen index ps h
    simp only [readEntries, bind_eq_ok_iff] at h
    obtain ⟨entry, _, head, _, h⟩ := h
    split at h
    · obtain ⟨_, hthrow, _⟩ := bind_eq_ok_iff.mp h
      cases hthrow
    · next hnew =>
      obtain ⟨ps', hrest, hout⟩ := bind_eq_ok_iff.mp h
      cases hout
      obtain ⟨hnodup, hunseen⟩ := ih hrest
      constructor
      · rw [List.map_cons, List.nodup_cons]
        refine ⟨fun hmem => ?_, hnodup⟩
        obtain ⟨p, hp, hkey⟩ := List.mem_map.mp hmem
        exact hunseen p hp (hkey ▸ List.mem_cons_self)
      · intro p hp
        rcases List.mem_cons.mp hp with rfl | hp
        · exact hnew
        · exact fun hseen => hunseen p hp (List.mem_cons_of_mem _ hseen)

theorem nodup_of_readParameters {owner : Fragment} {location : String}
    {ps : List PendingParameter} (h : readParameters root owner location = .ok ps) :
    (ps.map PendingParameter.key).Nodup := by
  rw [readParameters] at h
  split at h
  · cases h
    exact List.nodup_nil
  · split at h
    · exact (nodup_of_readEntries h).1
    · cases h

theorem placed_of_mem_parameterEntries {owner : Fragment} (howner : owner.Placed root root)
    {raw : Fragment} (hraw : raw ∈ parameterEntries owner) : raw.Placed root root := by
  rw [parameterEntries] at hraw
  cases hlist : owner.field? "parameters" with
  | none =>
    rw [hlist] at hraw
    cases hraw
  | some list =>
    rw [hlist] at hraw
    exact (howner.part (Fragment.part_of_field? hlist)).part (Fragment.part_of_mem_items hraw)

/-- What has been read of an entry has the identity of the entry. -/
theorem forall₂_identity {owner : Fragment} {location : String} {ps : List PendingParameter}
    (hroot : root.WellFormed) (howner : owner.Placed root root)
    (h : readParameters root owner location = .ok ps) :
    List.Forall₂ (fun raw p => IsPending root raw p ∧ identity? root raw = some p.key)
      (parameterEntries owner) ps := by
  refine forall₂_mono (forall₂_of_readParameters h) fun raw hraw p hp => ⟨hp, ?_⟩
  obtain ⟨entry, hentry, hhead, _⟩ := hp.entry
  have hwf := ((placed_of_mem_parameterEntries howner hraw).resolve hroot hentry).wellFormed
  rw [identity?, hentry]
  exact ParameterHead.identity?_of_read hwf hhead

/-- The entries of the list of a path item that none of an operation overrides. -/
def inheritedEntries (root : Json) (item node : Fragment) : List Fragment :=
  (parameterEntries item).filter fun raw =>
    decide (∀ own ∈ parameterEntries node, identity? root own ≠ identity? root raw)

/-- The entries that override one another are those whose parameters do. -/
theorem forall₂_inherit {item node : Fragment} {own shared : List PendingParameter}
    (hown : List.Forall₂ (fun raw p => IsPending root raw p ∧ identity? root raw = some p.key)
      (parameterEntries node) own)
    (hshared : List.Forall₂ (fun raw p => IsPending root raw p ∧ identity? root raw = some p.key)
      (parameterEntries item) shared) :
    List.Forall₂ (IsPending root) (parameterEntries node ++ inheritedEntries root item node)
      (inherit own shared) := by
  have hkeys : (parameterEntries node).map (identity? root) =
      (own.map PendingParameter.key).map some := by
    rw [List.map_map]
    exact map_eq_map_iff_forall₂.mpr (hown.imp fun _ _ hread => hread.2)
  have hkept : List.Forall₂ (fun raw p => IsPending root raw p ∧ identity? root raw = some p.key)
      (inheritedEntries root item node)
      (shared.filter fun p => p.key ∉ own.map PendingParameter.key) := by
    refine forall₂_filter hshared fun raw p hread => decide_eq_decide.mpr ?_
    have hsame : identity? root raw ∈ (parameterEntries node).map (identity? root) ↔
        p.key ∈ own.map PendingParameter.key := by
      rw [hkeys, hread.2]
      exact List.mem_map_of_injective (Option.some_injective _)
    rw [← not_congr hsame, List.mem_map, not_exists]
    exact forall_congr' fun _ => not_and.symm
  exact List.rel_append (hown.imp fun _ _ hread => hread.1) (hkept.imp fun _ _ hread => hread.1)

/-- If neither list repeats a parameter, the parameters that an operation gets from both do not. -/
theorem nodup_inherit {own shared : List PendingParameter}
    (hown : (own.map PendingParameter.key).Nodup)
    (hshared : (shared.map PendingParameter.key).Nodup) :
    ((inherit own shared).map PendingParameter.key).Nodup := by
  rw [inherit, List.map_append, List.nodup_append]
  refine ⟨hown, .sublist (List.filter_sublist.map _) hshared, ?_⟩
  rintro key hkey _ hother rfl
  obtain ⟨p, hp, rfl⟩ := List.mem_map.mp hother
  obtain ⟨_, hnew⟩ := List.mem_filter.mp hp
  exact of_decide_eq_true hnew hkey

end Declaration

/-! ### Parameters of a graph -/

theorem Fragment.mem_entriesUnder_iff {f raw : Fragment} {key name : String} :
    (name, raw) ∈ f.entriesUnder key ↔
      ∃ map, f.field? key = some map ∧ (name, raw) ∈ map.fields := by
  rw [entriesUnder]
  cases f.field? key <;> simp

namespace Graph

open Declaration

/-- The path item and the object that declare an operation: what stands for the path of its route,
and what stands there for its method. -/
structure DeclaredUnder (doc : Json) (g : Graph) (op : Operation) (item node : Fragment) :
    Prop where
  inPaths : ∃ r raw, g.routeOf? op = some r ∧
    (r.path, raw) ∈ (Fragment.ofDocument doc).entriesUnder "paths" ∧
    Reference.resolve doc raw = .ok item
  inItem : ∃ raw, item.field? op.method.name = some raw ∧ Reference.resolve doc raw = .ok node

/-- What a document may list parameters in: a path item, or what stands there for a method. -/
inductive ListsParameters (doc : Json) : Fragment → Prop
  | item {path : String} {raw item : Fragment}
      (hraw : (path, raw) ∈ (Fragment.ofDocument doc).entriesUnder "paths")
      (hitem : Reference.resolve doc raw = .ok item) : ListsParameters doc item
  | operation {path : String} {raw item rawNode node : Fragment} {method : Method}
      (hraw : (path, raw) ∈ (Fragment.ofDocument doc).entriesUnder "paths")
      (hitem : Reference.resolve doc raw = .ok item)
      (hfield : item.field? method.name = some rawNode)
      (hnode : Reference.resolve doc rawNode = .ok node) : ListsParameters doc node

/-- A parameter of an operation is what an entry stands for: it says what the keywords there say,
and its schema is what the schema there resolves to, whatever messages call its position. -/
structure IsParameter (doc : Json) (op : Operation) (raw : Fragment) (p : Parameter) : Prop where
  operation : p.operation = op.id
  entry : ∃ entry, Reference.resolve doc raw = .ok entry ∧
    ParameterHead.Says (ParameterHead.keywordsOf entry.value)
      ⟨p.name, p.carrier, p.required, p.deprecated, p.description⟩ ∧
    Option.Rel (fun schema s => ∀ location, TypeSchema.resolve doc schema location = .ok s)
      (entry.field? "schema") p.schema

section

variable {doc : Json} {g : Graph} {op : Operation}

theorem placed_of_mem_paths (hdoc : doc.WellFormed) {path : String} {raw item : Fragment}
    (hraw : (path, raw) ∈ (Fragment.ofDocument doc).entriesUnder "paths")
    (hitem : Reference.resolve doc raw = .ok item) : item.Placed doc doc := by
  obtain ⟨paths, hpaths, hmem⟩ := Fragment.mem_entriesUnder_iff.mp hraw
  have hroot : (Fragment.ofDocument doc).Placed doc doc := Fragment.placed_ofDocument hdoc
  exact ((hroot.part (Fragment.part_of_field? hpaths)).part
    (Fragment.part_of_mem_fields hmem)).resolve hdoc hitem

theorem ListsParameters.placed (hdoc : doc.WellFormed) {owner : Fragment}
    (h : ListsParameters doc owner) : owner.Placed doc doc := by
  cases h with
  | item hraw hitem => exact placed_of_mem_paths hdoc hraw hitem
  | operation hraw hitem hfield hnode =>
    exact ((placed_of_mem_paths hdoc hraw hitem).part (Fragment.part_of_field? hfield)).resolve hdoc
      hnode

/-- A document that has a graph can be read wherever it lists parameters. -/
theorem ListsParameters.exists_readParameters {owner : Fragment} (h : ListsParameters doc owner)
    (hg : ofDocument doc = .ok g) :
    ∃ location ps, readParameters doc owner location = .ok ps := by
  obtain ⟨declared, hdeclared, _, _⟩ := exists_declarations hg
  have hread : ∀ {path raw}, (path, raw) ∈ (Fragment.ofDocument doc).entriesUnder "paths" →
      ∃ d, Declaration.path doc path raw = .ok d := by
    intro path raw hraw
    obtain ⟨paths, hpaths, hmem⟩ := Fragment.mem_entriesUnder_iff.mp hraw
    obtain ⟨_, hall⟩ := (paths_eq_ok_iff hpaths).mp hdeclared
    obtain ⟨d, _, hd⟩ := exists_of_forall₂_mem hall hmem
    exact ⟨d, hd⟩
  cases h with
  | item hraw hitem =>
    obtain ⟨_, hd⟩ := hread hraw
    obtain ⟨_, shared, _, hitem', _, hshared, _, _⟩ := path_eq_ok_iff.mp hd
    cases hitem.symm.trans hitem'
    exact ⟨_, shared, hshared⟩
  | operation hraw hitem hfield hnode =>
    obtain ⟨_, hd⟩ := hread hraw
    obtain ⟨_, _, _, hitem', _, _, hoperations, _⟩ := path_eq_ok_iff.mp hd
    cases hitem.symm.trans hitem'
    obtain ⟨_, _, hop⟩ := exists_of_forall₂_mem hoperations (mem_methodsOf_iff.mpr hfield)
    obtain ⟨_, own, _, _, _, hnode', _, hown, _⟩ := operation_eq_ok_iff.mp hop
    cases hnode.symm.trans hnode'
    exact ⟨_, own, hown⟩

/-- Where a list of parameters repeats one, there is no graph. -/
theorem ListsParameters.exists_fault (hdoc : doc.WellFormed) {owner : Fragment}
    (h : ListsParameters doc owner)
    (hrepeats : ¬ ((parameterEntries owner).filterMap (identity? doc)).Nodup) :
    ∃ fault, ofDocument doc = .error fault := by
  cases hg : ofDocument doc with
  | error fault => exact ⟨fault, rfl⟩
  | ok g =>
    obtain ⟨location, ps, hps⟩ := h.exists_readParameters hg
    have hsame : (parameterEntries owner).filterMap (identity? doc) =
        ps.map PendingParameter.key := by
      refine filterMap_eq_of_forall₂ (List.forall₂_map_right_iff.mpr ?_)
      exact (forall₂_identity hdoc (h.placed hdoc) hps).imp fun _ _ hread => hread.2
    rw [hsame] at hrepeats
    exact absurd (nodup_of_readParameters hps) hrepeats

theorem isParameter_of_isPending (hdoc : doc.WellFormed) {raw : Fragment}
    (hraw : raw.Placed doc doc) {p : PendingParameter} (hp : IsPending doc raw p)
    {d : ParameterDeclaration} (hd : Declaration.parameter doc p = .ok d) :
    IsParameter doc op raw { d with operation := op.id } := by
  obtain ⟨entry, hentry, hhead, hschema⟩ := hp.entry
  obtain ⟨schema, hrel, rfl⟩ := parameter_eq_ok_iff.mp hd
  have hplaced := hraw.resolve hdoc hentry
  rw [hschema] at hrel
  refine ⟨rfl, entry, hentry, ParameterHead.says_keywordsOf hplaced.wellFormed hhead, ?_⟩
  refine rel_mono hrel fun schema s hfield hs location => ?_
  have hplacedSchema := hplaced.part (Fragment.part_of_field? hfield)
  exact (TypeSchema.resolve_eq_ok_iff_unfolds_of_placed hdoc hplacedSchema).mpr
    ((TypeSchema.resolve_eq_ok_iff_unfolds_of_placed hdoc hplacedSchema).mp hs)

/-- The parameters of an operation are those of the entries that it has or inherits. -/
theorem exists_areParameters (hdoc : doc.WellFormed) (h : ofDocument doc = .ok g)
    (hop : op ∈ g.operations) : ∃ item node, DeclaredUnder doc g op item node ∧
      List.Forall₂ (IsParameter doc op) (parameterEntries node ++ inheritedEntries doc item node)
        (g.parametersOf op) ∧
      ((g.parametersOf op).map fun p => (p.name, p.carrier)).Nodup := by
  obtain ⟨r, paths, rawItem, item, rawNode, shared, _, location, d, hroute, hpaths, hentry, hitem,
    hshared, hfield, hlists, hread⟩ := exists_readOperation h hop
  obtain ⟨node, own, parameters, _, _, hnode, _, hown, hparameters, _, _, rfl⟩ :=
    operation_eq_ok_iff.mp hread
  have hraw : (r.path, rawItem) ∈ (Fragment.ofDocument doc).entriesUnder "paths" :=
    Fragment.mem_entriesUnder_iff.mpr ⟨paths, hpaths, hentry⟩
  have hitemPlaced := placed_of_mem_paths hdoc hraw hitem
  have hnodePlaced := (hitemPlaced.part (Fragment.part_of_field? hfield)).resolve hdoc hnode
  have hpending := forall₂_inherit (forall₂_identity hdoc hnodePlaced hown)
    (forall₂_identity hdoc hitemPlaced hshared)
  refine ⟨item, node, ⟨⟨r, rawItem, hroute, hraw, hitem⟩, rawNode, hfield, hnode⟩, ?_, ?_⟩
  · rw [hlists.parametersOf, List.forall₂_map_right_iff]
    have hplaced : ∀ raw ∈ parameterEntries node ++ inheritedEntries doc item node,
        raw.Placed doc doc := by
      intro raw hraw
      rcases List.mem_append.mp hraw with hraw | hraw
      · exact placed_of_mem_parameterEntries hnodePlaced hraw
      · exact placed_of_mem_parameterEntries hitemPlaced (List.mem_filter.mp hraw).1
    have hread := forall₂_mono hpending fun raw hraw p hp => And.intro (hplaced raw hraw) hp
    refine forall₂_comp hread.flip ?_ hparameters
    rintro p raw d ⟨hraw, hp⟩ hd
    exact isParameter_of_isPending hdoc hraw hp hd
  · have hkeys : (g.parametersOf op).map (fun p => (p.name, p.carrier)) =
        (Declaration.inherit own shared).map PendingParameter.key := by
      rw [hlists.parametersOf, List.map_map]
      refine (map_eq_map_iff_forall₂.mpr (hparameters.imp fun p d hd => ?_)).symm
      obtain ⟨_, _, rfl⟩ := parameter_eq_ok_iff.mp hd
      rfl
    rw [hkeys]
    exact nodup_inherit (nodup_of_readParameters hown) (nodup_of_readParameters hshared)

end

/-- **Parameters are inherited, never repeated.**  In the graph of a document the parameters of an
operation are, in order, one for each entry of its own list and one for each entry of the list of
its path item whose name and carrier no own entry has; each is what its entry stands for, and no two
of them share name and carrier.  Conversely, where a list of a path item or of an operation has two
entries that stand for parameters of one name and carrier, there is no graph. -/
theorem parameters_inherited_once {doc : Json} (hdoc : doc.WellFormed) :
    (∀ g, ofDocument doc = .ok g → ∀ op ∈ g.operations, ∃ item node,
      DeclaredUnder doc g op item node ∧
      List.Forall₂ (IsParameter doc op) (parameterEntries node ++ inheritedEntries doc item node)
        (g.parametersOf op) ∧
      ((g.parametersOf op).map fun p => (p.name, p.carrier)).Nodup) ∧
    ∀ owner, ListsParameters doc owner →
      ¬ ((parameterEntries owner).filterMap (identity? doc)).Nodup →
        ∃ fault, ofDocument doc = .error fault :=
  ⟨fun _ h _ hop => exists_areParameters hdoc h hop,
    fun _ howner hrepeats => howner.exists_fault hdoc hrepeats⟩

/-- A path with a shared parameter, one of its own and one that is written as a list, and two
operations, of which the first overrides the shared one. -/
def pagesDocument : Json := .obj [
  ("paths", .obj [("/pages", .obj [
    ("parameters", .arr [
      .obj [("$ref", .str "#/limit")],
      .obj [("name", .str "limit"), ("in", .str "header"), ("schema", .obj [])],
      .arr [.str "tag", .str "header", .bool true]]),
    ("get", .obj [("parameters", .arr [
      .obj [("in", .str "query"), ("required", .bool true), ("name", .str "limit")]])]),
    ("put", .obj [])])]),
  ("limit", .obj [("name", .str "limit"), ("in", .str "query"),
    ("schema", .obj [("type", .str "integer")])])]

/-- An operation that lists one parameter twice, once by a reference. -/
def twiceDocument : Json := .obj [
  ("paths", .obj [("/pages", .obj [("get", .obj [("parameters", .arr [
    .obj [("$ref", .str "#/limit")],
    .obj [("name", .str "limit"), ("in", .str "query")]])])])]),
  ("limit", .obj [("name", .str "limit"), ("in", .str "query")])]

theorem parameters_inherited_once_of_pagesDocument :
    (∃ g, ofDocument pagesDocument = .ok g ∧
      (g.operations.map fun op => (g.parametersOf op).map fun p =>
        (p.name, p.carrier, p.required, p.schema.isSome)) =
          [[("limit", .query, true, false), ("limit", .header, false, true),
            ("tag", .header, true, false)],
           [("limit", .query, false, true), ("limit", .header, false, true),
            ("tag", .header, true, false)]] ∧
      ∀ op ∈ g.operations, ∃ item node, DeclaredUnder pagesDocument g op item node ∧
        List.Forall₂ (IsParameter pagesDocument op)
          (parameterEntries node ++ inheritedEntries pagesDocument item node) (g.parametersOf op) ∧
        ((g.parametersOf op).map fun p => (p.name, p.carrier)).Nodup) ∧
    ∃ fault, ofDocument twiceDocument = .error fault := by
  have hpages : pagesDocument.WellFormed := by
    simp [pagesDocument, Json.WellFormed, Json.FieldsWellFormed, Json.AllWellFormed]
  have htwice : twiceDocument.WellFormed := by
    simp [twiceDocument, Json.WellFormed, Json.FieldsWellFormed, Json.AllWellFormed]
  constructor
  · have hreads : ∃ g, ofDocument pagesDocument = .ok g ∧
        (g.operations.map fun op => (g.parametersOf op).map fun p =>
          (p.name, p.carrier, p.required, p.schema.isSome)) =
            [[("limit", .query, true, false), ("limit", .header, false, true),
              ("tag", .header, true, false)],
             [("limit", .query, false, true), ("limit", .header, false, true),
              ("tag", .header, true, false)]] := by
      refine ⟨?g, ?h, ?parameters⟩
      case h =>
        cbv
        rfl
      case parameters => rfl
    obtain ⟨g, h, hparameters⟩ := hreads
    exact ⟨g, h, hparameters, (parameters_inherited_once hpages).1 g h⟩
  · have hrepeats : ∃ owner, ListsParameters twiceDocument owner ∧
        (parameterEntries owner).filterMap (identity? twiceDocument) =
          [("limit", .query), ("limit", .query)] := by
      have hfield : ∀ item : Fragment, item.field? Method.get.name = item.field? "get" :=
        fun _ => rfl
      refine ⟨_, .operation (List.mem_singleton.mpr rfl) rfl (hfield _) rfl, ?_⟩
      cbv
    obtain ⟨owner, howner, hkeys⟩ := hrepeats
    refine (parameters_inherited_once htwice).2 owner howner ?_
    rw [hkeys]
    simp

end Graph

end ApiGraph
