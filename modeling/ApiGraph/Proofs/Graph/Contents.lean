import ApiGraph.Proofs.Graph.Selection

/-!
# What a graph holds

Read off the document alone, without the declarations in between: a route for each path, an
operation for each method of its item, the responses of an operation key by key and within a
key content type by content type, and its bodies content type by content type. All of them
stand in the order of the document, but the operations, which stand in the order of methods.

The order of the flat tables is that of the nested document at every level, so the levels can
be told one by one: the entities of an operation are those of its entries, one after the
other, and an entry has one for each of its content types.
-/

namespace ApiGraph

open Outcome Declaration

/-- The entries of the object under a key, none if nothing stands there. -/
def Fragment.entriesUnder (f : Fragment) (key : String) : List (String × Fragment) :=
  ((f.field? key).map Fragment.fields).getD []

theorem Fragment.map_value_entriesUnder (f : Fragment) (key : String) :
    (f.entriesUnder key).map (fun entry => (entry.1, entry.2.value)) =
      ((f.value.get? key).bind Json.fields?).getD [] := by
  rw [entriesUnder, field?, Option.map_map]
  cases f.value.get? key with
  | none => rfl
  | some v => exact map_value_fields _

/-- The schema that is read under a content type: none where there is no schema, or one that stands
for nothing, and otherwise what it resolves to, whatever messages call its position. -/
inductive MediaSchema (doc : Json) (owner : Fragment) (mimeType : String) :
    Option TypeSchema → Prop
  | absent (hraw : owner.walk? ["content", mimeType, "schema"] = none) :
      MediaSchema doc owner mimeType none
  | blank {raw node : Fragment} (hraw : owner.walk? ["content", mimeType, "schema"] = some raw)
      (hnode : Reference.resolve doc raw = .ok node)
      (hblank : node.value.isObj = false ∨ node.value = .obj []) :
      MediaSchema doc owner mimeType none
  | typed {raw node : Fragment} {s : TypeSchema}
      (hraw : owner.walk? ["content", mimeType, "schema"] = some raw)
      (hnode : Reference.resolve doc raw = .ok node) (hobj : node.value.isObj = true)
      (hfilled : node.value ≠ .obj [])
      (hs : ∀ location, TypeSchema.resolve doc raw location = .ok s) :
      MediaSchema doc owner mimeType (some s)

theorem mediaSchema_of_eq_ok {doc : Json} {owner : Fragment} {mimeType location : String}
    {s : Option TypeSchema} (hdoc : doc.WellFormed) (howner : owner.Placed doc doc)
    (h : mediaSchema doc owner mimeType location = .ok s) : MediaSchema doc owner mimeType s := by
  rw [mediaSchema] at h
  split at h
  · next hraw =>
    cases h
    exact .absent hraw
  · next raw hraw =>
    obtain ⟨node, hnode, h⟩ := bind_eq_ok_iff.mp h
    have hplaced : raw.Placed doc doc :=
      Fragment.walk?_induction (fun _ _ hpart hf => hf.part hpart) hraw howner
    obtain ⟨place, value⟩ := node
    cases value with
    | obj fields =>
      cases fields with
      | nil =>
        cases h
        exact .blank hraw hnode (Or.inr rfl)
      | cons field rest =>
        obtain ⟨t, ht, rfl⟩ := map_eq_ok_iff.mp h
        exact .typed hraw hnode rfl (by simp) fun l =>
          TypeSchema.resolve_of_resolve_target hdoc hplaced hnode ht l
    | _ =>
      cases h
      exact .blank hraw hnode (Or.inl rfl)

namespace Graph

/-! ### Entities -/

/-- A response entity of an operation for one content type of an entry under a status. -/
structure IsResponse (doc : Json) (op : Operation) (status : StatusKey) (entry : Fragment)
    (mimeType : String) (r : Response) : Prop where
  operation : r.operation = op.id
  status : r.status = status
  mime : r.mimeType = mimeType
  schema : MediaSchema doc entry mimeType r.schema

/-- The response entities of an operation for one entry of its responses map: one for each content
type of what the entry stands for. -/
def AreResponses (doc : Json) (op : Operation) (entry : String × Fragment)
    (group : List Response) : Prop :=
  ∃ status response, StatusKey.parse? entry.1 = some status ∧
    Reference.resolve doc entry.2 = .ok response ∧
    List.Forall₂ (IsResponse doc op status response) (contentTypes response.value) group

/-- A body entity of an operation for one content type of its request body. -/
structure IsBody (doc : Json) (op : Operation) (entry : Fragment) (mimeType : String) (b : Body) :
    Prop where
  operation : b.operation = op.id
  mime : b.mimeType = mimeType
  schema : MediaSchema doc entry mimeType b.schema

/-- An operation of a route holds what is declared under its method. -/
structure HoldsOperation (doc : Json) (g : Graph) (r : Route) (declared : Method × Fragment)
    (op : Operation) : Prop where
  route : op.route = r.id
  method : op.method = declared.1
  parts : ∃ node, Reference.resolve doc declared.2 = .ok node ∧
    (∃ groups, List.Forall₂ (AreResponses doc op) (node.entriesUnder "responses") groups ∧
      g.responsesOf op = groups.flatten) ∧
    (node.field? "requestBody" = none → g.bodiesOf op = []) ∧
    ∀ raw, node.field? "requestBody" = some raw → ∃ body, Reference.resolve doc raw = .ok body ∧
      List.Forall₂ (IsBody doc op body) (contentTypes body.value) (g.bodiesOf op)

/-- A route holds what is declared under its path. -/
structure HoldsPath (doc : Json) (g : Graph) (entry : String × Fragment) (r : Route) : Prop where
  path : r.path = entry.1
  operations : ∃ item, Reference.resolve doc entry.2 = .ok item ∧
    List.Forall₂ (HoldsOperation doc g r) (methodsOf item) (g.operationsOf r)

/-! ### One operation, one route, all routes -/

section

variable {doc : Json} {g : Graph} {op : Operation} {d : OperationDeclaration} {node : Fragment}
  {location : String}

theorem areResponses_of_response {entry : String × Fragment} {ds : List ResponseDeclaration}
    (hdoc : doc.WellFormed) (hentry : entry.2.Placed doc doc)
    (h : Declaration.response doc location entry.1 entry.2 = .ok ds) :
    AreResponses doc op entry (ds.map fun d => { d with operation := op.id }) := by
  obtain ⟨status, response, hstatus, hresponse, hall⟩ := response_eq_ok_iff.mp h
  refine ⟨status, response, hstatus, hresponse, ?_⟩
  rw [List.forall₂_map_right_iff]
  refine hall.imp fun mimeType d hd => ?_
  obtain ⟨schema, hschema, rfl⟩ := hd
  exact ⟨rfl, rfl, rfl, mediaSchema_of_eq_ok hdoc (hentry.resolve hdoc hresponse) hschema⟩

theorem exists_areResponses (op : Operation) {responses : List ResponseDeclaration}
    (hdoc : doc.WellFormed) (hnode : node.Placed doc doc)
    (h : Declaration.responses doc node location = .ok responses) :
    ∃ groups, List.Forall₂ (AreResponses doc op) (node.entriesUnder "responses") groups ∧
      (responses.map fun d => ({ d with operation := op.id } : Response)) = groups.flatten := by
  rw [Fragment.entriesUnder]
  cases hmap : node.field? "responses" with
  | none =>
    rw [responses_of_field?_eq_none hmap] at h
    cases h
    exact ⟨[], .nil, rfl⟩
  | some map =>
    obtain ⟨_, groups, hgroups, rfl⟩ := (responses_eq_ok_iff hmap).mp h
    refine ⟨groups.map fun group => group.map fun d => { d with operation := op.id }, ?_, ?_⟩
    · rw [List.forall₂_map_right_iff]
      refine forall₂_mono hgroups fun entry hentry ds hds => ?_
      exact areResponses_of_response hdoc
        ((hnode.part (Fragment.part_of_field? hmap)).part (Fragment.part_of_mem_fields hentry)) hds
    · rw [List.map_flatten]

theorem areBodies_of_bodies (op : Operation) {raw : Fragment} {bodies : List BodyDeclaration}
    (hdoc : doc.WellFormed) (hnode : node.Placed doc doc)
    (h : Declaration.bodies doc node location = .ok bodies)
    (hraw : node.field? "requestBody" = some raw) :
    ∃ body, Reference.resolve doc raw = .ok body ∧ List.Forall₂ (IsBody doc op body)
      (contentTypes body.value) (bodies.map fun b => { b with operation := op.id }) := by
  obtain ⟨body, hbody, hall⟩ := (bodies_eq_ok_iff hraw).mp h
  refine ⟨body, hbody, ?_⟩
  rw [List.forall₂_map_right_iff]
  refine hall.imp fun mimeType d hd => ?_
  obtain ⟨schema, hschema, rfl⟩ := hd
  have hplaced := (hnode.part (Fragment.part_of_field? hraw)).resolve hdoc hbody
  exact ⟨rfl, rfl, mediaSchema_of_eq_ok hdoc hplaced hschema⟩

theorem ListsOperation.holds {r : Route} {declared : Method × Fragment}
    {shared : List PendingParameter} (hdoc : doc.WellFormed) (hraw : declared.2.Placed doc doc)
    (hlists : ListsOperation g op d) (hroute : op.route = r.id)
    (h : Declaration.operation doc shared location declared.1 declared.2 = .ok d) :
    HoldsOperation doc g r declared op := by
  obtain ⟨node, _, _, responses, bodies, hnode, _, _, _, hresponses, hbodies, rfl⟩ :=
    operation_eq_ok_iff.mp h
  have hplaced : node.Placed doc doc := hraw.resolve hdoc hnode
  refine ⟨hroute, hlists.method, node, hnode, ?_, ?_, ?_⟩
  · rw [hlists.responsesOf]
    exact exists_areResponses op hdoc hplaced hresponses
  · intro hnone
    rw [bodies_of_field?_eq_none hnone] at hbodies
    cases hbodies
    exact hlists.bodiesOf
  · intro raw hbody
    rw [hlists.bodiesOf]
    exact areBodies_of_bodies op hdoc hplaced hbodies hbody

theorem ListsRoute.holds {r : Route} {entry : String × Fragment} {declared : PathDeclaration}
    (hdoc : doc.WellFormed) (hentry : entry.2.Placed doc doc) (howned : Owned g)
    (hr : r ∈ g.routes) (hlists : ListsRoute g r declared)
    (h : Declaration.path doc entry.1 entry.2 = .ok declared) : HoldsPath doc g entry r := by
  obtain ⟨item, shared, operations, hitem, _, _, hoperations, rfl⟩ := path_eq_ok_iff.mp h
  refine ⟨hlists.path, item, hitem, ?_⟩
  have hplaced : item.Placed doc doc := hentry.resolve hdoc hitem
  have howns : List.Forall₂ (fun i d => ∃ op, g.operations[i]? = some op ∧
      (op.route = r.id ∧ ListsOperation g op d)) r.operations operations := by
    refine forall₂_mono hlists.operations fun i hi d hat => ?_
    obtain ⟨op, hop, _, hlistsOp⟩ := hat
    obtain ⟨op', hop', hroute⟩ := howned.operations.owned r hr i hi
    cases hop.symm.trans hop'
    exact ⟨op, hop, hroute, hlistsOp⟩
  obtain ⟨ops, hids, hops⟩ := exists_of_forall₂_exists howns
  have hlisted : g.operationsOf r = ops.map id := LeadsTo.filterMap_eq hids
  rw [hlisted, List.map_id]
  have hread := forall₂_mono hoperations fun declared hdeclared d hd =>
    And.intro (hplaced.part (Fragment.part_of_field? (mem_methodsOf_iff.mp hdeclared))) hd
  refine forall₂_comp hread.flip ?_ hops.flip
  rintro d declared op ⟨hraw, hd⟩ ⟨hroute, hlistsOp⟩
  exact hlistsOp.holds hdoc hraw hroute hd

theorem exists_parse?_of_mem_responses (hdoc : doc.WellFormed) (h : ofDocument doc = .ok g)
    {r : Response} (hr : r ∈ g.responses) : ∃ key, StatusKey.parse? key = some r.status := by
  obtain ⟨_, _, howned, _⟩ := exists_declarations h
  obtain ⟨i, hi⟩ := List.mem_iff_getElem?.mp hr
  obtain ⟨op, hop, hmem, _⟩ := howned.responses.exists_owner hi
  obtain ⟨node, _, _, rawNode, d, hdeclared, hnode, hlists, hread⟩ := exists_declaredBy h hop
  obtain ⟨node', _, _, responses, _, hnode', _, _, _, hresponses, _, rfl⟩ :=
    operation_eq_ok_iff.mp hread
  cases hnode.symm.trans hnode'
  have hresponse : r ∈ g.responsesOf op := List.mem_filterMap.mpr ⟨i, hmem, hi⟩
  obtain ⟨groups, hgroups, heq⟩ := exists_areResponses op hdoc (hdeclared.placed hdoc) hresponses
  rw [hlists.responsesOf, heq] at hresponse
  obtain ⟨group, hgroup, hin⟩ := List.mem_flatten.mp hresponse
  obtain ⟨entry, _, status, response, hstatus, _, hall⟩ :=
    exists_of_forall₂_mem hgroups.flip hgroup
  obtain ⟨_, _, his⟩ := exists_of_forall₂_mem hall.flip hin
  exact ⟨entry.1, his.status ▸ hstatus⟩

end

/-- **A graph lists exactly what its document declares.**  There is a route for each path, in order,
and it holds an operation for each method of the path item, in the order of methods; an operation
holds a response for each content type of each entry of its responses map and a body for each
content type of its request body, in order, with the schema that stands there.  The number of a
response is zero under `default` and under classes of codes and is a proper code elsewhere. -/
theorem ofDocument_contents {doc : Json} {g : Graph} (hdoc : doc.WellFormed)
    (h : ofDocument doc = .ok g) :
    List.Forall₂ (HoldsPath doc g) ((Fragment.ofDocument doc).entriesUnder "paths") g.routes ∧
    ∀ r ∈ g.responses,
      (r.status.number = 0 ↔ r.status = .default ∨ ∃ hundreds, r.status = .range hundreds) ∧
      (r.status.number ≠ 0 → 100 ≤ r.status.number ∧ r.status.number ≤ 599) := by
  have hroot : (Fragment.ofDocument doc).Placed doc doc := Fragment.placed_ofDocument hdoc
  obtain ⟨declared, hdeclared, howned, hlists⟩ := exists_declarations h
  constructor
  · rw [Fragment.entriesUnder]
    cases hpaths : (Fragment.ofDocument doc).field? "paths" with
    | none =>
      rw [Declaration.paths, hpaths] at hdeclared
      cases hdeclared
      exact List.forall₂_nil_right_iff.mp hlists ▸ .nil
    | some paths =>
      obtain ⟨_, hall⟩ := (paths_eq_ok_iff hpaths).mp hdeclared
      have hentries := forall₂_mono hall fun entry hentry d hd =>
        And.intro ((hroot.part (Fragment.part_of_field? hpaths)).part
          (Fragment.part_of_mem_fields hentry)) hd
      have hroutes := forall₂_mono hlists fun r hr d hd => And.intro hr hd
      refine forall₂_comp hentries.flip ?_ hroutes.flip
      rintro d entry r ⟨hentry, hd⟩ ⟨hr, hlistsRoute⟩
      exact hlistsRoute.holds hdoc hentry howned hr hd
  · intro r hr
    obtain ⟨key, hkey⟩ := exists_parse?_of_mem_responses hdoc h hr
    exact StatusKey.number_of_parse? hkey

/-- A response with two content types beside one that is shared, under a class of codes, and a
request body. -/
def mediaDocument : Json := .obj [
  ("paths", .obj [("/a", .obj [
    ("post", .obj [
      ("requestBody", .obj [("content", .obj [("text/plain", .obj [])])]),
      ("responses", .obj [
        ("200", .obj [("content", .obj [
          ("text/html", .obj [("schema", .obj [])]),
          ("application/json", .obj [("schema", .obj [("type", .str "string")])])])]),
        ("4XX", .obj [("$ref", .str "#/fault")])])])])]),
  ("fault", .obj [("content", .obj [("text/plain", .obj [])])])]

theorem ofDocument_contents_of_mediaDocument :
    mediaDocument.WellFormed ∧ ∃ g, ofDocument mediaDocument = .ok g ∧
      List.Forall₂ (HoldsPath mediaDocument g)
        ((Fragment.ofDocument mediaDocument).entriesUnder "paths") g.routes ∧
      g.responses.map (fun r => (r.status, r.mimeType, r.schema.isSome)) =
        [(.code 200, "text/html", false), (.code 200, "application/json", true),
          (.range 4, "text/plain", false)] ∧
      ∀ r ∈ g.responses, r.status.number ≠ 0 → 100 ≤ r.status.number ∧ r.status.number ≤ 599 := by
  have hdoc : mediaDocument.WellFormed := by
    simp [mediaDocument, Json.WellFormed, Json.FieldsWellFormed]
  have hreads : ∃ g, ofDocument mediaDocument = .ok g ∧
      g.responses.map (fun r => (r.status, r.mimeType, r.schema.isSome)) =
        [(.code 200, "text/html", false), (.code 200, "application/json", true),
          (.range 4, "text/plain", false)] := by
    refine ⟨?g, ?h, ?responses⟩
    case h =>
      cbv
      rfl
    case responses => rfl
  obtain ⟨g, h, hresponses⟩ := hreads
  obtain ⟨hroutes, hnumbers⟩ := ofDocument_contents hdoc h
  exact ⟨hdoc, g, h, hroutes, hresponses, fun r hr => (hnumbers r hr).2⟩

end Graph

end ApiGraph
