import ApiGraph.Proofs.Graph.Declaration
import ApiGraph.Proofs.Graph.Ownership
import ApiGraph.Proofs.Schema.Unfolding

/-!
# What a graph lists

A graph lists what its document declares: a route for each path, in order, and in it an
operation for each declared one, with the declared parameters, responses and bodies. The
entities differ from the declarations only in the number of the operation they belong to.

Tables only grow, so what a list has led to it leads to for ever. Hence it is enough to see
that each operation is listed when it is appended.
-/

namespace ApiGraph.Graph

open Outcome

/-- Whatever the tables of one graph hold, those of the other hold at the same numbers. -/
structure Extends (g g' : Graph) : Prop where
  operations : ∀ {i : Nat} {op}, g.operations[i]? = some op → g'.operations[i]? = some op
  parameters : ∀ {i : Nat} {p}, g.parameters[i]? = some p → g'.parameters[i]? = some p
  responses : ∀ {i : Nat} {r}, g.responses[i]? = some r → g'.responses[i]? = some r
  bodies : ∀ {i : Nat} {b}, g.bodies[i]? = some b → g'.bodies[i]? = some b

theorem Extends.refl (g : Graph) : Extends g g := ⟨id, id, id, id⟩

theorem Extends.trans {g g' g'' : Graph} (h : Extends g g') (h' : Extends g' g'') :
    Extends g g'' where
  operations hop := h'.operations (h.operations hop)
  parameters hp := h'.parameters (h.parameters hp)
  responses hr := h'.responses (h.responses hr)
  bodies hb := h'.bodies (h.bodies hb)

/-- A list of numbers leads, entry by entry, to what has been made of the declared parts. -/
def LeadsTo {α β : Type} (table : List β) (make : α → β) (ids : List Nat) (declared : List α) :
    Prop :=
  List.Forall₂ (fun i d => table[i]? = some (make d)) ids declared

/-- An operation of the graph is a declared one, with all its parts. -/
structure ListsOperation (g : Graph) (op : Operation) (d : OperationDeclaration) : Prop where
  method : op.method = d.method
  operationId : op.operationId = d.operationId
  summary : op.summary = d.summary
  description : op.description = d.description
  tags : op.tags = d.tags
  deprecated : op.deprecated = d.deprecated
  parameters : LeadsTo g.parameters (fun p : ParameterDeclaration => { p with operation := op.id })
    op.parameters d.parameters
  responses : LeadsTo g.responses (fun r : ResponseDeclaration => { r with operation := op.id })
    op.responses d.responses
  bodies : LeadsTo g.bodies (fun b : BodyDeclaration => { b with operation := op.id })
    op.bodies d.bodies

/-- The operation under a number of the graph is a declared one. -/
def ListsAt (g : Graph) (i : Nat) (d : OperationDeclaration) : Prop :=
  ∃ op, g.operations[i]? = some op ∧ op.id = i ∧ ListsOperation g op d

/-- A route of the graph is a declared path, with all its operations in order. -/
structure ListsRoute (g : Graph) (r : Route) (d : PathDeclaration) : Prop where
  path : r.path = d.path
  operations : List.Forall₂ (ListsAt g) r.operations d.operations

/-- The routes of the graph are the declared paths in order. -/
def Lists (g : Graph) (declared : List PathDeclaration) : Prop :=
  List.Forall₂ (ListsRoute g) g.routes declared

theorem ListsAt.mono {g g' : Graph} (hext : Extends g g') {i : Nat} {d : OperationDeclaration}
    (h : ListsAt g i d) : ListsAt g' i d := by
  obtain ⟨op, hop, hid, hlists⟩ := h
  exact ⟨op, hext.operations hop, hid, { hlists with
    parameters := hlists.parameters.imp fun _ _ => hext.parameters
    responses := hlists.responses.imp fun _ _ => hext.responses
    bodies := hlists.bodies.imp fun _ _ => hext.bodies }⟩

theorem ListsRoute.mono {g g' : Graph} (hext : Extends g g') {r : Route} {d : PathDeclaration}
    (h : ListsRoute g r d) : ListsRoute g' r d :=
  ⟨h.path, h.operations.imp fun _ _ hat => hat.mono hext⟩

/-! ### One operation, one route, all routes -/

/-- The numbers that entering gives out lead to what has been entered. -/
theorem leadsTo_enter {α β : Type} (table : List β) (make : α → β) (declared : List α) :
    LeadsTo (enter table (declared.map make)).1 make (enter table (declared.map make)).2
      declared := by
  rw [enter_eq, LeadsTo, List.forall₂_iff_get]
  refine ⟨by simp, fun i h₁ h₂ => ?_⟩
  rw [List.get_eq_getElem, List.getElem_range', Nat.one_mul, List.getElem?_append_right (by omega),
    Nat.add_sub_cancel_left, List.getElem?_map, List.getElem?_eq_getElem h₂]
  rfl

theorem extends_addOperation (route : Nat) (built : Graph × List Nat) (d : OperationDeclaration) :
    Extends built.1 (addOperation route built d).1 := by
  constructor
  · exact getElem?_append_left_of_eq_some
  all_goals
    intro i e he
    simp only [addOperation, enter_eq]
    exact getElem?_append_left_of_eq_some he

theorem listsAt_addOperation (route : Nat) (built : Graph × List Nat) (d : OperationDeclaration) :
    ListsAt (addOperation route built d).1 built.1.operations.length d := by
  refine ⟨_, List.getElem?_concat_length, rfl, ?_⟩
  exact {
    method := rfl
    operationId := rfl
    summary := rfl
    description := rfl
    tags := rfl
    deprecated := rfl
    parameters := leadsTo_enter _ _ _
    responses := leadsTo_enter _ _ _
    bodies := leadsTo_enter _ _ _ }

/-- While a route is filled, its list leads to the operations that have been declared so far. -/
theorem listsAt_foldl_addOperation (route : Nat) (ds : List OperationDeclaration) :
    ∀ {built : Graph × List Nat} {listed : List OperationDeclaration},
      List.Forall₂ (ListsAt built.1) built.2 listed →
      (ds.foldl (addOperation route) built).1.routes = built.1.routes ∧
      Extends built.1 (ds.foldl (addOperation route) built).1 ∧
      List.Forall₂ (ListsAt (ds.foldl (addOperation route) built).1)
        (ds.foldl (addOperation route) built).2 (listed ++ ds) := by
  induction ds with
  | nil =>
    intro built listed h
    rw [List.append_nil]
    exact ⟨rfl, .refl _, h⟩
  | cons d rest ih =>
    intro built listed h
    have hext := extends_addOperation route built d
    have hnext : List.Forall₂ (ListsAt (addOperation route built d).1)
        (addOperation route built d).2 (listed ++ [d]) :=
      List.rel_append (h.imp fun _ _ hat => hat.mono hext)
        (.cons (listsAt_addOperation route built d) .nil)
    obtain ⟨hroutes, hrest, hlisted⟩ := ih hnext
    rw [List.append_assoc] at hlisted
    exact ⟨hroutes, hext.trans hrest, hlisted⟩

theorem Lists.addRoute {g : Graph} {declared : List PathDeclaration} (h : Lists g declared)
    (d : PathDeclaration) : Lists (addRoute g d) (declared ++ [d]) := by
  obtain ⟨hroutes, hext, hlisted⟩ :=
    listsAt_foldl_addOperation g.routes.length d.operations
      (show List.Forall₂ (ListsAt (g, ([] : List Nat)).1) [] [] from .nil)
  have hclosed : Extends (d.operations.foldl (addOperation g.routes.length) (g, [])).1
      (Graph.addRoute g d) := ⟨id, id, id, id⟩
  have hold := h.imp fun _ _ hr => hr.mono (hext.trans hclosed)
  have hnew : ListsRoute (Graph.addRoute g d)
      (.ofPath g.routes.length d.path
        (d.operations.foldl (addOperation g.routes.length) (g, [])).2) d :=
    ⟨rfl, hlisted.imp fun _ _ hat => hat.mono hclosed⟩
  have heq : (Graph.addRoute g d).routes = g.routes ++ [.ofPath g.routes.length d.path
      (d.operations.foldl (addOperation g.routes.length) (g, [])).2] := by
    simp only [Graph.addRoute, hroutes]
  rw [Lists, heq]
  exact List.rel_append hold (.cons hnew .nil)

theorem lists_ofDeclarations (raw : Json) (declared : List PathDeclaration) :
    Lists (ofDeclarations raw declared) declared := by
  have hrun : ∀ g listed, Lists g listed →
      Lists (declared.foldl Graph.addRoute g) (listed ++ declared) := by
    induction declared with
    | nil =>
      intro g listed h
      rw [List.append_nil]
      exact h
    | cons d rest ih =>
      intro g listed h
      have hrest := ih (Graph.addRoute g d) (listed ++ [d]) (h.addRoute d)
      rw [List.append_assoc] at hrest
      exact hrest
  exact hrun { raw } [] .nil

/-! ### From an entity back to what declared it -/

/-- Following the numbers of a list gives what has been made of the declared parts. -/
theorem LeadsTo.filterMap_eq {α β : Type} {table : List β} {make : α → β} {ids : List Nat}
    {declared : List α} (h : LeadsTo table make ids declared) :
    ids.filterMap (table[·]?) = declared.map make := by
  induction h with
  | nil => rfl
  | cons hi _ ih => rw [List.filterMap_cons_some hi, List.map_cons, ih]

theorem ListsOperation.responsesOf {g : Graph} {op : Operation} {d : OperationDeclaration}
    (h : ListsOperation g op d) :
    g.responsesOf op = d.responses.map fun r => { r with operation := op.id } :=
  h.responses.filterMap_eq

theorem ListsOperation.parametersOf {g : Graph} {op : Operation} {d : OperationDeclaration}
    (h : ListsOperation g op d) :
    g.parametersOf op = d.parameters.map fun p => { p with operation := op.id } :=
  h.parameters.filterMap_eq

theorem ListsOperation.bodiesOf {g : Graph} {op : Operation} {d : OperationDeclaration}
    (h : ListsOperation g op d) :
    g.bodiesOf op = d.bodies.map fun b => { b with operation := op.id } :=
  h.bodies.filterMap_eq

/-- In a route that lists the operations of a path item, the operation under a method is found, and
it is the one that is declared there. -/
theorem exists_operationFor? {doc : Json} {g : Graph} {r : Route} {item raw : Fragment}
    {shared : List PendingParameter} (location : Method → String)
    {declared : List OperationDeclaration} {method : Method}
    (hread : List.Forall₂ (fun entry d => Declaration.operation doc shared (location entry.1)
      entry.1 entry.2 = .ok d) (Declaration.methodsOf item) declared)
    (hlists : List.Forall₂ (ListsAt g) r.operations declared)
    (hraw : item.field? method.name = some raw) :
    ∃ op d, g.operationFor? r method = some op ∧ ListsOperation g op d ∧
      Declaration.operation doc shared (location method) method raw = .ok d := by
  have hfrom : ∀ d ∈ declared, ∃ raw', item.field? d.method.name = some raw' ∧
      Declaration.operation doc shared (location d.method) d.method raw' = .ok d := by
    intro d hd
    obtain ⟨⟨m, raw'⟩, hentry, hd'⟩ := exists_of_forall₂_mem hread.flip hd
    have hmethod : d.method = m := by
      obtain ⟨_, _, _, _, _, _, _, _, _, _, _, rfl⟩ := Declaration.operation_eq_ok_iff.mp hd'
      rfl
    rw [hmethod]
    exact ⟨raw', Declaration.mem_methodsOf_iff.mp hentry, hd'⟩
  have hsome : (g.operationFor? r method).isSome = true := by
    obtain ⟨d, hd, hd'⟩ := exists_of_forall₂_mem hread (Declaration.mem_methodsOf_iff.mpr hraw)
    obtain ⟨i, hi, op, hop, _, hlistsOp⟩ := exists_of_forall₂_mem hlists.flip hd
    have hmethod : op.method = method := by
      obtain ⟨_, _, _, _, _, _, _, _, _, _, _, rfl⟩ := Declaration.operation_eq_ok_iff.mp hd'
      exact hlistsOp.method
    rw [operationFor?, List.find?_isSome]
    exact ⟨op, List.mem_filterMap.mpr ⟨i, hi, hop⟩, beq_iff_eq.mpr hmethod⟩
  obtain ⟨op, hop⟩ := Option.isSome_iff_exists.mp hsome
  have hmethod : op.method = method :=
    beq_iff_eq.mp (List.find?_some (p := fun o : Operation => o.method == method) hop)
  obtain ⟨i, hi, hat⟩ := List.mem_filterMap.mp (List.mem_of_find?_eq_some hop)
  obtain ⟨d, hd, op', hop', _, hlistsOp⟩ := exists_of_forall₂_mem hlists hi
  cases hat.symm.trans hop'
  obtain ⟨raw', hraw', hd'⟩ := hfrom d hd
  rw [← hlistsOp.method, hmethod] at hraw' hd'
  cases hraw.symm.trans hraw'
  exact ⟨op, d, hop, hlistsOp, hd'⟩

/-- `node` is the object that declares an operation: the one under the method of the operation in
the path item under the path of its route. -/
def DeclaredBy (doc : Json) (g : Graph) (op : Operation) (node : Fragment) : Prop :=
  ∃ r paths rawItem item rawNode, g.routeOf? op = some r ∧
    (Fragment.ofDocument doc).field? "paths" = some paths ∧
    (r.path, rawItem) ∈ paths.fields ∧ Reference.resolve doc rawItem = .ok item ∧
    item.field? op.method.name = some rawNode ∧ Reference.resolve doc rawNode = .ok node

theorem DeclaredBy.placed {doc : Json} {g : Graph} {op : Operation} {node : Fragment}
    (hwf : doc.WellFormed) (h : DeclaredBy doc g op node) : node.Placed doc doc := by
  obtain ⟨_, paths, rawItem, item, rawNode, _, hpaths, hmem, hitem, hfield, hnode⟩ := h
  have hroot : (Fragment.ofDocument doc).Placed doc doc := Fragment.placed_ofDocument hwf
  have hrawItem : rawItem.Placed doc doc :=
    (hroot.part (Fragment.part_of_field? hpaths)).part (Fragment.part_of_mem_fields hmem)
  have hitemPlaced : item.Placed doc doc := hrawItem.resolve hwf hitem
  exact (hitemPlaced.part (Fragment.part_of_field? hfield)).resolve hwf hnode

theorem DeclaredBy.wellFormed {doc : Json} {g : Graph} {op : Operation} {node : Fragment}
    (hwf : doc.WellFormed) (h : DeclaredBy doc g op node) : node.value.WellFormed :=
  (h.placed hwf).wellFormed

theorem exists_declarations {doc : Json} {g : Graph} (h : ofDocument doc = .ok g) :
    ∃ declared, Declaration.paths doc = .ok declared ∧ Owned g ∧ Lists g declared := by
  cases doc with
  | obj fields =>
    obtain ⟨declared, hdeclared, rfl⟩ := map_eq_ok_iff.mp h
    exact ⟨declared, hdeclared, owned_ofDeclarations _ declared, lists_ofDeclarations _ declared⟩
  | _ => cases h

/-- Every operation of a graph is a declared one. It has been read from what stands under its method
in the path item of its route, after the parameter list of that item. -/
theorem exists_readOperation {doc : Json} {g : Graph} (h : ofDocument doc = .ok g) {op : Operation}
    (hop : op ∈ g.operations) :
    ∃ r paths rawItem item rawNode shared location location' d, g.routeOf? op = some r ∧
      (Fragment.ofDocument doc).field? "paths" = some paths ∧ (r.path, rawItem) ∈ paths.fields ∧
      Reference.resolve doc rawItem = .ok item ∧
      Declaration.readParameters doc item location = .ok shared ∧
      item.field? op.method.name = some rawNode ∧ ListsOperation g op d ∧
      Declaration.operation doc shared location' op.method rawNode = .ok d := by
  obtain ⟨declared, hdeclared, howned, hlists⟩ := exists_declarations h
  obtain ⟨r, hr, hroute, hid⟩ := howned.routeOf? hop
  obtain ⟨path, hpath, hlisted⟩ := exists_of_forall₂_mem hlists hr
  obtain ⟨d, hd, op', hop', _, hlistsOp⟩ := exists_of_forall₂_mem hlisted.operations hid
  obtain ⟨i, hi⟩ := List.mem_iff_getElem?.mp hop
  rw [howned.operations_numbered i op hi, hi] at hop'
  cases hop'
  cases hpaths : (Fragment.ofDocument doc).field? "paths" with
  | none =>
    rw [Declaration.paths, hpaths] at hdeclared
    cases hdeclared
    cases hpath
  | some paths =>
    obtain ⟨_, hall⟩ := (Declaration.paths_eq_ok_iff hpaths).mp hdeclared
    obtain ⟨⟨name, rawItem⟩, hentry, hread⟩ := exists_of_forall₂_mem hall.flip hpath
    obtain ⟨item, shared, operations, hitem, _, hshared, hoperations, rfl⟩ :=
      Declaration.path_eq_ok_iff.mp hread
    obtain ⟨⟨method, rawNode⟩, hdecl, hreadOp⟩ := exists_of_forall₂_mem hoperations.flip hd
    obtain ⟨_, _, _, _, _, _, _, _, _, _, _, rfl⟩ := Declaration.operation_eq_ok_iff.mp hreadOp
    have hmethod : op.method = method := hlistsOp.method
    subst hmethod
    refine ⟨r, paths, rawItem, item, rawNode, shared, _, _, _, hroute, rfl, ?_, hitem, hshared,
      Declaration.mem_methodsOf_iff.mp hdecl, hlistsOp, hreadOp⟩
    rw [hlisted.path]
    exact hentry

theorem exists_declaredBy {doc : Json} {g : Graph} (h : ofDocument doc = .ok g) {op : Operation}
    (hop : op ∈ g.operations) :
    ∃ node shared location rawNode d, DeclaredBy doc g op node ∧
      Reference.resolve doc rawNode = .ok node ∧ ListsOperation g op d ∧
      Declaration.operation doc shared location op.method rawNode = .ok d := by
  obtain ⟨r, paths, rawItem, item, rawNode, shared, _, location, d, hroute, hpaths, hentry, hitem,
    _, hfield, hlistsOp, hread⟩ := exists_readOperation h hop
  obtain ⟨node, _, _, _, _, hnode, _⟩ := Declaration.operation_eq_ok_iff.mp hread
  exact ⟨node, shared, location, rawNode, d,
    ⟨r, paths, rawItem, item, rawNode, hroute, hpaths, hentry, hitem, hfield, hnode⟩, hnode,
    hlistsOp, hread⟩

end ApiGraph.Graph
