import ApiGraph.Proofs.Graph.Ownership

/-!
# Merged graphs

A graph can be put behind another one: its entries come behind those that are there, and every
number in them is shifted by the sizes of the tables that they come behind. Building goes the same
way. What has been built before shifts the numbers of what is built next and changes nothing else,
so each step commutes with putting a graph behind another one, and so do whole runs.
-/

namespace ApiGraph

/-- How many entries stand in each table before those of a part. -/
structure Offsets where
  routes : Nat
  operations : Nat
  parameters : Nat
  responses : Nat
  bodies : Nat

def Segment.shift (o : Offsets) (s : Segment) : Segment := { s with route := o.routes + s.route }

def Route.shift (o : Offsets) (r : Route) : Route :=
  { r with
    id := o.routes + r.id
    segments := r.segments.map (Segment.shift o)
    operations := r.operations.map (o.operations + ·) }

def Operation.shift (o : Offsets) (op : Operation) : Operation :=
  { op with
    id := o.operations + op.id
    route := o.routes + op.route
    parameters := op.parameters.map (o.parameters + ·)
    responses := op.responses.map (o.responses + ·)
    bodies := op.bodies.map (o.bodies + ·) }

def Parameter.shift (o : Offsets) (p : Parameter) : Parameter :=
  { p with operation := o.operations + p.operation }

def Response.shift (o : Offsets) (r : Response) : Response :=
  { r with operation := o.operations + r.operation }

def Body.shift (o : Offsets) (b : Body) : Body := { b with operation := o.operations + b.operation }

namespace Graph

def sizes (g : Graph) : Offsets :=
  ⟨g.routes.length, g.operations.length, g.parameters.length, g.responses.length, g.bodies.length⟩

/-- Puts a graph behind another one. -/
def append (g part : Graph) : Graph where
  raw := g.raw
  routes := g.routes ++ part.routes.map (Route.shift g.sizes)
  operations := g.operations ++ part.operations.map (Operation.shift g.sizes)
  parameters := g.parameters ++ part.parameters.map (Parameter.shift g.sizes)
  responses := g.responses ++ part.responses.map (Response.shift g.sizes)
  bodies := g.bodies ++ part.bodies.map (Body.shift g.sizes)

theorem append_empty (g : Graph) (raw : Json) : g.append { raw } = g := by
  simp [append]

/-! ### Building behind a graph -/

theorem shift_ofTexts (o : Offsets) (route : Nat) (texts : List String) :
    (Segment.ofTexts route texts).map (Segment.shift o) =
      Segment.ofTexts (o.routes + route) texts := by
  refine List.ext_getElem? fun i => ?_
  simp only [Segment.ofTexts, List.getElem?_map, List.getElem?_mapIdx, Option.map_map]
  rfl

theorem shift_ofPath (o : Offsets) (id : Nat) (path : String) (operations : List Nat) :
    (Route.ofPath id path operations).shift o =
      .ofPath (o.routes + id) path (operations.map (o.operations + ·)) := by
  rw [Route.ofPath, Route.ofPath, ← shift_ofTexts]
  rfl

/-- Entries that are entered behind a table get shifted numbers. -/
theorem enter_append {α δ : Type} (f : α → α) (make make' : δ → α) (h : ∀ d, make' d = f (make d))
    (before table : List α) (declared : List δ) :
    enter (before ++ table.map f) (declared.map make') =
      (before ++ (enter table (declared.map make)).1.map f,
        (enter table (declared.map make)).2.map (before.length + ·)) := by
  have hmake : declared.map make' = (declared.map make).map f := by
    rw [List.map_map]
    exact List.map_congr_left fun d _ => h d
  simp only [hmake, enter_eq, List.append_assoc, List.map_append, List.length_append,
    List.length_map, List.map_add_range']

/-- A graph that is being filled, with the operations of its last route, behind another one. -/
def appendBuilt (g : Graph) (built : Graph × List Nat) : Graph × List Nat :=
  (g.append built.1, built.2.map (g.operations.length + ·))

/-- An operation is added behind a graph as it is added alone. -/
theorem addOperation_appendBuilt (g : Graph) (route : Nat) (built : Graph × List Nat)
    (op : OperationDeclaration) :
    addOperation (g.routes.length + route) (g.appendBuilt built) op =
      g.appendBuilt (addOperation route built op) := by
  obtain ⟨part, ids⟩ := built
  have hid : (g.append part).operations.length =
      g.operations.length + part.operations.length := by
    simp only [append, List.length_append, List.length_map]
  have hparameters := enter_append (Parameter.shift g.sizes)
    (fun p : ParameterDeclaration => { p with operation := part.operations.length })
    (fun p => { p with operation := (g.append part).operations.length })
    (fun p => by rw [hid]; rfl) g.parameters part.parameters op.parameters
  have hresponses := enter_append (Response.shift g.sizes)
    (fun r : ResponseDeclaration => { r with operation := part.operations.length })
    (fun r => { r with operation := (g.append part).operations.length })
    (fun r => by rw [hid]; rfl) g.responses part.responses op.responses
  have hbodies := enter_append (Body.shift g.sizes)
    (fun b : BodyDeclaration => { b with operation := part.operations.length })
    (fun b => { b with operation := (g.append part).operations.length })
    (fun b => by rw [hid]; rfl) g.bodies part.bodies op.bodies
  have htables : (g.append part).parameters =
        g.parameters ++ part.parameters.map (Parameter.shift g.sizes) ∧
      (g.append part).responses = g.responses ++ part.responses.map (Response.shift g.sizes) ∧
      (g.append part).bodies = g.bodies ++ part.bodies.map (Body.shift g.sizes) := ⟨rfl, rfl, rfl⟩
  simp only [addOperation, appendBuilt, htables, hparameters, hresponses, hbodies]
  rw [hid]
  simp only [append, List.map_append, List.map_cons, List.map_nil, List.append_assoc]
  rfl

theorem foldl_addOperation_appendBuilt (g : Graph) (route : Nat) (ops : List OperationDeclaration)
    (built : Graph × List Nat) :
    ops.foldl (addOperation (g.routes.length + route)) (g.appendBuilt built) =
      g.appendBuilt (ops.foldl (addOperation route) built) := by
  induction ops generalizing built with
  | nil => rfl
  | cons op rest ih => rw [List.foldl_cons, List.foldl_cons, addOperation_appendBuilt, ih]

/-- A route is added behind a graph as it is added alone. -/
theorem addRoute_append (g part : Graph) (declared : PathDeclaration) :
    addRoute (g.append part) declared = g.append (addRoute part declared) := by
  have hid : (g.append part).routes.length = g.routes.length + part.routes.length := by
    simp only [append, List.length_append, List.length_map]
  have hfilled := foldl_addOperation_appendBuilt g part.routes.length declared.operations (part, [])
  simp only [addRoute, hid]
  rw [show (g.append part, ([] : List Nat)) = g.appendBuilt (part, []) from rfl, hfilled]
  simp only [appendBuilt, append, List.map_append, List.map_cons, List.map_nil, List.append_assoc,
    shift_ofPath]
  rfl

/-- **Building is a homomorphism.** The graph of two lists of declarations is that of the first with
that of the second put behind it. -/
theorem ofDeclarations_append (raw raw' : Json) (front back : List PathDeclaration) :
    ofDeclarations raw (front ++ back) =
      (ofDeclarations raw front).append (ofDeclarations raw' back) := by
  have hrun : ∀ g part : Graph, back.foldl addRoute (g.append part) =
      g.append (back.foldl addRoute part) := by
    induction back with
    | nil => exact fun _ _ => rfl
    | cons declared rest ih =>
      intro g part
      rw [List.foldl_cons, List.foldl_cons, addRoute_append, ih]
  have hwhole := hrun (ofDeclarations raw front) { raw := raw' }
  rw [append_empty] at hwhole
  rw [ofDeclarations, List.foldl_append]
  exact hwhole

/-! ### Finding a part again -/

/-- The entries of a part stand in the tables of a graph behind others, with shifted numbers. -/
structure Holds (g : Graph) (o : Offsets) (part : Graph) : Prop where
  routes : ∀ i r, part.routes[i]? = some r → g.routes[o.routes + i]? = some (r.shift o)
  operations : ∀ i op, part.operations[i]? = some op →
    g.operations[o.operations + i]? = some (op.shift o)
  parameters : ∀ i p, part.parameters[i]? = some p →
    g.parameters[o.parameters + i]? = some (p.shift o)
  responses : ∀ i r, part.responses[i]? = some r → g.responses[o.responses + i]? = some (r.shift o)
  bodies : ∀ i b, part.bodies[i]? = some b → g.bodies[o.bodies + i]? = some (b.shift o)

theorem getElem?_append_map_append {α : Type} {front table back : List α} {f : α → α} {i : Nat}
    {e : α} (h : table[i]? = some e) :
    (front ++ table.map f ++ back)[front.length + i]? = some (f e) := by
  refine getElem?_append_left_of_eq_some ?_
  rw [List.getElem?_append_right (Nat.le_add_right _ _), Nat.add_sub_cancel_left, List.getElem?_map,
    h, Option.map_some]

/-- A graph that has been put between two others is found behind the first one. -/
theorem holds_append (front part back : Graph) :
    ((front.append part).append back).Holds front.sizes part where
  routes _ _ h := getElem?_append_map_append h
  operations _ _ h := getElem?_append_map_append h
  parameters _ _ h := getElem?_append_map_append h
  responses _ _ h := getElem?_append_map_append h
  bodies _ _ h := getElem?_append_map_append h

/-- What shifted numbers lead to is what the numbers led to, shifted. -/
theorem filterMap_shifted {α β : Type} {owners : List α} {id : α → Nat} {parts : α → List Nat}
    {table part : List β} {owner : β → Nat} {f : β → β} {n : Nat}
    (hdivided : Divided owners id parts part owner)
    (h : ∀ i e, part[i]? = some e → table[n + i]? = some (f e)) {o : α} (ho : o ∈ owners) :
    ((parts o).map (n + ·)).filterMap (table[·]?) = ((parts o).filterMap (part[·]?)).map f := by
  have hall := hdivided.owned o ho
  revert hall
  induction parts o with
  | nil => exact fun _ => rfl
  | cons i rest ih =>
    intro hall
    obtain ⟨e, he, _⟩ := hall i List.mem_cons_self
    rw [List.map_cons, List.filterMap_cons_some (h i e he), List.filterMap_cons_some he,
      List.map_cons, ih fun j hj => hall j (List.mem_cons_of_mem _ hj)]

/-- Under a route of a graph stands what stands under a route of a part, with shifted numbers. -/
structure SameRoute (g : Graph) (o : Offsets) (part : Graph) (r : Route) : Prop where
  operations : g.operationsOf (r.shift o) = (part.operationsOf r).map (Operation.shift o)
  parameters : ∀ op ∈ part.operationsOf r,
    g.parametersOf (op.shift o) = (part.parametersOf op).map (Parameter.shift o)
  responses : ∀ op ∈ part.operationsOf r,
    g.responsesOf (op.shift o) = (part.responsesOf op).map (Response.shift o)
  bodies : ∀ op ∈ part.operationsOf r,
    g.bodiesOf (op.shift o) = (part.bodiesOf op).map (Body.shift o)

theorem Holds.sameRoute {g part : Graph} {o : Offsets} (h : g.Holds o part) (howned : Owned part)
    {r : Route} (hr : r ∈ part.routes) : g.SameRoute o part r := by
  have hmem : ∀ op ∈ part.operationsOf r, op ∈ part.operations := by
    intro op hop
    obtain ⟨i, _, hi⟩ := List.mem_filterMap.mp hop
    exact List.mem_of_getElem? hi
  exact {
    operations := filterMap_shifted howned.operations h.operations hr
    parameters := fun op hop => filterMap_shifted howned.parameters h.parameters (hmem op hop)
    responses := fun op hop => filterMap_shifted howned.responses h.responses (hmem op hop)
    bodies := fun op hop => filterMap_shifted howned.bodies h.bodies (hmem op hop) }

end Graph

end ApiGraph
