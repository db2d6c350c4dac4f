import Mathlib
import ApiGraph.Graph.Basic
import ApiGraph.Proofs.Outcome

/-!
# Ownership in the document graph

The tables of a graph form a forest. Routes and operations stand at their own numbers;
the operations are divided among the routes, and the parameters, responses and bodies
among the operations, without gap or repeat, and every entry names the owner whose list
it is in. So no list leads out of its table.

A route is entered after its operations, which name it all the while. The invariant is
therefore not stated of the graph that is being filled but of that graph with the open
route closed: this is what every step keeps, and the next route starts from it.
-/

namespace ApiGraph

/-! ### Tables -/

section Table

variable {α β : Type}

/-- Every entry of a table has its own position for a number. -/
def Numbered (id : α → Nat) (table : List α) : Prop :=
  ∀ i e, table[i]? = some e → id e = i

/-- The entries of a table are divided among owners: the lists of the owners run through all
numbers in order, and each entry names the owner whose list it is in. -/
structure Divided (owners : List α) (id : α → Nat) (parts : α → List Nat) (table : List β)
    (owner : β → Nat) : Prop where
  covers : owners.flatMap parts = List.range table.length
  owned : ∀ o ∈ owners, ∀ i ∈ parts o, ∃ e, table[i]? = some e ∧ owner e = id o

theorem getElem?_append_left_of_eq_some {table more : List α} {i : Nat} {e : α}
    (h : table[i]? = some e) : (table ++ more)[i]? = some e := by
  obtain ⟨hi, _⟩ := List.getElem?_eq_some_iff.mp h
  rw [List.getElem?_append_left hi]
  exact h

theorem Numbered.append {id : α → Nat} {table : List α} {e : α} (h : Numbered id table)
    (he : id e = table.length) : Numbered id (table ++ [e]) := by
  intro i x hx
  rcases Nat.lt_trichotomy i table.length with hlt | heq | hgt
  · rw [List.getElem?_append_left hlt] at hx
    exact h i x hx
  · rw [heq, List.getElem?_concat_length] at hx
    cases hx
    rw [he, heq]
  · have hnone : (table ++ [e])[i]? = none := by
      rw [List.getElem?_eq_none_iff, List.length_append, List.length_singleton]
      omega
    rw [hnone] at hx
    cases hx

/-- Entering entries one by one appends them all, under consecutive numbers. -/
theorem enter_eq (table entries : List α) :
    Graph.enter table entries = (table ++ entries, List.range' table.length entries.length) := by
  have hrun : ∀ (table : List α) (ids : List Nat),
      entries.foldl (fun entered entry => (entered.1 ++ [entry], entered.2 ++ [entered.1.length]))
        (table, ids) = (table ++ entries, ids ++ List.range' table.length entries.length) := by
    induction entries with
    | nil => simp
    | cons entry rest ih =>
      intro table ids
      rw [List.foldl_cons, ih, List.append_assoc, List.append_assoc, List.length_append]
      rfl
  exact hrun table []

variable {owners : List α} {id : α → Nat} {parts : α → List Nat} {table : List β}
  {owner : β → Nat}

/-- An owner is added together with the block of its entries. -/
theorem Divided.append {o : α} {entries : List β} (h : Divided owners id parts table owner)
    (hparts : parts o = List.range' table.length entries.length)
    (howner : ∀ e ∈ entries, owner e = id o) :
    Divided (owners ++ [o]) id parts (table ++ entries) owner where
  covers := by
    rw [List.flatMap_append, List.flatMap_singleton, h.covers, hparts, List.length_append,
      List.range_eq_range', List.range_eq_range', ← List.range'_append_1, Nat.zero_add]
  owned := by
    intro p hp i hi
    rcases List.mem_append.mp hp with hp | hp
    · obtain ⟨e, he, hown⟩ := h.owned p hp i hi
      exact ⟨e, getElem?_append_left_of_eq_some he, hown⟩
    · rw [List.mem_singleton.mp hp] at hi ⊢
      rw [hparts, List.mem_range'_1] at hi
      have hlt : i - table.length < entries.length := by omega
      refine ⟨entries[i - table.length], ?_, howner _ (List.getElem_mem hlt)⟩
      rw [List.getElem?_append_right hi.1, List.getElem?_eq_getElem hlt]

/-- An owner is added whose list holds the numbers under which its entries were entered. -/
theorem Divided.enter {δ : Type} {o : α} {make : δ → β} {declared : List δ}
    (h : Divided owners id parts table owner)
    (hparts : parts o = (Graph.enter table (declared.map make)).2)
    (howner : ∀ d, owner (make d) = id o) :
    Divided (owners ++ [o]) id parts (Graph.enter table (declared.map make)).1 owner := by
  rw [enter_eq] at hparts ⊢
  refine h.append hparts ?_
  intro e he
  obtain ⟨d, _, rfl⟩ := List.mem_map.mp he
  exact howner d

/-- The last owner gets one more entry. -/
theorem Divided.extend {o o' : α} {e : β} (h : Divided (owners ++ [o]) id parts table owner)
    (hid : id o' = id o) (hparts : parts o' = parts o ++ [table.length])
    (howner : owner e = id o) : Divided (owners ++ [o']) id parts (table ++ [e]) owner where
  covers := by
    have hcovers := h.covers
    rw [List.flatMap_append, List.flatMap_singleton] at hcovers ⊢
    rw [hparts, ← List.append_assoc, hcovers, List.length_append, List.length_singleton,
      List.range_succ]
  owned := by
    have hold : ∀ p ∈ owners ++ [o], ∀ i ∈ parts p,
        ∃ e', (table ++ [e])[i]? = some e' ∧ owner e' = id p := by
      intro p hp i hi
      obtain ⟨e', he', hown⟩ := h.owned p hp i hi
      exact ⟨e', getElem?_append_left_of_eq_some he', hown⟩
    intro p hp i hi
    rcases List.mem_append.mp hp with hp | hp
    · exact hold p (List.mem_append_left _ hp) i hi
    · rw [List.mem_singleton.mp hp] at hi ⊢
      rw [hparts] at hi
      rcases List.mem_append.mp hi with hi | hi
      · obtain ⟨e', he', hown⟩ := hold o (by simp) i hi
        exact ⟨e', he', hown.trans hid.symm⟩
      · rw [List.mem_singleton.mp hi, List.getElem?_concat_length]
        exact ⟨e, rfl, howner.trans hid.symm⟩

/-- The list of an owner leads to an entry at every step. -/
theorem Divided.map_eq_filterMap (h : Divided owners id parts table owner) {o : α}
    (ho : o ∈ owners) :
    (parts o).map (table[·]?) = ((parts o).filterMap (table[·]?)).map some := by
  have hall := h.owned o ho
  revert hall
  induction parts o with
  | nil => exact fun _ => rfl
  | cons i rest ih =>
    intro hall
    obtain ⟨e, he, _⟩ := hall i List.mem_cons_self
    rw [List.map_cons, List.filterMap_cons_some he, List.map_cons, he,
      ih fun j hj => hall j (List.mem_cons_of_mem _ hj)]

/-- Every entry is in the list of some owner, which is the one it names. -/
theorem Divided.exists_owner (h : Divided owners id parts table owner) {i : Nat} {e : β}
    (he : table[i]? = some e) : ∃ o ∈ owners, i ∈ parts o ∧ owner e = id o := by
  obtain ⟨hi, _⟩ := List.getElem?_eq_some_iff.mp he
  have hmem : i ∈ owners.flatMap parts := by
    rw [h.covers]
    exact List.mem_range.mpr hi
  obtain ⟨o, ho, hio⟩ := List.mem_flatMap.mp hmem
  obtain ⟨e', he', hown⟩ := h.owned o ho i hio
  rw [he] at he'
  cases he'
  exact ⟨o, ho, hio, hown⟩

end Table

/-! ### Segments -/

/-- The segments of a route name the route and their own positions, and the final one is marked. -/
def Route.Segmented (r : Route) : Prop :=
  ∀ i s, r.segments[i]? = some s →
    s.route = r.id ∧ s.position = i ∧ (s.last = true ↔ i + 1 = r.segments.length)

theorem Route.segmented_ofPath (id : Nat) (path : String) (operations : List Nat) :
    (Route.ofPath id path operations).Segmented := by
  intro i s hs
  have hlength : (Route.ofPath id path operations).segments.length = (segmentTexts path).length :=
    List.length_mapIdx
  rw [hlength]
  have hs' : ((segmentTexts path).mapIdx fun i text =>
      (⟨text, id, i, i + 1 == (segmentTexts path).length⟩ : Segment))[i]? = some s := hs
  rw [List.getElem?_mapIdx, Option.map_eq_some_iff] at hs'
  obtain ⟨text, _, rfl⟩ := hs'
  exact ⟨rfl, rfl, beq_iff_eq⟩

namespace Graph

/-! ### The invariant -/

/-- The tables of a graph form a forest of owners and parts. -/
structure Owned (g : Graph) : Prop where
  routes_numbered : Numbered Route.id g.routes
  operations_numbered : Numbered Operation.id g.operations
  operations : Divided g.routes Route.id Route.operations g.operations Operation.route
  parameters : Divided g.operations Operation.id Operation.parameters g.parameters
    Parameter.operation
  responses : Divided g.operations Operation.id Operation.responses g.responses Response.operation
  bodies : Divided g.operations Operation.id Operation.bodies g.bodies Body.operation
  segments : ∀ r ∈ g.routes, r.Segmented

/-- A graph whose last route is still being filled, closed as it stands. -/
def close (path : String) (built : Graph × List Nat) : Graph :=
  { built.1 with routes := built.1.routes ++ [.ofPath built.1.routes.length path built.2] }

theorem owned_empty (raw : Json) : Owned { raw } where
  routes_numbered := by
    intro i r hr
    cases hr
  operations_numbered := by
    intro i op hop
    cases hop
  operations := ⟨rfl, by simp⟩
  parameters := ⟨rfl, by simp⟩
  responses := ⟨rfl, by simp⟩
  bodies := ⟨rfl, by simp⟩
  segments := by simp

/-- A route can be opened: it has no operations yet. -/
theorem Owned.close_nil {g : Graph} (h : Owned g) (path : String) : Owned (close path (g, [])) where
  routes_numbered := h.routes_numbered.append rfl
  operations_numbered := h.operations_numbered
  operations := by
    have hopened := h.operations.append
      (show (Route.ofPath g.routes.length path []).operations = List.range' g.operations.length 0
        from rfl) (fun e he => absurd he List.not_mem_nil)
    rw [List.append_nil] at hopened
    exact hopened
  parameters := h.parameters
  responses := h.responses
  bodies := h.bodies
  segments := by
    intro r hr
    rcases List.mem_append.mp hr with hr | hr
    · exact h.segments r hr
    · rw [List.mem_singleton.mp hr]
      exact Route.segmented_ofPath _ _ _

/-- An operation of the open route keeps the invariant. -/
theorem Owned.addOperation {path : String} {built : Graph × List Nat} (h : Owned (close path built))
    (op : OperationDeclaration) :
    Owned (close path (addOperation built.1.routes.length built op)) where
  routes_numbered := by
    have hroutes : Numbered Route.id built.1.routes := by
      intro i r hr
      exact h.routes_numbered i r (getElem?_append_left_of_eq_some hr)
    exact hroutes.append rfl
  operations_numbered := h.operations_numbered.append rfl
  operations := h.operations.extend rfl rfl rfl
  parameters := h.parameters.enter rfl fun _ => rfl
  responses := h.responses.enter rfl fun _ => rfl
  bodies := h.bodies.enter rfl fun _ => rfl
  segments := by
    intro r hr
    rcases List.mem_append.mp hr with hr | hr
    · exact h.segments r (List.mem_append_left _ hr)
    · rw [List.mem_singleton.mp hr]
      exact Route.segmented_ofPath _ _ _

theorem Owned.foldl_addOperation {path : String} {route : Nat} (ops : List OperationDeclaration) :
    ∀ {built : Graph × List Nat}, built.1.routes.length = route → Owned (close path built) →
      (ops.foldl (Graph.addOperation route) built).1.routes = built.1.routes ∧
      Owned (close path (ops.foldl (Graph.addOperation route) built)) := by
  induction ops with
  | nil =>
    intro built _ h
    exact ⟨rfl, h⟩
  | cons op rest ih =>
    intro built hroute h
    subst hroute
    rw [List.foldl_cons]
    have hstep : Owned (close path (Graph.addOperation built.1.routes.length built op)) :=
      h.addOperation op
    exact ih rfl hstep

/-- A whole route keeps the invariant. -/
theorem Owned.addRoute {g : Graph} (h : Owned g) (declared : PathDeclaration) :
    Owned (addRoute g declared) := by
  obtain ⟨hroutes, hclosed⟩ :=
    (h.close_nil declared.path).foldl_addOperation declared.operations rfl
  have heq : Graph.addRoute g declared = close declared.path
      (declared.operations.foldl (Graph.addOperation g.routes.length) (g, [])) := by
    simp only [Graph.addRoute, close]
    rw [hroutes]
  rw [heq]
  exact hclosed

theorem owned_ofDeclarations (raw : Json) (declared : List PathDeclaration) :
    Owned (ofDeclarations raw declared) := by
  have hrun : ∀ g, Owned g → Owned (declared.foldl Graph.addRoute g) := by
    induction declared with
    | nil => exact fun _ h => h
    | cons path rest ih =>
      intro g h
      exact ih (Graph.addRoute g path) (h.addRoute path)
  exact hrun { raw } (owned_empty raw)

/-! ### What the invariant gives -/

/-- An operation leads back to the route that lists it. -/
theorem Owned.routeOf? {g : Graph} (h : Owned g) {op : Operation} (hop : op ∈ g.operations) :
    ∃ r ∈ g.routes, g.routeOf? op = some r ∧ op.id ∈ r.operations := by
  obtain ⟨i, hi⟩ := List.mem_iff_getElem?.mp hop
  obtain ⟨r, hr, hmem, hroute⟩ := h.operations.exists_owner hi
  obtain ⟨j, hj⟩ := List.mem_iff_getElem?.mp hr
  refine ⟨r, hr, ?_, ?_⟩
  · show g.routes[op.route]? = some r
    rw [hroute, h.routes_numbered j r hj]
    exact hj
  · rw [h.operations_numbered i op hi]
    exact hmem

/-- **The graph of a document is a forest of owners and parts.**  So the queries for the parts of a
route or an operation find an entry for every number in its list, and every operation has the
route it names, which lists it. -/
theorem ofDocument_ownership {raw : Json} {g : Graph} (h : ofDocument raw = .ok g) :
    Owned g ∧
    (∀ r ∈ g.routes, r.operations.map g.operation? = (g.operationsOf r).map some) ∧
    ∀ op ∈ g.operations,
      op.parameters.map (g.parameters[·]?) = (g.parametersOf op).map some ∧
      op.responses.map (g.responses[·]?) = (g.responsesOf op).map some ∧
      op.bodies.map (g.bodies[·]?) = (g.bodiesOf op).map some ∧
      ∃ r ∈ g.routes, g.routeOf? op = some r ∧ op.id ∈ r.operations := by
  have howned : Owned g := by
    cases raw with
    | obj fields =>
      obtain ⟨declared, _, rfl⟩ := Outcome.map_eq_ok_iff.mp h
      exact owned_ofDeclarations _ declared
    | _ => cases h
  refine ⟨howned, fun r hr => howned.operations.map_eq_filterMap hr, fun op hop => ?_⟩
  exact ⟨howned.parameters.map_eq_filterMap hop, howned.responses.map_eq_filterMap hop,
    howned.bodies.map_eq_filterMap hop, howned.routeOf? hop⟩

/-- Two routes, the first of them with two operations and a part of every kind. -/
theorem ofDocument_ownership_of_two_routes :
    let get : Json := .obj [
      ("parameters", .arr [.obj [("name", .str "b"), ("in", .str "path")]]),
      ("responses", .obj [("200", .obj [("content", .obj [("text/plain", .obj [])])])])]
    let post : Json := .obj [
      ("requestBody", .obj [("content", .obj [("text/plain", .obj []), ("text/html", .obj [])])])]
    let raw : Json := .obj [("paths", .obj [
      ("/a/{b}", .obj [("post", post), ("get", get)]), ("/a", .obj [("get", .obj [])])])]
    ∃ g, ofDocument raw = .ok g ∧ Owned g ∧
      ∀ op ∈ g.operations, ∃ r ∈ g.routes, g.routeOf? op = some r ∧ op.id ∈ r.operations := by
  intro get post raw
  have hreads : ∃ g, ofDocument raw = .ok g := by
    subst raw post get
    refine ⟨?g, ?h⟩
    case h =>
      cbv
      rfl
  obtain ⟨g, h⟩ := hreads
  obtain ⟨howned, _, hparts⟩ := ofDocument_ownership h
  exact ⟨g, h, howned, fun op hop => (hparts op hop).2.2.2⟩

end Graph

end ApiGraph
