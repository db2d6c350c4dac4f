import ApiGraph.Graph.Hierarchy
import ApiGraph.Proofs.Graph.Listing
import ApiGraph.Proofs.Reference.Pointer

/-!
# Static paths

A static path is joined from segments that are not empty and hold no slash, so cutting it at its
slashes gives these segments back and nothing else. It says as much as the static segments do, and
looking a route up by them is looking it up by its static path.

A path is read segment by segment, wherever it is put together: `segmentTexts` turns joining into
appending. A parameter or an empty piece adds no static segment, at whatever place it stands.
-/

namespace ApiGraph

theorem Text.not_mem_of_mem_splitOn {separator : Char} {cs piece : List Char}
    (h : piece ∈ splitOn separator cs) : separator ∉ piece := by
  induction cs generalizing piece with
  | nil =>
    rw [List.mem_singleton.mp h]
    exact List.not_mem_nil
  | cons c rest ih =>
    rw [splitOn] at h
    split at h
    · rcases List.mem_cons.mp h with rfl | hmem
      · exact List.not_mem_nil
      · exact ih hmem
    · next hc =>
      split at h
      · next hnil => exact absurd hnil (splitOn_ne_nil separator rest)
      · next first pieces hsplit =>
        rw [hsplit] at ih
        rcases List.mem_cons.mp h with rfl | hmem
        · rw [List.mem_cons, not_or]
          exact ⟨Ne.symm hc, ih List.mem_cons_self⟩
        · exact ih (List.mem_cons_of_mem _ hmem)

/-! ### Segments of joined paths -/

/-- What a path is cut into: texts that are not empty and hold no slash. -/
structure IsSegment (text : String) : Prop where
  ne_empty : text ≠ ""
  slash_not_mem : '/' ∉ text.toList

theorem isSegment_of_mem_segmentTexts {path text : String} (h : text ∈ segmentTexts path) :
    IsSegment text := by
  rw [segmentTexts, List.mem_filter, Text.pieces, List.mem_map] at h
  obtain ⟨⟨piece, hpiece, rfl⟩, hne⟩ := h
  refine ⟨of_decide_eq_true hne, ?_⟩
  rw [String.toList_ofList]
  exact Text.not_mem_of_mem_splitOn hpiece

theorem segmentTexts_empty : segmentTexts "" = [] := rfl

theorem IsSegment.segmentTexts_eq {text : String} (h : IsSegment text) :
    segmentTexts text = [text] := by
  rw [segmentTexts, Text.pieces, Text.splitOn_of_not_mem h.slash_not_mem, List.map_singleton,
    String.ofList_toList, List.filter_cons_of_pos (by simpa using h.ne_empty), List.filter_nil]

theorem segmentTexts_slash (front back : String) :
    segmentTexts (front ++ "/" ++ back) = segmentTexts front ++ segmentTexts back := by
  have hchars : (front ++ "/" ++ back).toList = front.toList ++ '/' :: back.toList := by simp
  rw [segmentTexts, Text.pieces, hchars, Text.splitOn_append_cons, List.map_append,
    List.filter_append]
  rfl

/-- The segments of a joined path are those of its parts. -/
theorem segmentTexts_join (parts : List String) :
    segmentTexts (Text.join "/" parts) = parts.flatMap segmentTexts := by
  induction parts with
  | nil => rfl
  | cons part rest ih =>
    rw [List.flatMap_cons, ← ih]
    by_cases hrest : rest = []
    · subst hrest
      simp [Text.join, segmentTexts_empty]
    · rw [Text.join_cons_of_ne_nil hrest, segmentTexts_slash]

theorem segmentTexts_join_of_isSegment {texts : List String} (h : ∀ text ∈ texts, IsSegment text) :
    segmentTexts (Text.join "/" texts) = texts := by
  rw [segmentTexts_join]
  induction texts with
  | nil => rfl
  | cons text rest ih =>
    rw [List.forall_mem_cons] at h
    rw [List.flatMap_cons, h.1.segmentTexts_eq, ih h.2, List.singleton_append]

namespace Route

/-! ### Routes that are read from paths -/

/-- A route has the segments of its path. -/
def IsRead (r : Route) : Prop := r = ofPath r.id r.path r.operations

theorem isRead_ofPath (id : Nat) (path : String) (operations : List Nat) :
    (ofPath id path operations).IsRead := rfl

theorem texts_ofPath (id : Nat) (path : String) (operations : List Nat) :
    (ofPath id path operations).texts = segmentTexts path := by
  refine List.ext_getElem? fun i => ?_
  simp only [texts, ofPath, Segment.ofTexts, List.getElem?_map, List.getElem?_mapIdx,
    Option.map_map]
  exact Option.map_id'

theorem staticSegments_eq (r : Route) :
    r.staticSegments = r.texts.filter fun text => !isPlaceholder text := by
  rw [texts, List.filter_map]
  rfl

theorem length_staticSegments (r : Route) : r.staticSegments.length = r.level :=
  List.length_map _

theorem staticSegments_ofPath (id : Nat) (path : String) (operations : List Nat) :
    (ofPath id path operations).staticSegments =
      (segmentTexts path).filter fun text => !isPlaceholder text := by
  rw [staticSegments_eq, texts_ofPath]

variable {r s : Route}

theorem IsRead.isSegment (h : r.IsRead) {text : String} (htext : text ∈ r.staticSegments) :
    IsSegment text := by
  rw [h, staticSegments_ofPath] at htext
  exact isSegment_of_mem_segmentTexts (List.mem_of_mem_filter htext)

/-- The static segments are read back from the static path. -/
theorem IsRead.segmentTexts_staticPath (h : r.IsRead) :
    segmentTexts r.staticPath = r.staticSegments :=
  segmentTexts_join_of_isSegment fun _ htext => h.isSegment htext

theorem IsRead.staticPath_eq_iff (hr : r.IsRead) (hs : s.IsRead) :
    r.staticPath = s.staticPath ↔ r.staticSegments = s.staticSegments := by
  constructor
  · intro h
    rw [← hr.segmentTexts_staticPath, h, hs.segmentTexts_staticPath]
  · intro h
    rw [staticPath, h, staticPath]

/-- No static segment comes of the piece: it is empty, or a parameter without a slash. -/
def IsSkipped (piece : String) : Prop :=
  piece = "" ∨ isPlaceholder piece = true ∧ '/' ∉ piece.toList

theorem filter_segmentTexts_of_isSkipped {piece : String} (h : IsSkipped piece) :
    ((segmentTexts piece).filter fun text => !isPlaceholder text) = [] := by
  rcases h with rfl | ⟨hparameter, hslash⟩
  · rfl
  · have hne : piece ≠ "" := by
      rintro rfl
      exact absurd hparameter (by decide)
    rw [IsSegment.segmentTexts_eq ⟨hne, hslash⟩]
    simp [hparameter]

theorem staticPath_insert {piece : String} (h : IsSkipped piece) (id : Nat)
    (front back : List String) (operations : List Nat) :
    (ofPath id (Text.join "/" (front ++ piece :: back)) operations).staticPath =
      (ofPath id (Text.join "/" (front ++ back)) operations).staticPath := by
  simp only [staticPath, staticSegments_ofPath, segmentTexts_join, List.flatMap_append,
    List.flatMap_cons, List.filter_append, filter_segmentTexts_of_isSkipped h, List.nil_append]

end Route

/-! ### Routes of a graph -/

namespace Graph

theorem exists_routes_addRoute (g : Graph) (d : PathDeclaration) :
    ∃ operations, (addRoute g d).routes =
      g.routes ++ [.ofPath g.routes.length d.path operations] := by
  obtain ⟨hroutes, _⟩ := listsAt_foldl_addOperation g.routes.length d.operations
    (show List.Forall₂ (ListsAt (g, ([] : List Nat)).1) [] [] from .nil)
  refine ⟨(d.operations.foldl (addOperation g.routes.length) (g, [])).2, ?_⟩
  simp only [addRoute, hroutes]

theorem isRead_addRoute {g : Graph} (h : ∀ r ∈ g.routes, r.IsRead) (d : PathDeclaration) :
    ∀ r ∈ (addRoute g d).routes, r.IsRead := by
  intro r hr
  obtain ⟨operations, hroutes⟩ := exists_routes_addRoute g d
  rw [hroutes, List.mem_append, List.mem_singleton] at hr
  rcases hr with hr | rfl
  · exact h r hr
  · exact Route.isRead_ofPath _ _ _

theorem isRead_foldl_addRoute (declared : List PathDeclaration) :
    ∀ g : Graph, (∀ r ∈ g.routes, r.IsRead) →
      ∀ r ∈ (declared.foldl addRoute g).routes, r.IsRead := by
  induction declared with
  | nil => exact fun _ h => h
  | cons d rest ih => exact fun g h => ih (addRoute g d) (isRead_addRoute h d)

theorem isRead_of_mem_routes {raw : Json} {g : Graph} (h : ofDocument raw = .ok g) :
    ∀ r ∈ g.routes, r.IsRead := by
  cases raw with
  | obj fields =>
    obtain ⟨declared, _, rfl⟩ := Outcome.map_eq_ok_iff.mp h
    exact isRead_foldl_addRoute declared _ fun r hr => absurd hr List.not_mem_nil
  | _ => cases h

/-- **The static path identifies the static segments.**  Routes with equal static paths are those
with equal static segments, which are what the static path is made of, however many parameters and
empty pieces stand in the paths, and wherever they stand. In a graph the static segments of a route
lead to the first route with its static path. -/
theorem staticPath_identifies_segments :
    (∀ id id' path path' operations operations',
      (Route.ofPath id path operations).equalStatic (Route.ofPath id' path' operations') = true ↔
        (Route.ofPath id path operations).staticPath =
          (Route.ofPath id' path' operations').staticPath) ∧
    (∀ id path operations,
      segmentTexts (Route.ofPath id path operations).staticPath =
          (Route.ofPath id path operations).staticSegments ∧
        (Route.ofPath id path operations).staticSegments.length =
          (Route.ofPath id path operations).level) ∧
    (∀ piece, Route.IsSkipped piece → ∀ id front back operations,
      (Route.ofPath id (Text.join "/" (front ++ piece :: back)) operations).staticPath =
        (Route.ofPath id (Text.join "/" (front ++ back)) operations).staticPath) ∧
    ∀ raw g, ofDocument raw = .ok g → ∀ r ∈ g.routes, ∃ earlier first later,
      g.routes = earlier ++ first :: later ∧ first.staticPath = r.staticPath ∧
        (∀ s ∈ earlier, s.staticPath ≠ r.staticPath) ∧
        g.routeByStatic? r.staticSegments = some first := by
  refine ⟨?equal, ?segments, fun piece h => Route.staticPath_insert h, ?first⟩
  case equal =>
    intro id id' path path' operations operations'
    rw [(Route.isRead_ofPath _ _ _).staticPath_eq_iff (Route.isRead_ofPath _ _ _)]
    exact beq_iff_eq
  case segments =>
    intro id path operations
    exact ⟨(Route.isRead_ofPath _ _ _).segmentTexts_staticPath, Route.length_staticSegments _⟩
  case first =>
    intro raw g h r hr
    have hread := isRead_of_mem_routes h
    have hfound : (g.routeByStatic? r.staticSegments).isSome = true :=
      List.find?_isSome.mpr ⟨r, hr, beq_self_eq_true _⟩
    obtain ⟨first, hfirst⟩ := Option.isSome_iff_exists.mp hfound
    obtain ⟨hsame, earlier, later, hroutes, hearlier⟩ := List.find?_eq_some_iff_append.mp hfirst
    have hstatic : ∀ s ∈ g.routes,
        (s.staticPath = r.staticPath ↔ (s.staticSegments == r.staticSegments) = true) := by
      intro s hs
      rw [(hread s hs).staticPath_eq_iff (hread r hr), beq_iff_eq]
    have hmem : ∀ s, s ∈ earlier ++ first :: later → s ∈ g.routes := fun s hs => hroutes ▸ hs
    refine ⟨earlier, first, later, hroutes, ?_, fun s hs heq => ?_, hfirst⟩
    · exact (hstatic first (hmem first (by simp))).mpr hsame
    · have hsegments := (hstatic s (hmem s (by simp [hs]))).mp heq
      have hother := hearlier s hs
      rw [hsegments] at hother
      cases hother

/-- Three spellings of one static path: the parameter stands at either end, under two names. -/
def usersDocument : Json := .obj [("paths", .obj [
  ("/{tenant}", .obj []),
  ("/users/{id}/", .obj []),
  ("/users/{userId}", .obj []),
  ("//{tenant}//users", .obj [])])]

theorem staticPath_identifies_segments_of_usersDocument :
    Route.IsSkipped "{id}" ∧
    (Route.ofPath 1 "/users/{id}/" []).staticPath = (Route.ofPath 1 "/users/" []).staticPath ∧
    ∃ g, ofDocument usersDocument = .ok g ∧ ∃ r ∈ g.routes, r.path = "//{tenant}//users" ∧
      ∃ earlier first later, g.routes = earlier ++ first :: later ∧
        first.staticPath = r.staticPath ∧ (∀ s ∈ earlier, s.staticPath ≠ r.staticPath) ∧
        g.routeByStatic? ["users"] = some first := by
  obtain ⟨_, _, hinsert, hfirst⟩ := staticPath_identifies_segments
  have hskipped : Route.IsSkipped "{id}" := Or.inr ⟨by decide, by decide⟩
  refine ⟨hskipped, hinsert _ hskipped 1 ["", "users"] [""] [], ?g, ?h, ?found⟩
  case h =>
    cbv
    rfl
  case found =>
    refine ⟨_, List.mem_of_getElem? (i := 3) rfl, rfl, ?_⟩
    exact hfirst usersDocument _ (by cbv) _ (List.mem_of_getElem? (i := 3) rfl)

end Graph

end ApiGraph
