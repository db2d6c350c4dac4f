import ApiGraph.Graph.Outline
import ApiGraph.Proofs.Graph.Hierarchy
import ApiGraph.Proofs.Graph.Listing
import ApiGraph.Proofs.Graph.Trie

/-!
# What an outline shows

An outline is drawn level by level, by queries on the list of routes, and no tree is ever built.
It shows the trie of the routes all the same: behind any texts, the next level is the branches of
the trie of what the routes have left there, and going on with one of its texts is going down that
branch. So the lines are the nodes of one trie in pre-order, which come once each, and no route is
left out, because the depth of a graph is the length of its longest route.
-/

namespace ApiGraph.Graph

/-! ### What the lines say -/

/-- The operations of all routes whose segments are exactly these, in order. -/
def operationsAt (g : Graph) (texts : List String) : List Operation :=
  (g.routesAt texts).flatMap g.operationsOf

def methodNames (g : Graph) (texts : List String) : String :=
  " ".intercalate ((g.operationsAt texts).map (·.method.upperName))

/-- What stands behind the segment on a line: nothing, or the methods of the operations. -/
def methodColumn (g : Graph) (texts : List String) : String :=
  if g.operationsAt texts = [] then "" else "  " ++ g.methodNames texts

def titleLine (g : Graph) : String :=
  g.title?.getD "untitled" ++ " (" ++ g.version?.getD "?" ++ ")\n"

/-- The line for the routes without segments, which is there only if they have operations. -/
def rootLine (g : Graph) : String :=
  if g.operationsAt [] = [] then "" else "/  " ++ g.methodNames [] ++ "\n"

/-- The line of a node: two spaces for each text above it, its last text, and its methods. -/
def nodeLine (g : Graph) (texts : List String) : String :=
  String.ofList (List.replicate (2 * (texts.length - 1)) ' ') ++ texts.getLastD "" ++
    g.methodColumn texts ++ "\n"

/-- The beginnings of the routes, but the empty one, in pre-order. -/
def prefixes (g : Graph) : List (List String) :=
  (Trie.ofList (g.routes.map Route.texts)).listing []

/-- What the routes that begin with some texts have left behind them. -/
def rests (g : Graph) (texts : List String) : List (List String) :=
  (g.routesStartingWith texts).map fun r => r.texts.drop texts.length

variable {g : Graph} {texts : List String} {text : String} {r : Route}

theorem filter_length_eq_routesAt (g : Graph) (texts : List String) :
    ((g.routesStartingWith texts).filter fun r => r.segments.length == texts.length) =
      g.routesAt texts := by
  rw [routesStartingWith, routesAt, List.filter_filter]
  refine List.filter_congr fun r _ => Bool.eq_iff_iff.mpr ?_
  have hlength : r.segments.length = r.texts.length := by simp [Route.texts]
  rw [Bool.and_eq_true, decide_eq_true_eq, beq_iff_eq, Route.startsWithTexts_iff, hlength]
  constructor
  · rintro ⟨hlen, hbegins⟩
    exact (hbegins.eq_of_length hlen.symm).symm
  · rintro rfl
    exact ⟨rfl, List.prefix_refl _⟩

theorem methodsAt_eq (g : Graph) (texts : List String) :
    g.methodsAt texts = (g.operationsAt texts).map (·.method.upperName) := by
  rw [methodsAt, filter_length_eq_routesAt, operationsAt, List.map_flatMap]

theorem isEmpty_methodsAt_iff :
    (g.methodsAt texts).isEmpty = true ↔ g.operationsAt texts = [] := by
  rw [methodsAt_eq, List.isEmpty_iff, List.map_eq_nil_iff]

theorem outlineLine_concat (g : Graph) (above : List String) (text : String) :
    g.outlineLine (above ++ [text]) text = g.nodeLine (above ++ [text]) := by
  simp only [outlineLine, nodeLine, methodColumn, List.getLastD_concat, isEmpty_methodsAt_iff,
    methodNames, ← methodsAt_eq]
  split
  · rw [String.append_empty]
  · simp only [String.append_assoc]

/-! ### The levels of the trie -/

theorem rests_nil (g : Graph) : g.rests [] = g.routes.map Route.texts := by
  rw [rests, routesStartingWith_nil]
  rfl

theorem texts_ofList_rests (g : Graph) (texts : List String) :
    (Trie.ofList (g.rests texts)).texts = g.nextTexts texts := by
  rw [Trie.texts_ofList, rests, List.filterMap_map, nextTexts_eq]
  simp only [Function.comp_def, List.head?_drop]

/-- Going down a branch is going on with its text. -/
theorem under_ofList_rests (g : Graph) (texts : List String) (text : String) :
    (Trie.ofList (g.rests texts)).under text = Trie.ofList (g.rests (texts ++ [text])) := by
  rw [Trie.under_ofList, rests, rests, ← filter_next_some, List.filter_map, List.map_map]
  simp only [Function.comp_def, List.head?_drop, List.tail_drop, List.length_append,
    List.length_singleton]

/-- No route is longer than the depth of the graph. -/
theorem length_texts_le_depth (h : r ∈ g.routes) : r.texts.length ≤ g.depth := by
  have hmem : r.texts.length ∈ g.routes.map (·.segments.length) :=
    List.mem_map.mpr ⟨r, h, (List.length_map _).symm⟩
  rw [depth, List.foldl_max, List.max?_eq_some_max (List.ne_nil_of_mem hmem)]
  exact (List.le_max_of_mem hmem).trans (Nat.le_max_right _ _)

theorem nextTexts_eq_nil (h : g.depth ≤ texts.length) : g.nextTexts texts = [] := by
  rw [List.eq_nil_iff_forall_not_mem]
  intro text htext
  obtain ⟨r, hr, hbegins⟩ := mem_nextTexts_iff.mp htext
  have hle := hbegins.length_le.trans (length_texts_le_depth hr)
  rw [List.length_append, List.length_singleton] at hle
  omega

/-- Drawn to at least the depth of the graph, the lines below some texts are the nodes of the trie
of what the routes have left there. -/
theorem outlineBelow_eq (g : Graph) (n : Nat) (above : List String)
    (h : g.depth ≤ n + above.length) :
    g.outlineBelow n above (g.nextTexts above) =
      ((Trie.ofList (g.rests above)).listing above).map g.nodeLine := by
  rw [Trie.listing_eq_flatMap (Trie.distinct_ofList _).nodup_texts, texts_ofList_rests]
  induction n generalizing above with
  | zero =>
    rw [Nat.zero_add] at h
    rw [nextTexts_eq_nil h]
    rfl
  | succ n ih =>
    have hbelow : ∀ text, g.depth ≤ n + (above ++ [text]).length := by
      intro text
      rw [List.length_append, List.length_singleton]
      omega
    rw [outlineBelow, List.map_flatMap]
    refine List.flatMap_congr fun text _ => ?_
    have hlisting := Trie.listing_eq_flatMap
      (Trie.distinct_ofList (g.rests (above ++ [text]))).nodup_texts (above ++ [text])
    rw [texts_ofList_rests] at hlisting
    rw [List.map_cons, under_ofList_rests, hlisting, ← ih _ (hbelow text), ← outlineLine_concat]

theorem outlineBelow_rootTexts (g : Graph) {n : Nat} (h : g.depth ≤ n) :
    g.outlineBelow n [] g.rootTexts = g.prefixes.map g.nodeLine := by
  rw [rootTexts_eq, outlineBelow_eq g n [] h, rests_nil, prefixes]

theorem outline_eq (g : Graph) :
    g.outline = g.titleLine ++ g.rootLine ++ String.join (g.prefixes.map g.nodeLine) := by
  simp only [outline, outlineBelow_rootTexts g (Nat.le_refl _), titleLine, rootLine, methodNames,
    isEmpty_methodsAt_iff, ← methodsAt_eq]

/-! ### Nodes and operations -/

theorem nodup_prefixes (g : Graph) : g.prefixes.Nodup :=
  (Trie.distinct_ofList _).nodup_listing

theorem mem_prefixes_iff :
    texts ∈ g.prefixes ↔ texts ≠ [] ∧ ∃ r ∈ g.routes, texts <+: r.texts := by
  rw [prefixes, Trie.mem_listing_ofList]
  simp only [List.mem_map, exists_exists_and_eq_and]

theorem filterMap_getElem?_range {α : Type} (table : List α) :
    (List.range table.length).filterMap (table[·]?) = table := by
  have hall : (List.range table.length).map (table[·]?) = table.map some := by
    refine List.ext_getElem (by simp) fun i _ _ => ?_
    simp
  calc (List.range table.length).filterMap (table[·]?)
      = ((List.range table.length).map (table[·]?)).filterMap id := by
        rw [List.filterMap_map]
        rfl
    _ = (table.map some).filterMap id := by rw [hall]
    _ = table := by simp

/-- The operations of the routes, one route after the other, are all operations. -/
theorem Owned.flatMap_operationsOf (h : Owned g) :
    g.routes.flatMap g.operationsOf = g.operations :=
  calc g.routes.flatMap g.operationsOf
      = (g.routes.flatMap Route.operations).filterMap g.operation? := List.filterMap_flatMap.symm
    _ = (List.range g.operations.length).filterMap (g.operations[·]?) := by
        rw [h.operations.covers]
        rfl
    _ = g.operations := filterMap_getElem?_range g.operations

/-- Node by node, and with the routes without segments, each operation comes once. -/
theorem Owned.operationsAt_perm (h : Owned g) :
    (([] :: g.prefixes).flatMap g.operationsAt).Perm g.operations := by
  have hkeys : ([] :: g.prefixes).Nodup := by
    refine List.nodup_cons.mpr ⟨fun hmem => ?_, g.nodup_prefixes⟩
    exact (mem_prefixes_iff.mp hmem).1 rfl
  have hall : ∀ r ∈ g.routes, r.texts ∈ [] :: g.prefixes := by
    intro r hr
    by_cases hnil : r.texts = []
    · rw [hnil]
      exact List.mem_cons_self
    · exact List.mem_cons_of_mem _ (mem_prefixes_iff.mpr ⟨hnil, r, hr, List.prefix_refl _⟩)
  have hroutes := (isPartition_filter Route.texts hkeys hall).together
  have hperm := hroutes.flatMap_right g.operationsOf
  rw [h.flatMap_operationsOf, ← List.flatMap_def, List.flatMap_assoc] at hperm
  exact hperm

/-- **An outline is the listing of the trie of the routes.**  Below the title, and a line for the
routes without segments if they have operations, there is one line for each beginning of a route,
in pre-order, with the branches in the order of their first routes. The bound on the depth never
cuts the drawing short, and the operations on the lines are those of the document, each of them
once. -/
theorem outline_lists_operations_once {raw : Json} (h : ofDocument raw = .ok g) :
    g.outline = g.titleLine ++ g.rootLine ++ String.join (g.prefixes.map g.nodeLine) ∧
    (∀ n, g.depth ≤ n → g.outlineBelow n [] g.rootTexts = g.prefixes.map g.nodeLine) ∧
    g.prefixes.Nodup ∧
    (∀ texts, texts ∈ g.prefixes ↔ texts ≠ [] ∧ ∃ r ∈ g.routes, texts <+: r.texts) ∧
    (([] :: g.prefixes).flatMap g.operationsAt).Perm g.operations := by
  obtain ⟨_, _, howned, _⟩ := exists_declarations h
  exact ⟨g.outline_eq, fun _ => g.outlineBelow_rootTexts, g.nodup_prefixes,
    fun _ => mem_prefixes_iff, howned.operationsAt_perm⟩

/-- A document whose paths share a beginning, and two of which differ only in their slashes. -/
theorem outline_of_shared_beginnings :
    let op : Json := .obj []
    let raw : Json := .obj [("paths", .obj [
      ("/a/{b}/", .obj [("get", op)]), ("/", .obj [("get", op)]),
      ("/a//{b}", .obj [("post", op)])])]
    ∃ g, ofDocument raw = .ok g ∧ g.outline = "untitled (?)\n/  GET\na\n  {b}  GET POST\n" ∧
      (([] :: g.prefixes).flatMap g.operationsAt).Perm g.operations := by
  intro op raw
  have hreads : ∃ g, ofDocument raw = .ok g ∧
      g.outline = "untitled (?)\n/  GET\na\n  {b}  GET POST\n" := by
    subst raw op
    refine ⟨?g, ?h, ?p⟩
    case h =>
      cbv
      rfl
    case p => cbv
  obtain ⟨g, h, houtline⟩ := hreads
  obtain ⟨_, _, _, _, honce⟩ := outline_lists_operations_once h
  exact ⟨g, h, houtline, honce⟩

end ApiGraph.Graph
