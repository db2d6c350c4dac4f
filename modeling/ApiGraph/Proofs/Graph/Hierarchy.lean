import ApiGraph.Graph.Hierarchy
import Mathlib.Data.List.Nodup

/-!
# Levels of the route hierarchy

Behind a list of texts the routes that begin with it fall apart by their next text: some end
there, and every other one goes on with one of the texts of the next level. All queries of a
level are filters over the same list of routes, so each of them is known by the texts that it
lets pass, and they fit together because a list is made up again of its items taken key by
key.
-/

namespace ApiGraph

/-! ### Lists taken apart by a key -/

section Parts

variable {α β : Type}

/-- Some parts of a list make up the list, have no item in common and keep its order. -/
structure IsPartition (parts : List (List α)) (whole : List α) : Prop where
  together : parts.flatten.Perm whole
  apart : parts.Pairwise List.Disjoint
  ordered : ∀ part ∈ parts, part.Sublist whole

theorem length_filter_lt (p : β → Bool) (x : β) (rest : List β) :
    (rest.filter p).length < (x :: rest).length :=
  Nat.lt_succ_of_le (List.length_filter_le p rest)

variable [DecidableEq β]

/-- The items of some keys, taken key by key, are the items that have one of these keys. -/
theorem flatMap_filter_perm (key : α → β) (xs : List α) {keys : List β} (hkeys : keys.Nodup) :
    (keys.flatMap fun k => xs.filter fun x => key x = k).Perm
      (xs.filter fun x => key x ∈ keys) := by
  induction keys with
  | nil => simp
  | cons k rest ih =>
    obtain ⟨hnew, hrest⟩ := List.nodup_cons.mp hkeys
    have hfirst : (xs.filter fun x => key x ∈ k :: rest).filter (fun x => key x = k) =
        xs.filter fun x => key x = k := by
      rw [List.filter_filter]
      refine List.filter_congr fun x _ => ?_
      by_cases hk : key x = k <;> simp [hk]
    have hothers : (xs.filter fun x => key x ∈ k :: rest).filter (fun x => !decide (key x = k)) =
        xs.filter fun x => key x ∈ rest := by
      rw [List.filter_filter]
      refine List.filter_congr fun x _ => ?_
      by_cases hk : key x = k
      · simp [hk, hnew]
      · simp [hk]
    rw [List.flatMap_cons]
    refine (List.Perm.append_left _ (ih hrest)).trans ?_
    rw [← hfirst, ← hothers]
    exact List.filter_append_perm _ _

/-- Taken apart by a key, a list falls into one part for each key. -/
theorem isPartition_filter (key : α → β) {xs : List α} {keys : List β} (hkeys : keys.Nodup)
    (hall : ∀ x ∈ xs, key x ∈ keys) :
    IsPartition (keys.map fun k => xs.filter fun x => key x = k) xs where
  together := by
    have hself : (xs.filter fun x => key x ∈ keys) = xs :=
      List.filter_eq_self.mpr fun x hx => by simpa using hall x hx
    have hperm := flatMap_filter_perm key xs hkeys
    rw [hself] at hperm
    exact hperm
  apart := by
    refine List.pairwise_map.mpr (hkeys.imp fun {k k'} hne x hx hx' => ?_)
    have hk : key x = k := by simpa using (List.mem_filter.mp hx).2
    have hk' : key x = k' := by simpa using (List.mem_filter.mp hx').2
    exact hne (hk.symm.trans hk')
  ordered := by
    intro part hpart
    obtain ⟨k, _, rfl⟩ := List.mem_map.mp hpart
    exact List.filter_sublist

theorem nodup_eraseDups : ∀ xs : List β, xs.eraseDups.Nodup
  | [] => List.nodup_nil
  | x :: rest => by
    rw [List.eraseDups_cons, List.nodup_cons]
    refine ⟨fun hmem => ?_, nodup_eraseDups _⟩
    simpa using List.mem_eraseDups.mp hmem
termination_by xs => xs.length
decreasing_by exact length_filter_lt _ _ _

/-- Repeated items may be dropped before or after a test. -/
theorem eraseDups_filter (p : β → Bool) :
    ∀ xs : List β, (xs.filter p).eraseDups = xs.eraseDups.filter p
  | [] => rfl
  | x :: rest => by
    have hrest := eraseDups_filter p (rest.filter fun y => !y == x)
    rw [List.filter_filter] at hrest
    rw [List.eraseDups_cons]
    cases hx : p x with
    | true =>
      rw [List.filter_cons_of_pos hx, List.filter_cons_of_pos hx, List.eraseDups_cons,
        List.filter_filter, ← hrest]
      simp only [Bool.and_comm]
    | false =>
      have hx' : ¬ p x = true := by simp [hx]
      rw [List.filter_cons_of_neg hx', List.filter_cons_of_neg hx', ← hrest]
      -- An item that passes the test is not the one that has failed it.
      congr 1
      refine List.filter_congr fun y _ => ?_
      by_cases hy : y = x
      · simp [hy, hx]
      · simp [hy]
termination_by xs => xs.length
decreasing_by exact length_filter_lt _ _ _

end Parts

/-! ### Texts behind a beginning -/

theorem Route.getElem?_texts (r : Route) (i : Nat) :
    r.texts[i]? = r.segments[i]?.map Segment.text :=
  List.getElem?_map

theorem Route.startsWithTexts_iff {r : Route} {texts : List String} :
    r.startsWithTexts texts = true ↔ texts <+: r.texts :=
  List.isPrefixOf_iff_prefix

/-- A list that begins with another one and has an item behind it begins with both. -/
theorem concat_prefix_iff {α : Type} {xs ys : List α} {x : α} :
    xs ++ [x] <+: ys ↔ xs <+: ys ∧ ys[xs.length]? = some x := by
  constructor
  · rintro ⟨rest, rfl⟩
    refine ⟨⟨x :: rest, by simp⟩, by simp⟩
  · rintro ⟨⟨rest, rfl⟩, hx⟩
    rw [List.getElem?_append_right (Nat.le_refl _), Nat.sub_self] at hx
    cases rest with
    | nil => cases hx
    | cons y rest =>
      cases hx
      exact ⟨rest, by simp⟩

/-- A list that begins with another one and has nothing behind it is that one. -/
theorem eq_iff_prefix_of_none {α : Type} {xs ys : List α} :
    ys = xs ↔ xs <+: ys ∧ ys[xs.length]? = none := by
  constructor
  · rintro rfl
    exact ⟨List.prefix_refl _, by simp⟩
  · rintro ⟨hbegins, hnone⟩
    have hle : ys.length ≤ xs.length := by simpa using hnone
    exact (hbegins.eq_of_length_le hle).symm

namespace Graph

/-- The routes whose segments are exactly these. -/
def routesAt (g : Graph) (texts : List String) : List Route :=
  g.routes.filter fun r => r.texts = texts

/-- What a level is made of: the routes that end there, then for each text of the next level the
routes that go on with it. -/
def levelParts (g : Graph) (texts : List String) : List (List Route) :=
  g.routesAt texts :: (g.nextTexts texts).map fun text => g.routesStartingWith (texts ++ [text])

section Queries

variable {g : Graph} {texts : List String} {text : String} {r : Route}

theorem mem_routesStartingWith_iff :
    r ∈ g.routesStartingWith texts ↔ r ∈ g.routes ∧ texts <+: r.texts := by
  rw [routesStartingWith, List.mem_filter, Route.startsWithTexts_iff]

theorem nextTexts_eq (g : Graph) (texts : List String) :
    g.nextTexts texts =
      ((g.routesStartingWith texts).filterMap fun r => r.texts[texts.length]?).eraseDups := by
  rw [nextTexts, nextSegments, List.map_filterMap]
  simp only [Route.getElem?_texts]

theorem nodup_nextTexts (g : Graph) (texts : List String) : (g.nextTexts texts).Nodup :=
  nodup_eraseDups _

theorem mem_nextTexts_iff :
    text ∈ g.nextTexts texts ↔ ∃ r ∈ g.routes, texts ++ [text] <+: r.texts := by
  rw [nextTexts_eq, List.mem_eraseDups, List.mem_filterMap]
  simp only [mem_routesStartingWith_iff, concat_prefix_iff, and_assoc]

theorem routesStartingWith_nil (g : Graph) : g.routesStartingWith [] = g.routes := by
  rw [routesStartingWith, List.filter_eq_self]
  exact fun r _ => Route.startsWithTexts_iff.mpr List.nil_prefix

theorem rootTexts_eq (g : Graph) : g.rootTexts = g.nextTexts [] := by
  rw [rootTexts, nextTexts_eq, routesStartingWith_nil]
  simp only [Route.getElem?_texts, List.length_nil, List.head?_eq_getElem?]

theorem nextStaticTexts_eq (g : Graph) (texts : List String) :
    g.nextStaticTexts texts = (g.nextTexts texts).filter fun text => !isPlaceholder text := by
  rw [nextStaticTexts, nextTexts, ← eraseDups_filter, List.filter_map]
  rfl

/-- Of the routes that begin with some texts, a filter by the next text keeps those that end there
or those that go on with it. -/
theorem filter_next_none (g : Graph) (texts : List String) :
    ((g.routesStartingWith texts).filter fun r => r.texts[texts.length]? = none) =
      g.routesAt texts := by
  rw [routesStartingWith, routesAt, List.filter_filter]
  refine List.filter_congr fun r _ => Bool.eq_iff_iff.mpr ?_
  rw [Bool.and_eq_true, decide_eq_true_eq, decide_eq_true_eq, Route.startsWithTexts_iff,
    eq_iff_prefix_of_none, and_comm]

theorem filter_next_some (g : Graph) (texts : List String) (text : String) :
    ((g.routesStartingWith texts).filter fun r => r.texts[texts.length]? = some text) =
      g.routesStartingWith (texts ++ [text]) := by
  rw [routesStartingWith, routesStartingWith, List.filter_filter]
  refine List.filter_congr fun r _ => Bool.eq_iff_iff.mpr ?_
  rw [Bool.and_eq_true, decide_eq_true_eq, Route.startsWithTexts_iff, Route.startsWithTexts_iff,
    concat_prefix_iff, and_comm]

theorem isPartition_levelParts (g : Graph) (texts : List String) :
    IsPartition (g.levelParts texts) (g.routesStartingWith texts) := by
  have hkeys : (none :: (g.nextTexts texts).map some).Nodup := by
    rw [List.nodup_cons]
    exact ⟨by simp, (g.nodup_nextTexts texts).map fun _ _ => Option.some.inj⟩
  have hall : ∀ r ∈ g.routesStartingWith texts,
      r.texts[texts.length]? ∈ none :: (g.nextTexts texts).map some := by
    intro r hr
    obtain ⟨hmem, hbegins⟩ := mem_routesStartingWith_iff.mp hr
    cases hnext : r.texts[texts.length]? with
    | none => exact List.mem_cons_self
    | some text =>
      refine List.mem_cons_of_mem _ (List.mem_map_of_mem (mem_nextTexts_iff.mpr ?_))
      exact ⟨r, hmem, concat_prefix_iff.mpr ⟨hbegins, hnext⟩⟩
  have hparts := isPartition_filter (fun r : Route => r.texts[texts.length]?) hkeys hall
  rw [List.map_cons, List.map_map, filter_next_none] at hparts
  simp only [Function.comp_def, filter_next_some] at hparts
  exact hparts

theorem routesStartingWith_ne_nil (h : text ∈ g.nextTexts texts) :
    g.routesStartingWith (texts ++ [text]) ≠ [] := by
  obtain ⟨r, hr, hbegins⟩ := mem_nextTexts_iff.mp h
  exact List.ne_nil_of_mem (mem_routesStartingWith_iff.mpr ⟨hr, hbegins⟩)

/-- A route goes on where another one ends if it begins with its texts and has others as well. -/
theorem routesUnder_eq (g : Graph) (r : Route) :
    g.routesUnder r = (g.routesStartingWith r.texts).filter fun s => s.texts ≠ r.texts := by
  rw [routesUnder, routesStartingWith, List.filter_filter]
  refine List.filter_congr fun s _ => Bool.eq_iff_iff.mpr ?_
  rw [Bool.and_eq_true, Bool.and_eq_true, decide_eq_true_eq, decide_eq_true_eq, Route.startsWith,
    Route.startsWithTexts_iff]
  have hlengths : r.segments.length = r.texts.length ∧ s.segments.length = s.texts.length := by
    simp [Route.texts]
  constructor
  · rintro ⟨hlt, hbegins⟩
    refine ⟨fun heq => ?_, hbegins⟩
    rw [hlengths.1, hlengths.2, heq] at hlt
    exact Nat.lt_irrefl _ hlt
  · rintro ⟨hne, hbegins⟩
    refine ⟨?_, hbegins⟩
    rw [hlengths.1, hlengths.2]
    by_contra hnot
    exact hne (hbegins.eq_of_length_le (Nat.le_of_not_lt hnot)).symm

theorem prefix_of_mem_routesUnder {s : Route} (h : s ∈ g.routesUnder r) : r.texts <+: s.texts := by
  rw [routesUnder_eq] at h
  exact (mem_routesStartingWith_iff.mp (List.mem_filter.mp h).1).2

/-- Routes with a common continuation are comparable. -/
theorem startsWith_or_of_mem_routesUnder {s t : Route} (hr : t ∈ g.routesUnder r)
    (hs : t ∈ g.routesUnder s) : r.startsWith s = true ∨ s.startsWith r = true := by
  simp only [Route.startsWith, Route.startsWithTexts_iff]
  exact (List.prefix_or_prefix_of_prefix (prefix_of_mem_routesUnder hs)
    (prefix_of_mem_routesUnder hr))

end Queries

/-- **The queries of a level fit together.**  Behind any texts, matched or not, the texts of the
next level are distinct, and the routes that begin with the texts fall into those that end there
and, for each text of the next level, some that go on with it. The static texts are those that are
no placeholders, the first level is the one behind no text, and the routes under a route are those
that begin with it but have other segments, so two routes above a third one are comparable. -/
theorem level_partition (g : Graph) (texts : List String) :
    (g.nextTexts texts).Nodup ∧
    IsPartition (g.levelParts texts) (g.routesStartingWith texts) ∧
    (∀ text ∈ g.nextTexts texts, g.routesStartingWith (texts ++ [text]) ≠ []) ∧
    g.nextStaticTexts texts = (g.nextTexts texts).filter (fun text => !isPlaceholder text) ∧
    g.rootTexts = g.nextTexts [] ∧
    (∀ r, g.routesUnder r = (g.routesStartingWith r.texts).filter fun s => s.texts ≠ r.texts) ∧
    ∀ r s t, t ∈ g.routesUnder r → t ∈ g.routesUnder s →
      r.startsWith s = true ∨ s.startsWith r = true :=
  ⟨g.nodup_nextTexts texts, g.isPartition_levelParts texts,
    fun _ => routesStartingWith_ne_nil, g.nextStaticTexts_eq texts, g.rootTexts_eq,
    g.routesUnder_eq, fun _ _ _ => startsWith_or_of_mem_routesUnder⟩

end Graph

end ApiGraph
