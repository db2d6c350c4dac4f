import ApiGraph.Pattern.Validity
import ApiGraph.Proofs.Validation.Locations

/-!
# Issues of one path

Validation goes through the paths of a document one by one, and the issues of a path stand together.
They are told from all others by their pointers: `Under` is where a walk that starts at a location
stays, and no pointer is under the locations of two different keys, because the slash that ends one
of them stands in no key.

What validation finds at a path therefore depends on the value at the path only, and another value
there changes these issues and no others.
-/

namespace ApiGraph

namespace Fields

theorem insert_append_cons {key : String} {front : Fields} (h : key ∉ front.map Prod.fst)
    (v w : Json) (back : Fields) :
    insert key w (front ++ (key, v) :: back) = front ++ (key, w) :: back := by
  induction front with
  | nil => rw [List.nil_append, insert, if_pos rfl, List.nil_append]
  | cons field front ih =>
    rw [List.map_cons, List.mem_cons, not_or] at h
    rw [List.cons_append, insert, if_neg (Ne.symm h.1), ih h.2, List.cons_append]

end Fields

namespace Pointer

/-! ### Pointers under a location -/

/-- A pointer is a location, or goes on from it behind a slash. -/
def Under (location pointer : String) : Prop :=
  pointer = location ∨ ∃ rest, pointer = location ++ "/" ++ rest

theorem under_self (location : String) : Under location location := Or.inl rfl

theorem under_child_self (base key : String) : Under base (child base key) :=
  Or.inr ⟨encodeKey key, rfl⟩

theorem Under.trans {front middle pointer : String} (h : Under front middle)
    (hpointer : Under middle pointer) : Under front pointer := by
  rcases hpointer with rfl | ⟨rest, rfl⟩
  · exact h
  · rcases h with rfl | ⟨between, rfl⟩
    · exact Or.inr ⟨rest, rfl⟩
    · exact Or.inr ⟨between ++ "/" ++ rest, by simp only [String.append_assoc]⟩

theorem Under.child {location pointer : String} (h : Under location pointer) (key : String) :
    Under location (Pointer.child pointer key) :=
  h.trans (under_child_self pointer key)

theorem pieces_append (front rest : String) :
    Text.pieces '/' (front ++ "/" ++ rest) = Text.pieces '/' front ++ Text.pieces '/' rest := by
  have hchars : (front ++ "/" ++ rest).toList = front.toList ++ '/' :: rest.toList := by simp
  rw [Text.pieces, hchars, Text.splitOn_append_cons, List.map_append, Text.pieces, Text.pieces]

theorem pieces_child (base key : String) :
    Text.pieces '/' (child base key) = Text.pieces '/' base ++ [encodeKey key] := by
  have hkey : Text.pieces '/' (encodeKey key) = [encodeKey key] := by
    rw [Text.pieces, Text.splitOn_of_not_mem (slash_not_mem_encodeKey key), List.map_singleton,
      String.ofList_toList]
  rw [child, pieces_append, hkey]

theorem Under.pieces_begin {location pointer : String} (h : Under location pointer) :
    Text.pieces '/' location <+: Text.pieces '/' pointer := by
  rcases h with rfl | ⟨rest, rfl⟩
  · exact List.prefix_rfl
  · rw [pieces_append]
    exact List.prefix_append _ _

theorem encodeKey_injective : Function.Injective encodeKey := by
  intro a b h
  have hchars : a.toList.flatMap encodeChar = b.toList.flatMap encodeChar :=
    String.ofList_injective h
  rw [← String.toList_inj]
  calc a.toList
      = unescapeTilde (unescapeSlash (a.toList.flatMap encodeChar)) := by
        rw [unescapeSlash_encodeChar, unescapeTilde_escapeTilde]
    _ = unescapeTilde (unescapeSlash (b.toList.flatMap encodeChar)) := by rw [hchars]
    _ = b.toList := by rw [unescapeSlash_encodeChar, unescapeTilde_escapeTilde]

/-- No pointer is under the locations of two different keys. -/
theorem eq_of_under_child {base a b pointer : String} (ha : Under (child base a) pointer)
    (hb : Under (child base b) pointer) : a = b := by
  have hbegins : ∀ {key}, Under (child base key) pointer →
      Text.pieces '/' base ++ [encodeKey key] <+: Text.pieces '/' pointer := by
    intro key h
    rw [← pieces_child]
    exact h.pieces_begin
  have hlength : (Text.pieces '/' base ++ [encodeKey a]).length =
      (Text.pieces '/' base ++ [encodeKey b]).length := by
    rw [List.length_append, List.length_append, List.length_singleton, List.length_singleton]
  have heq := (List.prefix_of_prefix_length_le (hbegins ha) (hbegins hb)
    (Nat.le_of_eq hlength)).eq_of_length hlength
  exact encodeKey_injective (List.singleton_inj.mp (List.append_cancel_left heq))

end Pointer

namespace Validation

open Pointer (Under)

/-! ### Where the walk of validation stays -/

theorem traces_under (location : String) :
    Traces (fun pointer _ => Under location pointer) (Under location) where
  field h _ := h.child _
  item h _ := h.child _
  here h := h
  keyword h _ := h.child _

theorem under_pathIssues [Pattern.Checker] (item : Json) (location : String) :
    AllPoint (Under location) (pathIssues item location) :=
  (traces_under location).path (Pointer.under_self location)

section Root

variable {root : Fields}

theorem under_versionIssues :
    AllPoint (Under (Pointer.child "#" "openapi")) (versionIssues root) := by
  have hself : Under (Pointer.child "#" "openapi") "#/openapi" := Pointer.under_self "#/openapi"
  rw [versionIssues]
  split
  · split
    · exact allPoint_nil
    · exact allPoint_singleton_iff.mpr hself
  · exact allPoint_singleton_iff.mpr hself

theorem under_infoIssues : AllPoint (Under (Pointer.child "#" "info")) (infoIssues root) := by
  have hself : Under (Pointer.child "#" "info") "#/info" := Pointer.under_self "#/info"
  have htraces := traces_under (Pointer.child "#" "info")
  rw [infoIssues]
  split
  · exact allPoint_append_iff.mpr ⟨htraces.requiredString hself (by decide),
      htraces.requiredString hself (by decide)⟩
  · exact allPoint_singleton_iff.mpr hself
  · exact allPoint_singleton_iff.mpr hself

theorem under_componentsIssues [Pattern.Checker] :
    AllPoint (Under (Pointer.child "#" "components")) (componentsIssues root) :=
  (traces_under _).components fun _ => Pointer.under_self "#/components"

/-- What stands under another key of the document is under no path. -/
theorem not_under_path_of_ne {key : String} (hkey : key ≠ "paths") {found : List Issue}
    (hfound : AllPoint (Under (Pointer.child "#" key)) found) (path : String) :
    AllPoint (¬ Under (Pointer.child "#/paths" path) ·) found := by
  intro i hi hpath
  have hpaths : Under (Pointer.child "#" "paths") i.pointer :=
    (Pointer.under_child_self "#/paths" path).trans hpath
  exact hkey (Pointer.eq_of_under_child (hfound i hi) hpaths)

/-! ### One path among the others -/

variable [Pattern.Checker]

/-- The issues of paths, one path after the other. -/
def entryIssues (paths : Fields) : List Issue :=
  paths.flatMap fun (path, item) => pathIssues item (Pointer.child "#/paths" path)

theorem not_under_path_entryIssues {paths : Fields} {path : String}
    (hpath : path ∉ paths.map Prod.fst) :
    AllPoint (¬ Under (Pointer.child "#/paths" path) ·) (entryIssues paths) := by
  refine allPoint_flatMap_iff.mpr ?_
  rintro ⟨other, item⟩ hmem i hi hunder
  have hother := under_pathIssues item (Pointer.child "#/paths" other) i hi
  rw [Pointer.eq_of_under_child hunder hother] at hpath
  exact hpath (List.mem_map_of_mem hmem)

/-- What is reported in front of a path. -/
def issuesBefore (root front : Fields) : List Issue :=
  versionIssues root ++ infoIssues root ++ entryIssues front

/-- What is reported behind a path. -/
def issuesAfter (root back : Fields) : List Issue := entryIssues back ++ componentsIssues root

theorem issues_of_paths {front back : Fields} {path : String} {item : Json}
    (h : root.get? "paths" = some (.obj (front ++ (path, item) :: back))) :
    issues (.obj root) =
      issuesBefore root front ++ pathIssues item (Pointer.child "#/paths" path) ++
        issuesAfter root back := by
  have hpaths : pathsIssues root = entryIssues (front ++ (path, item) :: back) := by
    rw [pathsIssues, h]
    rfl
  rw [issues, hpaths, entryIssues, List.flatMap_append, List.flatMap_cons]
  simp only [issuesBefore, issuesAfter, entryIssues, List.append_assoc]

theorem issuesBefore_insert (v : Json) (front : Fields) :
    issuesBefore (root.insert "paths" v) front = issuesBefore root front := by
  have hother : ∀ {key}, "paths" ≠ key → (root.insert "paths" v).get? key = root.get? key :=
    fun h => Fields.get?_insert_of_ne h v root
  rw [issuesBefore, versionIssues, infoIssues, hother (by decide), hother (by decide)]
  rfl

theorem issuesAfter_insert (v : Json) (back : Fields) :
    issuesAfter (root.insert "paths" v) back = issuesAfter root back := by
  rw [issuesAfter, componentsIssues, Fields.get?_insert_of_ne (by decide)]
  rfl

/-- A document with another value for one of its paths. -/
def withPath (root paths : Fields) (path : String) (item : Json) : Json :=
  .obj (root.insert "paths" (.obj (paths.insert path item)))

theorem issues_withPath {front back : Fields} {path : String} (hpath : path ∉ front.map Prod.fst)
    (item other : Json) :
    issues (withPath root (front ++ (path, item) :: back) path other) =
      issuesBefore root front ++ pathIssues other (Pointer.child "#/paths" path) ++
        issuesAfter root back := by
  rw [withPath, Fields.insert_append_cons hpath, issues_of_paths (Fields.get?_insert_self _ _ _),
    issuesBefore_insert, issuesAfter_insert]

/-- Issues are a block of issues under a location between others that are not under it. -/
structure HasBlock (location : String) (before block after found : List Issue) : Prop where
  eq : found = before ++ block ++ after
  under : AllPoint (Under location) block
  apart : AllPoint (¬ Under location ·) (before ++ after)

/-- **Issues are reported path by path.**  The issues of a path are a block among the issues of the
document, and they are all those that stand under the location of the path. With another value for
the path, the issues of that value take the place of the block between the same others. -/
theorem issues_local {paths : Fields} (hpaths : root.get? "paths" = some (.obj paths))
    (hnodup : (paths.map Prod.fst).Nodup) {path : String} {item : Json}
    (hitem : (path, item) ∈ paths) :
    let location := Pointer.child "#/paths" path
    ∃ before after,
      HasBlock location before (pathIssues item location) after (issues (.obj root)) ∧
      ∀ other, HasBlock location before (pathIssues other location) after
        (issues (withPath root paths path other)) := by
  intro location
  obtain ⟨front, back, rfl⟩ := List.append_of_mem hitem
  rw [List.map_append, List.map_cons, List.perm_middle.nodup_iff, List.nodup_cons,
    List.mem_append, not_or] at hnodup
  obtain ⟨⟨hfront, hback⟩, _⟩ := hnodup
  have hapart : AllPoint (¬ Under location ·)
      (issuesBefore root front ++ issuesAfter root back) := by
    simp only [issuesBefore, issuesAfter, allPoint_append_iff]
    exact ⟨⟨⟨not_under_path_of_ne (by decide) under_versionIssues path,
      not_under_path_of_ne (by decide) under_infoIssues path⟩,
      not_under_path_entryIssues hfront⟩, not_under_path_entryIssues hback,
      not_under_path_of_ne (by decide) under_componentsIssues path⟩
  refine ⟨issuesBefore root front, issuesAfter root back, ?_, fun other => ?_⟩
  · exact ⟨issues_of_paths hpaths, under_pathIssues item location, hapart⟩
  · exact ⟨issues_withPath hfront item other, under_pathIssues other location, hapart⟩

end Root

/-- The location of the path in the middle is the beginning of the text of the one before it. -/
theorem issues_local_of_nested_paths :
    let item : Json := .obj [("get", .obj [("parameters", .null)])]
    let paths : Fields := [("/a/b", .null), ("/a", item), ("/", .null)]
    let root : Fields := [("openapi", .str "3.0.0"), ("paths", .obj paths), ("components", .null)]
    (issues (.obj root)).map Issue.pointer = ["#/info", "#/paths/~1a~1b",
      "#/paths/~1a/get/parameters", "#/paths/~1a/get/responses", "#/paths/~1", "#/components"] ∧
    (issues (withPath root paths "/a" .null)).map Issue.pointer =
      ["#/info", "#/paths/~1a~1b", "#/paths/~1a", "#/paths/~1", "#/components"] ∧
    ∃ before after,
      HasBlock "#/paths/~1a" before (pathIssues item "#/paths/~1a") after (issues (.obj root)) ∧
      ∀ other, HasBlock "#/paths/~1a" before (pathIssues other "#/paths/~1a") after
        (issues (withPath root paths "/a" other)) := by
  intro item paths root
  have hpaths : root.get? "paths" = some (.obj paths) := rfl
  have hnodup : (paths.map Prod.fst).Nodup := by decide
  have hitem : ("/a", item) ∈ paths := List.mem_cons_of_mem _ List.mem_cons_self
  refine ⟨?_, ?_, issues_local hpaths hnodup hitem⟩
  · subst root paths item
    cbv
  · subst root paths item
    cbv

end Validation

end ApiGraph
