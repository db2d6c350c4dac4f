import ApiGraph.Proofs.Fragment.Objects
import ApiGraph.Proofs.Graph.Agreement
import ApiGraph.Proofs.Graph.Listing
import ApiGraph.Proofs.Graph.Merging

/-!
# Paths are built apart

The paths of a document are read one after the other into the same tables. As long as no reference
leads into the paths, or to the document as a whole, a path does not see the others: a document
with this path only agrees with the whole one on everything that is read. So the whole document is
built exactly if every path is built alone, its fault is that of the first path that fails, and its
graph is the graphs of the paths put behind one another.
-/

namespace ApiGraph

open Outcome

/-- If an object is a reference, it leads neither to the whole document nor into its paths. -/
def AvoidsPaths (fields : Fields) : Prop :=
  ∀ pointer, fields.get? "$ref" = some (.str pointer) →
    ∃ key rest, Pointer.keys pointer = key :: rest ∧ key ≠ "paths"

/-- A document with its paths cut down to one entry. -/
def onlyPath (doc : Fields) (entry : String × Json) : Fields :=
  doc.modify "paths" fun _ => .obj [entry]

/-- Where the value of a path stands in a document. -/
def pathAt (entry : String × Json) : Fragment :=
  ⟨⟨.document, [.key "paths", .key entry.1]⟩, entry.2⟩

theorem keys_of_avoidsPaths {v : Json} (h : v.EveryObject AvoidsPaths) {pointer : String}
    (href : v.reference? = some pointer) :
    ∃ key rest, Pointer.keys pointer = key :: rest ∧ key ≠ "paths" := by
  cases v with
  | obj fields =>
    obtain ⟨w, hw, hstr⟩ := Option.bind_eq_some_iff.mp href
    refine h.1 pointer ?_
    cases w with
    | str s =>
      cases hstr
      exact hw
    | _ => cases hstr
  | _ => cases href

namespace Graph

/-- Among other declarations, the routes of a graph are, in order, those that the declarations have
alone. -/
theorem routes_ofDeclarations (raw : Json) (ds : List PathDeclaration) {k : Nat}
    {d : PathDeclaration} (hd : ds[k]? = some d) (raw' : Json) :
    ∃ r o, (ofDeclarations raw' [d]).routes = [r] ∧
      (ofDeclarations raw ds).routes[k]? = some (r.shift o) ∧
      (ofDeclarations raw ds).SameRoute o (ofDeclarations raw' [d]) r := by
  have hsplit : ds = ds.take k ++ ([d] ++ ds.drop (k + 1)) := by
    obtain ⟨hk, rfl⟩ := List.getElem?_eq_some_iff.mp hd
    simp
  have hlists := lists_ofDeclarations raw (ds.take k)
  have hk : (ofDeclarations raw (ds.take k)).routes.length = k := by
    obtain ⟨hk, _⟩ := List.getElem?_eq_some_iff.mp hd
    rw [hlists.length_eq, List.length_take, Nat.min_eq_left hk.le]
  obtain ⟨r, rest, _, hrest, hr⟩ := List.forall₂_cons_right_iff.mp (lists_ofDeclarations raw' [d])
  rw [List.forall₂_nil_right_iff] at hrest
  subst hrest
  have hholds := holds_append (ofDeclarations raw (ds.take k)) (ofDeclarations raw' [d])
    (ofDeclarations raw (ds.drop (k + 1)))
  have hwhole : ((ofDeclarations raw (ds.take k)).append (ofDeclarations raw' [d])).append
      (ofDeclarations raw (ds.drop (k + 1))) = ofDeclarations raw ds := by
    rw [← ofDeclarations_append, ← ofDeclarations_append, List.append_assoc, ← hsplit]
  rw [hwhole] at hholds
  have hroute := hholds.routes 0 r (by rw [hr]; rfl)
  exact ⟨r, _, hr, by simpa [sizes, hk] using hroute,
    hholds.sameRoute (owned_ofDeclarations raw' [d]) (by simp [hr])⟩

end Graph

section Documents

variable {doc entries : Fields} {entry : String × Json}

theorem walk?_onlyPath {key : String} (hkey : key ≠ "paths") (rest : List String) :
    (Fragment.ofDocument (.obj doc)).walk? (key :: rest) =
      (Fragment.ofDocument (.obj (onlyPath doc entry))).walk? (key :: rest) := by
  have hstep : (Fragment.ofDocument (.obj doc)).step? key =
      (Fragment.ofDocument (.obj (onlyPath doc entry))).step? key := by
    rw [Fragment.step?_of_obj rfl, Fragment.step?_of_obj rfl, Fragment.field?, Fragment.field?]
    have hget : Fields.get? key (onlyPath doc entry) = doc.get? key := by
      rw [onlyPath, Fields.get?_modify]
      simp only [if_neg hkey, Option.map_id']
    show Option.map _ (Fields.get? key doc) = Option.map _ (Fields.get? key (onlyPath doc entry))
    rw [hget]
    rfl
  rw [Fragment.walk?, Fragment.walk?, hstep]

variable (havoids : (Json.obj doc).EveryObject AvoidsPaths)
include havoids

/-- A document agrees with what is left of it on everything whose references avoid the paths. -/
theorem agree_onlyPath (entry : String × Json) :
    Agree (fun f => f.value.EveryObject AvoidsPaths) (.obj doc) (.obj (onlyPath doc entry)) where
  part _ _ hpart := hpart.everyObject
  walk f pointer hf href := by
    obtain ⟨key, rest, hkeys, hkey⟩ := keys_of_avoidsPaths hf href
    rw [hkeys]
    exact walk?_onlyPath hkey rest
  target f g _ hnext := by
    obtain ⟨_, _, _, hwalk⟩ := Reference.next?_eq_some_iff.mp hnext
    exact Fragment.walk?_induction (P := fun h => h.value.EveryObject AvoidsPaths)
      (fun _ _ hpart => hpart.everyObject) hwalk havoids

variable (hpaths : doc.get? "paths" = some (.obj entries))
include hpaths

omit havoids in
/-- The paths of a document are declared one by one. -/
theorem paths_eq_mapM : Declaration.paths (.obj doc) =
    entries.mapM fun entry => Declaration.path (.obj doc) entry.1 (pathAt entry) := by
  have hfield : (Fragment.ofDocument (.obj doc)).field? "paths" =
      some ⟨⟨.document, [.key "paths"]⟩, .obj entries⟩ :=
    Fragment.field?_eq_some_iff.mpr ⟨_, hpaths, rfl⟩
  rw [Declaration.paths, hfield]
  show (entries.map fun entry => (entry.1, pathAt entry)).mapM
    (fun declared => Declaration.path (.obj doc) declared.1 declared.2) = _
  rw [List.mapM_map]
  rfl

/-- A path is declared alone as it is in the whole document. -/
theorem paths_onlyPath (hentry : entry ∈ entries) : Declaration.paths (.obj (onlyPath doc entry)) =
    (fun d => [d]) <$> Declaration.path (.obj doc) entry.1 (pathAt entry) := by
  have honly : (onlyPath doc entry).get? "paths" = some (.obj [entry]) := by
    rw [onlyPath, Fields.get?_modify, hpaths]
    rfl
  have hvalue : entry.2.EveryObject AvoidsPaths := by
    have hmap : (Json.obj entries).EveryObject AvoidsPaths :=
      Json.everyObject_of_mem_fields havoids.2 (Fields.mem_of_get?_eq_some hpaths)
    exact Json.everyObject_of_mem_fields hmap.2 hentry
  have hpath : Declaration.path (.obj doc) entry.1 (pathAt entry) =
      Declaration.path (.obj (onlyPath doc entry)) entry.1 (pathAt entry) :=
    (agree_onlyPath havoids entry).path_eq hvalue entry.1
  rw [paths_eq_mapM honly, hpath, List.mapM_cons, List.mapM_nil]
  cases Declaration.path (.obj (onlyPath doc entry)) entry.1 (pathAt entry) <;> rfl

namespace Graph

omit havoids in
/-- A document is built from the declarations of its paths. -/
theorem ofDocument_eq_map_mapM : ofDocument (.obj doc) = ofDeclarations (.obj doc) <$>
    entries.mapM fun entry => Declaration.path (.obj doc) entry.1 (pathAt entry) := by
  rw [← paths_eq_mapM hpaths]
  rfl

/-- The document with one path is built from what the whole document declares for the path. -/
theorem ofDocument_onlyPath (hentry : entry ∈ entries) : ofDocument (.obj (onlyPath doc entry)) =
    (fun d => ofDeclarations (.obj (onlyPath doc entry)) [d]) <$>
      Declaration.path (.obj doc) entry.1 (pathAt entry) := by
  have hpath := paths_onlyPath havoids hpaths hentry
  show ofDeclarations _ <$> Declaration.paths (.obj (onlyPath doc entry)) = _
  rw [hpath]
  cases Declaration.path (.obj doc) entry.1 (pathAt entry) <;> rfl

theorem ofDocument_onlyPath_eq_ok_iff (hentry : entry ∈ entries) {part : Graph} :
    ofDocument (.obj (onlyPath doc entry)) = .ok part ↔
      ∃ d, Declaration.path (.obj doc) entry.1 (pathAt entry) = .ok d ∧
        ofDeclarations (.obj (onlyPath doc entry)) [d] = part := by
  rw [ofDocument_onlyPath havoids hpaths hentry, map_eq_ok_iff]

theorem exists_onlyPath_iff (hentry : entry ∈ entries) :
    (∃ part, ofDocument (.obj (onlyPath doc entry)) = .ok part) ↔
      ∃ d, Declaration.path (.obj doc) entry.1 (pathAt entry) = .ok d := by
  simp only [ofDocument_onlyPath_eq_ok_iff havoids hpaths hentry]
  constructor
  · rintro ⟨_, d, hd, _⟩
    exact ⟨d, hd⟩
  · rintro ⟨d, hd⟩
    exact ⟨_, d, hd, rfl⟩

theorem ofDocument_onlyPath_eq_error_iff (hentry : entry ∈ entries) {e : Fault} :
    ofDocument (.obj (onlyPath doc entry)) = .error e ↔
      Declaration.path (.obj doc) entry.1 (pathAt entry) = .error e := by
  rw [ofDocument_onlyPath havoids hpaths hentry, map_eq_error_iff]

/-- A document is built if and only if each of its paths is built alone. -/
theorem exists_ofDocument_iff : (∃ g, ofDocument (.obj doc) = .ok g) ↔
    ∀ entry ∈ entries, ∃ part, ofDocument (.obj (onlyPath doc entry)) = .ok part := by
  have hdeclared : (∃ g, ofDocument (.obj doc) = .ok g) ↔ ∃ ds, entries.mapM
      (fun entry => Declaration.path (.obj doc) entry.1 (pathAt entry)) = .ok ds := by
    simp only [ofDocument_eq_map_mapM hpaths, map_eq_ok_iff]
    constructor
    · rintro ⟨_, ds, hds, _⟩
      exact ⟨ds, hds⟩
    · rintro ⟨ds, hds⟩
      exact ⟨_, ds, hds, rfl⟩
  rw [hdeclared, exists_mapM_iff]
  exact forall₂_congr fun entry hentry => (exists_onlyPath_iff havoids hpaths hentry).symm

/-- The fault of a document is that of the first of its paths that is not built alone. -/
theorem ofDocument_eq_error_iff_onlyPath {e : Fault} :
    ofDocument (.obj doc) = .error e ↔ ∃ before entry after,
      entries = before ++ entry :: after ∧ ofDocument (.obj (onlyPath doc entry)) = .error e ∧
        ∀ earlier ∈ before, ∃ part, ofDocument (.obj (onlyPath doc earlier)) = .ok part := by
  rw [ofDocument_eq_map_mapM hpaths, map_eq_error_iff, mapM_eq_error_iff]
  refine exists_congr fun before => exists_congr fun entry => exists_congr fun after =>
    and_congr_right fun hsplit => ?_
  have hentry : entry ∈ entries := by simp [hsplit]
  have hbefore : ∀ earlier ∈ before, earlier ∈ entries := by
    intro earlier hearlier
    simp [hsplit, hearlier]
  exact and_congr (ofDocument_onlyPath_eq_error_iff havoids hpaths hentry).symm
    (forall₂_congr fun earlier hearlier =>
      (exists_onlyPath_iff havoids hpaths (hbefore earlier hearlier)).symm)

/-- The routes of a document are, in order, those of the documents with one of its paths. -/
theorem routes_of_ofDocument {g : Graph} (h : ofDocument (.obj doc) = .ok g) :
    g.routes.length = entries.length ∧
      ∀ (k : Nat) (entry : String × Json), entries[k]? = some entry → ∃ part r o,
        ofDocument (.obj (onlyPath doc entry)) = .ok part ∧ part.routes = [r] ∧
          g.routes[k]? = some (r.shift o) ∧ g.SameRoute o part r := by
  rw [ofDocument_eq_map_mapM hpaths, map_eq_ok_iff] at h
  obtain ⟨ds, hds, rfl⟩ := h
  rw [mapM_eq_ok_iff] at hds
  refine ⟨by rw [(lists_ofDeclarations _ ds).length_eq, hds.length_eq], fun k entry hk => ?_⟩
  obtain ⟨hentries, rfl⟩ := List.getElem?_eq_some_iff.mp hk
  have hat := (List.forall₂_iff_get.mp hds).2 k hentries (hds.length_eq ▸ hentries)
  obtain ⟨r, o, hr, hroute, hsame⟩ := routes_ofDeclarations (.obj doc) ds
    (List.getElem?_eq_getElem (hds.length_eq ▸ hentries)) (.obj (onlyPath doc entries[k]))
  have hpart := (ofDocument_onlyPath_eq_ok_iff havoids hpaths (List.getElem_mem hentries)).mpr
    ⟨_, hat, rfl⟩
  exact ⟨_, r, o, hpart, hr, hroute, hsame⟩

/-- **Paths are built apart.** A document whose references avoid its paths is built exactly if each
of its paths is built alone. Its fault is that of the first path that fails alone. The routes of its
graph are, in order, the routes of the paths, with everything that stands under them and with
shifted numbers. -/
theorem paths_built_apart :
    ((∃ g, ofDocument (.obj doc) = .ok g) ↔
      ∀ entry ∈ entries, ∃ part, ofDocument (.obj (onlyPath doc entry)) = .ok part) ∧
    (∀ e, ofDocument (.obj doc) = .error e ↔ ∃ before entry after,
      entries = before ++ entry :: after ∧ ofDocument (.obj (onlyPath doc entry)) = .error e ∧
        ∀ earlier ∈ before, ∃ part, ofDocument (.obj (onlyPath doc earlier)) = .ok part) ∧
    ∀ g, ofDocument (.obj doc) = .ok g → g.routes.length = entries.length ∧
      ∀ (k : Nat) (entry : String × Json), entries[k]? = some entry → ∃ part r o,
        ofDocument (.obj (onlyPath doc entry)) = .ok part ∧ part.routes = [r] ∧
          g.routes[k]? = some (r.shift o) ∧ g.SameRoute o part r :=
  ⟨exists_ofDocument_iff havoids hpaths,
    fun _ => ofDocument_eq_error_iff_onlyPath havoids hpaths,
    fun _ h => routes_of_ofDocument havoids hpaths h⟩

end Graph

end Documents

/-- Two paths with a schema in common. -/
def sharedFields : Fields :=
  [("components", .obj [("schemas", .obj [("Id", .obj [("type", .str "string")])])]),
    ("paths", .obj [
      ("/a", .obj [("get", .obj [("parameters", .arr [.obj [("name", .str "q"),
        ("in", .str "query"), ("schema", .obj [("$ref", .str "#/components/schemas/Id")])]])])]),
      ("/b", .obj [
        ("post", .obj [("responses", .obj [("200", .obj [("content", .obj [("text/plain",
          .obj [("schema", .obj [("$ref", .str "#/components/schemas/Id")])])])])])]),
        ("delete", .obj [])])])]

namespace Graph

theorem paths_built_apart_of_sharedFields :
    ∃ entries, sharedFields.get? "paths" = some (.obj entries) ∧
      (Json.obj sharedFields).EveryObject AvoidsPaths ∧
      ∃ g entry, ofDocument (.obj sharedFields) = .ok g ∧ g.routes.length = 2 ∧
        entries[1]? = some entry ∧ ∃ part r o,
          ofDocument (.obj (onlyPath sharedFields entry)) = .ok part ∧ part.routes = [r] ∧
            g.routes[1]? = some (r.shift o) ∧ g.SameRoute o part r := by
  have hkeys : Pointer.keys "#/components/schemas/Id" = ["components", "schemas", "Id"] := by
    cbv
  have havoids : (Json.obj sharedFields).EveryObject AvoidsPaths := by
    simp [sharedFields, Json.EveryObject, Json.EveryObjectOfItems, Json.EveryObjectOfFields,
      AvoidsPaths, Fields.get?, hkeys]
  have hreads : ∃ g, ofDocument (.obj sharedFields) = .ok g := by
    refine ⟨?g, ?h⟩
    case h =>
      cbv
      rfl
  obtain ⟨g, hg⟩ := hreads
  obtain ⟨hlength, hroutes⟩ := (paths_built_apart havoids rfl).2.2 g hg
  exact ⟨_, rfl, havoids, g, _, hg, hlength, rfl, hroutes 1 _ rfl⟩

end Graph

end ApiGraph
