import ApiGraph.Pattern.Validity
import ApiGraph.Proofs.Legacy.Forms
import ApiGraph.Proofs.Legacy.Validity

/-!
# Required bodies

A body parameter may say that it is required, and the body that it is converted to says so too,
whether it is written in the operation or shared. So does every body of the graph that comes from
it. A form has no such word of its own: it is required if one of its fields is. The conversion of
a form keeps the names of the required fields in the schema and says nothing of the body, so
the bodies of the graph that come from forms are never required.
-/

namespace ApiGraph.Legacy

open Outcome

/-- Whether an object says of itself that it is required. -/
def saysRequired (v : Json) : Bool := (v.boolAt? "required").getD false

section Converted

variable {v : Json}

theorem saysRequired_modernize (hwf : v.WellFormed) :
    saysRequired (modernize v) = saysRequired v := by
  have hget : (modernize v).get? "required" = (v.get? "required").map modernize := by
    rw [get?_modernize hwf (by decide) (by decide)]
    congr 1
    funext w
    exact retargetField_of_ne (by decide) _
  rw [saysRequired, saysRequired, Json.boolAt?, Json.boolAt?, hget, bind_bool?_modernize]

theorem saysRequired_requestBody (consumes : List String) (fields : Fields) :
    saysRequired (requestBody consumes (.obj fields)) = saysRequired (.obj fields) := by
  rw [saysRequired, saysRequired, Json.boolAt?, Json.boolAt?, get?_requestBody,
    if_neg (by decide), if_pos (by decide), Json.get?]

theorem contentTypes_modernize_ne_nil (hwf : v.WellFormed) {mimes : List String}
    {media : String → Json} (hcontent : v.get? "content" = some (contentOf mimes media))
    (hsome : mimes ≠ []) : Declaration.contentTypes (modernize v) ≠ [] := by
  obtain ⟨content, hmade⟩ : ∃ content, contentOf mimes media = .obj content := ⟨_, rfl⟩
  have hget : (modernize v).get? "content" = some (.obj (renewed content)) := by
    rw [get?_modernize hwf (by decide) (by decide), hcontent, hmade]
    rfl
  rw [Declaration.contentTypes, hget]
  exact mt List.map_eq_nil_iff.mp (renewed_ne_nil (contentOf_ne_nil hmade hsome))

end Converted

section Operations

variable {version : String} {doc item op : Fields} {path : String} {method : Method} {g : Graph}
  {o : Operation} {entry : Json} {fields : Fields}

/-- The body parameter that an entry is, or that it names. -/
structure IsBodyParameter (doc : Fields) (entry : Json) (fields : Fields) : Prop where
  standsFor : StandsFor doc "parameters" entry fields
  body : carrierOf (.obj fields) = some "body"

/-- The bodies of an operation are required as its body parameter says, and never if a form makes
them. -/
structure RequiredAsSaid (doc item op : Fields) (bodies : List Body) : Prop where
  own : ∀ entry fields, lastBody? doc op = some entry → IsBodyParameter doc entry fields →
    bodies ≠ [] ∧ ∀ b ∈ bodies, b.required = saysRequired (.obj fields)
  form : lastBody? doc op = none → mergedForm doc item op ≠ [] →
    ∃ b, bodies = [b] ∧ b.required = false
  inherited : lastBody? doc op = none → mergedForm doc item op = [] →
    ∀ entry fields, lastBody? doc item = some entry → IsBodyParameter doc entry fields →
      bodies ≠ [] ∧ ∀ b ∈ bodies, b.required = saysRequired (.obj fields)

/-- Bodies that come from a body parameter are required as it says. -/
theorem ReadFrom.required_of_body (hdoc : (Json.obj doc).WellFormed)
    (hstands : StandsAt doc path method item op) (hread : ReadFrom version doc item op method g o)
    (hentry : entry.WellFormed) (h : IsBodyParameter doc entry fields)
    (hmade : Fields.get? "requestBody" (upgradeOperation (surroundings doc)
      (sortParameters (surroundings doc) (entriesAt item "parameters")) op) =
        some ((bodySource doc entry).requestBody (consumesOf doc op))) :
    g.bodiesOf o ≠ [] ∧ ∀ b ∈ g.bodiesOf o, b.required = saysRequired (.obj fields) := by
  have hbody : carrierOf (target doc entry) = some "body" := h.standsFor.target_eq ▸ h.body
  have hall := hread.bodies_of_parameter hdoc hstands hentry h.standsFor hbody hmade
  have hwf : (requestBody (mimesInForce doc op "consumes" entry) (.obj fields)).WellFormed :=
    wellFormed_requestBody (h.standsFor.wellFormed hdoc hentry)
  constructor
  · intro hnone
    rw [hnone, List.forall₂_nil_right_iff] at hall
    exact contentTypes_modernize_ne_nil hwf (get?_content_requestBody _ fields)
      (effective_ne_nil _) hall
  · intro b hb
    obtain ⟨_, _, _, hrequired⟩ := exists_of_forall₂_mem hall.flip hb
    exact hrequired.trans ((saysRequired_modernize hwf).trans (saysRequired_requestBody _ fields))

/-- A body that comes from a form is not required. -/
theorem ReadFrom.required_of_form (hdoc : (Json.obj doc).WellFormed)
    (hstands : StandsAt doc path method item op) (hread : ReadFrom version doc item op method g o)
    (hmade : Fields.get? "requestBody" (upgradeOperation (surroundings doc)
      (sortParameters (surroundings doc) (entriesAt item "parameters")) op) =
        some (formBody (consumesOf doc op) (mergedForm doc item op))) :
    ∃ b, g.bodiesOf o = [b] ∧ b.required = false := by
  obtain ⟨raw, body, hraw, hresolve, hall⟩ := hread.exists_body hdoc hstands hmade
  obtain ⟨hitem, hop⟩ := hstands.wellFormed hdoc
  have hwf : (formBody (consumesOf doc op) (mergedForm doc item op)).WellFormed :=
    wellFormed_formBody (wellFormed_mergedForm hdoc hitem hop)
  have hinline : raw.value.reference? = none := by
    rw [hraw, reference?_modernize hwf]
    rfl
  cases hresolve.symm.trans (Reference.resolve_of_not_reference hinline)
  have hordinary : "x-nullable" ∉ [formMime (consumesOf doc op)] :=
    mt List.mem_singleton.mp (formMime_ne _).symm
  have hcontent : (formBody (consumesOf doc op) (mergedForm doc item op)).get? "content" =
      some (contentOf [formMime (consumesOf doc op)] fun _ => .obj [("schema", .obj (formSchema
        (formProperties (mergedForm doc item op)) (formRequired (mergedForm doc item op))))]) := rfl
  rw [hraw, contentTypes_modernize hwf hcontent hordinary] at hall
  obtain ⟨b, _, ⟨_, hrequired⟩, hnil, hbodies⟩ := List.forall₂_cons_left_iff.mp hall
  cases hnil
  exact ⟨b, hbodies, hrequired.trans (saysRequired_modernize hwf)⟩

/-- An operation that has been read has bodies that are required as said. -/
theorem ReadFrom.requiredAsSaid (hdoc : (Json.obj doc).WellFormed)
    (hstands : StandsAt doc path method item op)
    (hread : ReadFrom version doc item op method g o) :
    RequiredAsSaid doc item op (g.bodiesOf o) := by
  obtain ⟨hitem, hop⟩ := hstands.wellFormed hdoc
  have hmade := @get?_requestBody_eq doc item op hdoc hop
  constructor
  case own =>
    intro entry fields hlast hbody
    rw [hlast] at hmade
    exact hread.required_of_body hdoc hstands (wellFormed_of_lastBody? hop hlast) hbody hmade
  case form =>
    intro hnone hform
    rw [hnone] at hmade
    simp only [List.isEmpty_iff, if_neg hform] at hmade
    exact hread.required_of_form hdoc hstands hmade
  case inherited =>
    intro hnone hempty entry fields hlast hbody
    rw [hnone, hempty, hlast] at hmade
    exact hread.required_of_body hdoc hstands (wellFormed_of_lastBody? hitem hlast) hbody hmade

/-- **Required bodies of a loaded operation.** Take a legacy document that loads, and an operation
that stands in it. The graph has every path that stands for the one of the operation, and in each of
them the operation. If the operation has a body parameter of its own, the last one counts: the
operation has bodies then, and each of them is required exactly if the parameter says so. If it has
none, and there are form fields in the operation or its path item, it has one body, and that is not
required, whatever the fields say. Without both, the last body parameter of the path item counts. -/
theorem required_of_upgraded [Pattern.Checker] {options : NormalizeOptions}
    (hdoc : (Json.obj doc).WellFormed)
    (hversion : declaredVersion doc = .ok .legacy) (hload : Graph.load options (.obj doc) = .ok g)
    (hstands : StandsAt doc path method item op) {name : String} (hname : PathFor doc path name) :
    (∃ r ∈ g.routes, r.path = name) ∧ ∀ r ∈ g.routes, r.path = name →
      ∃ o, g.operationFor? r method = some o ∧ RequiredAsSaid doc item op (g.bodiesOf o) := by
  obtain ⟨hex, hall⟩ := hstands.operationFor?_of_pathFor hdoc hversion hload hname
  refine ⟨hex, fun r hr hrpath => ?_⟩
  obtain ⟨o, ho, hread⟩ := hall r hr hrpath
  exact ⟨o, ho, hread.requiredAsSaid hdoc hstands⟩

end Operations

/-- A shared body that is required. -/
def memoBody : Fields := [("name", .str "memo"), ("in", .str "body"), ("required", .bool true)]

/-- An operation that takes a shared body. -/
def memoPost : Fields :=
  [("parameters", .arr [.obj [("$ref", .str "#/parameters/memo")]]), ("responses", .obj [])]

/-- An operation that takes a form with a required field. -/
def memoPut : Fields :=
  [("parameters", .arr [typedField "title" "string" true]), ("responses", .obj [])]

def memoItem : Fields := [("post", .obj memoPost), ("put", .obj memoPut)]

def memosDocument : Fields :=
  [("swagger", .str "2.0"),
   ("info", .obj [("title", .str "memos"), ("version", .str "1")]),
   ("parameters", .obj [("memo", .obj memoBody)]),
   ("paths", .obj [("/memos", .obj memoItem),
     ("/copies", .obj [("$ref", .str "#/paths/~1memos")])])]

theorem exists_load_memosDocument : ∃ g, Graph.load {} (.obj memosDocument) = .ok g := by
  have hassembled : assembled "3.0.0" memosDocument =
      [("openapi", .str "3.0.0"),
       ("paths", .obj [
         ("/memos", .obj [
           ("post", .obj [("responses", .obj []),
             ("requestBody", .obj [("$ref", .str "#/components/requestBodies/memo")])]),
           ("put", .obj [("responses", .obj []),
             ("requestBody", .obj [("content", .obj [("application/x-www-form-urlencoded",
               .obj [("schema", .obj [("type", .str "object"),
                 ("properties", .obj [("title", .obj [("type", .str "string")])]),
                 ("required", .arr [.str "title"])])])])])])]),
         ("/copies", .obj [("$ref", .str "#/paths/~1memos")])]),
       ("info", .obj [("title", .str "memos"), ("version", .str "1")]),
       ("components", .obj [("requestBodies", .obj [("memo", .obj [("required", .bool true),
         ("content", .obj [("application/json", .obj [("schema", .obj [])])])])])])] := rfl
  refine ⟨?g, (load_eq_ok_iff rfl).mpr ⟨rfl, ?valid, ?built⟩⟩
  case valid =>
    show Validation.validate (upgrade "3.0.0" memosDocument) = .ok ()
    rw [upgrade_eq, hassembled]
    cbv
  case built =>
    show Graph.ofDocument (upgrade "3.0.0" memosDocument) = _
    rw [upgrade_eq, hassembled]
    cbv
    rfl

/-- Behind a reference to their path item, the bodies of the one operation are required as the
shared body parameter says, and the body of the other one is not, though it has a required field. -/
theorem required_of_upgraded_of_memosDocument :
    requiredNames (formOf memosDocument memoItem memoPut) = ["title"] ∧
    ∃ g, Graph.load {} (.obj memosDocument) = .ok g ∧ ∃ r ∈ g.routes, r.path = "/copies" ∧
      (∃ o, g.operationFor? r .post = some o ∧ g.bodiesOf o ≠ [] ∧
        ∀ b ∈ g.bodiesOf o, b.required = true) ∧
      ∃ o, g.operationFor? r .put = some o ∧ ∃ b, g.bodiesOf o = [b] ∧ b.required = false := by
  obtain ⟨g, hload⟩ := exists_load_memosDocument
  have hdoc : (Json.obj memosDocument).WellFormed := by
    simp [memosDocument, memoItem, memoPost, memoPut, memoBody, typedField, Json.WellFormed,
      Json.FieldsWellFormed, Json.AllWellFormed]
  have hpost : StandsAt memosDocument "/memos" .post memoItem memoPost :=
    ⟨⟨_, rfl, rfl⟩, rfl, rfl, rfl⟩
  have hput : StandsAt memosDocument "/memos" .put memoItem memoPut :=
    ⟨⟨_, rfl, rfl⟩, rfl, rfl, rfl⟩
  have hname : PathFor memosDocument "/memos" "/copies" :=
    .reference (by decide) ⟨_, rfl, rfl⟩ rfl rfl rfl (.self (by decide))
  have hmemo : IsBodyParameter memosDocument (.obj [("$ref", .str "#/parameters/memo")]) memoBody :=
    ⟨.shared "memo" rfl ⟨by simp [Pointer.IsLiteral], by decide⟩ rfl rfl, rfl⟩
  obtain ⟨⟨r, hr, hrpath⟩, hall⟩ := required_of_upgraded hdoc rfl hload hpost hname
  obtain ⟨_, hall'⟩ := required_of_upgraded hdoc rfl hload hput hname
  obtain ⟨o, ho, hsaid⟩ := hall r hr hrpath
  obtain ⟨o', ho', hsaid'⟩ := hall' r hr hrpath
  exact ⟨rfl, g, hload, r, hr, hrpath, ⟨o, ho, hsaid.own _ _ rfl hmemo⟩, o', ho',
    hsaid'.form rfl (List.cons_ne_nil _ _)⟩

end ApiGraph.Legacy
