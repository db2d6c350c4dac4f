import ApiGraph.Pattern.Validity
import ApiGraph.Proofs.Legacy.Components
import ApiGraph.Proofs.Legacy.Operations

/-!
# Parameters survive the upgrade

The graph of a legacy document is built from the upgraded document. A parameter has gone
through four stages then: it has been sorted out of its list, its type has been moved under a
schema, its legacy keywords have been rewritten, and an operation has taken it over from its
path. It may have been written down in the operation, in the path or among the shared
parameters.

What an operation of the graph lists in the end are the parameters that the document declares
for it, bodies and form fields apart.
-/

namespace ApiGraph.Legacy

open Outcome Fragment

/-! ### What a legacy document declares -/

/-- The plain parameters that the entries of a list stand for. -/
def plainTargets (doc owner : Fields) : List Json :=
  ((entriesAt owner "parameters").map (target doc)).filter isPlain

/-- What tells parameters apart: the name together with the carrier. -/
def keyOf? (v : Json) : Option (String × Carrier) :=
  match ParameterHead.read v with
  | .ok head => some (head.name, head.carrier)
  | .error _ => none

/-- The plain parameters of an operation, and those of its path that it does not override. -/
def declaredParameters (doc item op : Fields) : List Json :=
  plainTargets doc op ++
    (plainTargets doc item).filter fun v => keyOf? v ∉ (plainTargets doc op).map keyOf?

/-- A parameter of the graph says what a legacy parameter says. Its schema is what the inline type
of that parameter, rewritten, resolves to in the new document. -/
structure Kept (root v : Json) (p : Parameter) : Prop where
  head : ParameterHead.read v = .ok ⟨p.name, p.carrier, p.required, p.deprecated, p.description⟩
  untyped : inlineOf v = [] → p.schema = none
  typed : inlineOf v ≠ [] → ∃ s, p.schema = some s ∧ ∀ location,
    TypeSchema.resolve root (.ofSupplied (modernize (.obj (inlineOf v)))) location = .ok s

/-- The operation that a document declares under a path and a method. Neither it nor its path item
is a reference, and the entries of their parameter lists are parameters or name one. -/
structure DeclaredAt (doc : Fields) (path : String) (method : Method) (item op : Fields) : Prop where
  inPaths : ∃ paths : Fields, doc.get? "paths" = some (.obj paths) ∧ paths.get? path = some (.obj item)
  inItem : item.get? method.name = some (.obj op)
  inlineItem : (Json.obj item).reference? = none
  inlineOperation : (Json.obj op).reference? = none
  listedInItem : ∀ v ∈ entriesAt item "parameters", Listed doc v
  listedInOperation : ∀ v ∈ entriesAt op "parameters", Listed doc v

/-! ### Entries of the new lists -/

section Entries

variable {version : String} {doc : Fields}

/-- A parameter that has been read from the new document, before its schema is resolved. -/
structure Pends (w : Json) (p : PendingParameter) : Prop where
  wellFormed : w.WellFormed
  head : ParameterHead.read w = .ok p.head
  schema : p.schema.map Fragment.value =
    if (inlineOf w).isEmpty then none else some (modernize (.obj (inlineOf w)))

/-- The new entry stands for the converted parameter. -/
theorem exists_resolve_converted (version : String) (hdoc : (Json.obj doc).WellFormed) {v : Json}
    (hv : v.WellFormed) (h : Listed doc v) (hplain : isPlain (target doc v) = true)
    {raw : Fragment} (hraw : raw.value = modernize (convertParameter v)) :
    (target doc v).WellFormed ∧ TypedInline (target doc v) ∧
      ∃ place, Reference.resolve (upgrade version doc) raw =
        .ok ⟨place, modernize (convertParameter (target doc v))⟩ := by
  have hraw' : raw.value.reference? = v.reference?.map retarget := by
    rw [hraw, reference?_modernize (wellFormed_convertParameter hv), reference?_convertParameter hv]
  rcases h with htyped | ⟨key, fields, hnames, _⟩
  · rw [target_of_not_reference htyped.1] at hplain ⊢
    refine ⟨hv, htyped, raw.place, ?_⟩
    rw [htyped.1] at hraw'
    rw [Reference.resolve_of_not_reference hraw', ← hraw]
  · have htarget := hnames.target
    rw [htarget] at hplain ⊢
    have hwf : (Json.obj fields).WellFormed :=
      (wellFormed_sharedEntries hdoc "parameters").get?
        (v := .obj (sharedEntries doc "parameters")) hnames.shared
    have href : raw.value.reference? = some (Pointer.component "parameters" key) := by
      rw [hraw', hnames.reference]
      exact congrArg some (retarget_append "#/parameters/" (by simp [sections]) key)
    have hend : (convertParameter (.obj fields)).reference? = none :=
      (reference?_convertParameter hwf).trans hnames.typed.1
    obtain ⟨place, hleads⟩ := (Moved.parameter hnames.shared hplain).leads version hdoc
      hnames.ordinary (Pointer.segments_of_isLiteral hnames.literal) hend
    have hobj : (modernize (convertParameter (.obj fields))).isObj = true := by
      rw [convertParameter_of_typedInline hnames.typed hplain]
      rfl
    rw [retargetField_of_isObj hobj] at hleads
    exact ⟨hwf, hnames.typed, place, hleads.resolve href⟩

/-- From the new entry the old parameter is read. -/
theorem pends_of_isPending (hdoc : (Json.obj doc).WellFormed) {v : Json} (hv : v.WellFormed)
    (h : Listed doc v) (hplain : isPlain (target doc v) = true) {raw : Fragment}
    (hraw : raw.value = modernize (convertParameter v)) {p : PendingParameter}
    (hp : Declaration.IsPending (upgrade version doc) raw p) : Pends (target doc v) p := by
  obtain ⟨hwf, htyped, place, hresolve⟩ :=
    exists_resolve_converted version hdoc hv h hplain hraw
  obtain ⟨entry, hentry, hhead, hschema⟩ := hp.entry
  cases hresolve.symm.trans hentry
  refine ⟨hwf, read_of_converted hwf htyped hplain hhead, ?_⟩
  rw [hschema, Fragment.field?, Option.map_map]
  show ((modernize (convertParameter (target doc v))).get? "schema").map id = _
  rw [get?_schema_converted hwf htyped hplain, Option.map_id, id]

/-- The new list of parameters holds what has been sorted out of the old one, rewritten. -/
theorem values_parameterEntries {around : Surroundings} {fields fields' : Fields} {owner : Fragment}
    (howner : owner.value = modernize (.obj fields')) (hwf : (Json.obj fields').WellFormed)
    (hnodup : (fields.map Prod.fst).Nodup)
    (hget : Fields.get? "parameters" fields' = Fields.get? "parameters" (resorted around fields)) :
    (Declaration.parameterEntries owner).map Fragment.value =
      (sortParameters around (entriesAt fields "parameters")).plain.map modernize := by
  have hfield : owner.value.get? "parameters" =
      (if (sortParameters around (entriesAt fields "parameters")).plain.isEmpty then none
      else some (Json.arr (sortParameters around (entriesAt fields "parameters")).plain)).map
        fun v => retargetField "parameters" (modernize v) := by
    rw [howner, get?_modernize hwf (by decide) (by decide), ← get?_withPlain_self hnodup]
    exact congrArg _ hget
  rw [Declaration.parameterEntries, Fragment.field?, hfield]
  cases (sortParameters around (entriesAt fields "parameters")).plain with
  | nil => rfl
  | cons v rest =>
    show (items ⟨_, .arr (modernizeItems (v :: rest))⟩).map Fragment.value = _
    rw [map_value_items, modernizeItems_eq_map]
    rfl

/-- What is read from a new list are the plain parameters that the old list stands for. -/
theorem forall₂_pends (hdoc : (Json.obj doc).WellFormed) {fields : Fields}
    (hfields : (Json.obj fields).WellFormed)
    (hlisted : ∀ v ∈ entriesAt fields "parameters", Listed doc v) {owner : Fragment}
    (howner : (Declaration.parameterEntries owner).map Fragment.value =
      (sortParameters (surroundings doc) (entriesAt fields "parameters")).plain.map modernize)
    {location : String} {ps : List PendingParameter}
    (hps : Declaration.readParameters (upgrade version doc) owner location = .ok ps) :
    List.Forall₂ Pends (plainTargets doc fields) ps := by
  have hvalues : List.Forall₂ (fun raw v => raw.value = modernize (convertParameter v))
      (Declaration.parameterEntries owner)
      ((entriesAt fields "parameters").filter fun v => isPlain (target doc v)) := by
    rw [sortParameters_eq hdoc fun v hv => (hlisted v hv).consistent, List.map_map] at howner
    exact map_eq_map_iff_forall₂.mp howner
  have hread : List.Forall₂ (fun v p => ∃ raw : Fragment,
      raw.value = modernize (convertParameter v) ∧
        Declaration.IsPending (upgrade version doc) raw p)
      ((entriesAt fields "parameters").filter fun v => isPlain (target doc v)) ps :=
    forall₂_comp hvalues (fun raw _ _ hraw hp => ⟨raw, hraw, hp⟩)
      (Declaration.forall₂_of_readParameters hps)
  rw [plainTargets, List.filter_map, List.forall₂_map_left_iff]
  refine forall₂_mono hread fun v hv p hp => ?_
  obtain ⟨hmem, hplain⟩ := List.mem_filter.mp hv
  obtain ⟨raw, hraw, hpending⟩ := hp
  exact pends_of_isPending hdoc (wellFormed_entriesAt hfields "parameters" v hmem)
    (hlisted v hmem) hplain hraw hpending

theorem Pends.keyOf?_eq {w : Json} {p : PendingParameter} (h : Pends w p) :
    keyOf? w = some p.key := by
  rw [keyOf?, h.head]
  rfl

/-- An operation takes over the same parameters in the new document as in the old one. -/
theorem forall₂_inherit {own shared : List Json} {ps ps' : List PendingParameter}
    (hown : List.Forall₂ Pends own ps) (hshared : List.Forall₂ Pends shared ps') :
    List.Forall₂ Pends (own ++ shared.filter fun v => keyOf? v ∉ own.map keyOf?)
      (Declaration.inherit ps ps') := by
  have hkeys : own.map keyOf? = (ps.map PendingParameter.key).map some := by
    induction hown with
    | nil => rfl
    | cons h _ ih => rw [List.map_cons, List.map_cons, List.map_cons, ih, h.keyOf?_eq]
  refine List.rel_append hown (forall₂_filter hshared fun w p h => ?_)
  rw [hkeys, h.keyOf?_eq]
  simp

theorem wellFormed_inlineOf {w : Json} (h : w.WellFormed) : (Json.obj (inlineOf w)).WellFormed := by
  cases w with
  | obj fields => exact wellFormed_inlineSchema h
  | _ => exact wellFormed_inlineSchema ⟨List.nodup_nil, trivial⟩

/-- With its schema resolved, what has been read is the parameter that the graph keeps. -/
theorem kept_of_pends (hdoc : (Json.obj doc).WellFormed) {w : Json} {p : PendingParameter}
    (h : Pends w p) {d : ParameterDeclaration}
    (hd : Declaration.parameter (upgrade version doc) p = .ok d) (operation : Nat) :
    Kept (upgrade version doc) w { d with operation } := by
  obtain ⟨schema, hrel, rfl⟩ := Declaration.parameter_eq_ok_iff.mp hd
  have hschema := h.schema
  refine ⟨h.head, fun hempty => ?_, fun hsome => ?_⟩
  · rw [hempty, List.isEmpty_nil, if_pos rfl, Option.map_eq_none_iff] at hschema
    rw [hschema] at hrel
    cases hrel
    rfl
  · rw [if_neg (by simpa using hsome), Option.map_eq_some_iff] at hschema
    obtain ⟨raw, hraw, hvalue⟩ := hschema
    rw [hraw] at hrel
    obtain ⟨s, rfl, hs⟩ := exists_of_rel_some hrel
    have hwf : raw.value.WellFormed := by
      rw [hvalue]
      exact wellFormed_modernize (wellFormed_inlineOf h.wellFormed)
    refine ⟨s, rfl, fun location => ?_⟩
    rw [← hvalue]
    exact TypeSchema.resolve_ofSupplied (wellFormed_upgrade hdoc) hwf hs location

end Entries

/-! ### The upgraded operation -/

section Operations

variable {version : String} {doc item op : Fields} {path : String} {method : Method}

theorem DeclaredAt.standsAt (h : DeclaredAt doc path method item op) :
    StandsAt doc path method item op :=
  ⟨h.inPaths, h.inItem, h.inlineItem, h.inlineOperation⟩

/-- The upgraded path item shares the plain parameters that it shared. -/
theorem DeclaredAt.item_pends (hdoc : (Json.obj doc).WellFormed)
    (h : DeclaredAt doc path method item op) {raw : Fragment} (hraw : raw.value = newItem doc item)
    {location : String} {ps : List PendingParameter}
    (hps : Declaration.readParameters (upgrade version doc) raw location = .ok ps) :
    List.Forall₂ Pends (plainTargets doc item) ps := by
  have hitem := (h.standsAt.wellFormed hdoc).1
  exact forall₂_pends hdoc hitem h.listedInItem (values_parameterEntries hraw
    (h.standsAt.wellFormed_new hdoc).1 hitem.1 (get?_parameters_upgradedItem item)) hps

/-- The upgraded operation has the plain parameters that it had. -/
theorem DeclaredAt.operation_pends (hdoc : (Json.obj doc).WellFormed)
    (h : DeclaredAt doc path method item op) {raw : Fragment}
    (hraw : raw.value = newOperation doc item op) {location : String} {ps : List PendingParameter}
    (hps : Declaration.readParameters (upgrade version doc) raw location = .ok ps) :
    List.Forall₂ Pends (plainTargets doc op) ps := by
  have hop := (h.standsAt.wellFormed hdoc).2
  exact forall₂_pends hdoc hop h.listedInOperation (values_parameterEntries hraw
    (h.standsAt.wellFormed_new hdoc).2 hop.1 (get?_upgradeOperation hop.1 (by decide))) hps

/-- What is listed for an operation that has been read are the parameters that are declared for it. -/
theorem DeclaredAt.parametersOf (hdoc : (Json.obj doc).WellFormed)
    (h : DeclaredAt doc path method item op) {g : Graph} {o : Operation}
    (hread : ReadFrom version doc item op method g o) :
    List.Forall₂ (Kept (upgrade version doc)) (declaredParameters doc item op)
      (g.parametersOf o) := by
  obtain ⟨rawItem, raw, shared, _, _, d, hitem, hraw, _, hshared, hoperation, hlists⟩ := hread
  obtain ⟨node, own, parameters, _, _, hnode, _, hown, hparameters, _, _, rfl⟩ :=
    Declaration.operation_eq_ok_iff.mp hoperation
  have hinline : raw.value.reference? = none := hraw ▸ h.standsAt.reference?_newOperation hdoc
  rw [Reference.resolve_of_not_reference hinline] at hnode
  cases hnode
  rw [hlists.parametersOf, List.forall₂_map_right_iff]
  refine forall₂_comp (forall₂_inherit (h.operation_pends hdoc hraw hown)
    (h.item_pends hdoc hitem hshared)).flip ?_ hparameters
  intro p w d hpends hd
  exact kept_of_pends hdoc hpends hd o.id

/-- **The upgrade keeps every plain parameter.**  Take a legacy document that loads, and an operation
that it declares under a path that is not named like the extension for null.  The graph has the
path and, in it, the operation; and the parameters listed for the operation are its own ones that
go neither into a body nor into a form, and then those of the path that it does not override.  Each
says what the legacy parameter says, and its schema is what the inline type of that parameter
resolves to in the upgraded document. -/
theorem parametersOf_upgraded [Pattern.Checker] {options : NormalizeOptions} {g : Graph}
    (hdoc : (Json.obj doc).WellFormed) (hversion : declaredVersion doc = .ok .legacy)
    (hload : Graph.load options (.obj doc) = .ok g) (hpath : path ≠ "x-nullable")
    (h : DeclaredAt doc path method item op) :
    (∃ r ∈ g.routes, r.path = path) ∧ ∀ r ∈ g.routes, r.path = path →
      ∃ o, g.operationFor? r method = some o ∧
        List.Forall₂ (Kept (upgrade options.targetVersion doc)) (declaredParameters doc item op)
          (g.parametersOf o) := by
  obtain ⟨hex, hall⟩ := h.standsAt.operationFor? hdoc hversion hload hpath
  refine ⟨hex, fun r hr hrpath => ?_⟩
  obtain ⟨o, ho, hread⟩ := hall r hr hrpath
  exact ⟨o, ho, h.parametersOf hdoc hread⟩

end Operations

/-- An operation with a body and a parameter of its own. -/
def listOrders : Fields :=
  [("parameters", .arr [.obj [("name", .str "filter"), ("in", .str "body")],
     .obj [("name", .str "state"), ("in", .str "query")]]),
   ("responses", .obj [])]

/-- Its path item has a shared parameter. -/
def ordersItem : Fields :=
  [("parameters", .arr [.obj [("$ref", .str "#/parameters/limit")]]), ("get", .obj listOrders)]

def ordersDocument : Fields :=
  [("swagger", .str "2.0"),
   ("info", .obj [("title", .str "orders"), ("version", .str "1")]),
   ("parameters", .obj [("limit",
     .obj [("name", .str "limit"), ("in", .str "query"), ("type", .str "integer")])]),
   ("paths", .obj [("/orders", .obj ordersItem)])]

theorem exists_load_ordersDocument : ∃ g, Graph.load {} (.obj ordersDocument) = .ok g := by
  have hupgrade : upgrade "3.0.0" ordersDocument = .obj
      [("openapi", .str "3.0.0"),
       ("paths", .obj [("/orders", .obj [
         ("get", .obj [
           ("responses", .obj []),
           ("parameters", .arr [.obj [("name", .str "state"), ("in", .str "query")]]),
           ("requestBody", .obj [("content", .obj [("application/json",
             .obj [("schema", .obj [])])])])]),
         ("parameters", .arr [.obj [("$ref", .str "#/components/parameters/limit")]])])]),
       ("info", .obj [("title", .str "orders"), ("version", .str "1")]),
       ("components", .obj [("parameters", .obj [("limit", .obj [("name", .str "limit"),
         ("in", .str "query"), ("schema", .obj [("type", .str "integer")])])])])] := rfl
  refine ⟨?g, (load_eq_ok_iff rfl).mpr ⟨rfl, ?valid, ?built⟩⟩
  case valid =>
    show Validation.validate (upgrade "3.0.0" ordersDocument) = .ok ()
    rw [hupgrade]
    cbv
  case built =>
    show Graph.ofDocument (upgrade "3.0.0" ordersDocument) = _
    rw [hupgrade]
    cbv
    rfl

/-- The operation lists its own parameter, without a schema, and then the shared one; the body is
none of them. -/
theorem parametersOf_upgraded_of_ordersDocument :
    ∃ g, Graph.load {} (.obj ordersDocument) = .ok g ∧ ∃ r ∈ g.routes, r.path = "/orders" ∧
      ∃ o, g.operationFor? r .get = some o ∧
        (g.parametersOf o).map (fun p => (p.name, p.carrier, p.required, p.schema.isSome)) =
          [("state", .query, false, false), ("limit", .query, false, true)] := by
  obtain ⟨g, hload⟩ := exists_load_ordersDocument
  have hdoc : (Json.obj ordersDocument).WellFormed := by
    simp [ordersDocument, ordersItem, listOrders, Json.WellFormed, Json.FieldsWellFormed,
      Json.AllWellFormed]
  have hdeclared : DeclaredAt ordersDocument "/orders" .get ordersItem listOrders := {
    inPaths := ⟨_, rfl, rfl⟩
    inItem := rfl
    inlineItem := rfl
    inlineOperation := rfl
    listedInItem := by
      intro v hv
      cases List.mem_singleton.mp hv
      exact Or.inr ⟨"limit", _, ⟨rfl, by simp [Pointer.IsLiteral], by decide, rfl,
        ⟨rfl, fun _ => ⟨rfl, rfl⟩⟩⟩, fun _ => rfl⟩
    listedInOperation := by
      intro v hv
      refine Or.inl ?_
      rcases List.mem_cons.mp hv with rfl | hv
      · exact ⟨rfl, fun hplain => by cases hplain⟩
      · cases List.mem_singleton.mp hv
        exact ⟨rfl, fun _ => ⟨rfl, rfl⟩⟩ }
  obtain ⟨⟨r, hr, hrpath⟩, hall⟩ :=
    parametersOf_upgraded hdoc rfl hload (by decide) hdeclared
  obtain ⟨o, ho, hkept⟩ := hall r hr hrpath
  refine ⟨g, hload, r, hr, hrpath, o, ho, ?_⟩
  have hlist : declaredParameters ordersDocument ordersItem listOrders =
      [.obj [("name", .str "state"), ("in", .str "query")],
       .obj [("name", .str "limit"), ("in", .str "query"), ("type", .str "integer")]] := rfl
  rw [hlist] at hkept
  obtain ⟨p, _, hstate, hrest, hps⟩ := List.forall₂_cons_left_iff.mp hkept
  obtain ⟨q, _, hlimit, hnone, rfl⟩ := List.forall₂_cons_left_iff.mp hrest
  cases hnone
  have hp : (⟨p.name, p.carrier, p.required, p.deprecated, p.description⟩ : ParameterHead) =
      ⟨"state", .query, false, false, none⟩ := Except.ok.inj (hstate.head.symm.trans rfl)
  have hq : (⟨q.name, q.carrier, q.required, q.deprecated, q.description⟩ : ParameterHead) =
      ⟨"limit", .query, false, false, none⟩ := Except.ok.inj (hlimit.head.symm.trans rfl)
  obtain ⟨s, hs, _⟩ := hlimit.typed (List.cons_ne_nil _ _)
  simp only [ParameterHead.mk.injEq] at hp hq
  simp only [hps, List.map_cons, List.map_nil, hp, hq, hstate.untyped rfl, hs, Option.isSome_none,
    Option.isSome_some]

/-- An operation with one entry in its list of parameters, and its path item. -/
def searchWith (entry : Json) : Fields :=
  [("parameters", .arr [entry]), ("responses", .obj [])]

def searchItem (entry : Json) : Fields := [("get", .obj (searchWith entry))]

def queryParameter : Fields := [("name", .str "q"), ("in", .str "query")]

def sharedQuery : Json := .obj [("$ref", .str "#/parameters/q")]

def sharedQueryAsBody : Json := .obj [("$ref", .str "#/parameters/q"), ("in", .str "body")]

/-- In one path a reference to a parameter calls itself a body parameter, and the other path is
named like the extension for null. -/
def strayDocument : Fields :=
  [("swagger", .str "2.0"),
   ("info", .obj [("title", .str "stray"), ("version", .str "1")]),
   ("parameters", .obj [("q", .obj queryParameter)]),
   ("paths", .obj [("/a", .obj (searchItem sharedQueryAsBody)),
     ("x-nullable", .obj (searchItem sharedQuery))])]

/-- Both operations are declared with a parameter. The graph has no path for the one, which has
got another name, and no parameter for the other. -/
theorem parameters_lost_of_strayDocument :
    ∃ g, Graph.load {} (.obj strayDocument) = .ok g ∧
      (DeclaredAt strayDocument "x-nullable" .get (searchItem sharedQuery) (searchWith sharedQuery) ∧
        declaredParameters strayDocument (searchItem sharedQuery) (searchWith sharedQuery) =
          [.obj queryParameter] ∧
        g.routes.map Route.path = ["/a", "nullable"]) ∧
      Names strayDocument sharedQueryAsBody "q" queryParameter ∧
        declaredParameters strayDocument (searchItem sharedQueryAsBody)
          (searchWith sharedQueryAsBody) = [.obj queryParameter] ∧
        ∃ r ∈ g.routes, r.path = "/a" ∧ ∃ o, g.operationFor? r .get = some o ∧
          g.parametersOf o = [] := by
  have hupgrade : upgrade "3.0.0" strayDocument = .obj
      [("openapi", .str "3.0.0"),
       ("paths", .obj [
         ("/a", .obj [("get", .obj [("responses", .obj []),
           ("requestBody", .obj [("content", .obj [("application/json",
             .obj [("schema", .obj [])])])])])]),
         ("nullable", .obj [("get", .obj [("responses", .obj []),
           ("parameters", .arr [.obj [("$ref", .str "#/components/parameters/q")]])])])]),
       ("info", .obj [("title", .str "stray"), ("version", .str "1")]),
       ("components", .obj [("parameters", .obj [("q", .obj queryParameter)])])] := rfl
  have hnames : ∀ entry, entry.reference? = some "#/parameters/q" →
      Names strayDocument entry "q" queryParameter := fun entry href =>
    ⟨href, by simp [Pointer.IsLiteral], by decide, rfl, rfl, fun _ => ⟨rfl, rfl⟩⟩
  refine ⟨?g, (load_eq_ok_iff rfl).mpr ⟨rfl, ?valid, ?built⟩, ⟨?declared, rfl, ?paths⟩,
    hnames _ rfl, rfl, ?lost⟩
  case valid =>
    show Validation.validate (upgrade "3.0.0" strayDocument) = .ok ()
    rw [hupgrade]
    cbv
  case built =>
    show Graph.ofDocument (upgrade "3.0.0" strayDocument) = _
    rw [hupgrade]
    cbv
    rfl
  case declared =>
    exact {
      inPaths := ⟨_, rfl, rfl⟩
      inItem := rfl
      inlineItem := rfl
      inlineOperation := rfl
      listedInItem := by
        intro v hv
        cases hv
      listedInOperation := by
        intro v hv
        cases List.mem_singleton.mp hv
        exact Or.inr ⟨"q", queryParameter, hnames _ rfl, fun _ => rfl⟩ }
  case paths => rfl
  case lost => exact ⟨_, List.mem_cons_self, rfl, _, rfl, rfl⟩

end ApiGraph.Legacy
