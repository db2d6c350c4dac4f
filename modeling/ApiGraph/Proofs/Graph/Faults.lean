import ApiGraph.Graph.Basic
import ApiGraph.Proofs.Graph.Declaration
import ApiGraph.Proofs.Reference.Chain
import ApiGraph.Proofs.Schema.Cycle

/-!
# Where building fails

The first fault ends the building of a graph, so each fault can be followed from the document down
to the one thing that has caused it: a reference, a value of the wrong kind, a parameter, a key of
a response, or a schema. There is one lemma for each stage, which names the causes of the stage
itself and hands the others on.

Schemas are the deepest cause. `SchemaPosition` lists the positions that are taken for schemas,
and a schema is found undefined only at one of these that stands for no object.
-/

namespace ApiGraph

open Outcome

theorem Reference.resolve_ne_undefinedSchema {root : Json} {value : Fragment} {l : String} :
    resolve root value ≠ .error (.undefinedSchema l) := by
  intro h
  obtain ⟨_, heq | heq⟩ := fault_of_resolve h <;> cases heq

/-! ### Schemas -/

namespace TypeSchema

/-- A schema is undefined where a position below it stands for no object. -/
theorem undefined_of_resolveBelow {root : Json} {l : String} :
    ∀ {unopened : List Place} {at_ : Position},
      resolveBelow root unopened at_ = .error (.undefinedSchema l) →
      ∃ position node, Reached root at_.1 position ∧ Reference.resolve root position = .ok node ∧
        node.value.isObj = false := by
  intro unopened
  induction hlen : unopened.length using Nat.strongRecOn generalizing unopened with
  | _ n ih =>
    intro at_ h
    rw [resolveBelow] at h
    rcases fault_of_openWith h with href | ⟨node, hnode, hobj, _⟩ |
      ⟨node, fields, hnode, hfields, hcase⟩
    · exact absurd href Reference.resolve_ne_undefinedSchema
    · exact ⟨at_.1, node, .start, hnode, hobj⟩
    · rcases hcase with ⟨_, hcyclic⟩ | ⟨hmem, hbuild⟩
      · cases hcyclic
      · rcases fault_of_build hbuild with ⟨_, _, hcause⟩ | ⟨child, hchild, _, _, hfail⟩
        · cases hcause
        · have hlt : (afterVisit node.place unopened).length < n := by
            rw [← hlen]
            exact length_afterVisit_lt hmem
          obtain ⟨position, below, hreached, hbelow, hobj⟩ := ih _ hlt rfl hfail
          exact ⟨position, below, hreached.head ⟨hnode, fields, hfields⟩ hchild, hbelow, hobj⟩

/-- An input is refused for a schema at the location of the schema or below it. -/
theorem cause_of_resolveBelow {root : Json} {cause : InputFault} :
    ∀ {unopened : List Place} {at_ : Position},
      resolveBelow root unopened at_ = .error (.invalidInput cause) →
      ∃ l, Pointer.depth at_.2 ≤ Pointer.depth l ∧ OwnCause l cause := by
  intro unopened
  induction hlen : unopened.length using Nat.strongRecOn generalizing unopened with
  | _ n ih =>
    intro at_ h
    rw [resolveBelow] at h
    rcases fault_of_openWith h with href | ⟨_, _, _, hundefined⟩ | ⟨node, fields, _, _, hcase⟩
    · obtain ⟨_, heq | heq⟩ := Reference.fault_of_resolve href <;> cases heq
    · cases hundefined
    · rcases hcase with ⟨_, hcyclic⟩ | ⟨hmem, hbuild⟩
      · cases hcyclic
      · rcases fault_of_build hbuild with ⟨_, hown, heq⟩ | ⟨_, _, l, hbelow, hfail⟩
        · cases heq
          exact ⟨at_.2, le_refl _, hown⟩
        · have hlt : (afterVisit node.place unopened).length < n := by
            rw [← hlen]
            exact length_afterVisit_lt hmem
          obtain ⟨deeper, hdeeper, hown⟩ := ih _ hlt rfl hfail
          exact ⟨deeper, by dsimp only at hdeeper; omega, hown⟩

end TypeSchema

namespace Declaration

variable {root : Json} {e : Fault} {location : String}

theorem fault_of_fieldsOf {f : Fragment} (h : fieldsOf f location = .error e) :
    f.value.isObj = false ∧ e = .invalidInput (.expectedObject location) := by
  rw [fieldsOf] at h
  split at h
  · cases h
  · next hnot =>
    cases h
    refine ⟨?_, rfl⟩
    cases hv : f.value with
    | obj fields => exact absurd hv (hnot fields)
    | _ => rfl

/-! ### Parameters -/

/-- A list of parameters fails at a reference, at an entry that is malformed, or at one that
repeats another. -/
theorem fault_of_readEntries {raws : List Fragment} :
    ∀ {seen : List (String × Carrier)} {index : Nat},
      readEntries root location seen index raws = .error e →
      (∃ raw ∈ raws, Reference.resolve root raw = .error e) ∨
      (∃ here shape, e = .invalidInput (.malformed here shape)) ∨
      ∃ here name carrier, e = .invalidInput (.duplicateParameter here name carrier) := by
  induction raws with
  | nil =>
    intro seen index h
    cases h
  | cons raw rest ih =>
    intro seen index h
    simp only [readEntries, bind_eq_error_iff] at h
    rcases h with href | ⟨entry, _, hhead | ⟨head, _, h⟩⟩
    · exact Or.inl ⟨raw, List.mem_cons_self, href⟩
    · obtain ⟨shape, _, rfl⟩ := mapError_eq_error_iff.mp hhead
      exact Or.inr (Or.inl ⟨_, shape, rfl⟩)
    · split at h
      · rcases bind_eq_error_iff.mp h with hthrow | ⟨_, hthrow, _⟩
        · cases hthrow
          exact Or.inr (Or.inr ⟨_, _, _, rfl⟩)
        · cases hthrow
      · rcases bind_eq_error_iff.mp h with hrest | ⟨_, _, hout⟩
        · rcases ih hrest with ⟨later, hlater, href⟩ | hcause
          · exact Or.inl ⟨later, List.mem_cons_of_mem _ hlater, href⟩
          · exact Or.inr hcause
        · cases hout

theorem fault_of_readParameters {owner : Fragment}
    (h : readParameters root owner location = .error e) :
    (∃ raw ∈ parameterEntries owner, Reference.resolve root raw = .error e) ∨
    (∃ here shape, e = .invalidInput (.malformed here shape)) ∨
    (∃ here name carrier, e = .invalidInput (.duplicateParameter here name carrier)) ∨
    ∃ list, owner.field? "parameters" = some list ∧ list.value.items? = none ∧
      e = .invalidInput (.expectedArray (Pointer.child location "parameters")) := by
  rw [readParameters] at h
  cases hlist : owner.field? "parameters" with
  | none =>
    rw [hlist] at h
    cases h
  | some list =>
    rw [hlist] at h
    dsimp only at h
    split at h
    · rcases fault_of_readEntries h with ⟨raw, hraw, href⟩ | hshape | hduplicate
      · refine Or.inl ⟨raw, ?_, href⟩
        rw [parameterEntries, hlist]
        exact hraw
      · exact Or.inr (Or.inl hshape)
      · exact Or.inr (Or.inr (Or.inl hduplicate))
    · next hnot =>
      cases h
      refine Or.inr (Or.inr (Or.inr ⟨list, rfl, ?_, rfl⟩))
      cases hv : list.value with
      | arr items => exact absurd hv (hnot items)
      | _ => rfl

theorem fault_of_parameter {p : PendingParameter} (h : parameter root p = .error e) :
    ∃ raw, p.schema = some raw ∧
      TypeSchema.resolve root raw (Pointer.child p.location "schema") = .error e := by
  rcases bind_eq_error_iff.mp h with hschema | ⟨_, _, hout⟩
  · exact exists_of_option_mapM_eq_error hschema
  · cases hout

/-! ### Responses and request bodies -/

/-- The schema under a content type of an owner: an object with some field. -/
def HasMediaSchema (root : Json) (owner node : Fragment) : Prop :=
  ∃ mimeType raw field rest, owner.walk? ["content", mimeType, "schema"] = some raw ∧
    Reference.resolve root raw = .ok node ∧ node.value = .obj (field :: rest)

theorem fault_of_mediaSchema {owner : Fragment} {mimeType : String}
    (h : mediaSchema root owner mimeType location = .error e) :
    (∃ raw, owner.walk? ["content", mimeType, "schema"] = some raw ∧
      Reference.resolve root raw = .error e) ∨
    ∃ node, HasMediaSchema root owner node ∧ TypeSchema.resolve root node (Pointer.child
      (Pointer.child (Pointer.child location "content") mimeType) "schema") = .error e := by
  rw [mediaSchema] at h
  split at h
  · cases h
  · next raw hraw =>
    rcases bind_eq_error_iff.mp h with href | ⟨node, hnode, h⟩
    · exact Or.inl ⟨raw, hraw, href⟩
    · split at h
      · next field rest hfields =>
        exact Or.inr ⟨node, ⟨mimeType, raw, field, rest, hraw, hnode, hfields⟩,
          map_eq_error_iff.mp h⟩
      · cases h

/-- An owner of content fails at a reference to it, or at the schema of a content type. -/
def ContentFails (root : Json) (raw : Fragment) (location : String) (e : Fault) : Prop :=
  Reference.resolve root raw = .error e ∨
  ∃ entry mimeType, Reference.resolve root raw = .ok entry ∧
    mediaSchema root entry mimeType location = .error e

theorem fault_of_response {key : String} {raw : Fragment}
    (h : response root location key raw = .error e) :
    (StatusKey.parse? key = none ∧ e = .invalidInput (.invalidResponseKey location key)) ∨
      ContentFails root raw (Pointer.child location key) e := by
  rw [response] at h
  split at h
  · next hkey =>
    cases h
    exact Or.inl ⟨hkey, rfl⟩
  · right
    rcases bind_eq_error_iff.mp h with href | ⟨entry, hentry, h⟩
    · exact Or.inl href
    · obtain ⟨mimeType, _, hfan⟩ := exists_of_mapM_eq_error h
      rcases bind_eq_error_iff.mp hfan with hmedia | ⟨_, _, hout⟩
      · exact Or.inr ⟨entry, mimeType, hentry, hmedia⟩
      · cases hout

theorem fault_of_responses {op : Fragment} (h : responses root op location = .error e) :
    ∃ map, op.field? "responses" = some map ∧
      ((map.value.isObj = false ∧
        e = .invalidInput (.expectedObject (Pointer.child location "responses"))) ∨
      ∃ key raw, (key, raw) ∈ map.fields ∧
        response root (Pointer.child location "responses") key raw = .error e) := by
  rw [responses] at h
  split at h
  · cases h
  · next map hmap =>
    refine ⟨map, hmap, ?_⟩
    rcases bind_eq_error_iff.mp h with hmap | ⟨entries, hentries, h⟩
    · exact Or.inl (fault_of_fieldsOf hmap)
    · right
      rcases bind_eq_error_iff.mp h with hfail | ⟨_, _, hout⟩
      · obtain ⟨⟨key, raw⟩, hmem, hresponse⟩ := exists_of_mapM_eq_error hfail
        rw [(fieldsOf_eq_ok_iff.mp hentries).2] at hmem
        exact ⟨key, raw, hmem, hresponse⟩
      · cases hout

theorem fault_of_bodies {op : Fragment} (h : bodies root op location = .error e) :
    ∃ raw, op.field? "requestBody" = some raw ∧
      ContentFails root raw (Pointer.child location "requestBody") e := by
  rw [bodies] at h
  split at h
  · cases h
  · next raw hraw =>
    refine ⟨raw, hraw, ?_⟩
    rcases bind_eq_error_iff.mp h with href | ⟨entry, hentry, h⟩
    · exact Or.inl href
    · obtain ⟨mimeType, _, hfan⟩ := exists_of_mapM_eq_error h
      rcases bind_eq_error_iff.mp hfan with hmedia | ⟨_, _, hout⟩
      · exact Or.inr ⟨entry, mimeType, hentry, hmedia⟩
      · cases hout

/-! ### Operations, paths and documents -/

theorem fault_of_operation {shared : List PendingParameter} {method : Method} {raw : Fragment}
    (h : operation root shared location method raw = .error e) :
    Reference.resolve root raw = .error e ∨
    ∃ op, Reference.resolve root raw = .ok op ∧
      ((op.value.isObj = false ∧ e = .invalidInput (.expectedObject location)) ∨
      readParameters root op location = .error e ∨
      (∃ own p, readParameters root op location = .ok own ∧ p ∈ inherit own shared ∧
        parameter root p = .error e) ∨
      responses root op location = .error e ∨ bodies root op location = .error e) := by
  rcases bind_eq_error_iff.mp h with href | ⟨op, hop, h⟩
  · exact Or.inl href
  · refine Or.inr ⟨op, hop, ?_⟩
    rcases bind_eq_error_iff.mp h with hobj | ⟨_, _, h⟩
    · exact Or.inl (fault_of_fieldsOf hobj)
    rcases bind_eq_error_iff.mp h with hown | ⟨own, hown, h⟩
    · exact Or.inr (Or.inl hown)
    rcases bind_eq_error_iff.mp h with hparameters | ⟨_, _, h⟩
    · obtain ⟨p, hp, hfail⟩ := exists_of_mapM_eq_error hparameters
      exact Or.inr (Or.inr (Or.inl ⟨own, p, hown, hp, hfail⟩))
    rcases bind_eq_error_iff.mp h with hresponses | ⟨_, _, h⟩
    · exact Or.inr (Or.inr (Or.inr (Or.inl hresponses)))
    rcases bind_eq_error_iff.mp h with hbodies | ⟨_, _, hout⟩
    · exact Or.inr (Or.inr (Or.inr (Or.inr hbodies)))
    · cases hout

theorem fault_of_path {name : String} {raw : Fragment} (h : path root name raw = .error e) :
    Reference.resolve root raw = .error e ∨
    ∃ item, Reference.resolve root raw = .ok item ∧
      ((item.value.isObj = false ∧
        e = .invalidInput (.expectedObject (Pointer.child "#/paths" name))) ∨
      readParameters root item (Pointer.child "#/paths" name) = .error e ∨
      ∃ shared method declared, readParameters root item (Pointer.child "#/paths" name) =
          .ok shared ∧ item.field? (Method.name method) = some declared ∧
        operation root shared (Pointer.child (Pointer.child "#/paths" name) method.name) method
          declared = .error e) := by
  rcases bind_eq_error_iff.mp h with href | ⟨item, hitem, h⟩
  · exact Or.inl href
  · refine Or.inr ⟨item, hitem, ?_⟩
    rcases bind_eq_error_iff.mp h with hobj | ⟨_, _, h⟩
    · exact Or.inl (fault_of_fieldsOf hobj)
    rcases bind_eq_error_iff.mp h with hshared | ⟨shared, hshared, h⟩
    · exact Or.inr (Or.inl hshared)
    rcases bind_eq_error_iff.mp h with hoperations | ⟨_, _, hout⟩
    · obtain ⟨⟨method, declared⟩, hmem, hfail⟩ := exists_of_mapM_eq_error hoperations
      exact Or.inr (Or.inr ⟨shared, method, declared, hshared, mem_methodsOf_iff.mp hmem, hfail⟩)
    · cases hout

theorem fault_of_paths (h : paths root = .error e) :
    ∃ map, (Fragment.ofDocument root).field? "paths" = some map ∧
      ((map.value.isObj = false ∧ e = .invalidInput (.expectedObject "#/paths")) ∨
      ∃ name raw, (name, raw) ∈ map.fields ∧ path root name raw = .error e) := by
  rw [paths] at h
  split at h
  · cases h
  · next map hmap =>
    refine ⟨map, hmap, ?_⟩
    rcases bind_eq_error_iff.mp h with hobj | ⟨entries, hentries, h⟩
    · exact Or.inl (fault_of_fieldsOf hobj)
    · obtain ⟨⟨name, raw⟩, hmem, hfail⟩ := exists_of_mapM_eq_error h
      rw [(fieldsOf_eq_ok_iff.mp hentries).2] at hmem
      exact Or.inr ⟨name, raw, hmem, hfail⟩

/-! ### Positions that are taken for schemas -/

/-- An object that is read as a path item. -/
def IsItem (root : Json) (item : Fragment) : Prop :=
  ∃ map name raw, (Fragment.ofDocument root).field? "paths" = some map ∧
    (name, raw) ∈ map.fields ∧ Reference.resolve root raw = .ok item

/-- An object that is read as an operation. -/
def IsOperation (root : Json) (op : Fragment) : Prop :=
  ∃ item method raw, IsItem root item ∧ item.field? (Method.name method) = some raw ∧
    Reference.resolve root raw = .ok op

/-- The raw schemas that a document gives to its parameters, responses and request bodies. -/
inductive SchemaSource (root : Json) : Fragment → Prop
  | parameter {owner raw entry source : Fragment} :
      IsItem root owner ∨ IsOperation root owner → raw ∈ parameterEntries owner →
      Reference.resolve root raw = .ok entry → entry.field? "schema" = some source →
      SchemaSource root source
  | response {op map raw entry source : Fragment} {key : String} :
      IsOperation root op → op.field? "responses" = some map → (key, raw) ∈ map.fields →
      Reference.resolve root raw = .ok entry → HasMediaSchema root entry source →
      SchemaSource root source
  | body {op raw entry source : Fragment} :
      IsOperation root op → op.field? "requestBody" = some raw →
      Reference.resolve root raw = .ok entry → HasMediaSchema root entry source →
      SchemaSource root source

/-- A position at or below a raw schema of the document, which is resolved as a schema itself. -/
def SchemaPosition (root : Json) (f : Fragment) : Prop :=
  ∃ source, SchemaSource root source ∧ TypeSchema.Reached root source f

section Keeps

variable {P : Fragment → Prop} (hpart : ∀ f g, Fragment.Part g f → P f → P g)
  (hroot : P (.ofDocument root))
include hpart hroot

/-- Whatever the document hands on to its parts holds of everything that is read from it. -/
theorem IsItem.keeps {item : Fragment} (h : IsItem root item) : P item := by
  obtain ⟨map, name, raw, hmap, hmem, hitem⟩ := h
  have hraw : P raw := hpart _ _ (Fragment.part_of_mem_fields hmem)
    (hpart _ _ (Fragment.part_of_field? hmap) hroot)
  exact Reference.resolve_induction hpart hroot hraw hitem

theorem IsOperation.keeps {op : Fragment} (h : IsOperation root op) : P op := by
  obtain ⟨item, method, raw, hitem, hraw, hop⟩ := h
  have hraw : P raw := hpart _ _ (Fragment.part_of_field? hraw) (hitem.keeps hpart hroot)
  exact Reference.resolve_induction hpart hroot hraw hop

omit hroot in
theorem keeps_of_mem_parameterEntries {owner raw : Fragment} (h : raw ∈ parameterEntries owner)
    (howner : P owner) : P raw := by
  rw [parameterEntries] at h
  cases hlist : owner.field? "parameters" with
  | none =>
    rw [hlist] at h
    cases h
  | some list =>
    rw [hlist] at h
    have hlist : P list := hpart _ _ (Fragment.part_of_field? hlist) howner
    exact hpart _ _ (Fragment.part_of_mem_items h) hlist

theorem HasMediaSchema.keeps {owner node : Fragment} (h : HasMediaSchema root owner node)
    (howner : P owner) : P node := by
  obtain ⟨_, raw, _, _, hraw, hnode, _⟩ := h
  exact Reference.resolve_induction hpart hroot (Fragment.walk?_induction hpart hraw howner) hnode

theorem SchemaSource.keeps {source : Fragment} (h : SchemaSource root source) : P source := by
  cases h with
  | parameter howner hraw hentry hschema =>
    have howner := howner.elim (·.keeps hpart hroot) (·.keeps hpart hroot)
    have hraw := keeps_of_mem_parameterEntries hpart hraw howner
    exact hpart _ _ (Fragment.part_of_field? hschema)
      (Reference.resolve_induction hpart hroot hraw hentry)
  | response hop hmap hmem hentry hmedia =>
    have hraw := hpart _ _ (Fragment.part_of_mem_fields hmem)
      (hpart _ _ (Fragment.part_of_field? hmap) (hop.keeps hpart hroot))
    exact hmedia.keeps hpart hroot (Reference.resolve_induction hpart hroot hraw hentry)
  | body hop hbody hentry hmedia =>
    have hraw := hpart _ _ (Fragment.part_of_field? hbody) (hop.keeps hpart hroot)
    exact hmedia.keeps hpart hroot (Reference.resolve_induction hpart hroot hraw hentry)

theorem SchemaPosition.keeps {f : Fragment} (h : SchemaPosition root f) : P f := by
  obtain ⟨source, hsource, hreached⟩ := h
  exact hreached.keeps hpart hroot (hsource.keeps hpart hroot)

end Keeps

/-- A schema of the document has a fault. -/
def SourceFails (root : Json) (e : Fault) : Prop :=
  ∃ source l, SchemaSource root source ∧ TypeSchema.resolve root source l = .error e

variable {l : String}

theorem source_of_pending {owner : Fragment} (howner : IsItem root owner ∨ IsOperation root owner)
    {ps : List PendingParameter} (hps : readParameters root owner location = .ok ps)
    {p : PendingParameter} (hp : p ∈ ps) {source : Fragment} (hsource : p.schema = some source) :
    SchemaSource root source := by
  obtain ⟨raw, hraw, hpending⟩ := exists_of_forall₂_mem (forall₂_of_readParameters hps).flip hp
  obtain ⟨entry, hentry, _, hschema⟩ := hpending.entry
  exact .parameter howner hraw hentry (hschema.symm.trans hsource)

/-- If content fails for an undefined schema, it is at a schema of its own. -/
theorem media_of_undefined {raw : Fragment}
    (h : ContentFails root raw location (.undefinedSchema l)) :
    ∃ entry source l', Reference.resolve root raw = .ok entry ∧ HasMediaSchema root entry source ∧
      TypeSchema.resolve root source l' = .error (.undefinedSchema l) := by
  rcases h with href | ⟨entry, mimeType, hentry, hmedia⟩
  · exact absurd href Reference.resolve_ne_undefinedSchema
  · rcases fault_of_mediaSchema hmedia with ⟨_, _, href⟩ | ⟨source, hsource, hfail⟩
    · exact absurd href Reference.resolve_ne_undefinedSchema
    · exact ⟨entry, source, _, hentry, hsource, hfail⟩

theorem not_undefined_of_readParameters {owner : Fragment} :
    readParameters root owner location ≠ .error (.undefinedSchema l) := by
  intro h
  rcases fault_of_readParameters h with ⟨_, _, href⟩ | ⟨_, _, hcause⟩ | ⟨_, _, _, hcause⟩ |
    ⟨_, _, _, hcause⟩
  · exact Reference.resolve_ne_undefinedSchema href
  · cases hcause
  · cases hcause
  · cases hcause

theorem source_of_operation {item raw : Fragment} {shared : List PendingParameter}
    {method : Method} {itemLocation : String} (hitem : IsItem root item)
    (hraw : item.field? method.name = some raw)
    (hshared : readParameters root item itemLocation = .ok shared)
    (h : operation root shared location method raw = .error (.undefinedSchema l)) :
    SourceFails root (.undefinedSchema l) := by
  rcases fault_of_operation h with href | ⟨op, hop, hcase⟩
  · exact absurd href Reference.resolve_ne_undefinedSchema
  have hoperation : IsOperation root op := ⟨item, method, raw, hitem, hraw, hop⟩
  rcases hcase with ⟨_, hcause⟩ | hown | ⟨own, p, hown, hp, hparameter⟩ | hresponses | hbodies
  · cases hcause
  · exact absurd hown not_undefined_of_readParameters
  · obtain ⟨source, hsource, hfail⟩ := fault_of_parameter hparameter
    rcases List.mem_append.mp hp with hmem | hmem
    · exact ⟨source, _, source_of_pending (Or.inr hoperation) hown hmem hsource, hfail⟩
    · exact ⟨source, _, source_of_pending (Or.inl hitem) hshared (List.mem_of_mem_filter hmem)
        hsource, hfail⟩
  · obtain ⟨map, hmap, ⟨_, hcause⟩ | ⟨key, entry, hmem, hresponse⟩⟩ :=
      fault_of_responses hresponses
    · cases hcause
    rcases fault_of_response hresponse with ⟨_, hcause⟩ | hcontent
    · cases hcause
    obtain ⟨_, source, l', hentry, hsource, hfail⟩ := media_of_undefined hcontent
    exact ⟨source, l', .response hoperation hmap hmem hentry hsource, hfail⟩
  · obtain ⟨body, hbody, hcontent⟩ := fault_of_bodies hbodies
    obtain ⟨_, source, l', hentry, hsource, hfail⟩ := media_of_undefined hcontent
    exact ⟨source, l', .body hoperation hbody hentry hsource, hfail⟩

theorem source_of_paths (h : paths root = .error (.undefinedSchema l)) :
    SourceFails root (.undefinedSchema l) := by
  obtain ⟨map, hmap, ⟨_, hcause⟩ | ⟨name, raw, hmem, hpath⟩⟩ := fault_of_paths h
  · cases hcause
  rcases fault_of_path hpath with href | ⟨item, hraw, ⟨_, hcause⟩ | hshared |
    ⟨shared, method, declared, hshared, hdeclared, hoperation⟩⟩
  · exact absurd href Reference.resolve_ne_undefinedSchema
  · cases hcause
  · exact absurd hshared not_undefined_of_readParameters
  · exact source_of_operation ⟨map, name, raw, hmap, hmem, hraw⟩ hdeclared hshared hoperation

end Declaration

/-- Building reports a schema as undefined only for a position that stands for no object. -/
theorem Graph.position_of_undefined {doc : Json} {l : String}
    (h : ofDocument doc = .error (.undefinedSchema l)) :
    ∃ position node, Declaration.SchemaPosition doc position ∧
      Reference.resolve doc position = .ok node ∧ node.value.isObj = false := by
  cases doc with
  | obj fields =>
    obtain ⟨source, _, hsource, hfail⟩ := Declaration.source_of_paths (map_eq_error_iff.mp h)
    obtain ⟨position, node, hreached, hnode, hobj⟩ :=
      TypeSchema.undefined_of_resolveBelow hfail
    exact ⟨position, node, ⟨source, hsource, hreached⟩, hnode, hobj⟩
  | _ => cases h

end ApiGraph
