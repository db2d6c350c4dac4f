import ApiGraph.Graph.Declaration
import ApiGraph.Proofs.Fragment.Parts

/-!
# What is declared

Reading a declaration succeeds exactly if every step of it does, and then it consists of
what the steps have read. Each lemma here says so for one kind of declaration, in terms of
the kinds below it: a path of its operations, an operation of its parameters, responses and
request bodies, and those of their schemas.

The head of a parameter is read like a descriptor, one keyword at a time. Where no key is
repeated, each part of it is what one lookup finds.
-/

namespace ApiGraph

open Outcome

/-! ### Heads of parameters -/

namespace ParameterHead

open Shape

/-- Takes in one field of a parameter. -/
def readField (p : Partial) (field : String × Json) : Except ShapeFault Partial :=
  readKeyword p field.1 field.2

/-- The fields of a parameter have shapes that its head can be read from. -/
structure Shaped (fields : Fields) : Prop where
  name : ∀ v, fields.get? "name" = some v → ∃ s, string v = .ok s
  carrier : ∀ v, fields.get? "in" = some v → ∃ c, choice Carrier.choices v = .ok c
  required : ∀ v, fields.get? "required" = some v → ∃ b, boolean v = .ok b
  deprecated : ∀ v, fields.get? "deprecated" = some v → ∃ b, boolean v = .ok b
  description : ∀ v, fields.get? "description" = some v → ∃ s, optional string v = .ok s

theorem readKeyword_of_shaped {fields : Fields} (h : Shaped fields) {key : String} {v : Json}
    (hv : fields.get? key = some v) (p : Partial) : ∃ p', readKeyword p key v = .ok p' := by
  unfold readKeyword
  split
  · obtain ⟨s, hs⟩ := h.name v hv
    exact ⟨_, bind_eq_ok_iff.mpr ⟨s, hs, rfl⟩⟩
  · obtain ⟨c, hc⟩ := h.carrier v hv
    exact ⟨_, bind_eq_ok_iff.mpr ⟨c, hc, rfl⟩⟩
  · obtain ⟨b, hb⟩ := h.required v hv
    exact ⟨_, bind_eq_ok_iff.mpr ⟨b, hb, rfl⟩⟩
  · obtain ⟨b, hb⟩ := h.deprecated v hv
    exact ⟨_, bind_eq_ok_iff.mpr ⟨b, hb, rfl⟩⟩
  · obtain ⟨s, hs⟩ := h.description v hv
    exact ⟨_, bind_eq_ok_iff.mpr ⟨s, hs, rfl⟩⟩
  · exact ⟨p, rfl⟩

/-- A keyword leaves every part alone but its own. -/
theorem readField_other {p p' : Partial} {key : String} {v : Json}
    (h : readField p (key, v) = .ok p') :
    (key ≠ "name" → p'.name = p.name) ∧ (key ≠ "in" → p'.carrier = p.carrier) ∧
    (key ≠ "required" → p'.required = p.required) ∧
    (key ≠ "deprecated" → p'.deprecated = p.deprecated) ∧
    (key ≠ "description" → p'.description = p.description) := by
  rw [readField] at h
  dsimp only at h
  unfold readKeyword at h
  split at h
  case h_6 =>
    cases h
    simp only [implies_true, and_self]
  all_goals
    obtain ⟨_, _, hout⟩ := bind_eq_ok_iff.mp h
    cases hout
    simp

theorem partAt_name : Fields.PartAt readField "name" (fun v => some <$> string v) Partial.name where
  self h := by
    obtain ⟨s, hs, hout⟩ := bind_eq_ok_iff.mp h
    cases hout
    exact map_eq_ok_iff.mpr ⟨s, hs, rfl⟩
  other hk h := (readField_other h).1 hk

theorem partAt_carrier :
    Fields.PartAt readField "in" (fun v => some <$> choice Carrier.choices v) Partial.carrier where
  self h := by
    obtain ⟨c, hc, hout⟩ := bind_eq_ok_iff.mp h
    cases hout
    exact map_eq_ok_iff.mpr ⟨c, hc, rfl⟩
  other hk h := (readField_other h).2.1 hk

theorem partAt_required : Fields.PartAt readField "required" boolean Partial.required where
  self h := by
    obtain ⟨b, hb, hout⟩ := bind_eq_ok_iff.mp h
    cases hout
    exact hb
  other hk h := (readField_other h).2.2.1 hk

theorem partAt_deprecated : Fields.PartAt readField "deprecated" boolean Partial.deprecated where
  self h := by
    obtain ⟨b, hb, hout⟩ := bind_eq_ok_iff.mp h
    cases hout
    exact hb
  other hk h := (readField_other h).2.2.2.1 hk

theorem partAt_description :
    Fields.PartAt readField "description" (optional string) Partial.description where
  self h := by
    obtain ⟨s, hs, hout⟩ := bind_eq_ok_iff.mp h
    cases hout
    exact hs
  other hk h := (readField_other h).2.2.2.2 hk

/-- A head says what the fields of its parameter say. -/
structure Says (fields : Fields) (head : ParameterHead) : Prop where
  name : fields.get? "name" = some (.str head.name)
  carrier : ∃ v, fields.get? "in" = some v ∧ choice Carrier.choices v = .ok head.carrier
  required : head.required = ((fields.get? "required").bind Json.bool?).getD false
  deprecated : head.deprecated = ((fields.get? "deprecated").bind Json.bool?).getD false
  description : head.description = (fields.get? "description").bind Json.str?

theorem choice_carrier (carrier : Carrier) :
    choice Carrier.choices (.str carrier.name) = .ok carrier := by
  cases carrier <;> rfl

theorem string_eq_ok_iff {v : Json} {s : String} : string v = .ok s ↔ v = .str s := by
  cases v <;> simp [string]

theorem boolean_eq_ok_iff {v : Json} {b : Bool} : boolean v = .ok b ↔ v = .bool b := by
  cases v <;> simp [boolean]

theorem str?_of_optional {v : Json} {s : Option String} (h : optional string v = .ok s) :
    v.str? = s := by
  cases v with
  | null =>
    cases h
    rfl
  | str t =>
    cases h
    rfl
  | _ => cases h

/-- Flags that are absent are false. -/
theorem flag_eq {v : Option Json} {b : Bool} (hsome : ∀ w, v = some w → boolean w = .ok b)
    (hnone : v = none → b = false) : b = (v.bind Json.bool?).getD false := by
  cases v with
  | none => exact hnone rfl
  | some w =>
    rw [boolean_eq_ok_iff.mp (hsome w rfl)]
    rfl

theorem finish_eq_ok {p : Partial} {missing : String → ShapeFault} {head : ParameterHead}
    (h : finish p missing = .ok head) : p.name = some head.name ∧ p.carrier = some head.carrier ∧
      head.required = p.required ∧ head.deprecated = p.deprecated ∧
      head.description = p.description := by
  obtain ⟨name, carrier, required, deprecated, description⟩ := p
  cases name with
  | none => cases h
  | some name =>
    cases carrier with
    | none => cases h
    | some carrier =>
      cases h
      exact ⟨rfl, rfl, rfl, rfl, rfl⟩

theorem says_of_read {fields : Fields} {head : ParameterHead}
    (hnodup : (fields.map Prod.fst).Nodup) (h : read (.obj fields) = .ok head) :
    Says fields head := by
  rw [read, bind_eq_ok_iff] at h
  obtain ⟨p, hfold, hfinish⟩ := h
  obtain ⟨hname, hcarrier, hrequired, hdeprecated, hdescription⟩ := finish_eq_ok hfinish
  refine ⟨?_, ?_, ?_, ?_, ?_⟩
  · obtain ⟨hsome, hnone⟩ := partAt_name.foldlM hnodup hfold
    cases hget : fields.get? "name" with
    | none =>
      rw [hnone hget] at hname
      cases hname
    | some v =>
      obtain ⟨s, hs, hp⟩ := map_eq_ok_iff.mp (hsome v hget)
      rw [string_eq_ok_iff.mp hs, ← Option.some.inj (hp.trans hname)]
  · obtain ⟨hsome, hnone⟩ := partAt_carrier.foldlM hnodup hfold
    cases hget : fields.get? "in" with
    | none =>
      rw [hnone hget] at hcarrier
      cases hcarrier
    | some v =>
      obtain ⟨c, hc, hp⟩ := map_eq_ok_iff.mp (hsome v hget)
      rw [← Option.some.inj (hp.trans hcarrier)]
      exact ⟨v, rfl, hc⟩
  · obtain ⟨hsome, hnone⟩ := partAt_required.foldlM hnodup hfold
    exact hrequired.trans (flag_eq hsome hnone)
  · obtain ⟨hsome, hnone⟩ := partAt_deprecated.foldlM hnodup hfold
    exact hdeprecated.trans (flag_eq hsome hnone)
  · obtain ⟨hsome, hnone⟩ := partAt_description.foldlM hnodup hfold
    rw [hdescription]
    cases hget : fields.get? "description" with
    | none => exact hnone hget
    | some v => exact (str?_of_optional (hsome v hget)).symm

/-- A shaped object with a name and a carrier has a head. -/
theorem exists_read {fields : Fields} (hnodup : (fields.map Prod.fst).Nodup)
    (hshaped : Shaped fields) (hname : (fields.get? "name").isSome = true)
    (hcarrier : (fields.get? "in").isSome = true) :
    ∃ head, read (.obj fields) = .ok head := by
  obtain ⟨p, hfold⟩ := exists_foldlM (f := readField)
    (fun field hfield => readKeyword_of_shaped hshaped
      ((Fields.get?_eq_some_iff hnodup).mpr hfield)) {}
  obtain ⟨v, hv⟩ := Option.isSome_iff_exists.mp hname
  obtain ⟨w, hw⟩ := Option.isSome_iff_exists.mp hcarrier
  obtain ⟨s, _, hs⟩ := map_eq_ok_iff.mp ((partAt_name.foldlM hnodup hfold).1 v hv)
  obtain ⟨c, _, hc⟩ := map_eq_ok_iff.mp ((partAt_carrier.foldlM hnodup hfold).1 w hw)
  refine ⟨⟨s, c, p.required, p.deprecated, p.description⟩, ?_⟩
  rw [read, bind_eq_ok_iff]
  refine ⟨p, hfold, ?_⟩
  rw [finish, ← hs, ← hc]

theorem shaped_of_read {fields : Fields} {head : ParameterHead}
    (hnodup : (fields.map Prod.fst).Nodup) (h : read (.obj fields) = .ok head) : Shaped fields := by
  rw [read, bind_eq_ok_iff] at h
  obtain ⟨p, hfold, _⟩ := h
  refine ⟨?_, ?_, ?_, ?_, ?_⟩
  · intro v hv
    obtain ⟨s, hs, _⟩ := map_eq_ok_iff.mp ((partAt_name.foldlM hnodup hfold).1 v hv)
    exact ⟨s, hs⟩
  · intro v hv
    obtain ⟨c, hc, _⟩ := map_eq_ok_iff.mp ((partAt_carrier.foldlM hnodup hfold).1 v hv)
    exact ⟨c, hc⟩
  · exact fun v hv => ⟨_, (partAt_required.foldlM hnodup hfold).1 v hv⟩
  · exact fun v hv => ⟨_, (partAt_deprecated.foldlM hnodup hfold).1 v hv⟩
  · exact fun v hv => ⟨_, (partAt_description.foldlM hnodup hfold).1 v hv⟩

/-- Only one head says what the fields say. -/
theorem Says.unique {fields : Fields} {head other : ParameterHead} (h : Says fields head)
    (h' : Says fields other) : head = other := by
  have hname : head.name = other.name := Json.str.inj (Option.some.inj (h.name.symm.trans h'.name))
  have hcarrier : head.carrier = other.carrier := by
    obtain ⟨v, hv, hc⟩ := h.carrier
    obtain ⟨w, hw, hc'⟩ := h'.carrier
    cases hv.symm.trans hw
    exact Except.ok.inj (hc.symm.trans hc')
  obtain ⟨_, _, _, _, _⟩ := head
  obtain ⟨_, _, _, _, _⟩ := other
  cases hname
  cases hcarrier
  cases h.required.trans h'.required.symm
  cases h.deprecated.trans h'.deprecated.symm
  cases h.description.trans h'.description.symm
  rfl

/-- A head is read from an object exactly if the fields have the right shapes and it says what they
say. -/
theorem read_obj_eq_ok_iff {fields : Fields} {head : ParameterHead}
    (hnodup : (fields.map Prod.fst).Nodup) :
    read (.obj fields) = .ok head ↔ Shaped fields ∧ Says fields head := by
  refine ⟨fun h => ⟨shaped_of_read hnodup h, says_of_read hnodup h⟩, ?_⟩
  rintro ⟨hshaped, hsaid⟩
  obtain ⟨_, hcarrier, _⟩ := hsaid.carrier
  obtain ⟨other, hother⟩ := exists_read hnodup hshaped (by rw [hsaid.name]; rfl)
    (by rw [hcarrier]; rfl)
  rw [hother, (says_of_read hnodup hother).unique hsaid]

end ParameterHead

namespace Declaration

variable {root : Json}

theorem fieldsOf_eq_ok_iff {f : Fragment} {location : String} {entries : List (String × Fragment)} :
    fieldsOf f location = .ok entries ↔ f.value.isObj = true ∧ entries = f.fields := by
  obtain ⟨place, value⟩ := f
  cases value with
  | obj fields =>
    simp only [fieldsOf, Except.ok.injEq]
    exact ⟨fun h => ⟨rfl, h.symm⟩, fun h => h.2.symm⟩
  | _ => simp [fieldsOf, Json.isObj, Json.fields?]

/-! ### Parameter lists -/

/-- What an entry of a parameter list is read as. -/
structure IsPending (root : Json) (raw : Fragment) (p : PendingParameter) : Prop where
  entry : ∃ entry, Reference.resolve root raw = .ok entry ∧
    ParameterHead.read entry.value = .ok p.head ∧ p.schema = entry.field? "schema"

/-- Every entry of a list is read, and located in that list. -/
theorem forall₂_of_readEntries {location : String} {raws : List Fragment} :
    ∀ {seen : List (String × Carrier)} {index : Nat} {ps : List PendingParameter},
      readEntries root location seen index raws = .ok ps →
        List.Forall₂ (fun raw p => IsPending root raw p ∧ ∃ i, p.location = Pointer.item location i)
          raws ps := by
  induction raws with
  | nil =>
    intro seen index ps h
    cases h
    exact .nil
  | cons raw rest ih =>
    intro seen index ps h
    simp only [readEntries, bind_eq_ok_iff] at h
    obtain ⟨entry, hentry, head, hhead, h⟩ := h
    split at h
    · obtain ⟨_, hthrow, _⟩ := bind_eq_ok_iff.mp h
      cases hthrow
    · obtain ⟨ps', hrest, hout⟩ := bind_eq_ok_iff.mp h
      cases hout
      exact .cons ⟨⟨entry, hentry, mapError_eq_ok_iff.mp hhead, rfl⟩, index, rfl⟩ (ih hrest)

/-- Entries with heads that are pairwise distinct, and new to those seen before, can be read. -/
theorem exists_readEntries {location : String} {raws : List Fragment} :
    ∀ {heads : List ParameterHead} {seen : List (String × Carrier)} {index : Nat},
      List.Forall₂ (fun raw head => ∃ entry, Reference.resolve root raw = .ok entry ∧
        ParameterHead.read entry.value = .ok head) raws heads →
      (heads.map fun head => (head.name, head.carrier)).Nodup →
      (∀ head ∈ heads, (head.name, head.carrier) ∉ seen) →
      ∃ ps, readEntries root location seen index raws = .ok ps := by
  induction raws with
  | nil => exact fun _ _ _ => ⟨[], rfl⟩
  | cons raw rest ih =>
    intro heads seen index hheads hnodup hseen
    obtain ⟨head, heads, ⟨entry, hentry, hhead⟩, hrest, rfl⟩ := List.forall₂_cons_left_iff.mp hheads
    rw [List.map_cons, List.nodup_cons] at hnodup
    have hnew : ∀ other ∈ heads, (other.name, other.carrier) ∉
        (head.name, head.carrier) :: seen := by
      intro other hother hmem
      rcases List.mem_cons.mp hmem with heq | hmem
      · exact hnodup.1 (List.mem_map.mpr ⟨other, hother, heq⟩)
      · exact hseen other (List.mem_cons_of_mem _ hother) hmem
    obtain ⟨ps, hps⟩ : ∃ ps, readEntries root location ((head.name, head.carrier) :: seen)
        (index + 1) rest = .ok ps := ih hrest hnodup.2 hnew
    refine ⟨⟨head, entry.field? "schema", Pointer.item location index⟩ :: ps, ?_⟩
    simp only [readEntries, bind_eq_ok_iff]
    refine ⟨entry, hentry, head, mapError_eq_ok_iff.mpr hhead, ?_⟩
    rw [if_neg (hseen head List.mem_cons_self)]
    exact bind_eq_ok_iff.mpr ⟨ps, hps, rfl⟩

/-- The entries of the parameter list of an owner, if it has one. -/
def parameterEntries (owner : Fragment) : List Fragment :=
  ((owner.field? "parameters").map Fragment.items).getD []

theorem forall₂_located_of_readParameters {owner : Fragment} {location : String}
    {ps : List PendingParameter} (h : readParameters root owner location = .ok ps) :
    List.Forall₂ (fun raw p => IsPending root raw p ∧
      ∃ i, p.location = Pointer.item (Pointer.child location "parameters") i)
      (parameterEntries owner) ps := by
  rw [readParameters] at h
  rw [parameterEntries]
  cases hlist : owner.field? "parameters" with
  | none =>
    rw [hlist] at h
    cases h
    exact .nil
  | some list =>
    rw [hlist] at h
    obtain ⟨place, value⟩ := list
    cases value with
    | arr vs => exact forall₂_of_readEntries h
    | _ => cases h

theorem forall₂_of_readParameters {owner : Fragment} {location : String}
    {ps : List PendingParameter} (h : readParameters root owner location = .ok ps) :
    List.Forall₂ (IsPending root) (parameterEntries owner) ps :=
  (forall₂_located_of_readParameters h).imp fun _ _ hread => hread.1

theorem location_of_mem_readParameters {owner : Fragment} {location : String}
    {ps : List PendingParameter} (h : readParameters root owner location = .ok ps)
    {p : PendingParameter} (hp : p ∈ ps) :
    ∃ i, p.location = Pointer.item (Pointer.child location "parameters") i := by
  obtain ⟨_, _, _, hlocation⟩ := exists_of_forall₂_mem (forall₂_located_of_readParameters h).flip hp
  exact hlocation

theorem exists_readParameters {owner : Fragment} {location : String} {heads : List ParameterHead}
    (hlist : ∀ list, owner.field? "parameters" = some list → ∃ vs, list.value = .arr vs)
    (hheads : List.Forall₂ (fun raw head => ∃ entry, Reference.resolve root raw = .ok entry ∧
      ParameterHead.read entry.value = .ok head) (parameterEntries owner) heads)
    (hnodup : (heads.map fun head => (head.name, head.carrier)).Nodup) :
    ∃ ps, readParameters root owner location = .ok ps := by
  rw [readParameters]
  rw [parameterEntries] at hheads
  cases hfield : owner.field? "parameters" with
  | none => exact ⟨[], rfl⟩
  | some list =>
    rw [hfield] at hheads
    obtain ⟨vs, hvs⟩ := hlist list hfield
    simp only [hvs]
    exact exists_readEntries hheads hnodup fun head _ => List.not_mem_nil

theorem parameter_eq_ok_iff {p : PendingParameter} {d : ParameterDeclaration} :
    parameter root p = .ok d ↔ ∃ schema,
      Option.Rel (fun raw s => TypeSchema.resolve root raw (Pointer.child p.location "schema") =
        .ok s) p.schema schema ∧
      d = ⟨p.head.name, p.head.carrier, p.head.required, p.head.deprecated, p.head.description,
        schema⟩ := by
  simp only [parameter, bind_eq_ok_iff, option_mapM_eq_ok_iff]
  constructor
  · rintro ⟨schema, hschema, hout⟩
    cases hout
    exact ⟨schema, hschema, rfl⟩
  · rintro ⟨schema, hschema, rfl⟩
    exact ⟨schema, hschema, rfl⟩

/-! ### Responses and request bodies -/

/-- There is an answer for a content type if what stands there can be followed, and an object at
the end of it resolves. -/
theorem exists_mediaSchema {owner : Fragment} {mimeType location : String}
    (h : ∀ raw, owner.walk? ["content", mimeType, "schema"] = some raw →
      ∃ node, Reference.resolve root raw = .ok node ∧ (node.value.isObj = true →
        ∃ s, ∀ l, TypeSchema.resolve root node l = .ok s)) :
    ∃ s, mediaSchema root owner mimeType location = .ok s := by
  rw [mediaSchema]
  split
  · exact ⟨none, rfl⟩
  · next raw hraw =>
    obtain ⟨node, hnode, hobj⟩ := h raw hraw
    simp only [hnode, bind, Except.bind]
    split
    · next field rest hfields =>
      obtain ⟨s, hs⟩ := hobj (by rw [hfields]; rfl)
      exact ⟨some s, map_eq_ok_iff.mpr ⟨s, hs _, rfl⟩⟩
    · exact ⟨none, rfl⟩

theorem response_eq_ok_iff {location key : String} {raw : Fragment}
    {ds : List ResponseDeclaration} :
    response root location key raw = .ok ds ↔ ∃ status entry,
      StatusKey.parse? key = some status ∧ Reference.resolve root raw = .ok entry ∧
      List.Forall₂ (fun mimeType d => ∃ schema,
        mediaSchema root entry mimeType (Pointer.child location key) = .ok schema ∧
        d = ⟨status, mimeType, entry.value.strAt? "description", schema⟩)
        (contentTypes entry.value) ds := by
  rw [response]
  cases hstatus : StatusKey.parse? key with
  | none =>
    constructor
    · intro h
      cases h
    · rintro ⟨_, _, hnone, _⟩
      cases hnone
  | some status =>
    simp only [bind_eq_ok_iff, mapM_eq_ok_iff]
    constructor
    · rintro ⟨entry, hentry, hds⟩
      refine ⟨status, entry, rfl, hentry, hds.imp fun _ d hd => ?_⟩
      obtain ⟨schema, hschema, hout⟩ := hd
      cases hout
      exact ⟨schema, hschema, rfl⟩
    · rintro ⟨_, entry, hstatus, hentry, hds⟩
      cases hstatus
      refine ⟨entry, hentry, hds.imp fun _ d hd => ?_⟩
      obtain ⟨schema, hschema, rfl⟩ := hd
      exact ⟨schema, hschema, rfl⟩

theorem responses_eq_ok_iff {op map : Fragment} (hmap : op.field? "responses" = some map)
    {location : String} {ds : List ResponseDeclaration} :
    responses root op location = .ok ds ↔ map.value.isObj = true ∧ ∃ groups,
      List.Forall₂ (fun entry group => response root (Pointer.child location "responses") entry.1
        entry.2 = .ok group) map.fields groups ∧ ds = groups.flatten := by
  simp only [responses, hmap, bind_eq_ok_iff, fieldsOf_eq_ok_iff, mapM_eq_ok_iff]
  constructor
  · rintro ⟨entries, ⟨hobj, rfl⟩, groups, hgroups, hout⟩
    cases hout
    exact ⟨hobj, groups, hgroups, rfl⟩
  · rintro ⟨hobj, groups, hgroups, rfl⟩
    exact ⟨_, ⟨hobj, rfl⟩, groups, hgroups, rfl⟩

theorem responses_of_field?_eq_none {op : Fragment} (hmap : op.field? "responses" = none)
    (location : String) : responses root op location = .ok [] := by
  simp only [responses, hmap]
  rfl

theorem bodies_of_field?_eq_none {op : Fragment} (hbody : op.field? "requestBody" = none)
    (location : String) : bodies root op location = .ok [] := by
  simp only [bodies, hbody]
  rfl

theorem bodies_eq_ok_iff {op raw : Fragment} (hbody : op.field? "requestBody" = some raw)
    {location : String} {ds : List BodyDeclaration} :
    bodies root op location = .ok ds ↔ ∃ entry, Reference.resolve root raw = .ok entry ∧
      List.Forall₂ (fun mimeType d => ∃ schema,
        mediaSchema root entry mimeType (Pointer.child location "requestBody") = .ok schema ∧
        d = ⟨mimeType, (entry.value.boolAt? "required").getD false,
          entry.value.strAt? "description", schema⟩) (contentTypes entry.value) ds := by
  simp only [bodies, hbody, bind_eq_ok_iff, mapM_eq_ok_iff]
  constructor
  · rintro ⟨entry, hentry, hds⟩
    refine ⟨entry, hentry, hds.imp fun _ d hd => ?_⟩
    obtain ⟨schema, hschema, hout⟩ := hd
    cases hout
    exact ⟨schema, hschema, rfl⟩
  · rintro ⟨entry, hentry, hds⟩
    refine ⟨entry, hentry, hds.imp fun _ d hd => ?_⟩
    obtain ⟨schema, hschema, rfl⟩ := hd
    exact ⟨schema, hschema, rfl⟩

/-! ### Operations and paths -/

theorem operation_eq_ok_iff {shared : List PendingParameter} {location : String} {method : Method}
    {raw : Fragment} {d : OperationDeclaration} :
    operation root shared location method raw = .ok d ↔
      ∃ op own parameters responses bodies, Reference.resolve root raw = .ok op ∧
        op.value.isObj = true ∧ readParameters root op location = .ok own ∧
        List.Forall₂ (fun p q => parameter root p = .ok q) (inherit own shared) parameters ∧
        Declaration.responses root op location = .ok responses ∧
        Declaration.bodies root op location = .ok bodies ∧
        d = {
          method
          operationId := op.value.strAt? "operationId"
          summary := op.value.strAt? "summary"
          description := op.value.strAt? "description"
          tags := ((op.value.get? "tags").map Json.strings).getD []
          deprecated := (op.value.boolAt? "deprecated").getD false
          parameters, responses, bodies } := by
  simp only [operation, bind_eq_ok_iff, fieldsOf_eq_ok_iff, mapM_eq_ok_iff]
  constructor
  · rintro ⟨op, hop, _, ⟨hobj, rfl⟩, own, hown, parameters, hparameters, responses, hresponses,
      bodies, hbodies, hout⟩
    cases hout
    exact ⟨op, own, parameters, responses, bodies, hop, hobj, hown, hparameters, hresponses,
      hbodies, rfl⟩
  · rintro ⟨op, own, parameters, responses, bodies, hop, hobj, hown, hparameters, hresponses,
      hbodies, rfl⟩
    exact ⟨op, hop, _, ⟨hobj, rfl⟩, own, hown, parameters, hparameters, responses, hresponses,
      bodies, hbodies, rfl⟩

/-- The operations of a path item in the order in which they are listed. -/
def methodsOf (item : Fragment) : List (Method × Fragment) :=
  Method.all.filterMap fun method => (item.field? method.name).map fun raw => (method, raw)

theorem mem_methodsOf_iff {item raw : Fragment} {method : Method} :
    (method, raw) ∈ methodsOf item ↔ item.field? method.name = some raw := by
  simp only [methodsOf, List.mem_filterMap, Option.map_eq_some_iff]
  constructor
  · rintro ⟨_, _, _, hfield, heq⟩
    cases heq
    exact hfield
  · exact fun h => ⟨method, method.mem_all, raw, h, rfl⟩

theorem path_eq_ok_iff {name : String} {raw : Fragment} {d : PathDeclaration} :
    path root name raw = .ok d ↔
      ∃ item shared operations, Reference.resolve root raw = .ok item ∧
        item.value.isObj = true ∧
        readParameters root item (Pointer.child "#/paths" name) = .ok shared ∧
        List.Forall₂ (fun declared op => operation root shared
          (Pointer.child (Pointer.child "#/paths" name) declared.1.name) declared.1 declared.2 =
            .ok op) (methodsOf item) operations ∧
        d = ⟨name, operations⟩ := by
  simp only [path, bind_eq_ok_iff, fieldsOf_eq_ok_iff, mapM_eq_ok_iff]
  constructor
  · rintro ⟨item, hitem, _, ⟨hobj, rfl⟩, shared, hshared, operations, hoperations, hout⟩
    cases hout
    exact ⟨item, shared, operations, hitem, hobj, hshared, hoperations, rfl⟩
  · rintro ⟨item, shared, operations, hitem, hobj, hshared, hoperations, rfl⟩
    exact ⟨item, hitem, _, ⟨hobj, rfl⟩, shared, hshared, operations, hoperations, rfl⟩

theorem paths_eq_ok_iff {map : Fragment}
    (hmap : (Fragment.ofDocument root).field? "paths" = some map) {ds : List PathDeclaration} :
    paths root = .ok ds ↔ map.value.isObj = true ∧
      List.Forall₂ (fun entry d => path root entry.1 entry.2 = .ok d) map.fields ds := by
  simp only [paths, hmap, bind_eq_ok_iff, fieldsOf_eq_ok_iff, mapM_eq_ok_iff]
  constructor
  · rintro ⟨_, ⟨hobj, rfl⟩, hds⟩
    exact ⟨hobj, hds⟩
  · rintro ⟨hobj, hds⟩
    exact ⟨_, ⟨hobj, rfl⟩, hds⟩

end Declaration

end ApiGraph
