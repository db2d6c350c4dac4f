import ApiGraph.Proofs.Graph.Faults
import ApiGraph.Proofs.Schema.Agreement

/-!
# Declarations in documents that agree

What is declared at a fragment is read from the fragment and from what its references lead to. In
two documents that agree on the references of such fragments the same is declared, or the reading
fails in the same way.
-/

namespace ApiGraph.Agree

open Outcome Declaration

variable {P : Fragment → Prop} {root other : Json} {location : String}

theorem readEntries_eq (h : Agree P root other) {raws : List Fragment}
    (hraws : ∀ raw ∈ raws, P raw) :
    ∀ {seen : List (String × Carrier)} {index : Nat},
      readEntries root location seen index raws = readEntries other location seen index raws := by
  induction raws with
  | nil => exact rfl
  | cons raw rest ih =>
    intro seen index
    have hrest : ∀ {seen index}, readEntries root location seen index rest =
        readEntries other location seen index rest :=
      ih fun later hlater => hraws later (List.mem_cons_of_mem _ hlater)
    simp only [readEntries, h.resolve_eq (hraws raw List.mem_cons_self), hrest]

variable {owner : Fragment}

theorem readParameters_eq (h : Agree P root other) (howner : P owner) :
    readParameters root owner location = readParameters other owner location := by
  rw [readParameters, readParameters]
  cases hlist : owner.field? "parameters" with
  | none => rfl
  | some list =>
    have hlist : P list := h.part _ _ (Fragment.part_of_field? hlist) howner
    dsimp only
    split
    · exact h.readEntries_eq fun raw hraw => h.part _ _ (Fragment.part_of_mem_items hraw) hlist
    · rfl

/-- The raw schemas of a list of parameters are of the kind that the documents agree on. -/
theorem keeps_schema_of_readParameters (h : Agree P root other) (howner : P owner)
    {ps : List PendingParameter} (hps : readParameters root owner location = .ok ps) :
    ∀ p ∈ ps, ∀ source, p.schema = some source → P source := by
  intro p hp source hsource
  obtain ⟨raw, hraw, hpending⟩ := exists_of_forall₂_mem (forall₂_of_readParameters hps).flip hp
  obtain ⟨entry, hentry, _, hschema⟩ := hpending.entry
  have hraw := keeps_of_mem_parameterEntries h.part hraw howner
  exact h.part _ _ (Fragment.part_of_field? (hschema.symm.trans hsource))
    (h.keeps_resolve hraw hentry)

theorem parameter_eq (h : Agree P root other) {p : PendingParameter}
    (hp : ∀ source, p.schema = some source → P source) : parameter root p = parameter other p := by
  have hschema := option_mapM_congr fun source hsource =>
    h.resolve_schema_eq (hp source hsource) (Pointer.child p.location "schema")
  rw [parameter, parameter, hschema]

theorem mediaSchema_eq (h : Agree P root other) (howner : P owner) (mimeType : String) :
    mediaSchema root owner mimeType location = mediaSchema other owner mimeType location := by
  rw [mediaSchema, mediaSchema]
  split
  · rfl
  · next raw hraw =>
    have hraw : P raw := Fragment.walk?_induction h.part hraw howner
    rw [h.resolve_eq hraw]
    refine bind_congr_of_ok fun node hnode => ?_
    have hnode : P node := h.keeps_resolve hraw ((h.resolve_eq hraw).trans hnode)
    simp only [h.resolve_schema_eq hnode]

variable {raw : Fragment}

theorem response_eq (h : Agree P root other) (hraw : P raw) (key : String) :
    response root location key raw = response other location key raw := by
  rw [response, response]
  split
  · rfl
  · rw [h.resolve_eq hraw]
    refine bind_congr_of_ok fun entry hentry => mapM_congr fun mimeType _ => ?_
    have hentry : P entry := h.keeps_resolve hraw ((h.resolve_eq hraw).trans hentry)
    rw [h.mediaSchema_eq hentry]

theorem responses_eq (h : Agree P root other) (howner : P owner) :
    responses root owner location = responses other owner location := by
  rw [responses, responses]
  split
  · rfl
  · next map hmap =>
    have hmap : P map := h.part _ _ (Fragment.part_of_field? hmap) howner
    refine bind_congr_of_ok fun entries hentries => ?_
    rw [(fieldsOf_eq_ok_iff.mp hentries).2]
    have hall : ∀ entry ∈ map.fields, response root (Pointer.child location "responses") entry.1
        entry.2 = response other (Pointer.child location "responses") entry.1 entry.2 :=
      fun entry hentry => h.response_eq (h.part _ _ (Fragment.part_of_mem_fields hentry) hmap) _
    rw [mapM_congr hall]

theorem bodies_eq (h : Agree P root other) (howner : P owner) :
    bodies root owner location = bodies other owner location := by
  rw [bodies, bodies]
  split
  · rfl
  · next raw hraw =>
    have hraw : P raw := h.part _ _ (Fragment.part_of_field? hraw) howner
    rw [h.resolve_eq hraw]
    refine bind_congr_of_ok fun entry hentry => mapM_congr fun mimeType _ => ?_
    have hentry : P entry := h.keeps_resolve hraw ((h.resolve_eq hraw).trans hentry)
    rw [h.mediaSchema_eq hentry]

theorem operation_eq (h : Agree P root other) (hraw : P raw) {shared : List PendingParameter}
    (hshared : ∀ p ∈ shared, ∀ source, p.schema = some source → P source) (method : Method) :
    operation root shared location method raw = operation other shared location method raw := by
  rw [operation, operation, h.resolve_eq hraw]
  refine bind_congr_of_ok fun op hop => bind_congr_of_ok fun _ _ => ?_
  have hop : P op := h.keeps_resolve hraw ((h.resolve_eq hraw).trans hop)
  rw [h.readParameters_eq hop, h.responses_eq hop, h.bodies_eq hop]
  refine bind_congr_of_ok fun own hown => ?_
  have hown := h.keeps_schema_of_readParameters hop ((h.readParameters_eq hop).trans hown)
  have hparameters : ∀ p ∈ inherit own shared, parameter root p = parameter other p := by
    intro p hp
    refine h.parameter_eq ?_
    rcases List.mem_append.mp hp with hp | hp
    · exact hown p hp
    · exact hshared p (List.mem_of_mem_filter hp)
  rw [mapM_congr hparameters]

/-- The same is declared at a path item in both documents. -/
theorem path_eq (h : Agree P root other) (hraw : P raw) (name : String) :
    path root name raw = path other name raw := by
  rw [path, path, h.resolve_eq hraw]
  refine bind_congr_of_ok fun item hitem => bind_congr_of_ok fun _ _ => ?_
  have hitem : P item := h.keeps_resolve hraw ((h.resolve_eq hraw).trans hitem)
  rw [h.readParameters_eq hitem]
  refine bind_congr_of_ok fun shared hshared => ?_
  have hshared := h.keeps_schema_of_readParameters hitem
    ((h.readParameters_eq hitem).trans hshared)
  dsimp only
  rw [mapM_congr fun declared hdeclared => ?_]
  obtain ⟨method, _, hmethod⟩ := List.mem_filterMap.mp hdeclared
  obtain ⟨declaredAt, hfield, rfl⟩ := Option.map_eq_some_iff.mp hmethod
  exact h.operation_eq (h.part _ _ (Fragment.part_of_field? hfield) hitem) hshared _

end ApiGraph.Agree
