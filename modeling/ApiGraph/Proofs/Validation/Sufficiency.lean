import Mathlib
import ApiGraph.Pattern.Validity
import ApiGraph.Proofs.Graph.Declaration
import ApiGraph.Proofs.Schema.Resolvable
import ApiGraph.Proofs.Validation.Keywords
import ApiGraph.Graph.Basic

/-!
# Validation is enough for building

Validation and the builder go through a document separately: the one checks every position
and follows nothing, the other follows references and reads what they lead to. They agree on
every object both look at. What only the builder sees is collected in `Buildable`: where
references lead, whether they go round, whether a parameter is listed twice, and the types of
keywords that validation passes over.

Given that, a document without issues has a graph. Every reference leads to a position that
has been checked in the same role, so all that the builder opens has been checked.
-/

namespace ApiGraph.Validation

open Outcome

/-! ### What validation leaves open -/

/-- Two entries of a parameter list stand for parameters of different names or carriers. -/
def Distinct (doc : Json) (p q : Fragment) : Prop :=
  ∀ a b, Reference.resolve doc p = .ok a → Reference.resolve doc q = .ok b →
    ¬ (a.value.strAt? "name" = b.value.strAt? "name" ∧ a.value.strAt? "in" = b.value.strAt? "in")

/-- What a document needs besides having no issues. -/
structure Buildable (doc : Json) : Prop where
  items_inline : ∀ item, IsPathItem doc item → item.value.reference? = none
  operations_inline : ∀ op, IsOperation doc op → op.value.reference? = none
  /-- Every reference names an entry of the section of its role. -/
  references : ∀ role f pointer, Validated doc role f → f.value.reference? = some pointer →
    ∃ name entries target, Pointer.keys pointer = ["components", role.sectionName, name] ∧
      (Fragment.ofDocument doc).walk? ["components", role.sectionName] = some entries ∧
      entries.field? name = some target
  chains_end : ∀ role f, Validated doc role f → ¬ Reference.Endless doc f
  schemas_acyclic : ∀ f, Validated doc .schema f → ¬ TypeSchema.Cyclic doc f
  parameters_distinct : ∀ owner list, HoldsParameters doc owner →
    owner.field? "parameters" = some list → list.items.Pairwise (Distinct doc)
  additional : ∀ f a, Validated doc .schema f → Plain f →
    f.field? "additionalProperties" = some a → a.value.bool? = none → a.value.isObj = true
  scalars : ∀ role f key kind v, Validated doc role f → Plain f → (key, kind) ∈ role.scalars →
    f.value.get? key = some v → Scalar.Holds kind v

/-! ### Positions that have been checked -/

section Accepted

variable [Pattern.Checker] {doc : Json}

/-- The fields of an accepted object that is no reference are in order. -/
theorem Accepted.fieldIssues_eq_nil {role : Role} {f : Fragment} (h : Accepted role f.value)
    (hplain : Plain f) :
    ∃ fields location, f.value = .obj fields ∧ role.fieldIssues fields location = [] := by
  obtain ⟨fields, hfields, ⟨pointer, href, _⟩ | ⟨_, location, hissues⟩⟩ := h.cases
  · rw [Plain, hfields] at hplain
    cases hplain.symm.trans href
  · exact ⟨fields, location, hfields, hissues⟩

/-- What is checked as anything but a schema has been found in order. -/
theorem Validated.accepted_of_ne_schema (hissues : issues doc = []) {role : Role} {f : Fragment}
    (hf : Validated doc role f) (hrole : role ≠ .schema) : Accepted role f.value := by
  cases hf with
  | shared hentries hmem => exact accepted_of_shared hissues hentries hmem
  | listed howner hlist hmem =>
    obtain ⟨fields, location, hfields, hparameters⟩ := howner.parametersIssues_eq_nil hissues
    obtain ⟨_, hobj, hget⟩ := Fragment.exists_obj_of_field? hlist
    cases hfields.symm.trans hobj
    obtain ⟨items, hitems, hall⟩ := parametersIssues_eq_nil hparameters hget
    obtain ⟨_, i, v, hvs, hi, rfl⟩ := Fragment.mem_items_iff.mp hmem
    cases hitems.symm.trans hvs
    exact hall v (List.mem_of_getElem? hi)
  | answered hop hentries hmem =>
    obtain ⟨location, hop⟩ := hop.operationIssues_eq_nil hissues
    obtain ⟨fields, hfields, _, _, hresponses⟩ := operationIssues_eq_nil hop
    obtain ⟨_, hobj, hget⟩ := Fragment.exists_obj_of_field? hentries
    cases hfields.symm.trans hobj
    obtain ⟨entries, hentries, hall⟩ := responsesIssues_eq_nil hresponses
    obtain ⟨_, v, hvs, hin, rfl⟩ := Fragment.mem_fields_iff.mp hmem
    rw [hget, hvs] at hentries
    cases hentries
    exact (hall _ v hin).2
  | requested hop hbody =>
    obtain ⟨location, hop⟩ := hop.operationIssues_eq_nil hissues
    obtain ⟨fields, hfields, _, hbodies, _⟩ := operationIssues_eq_nil hop
    obtain ⟨_, hobj, hget⟩ := Fragment.exists_obj_of_field? hbody
    cases hfields.symm.trans hobj
    exact hbodies _ hget
  | typed => exact absurd rfl hrole
  | media => exact absurd rfl hrole
  | nested => exact absurd rfl hrole

theorem Validated.accepted_typed (hissues : issues doc = []) {parameter f : Fragment}
    (hparameter : Validated doc .parameter parameter) (hplain : Plain parameter)
    (hschema : parameter.field? "schema" = some f) : Accepted .schema f.value := by
  have haccepted := hparameter.accepted_of_ne_schema hissues (by decide)
  obtain ⟨fields, location, hfields, hnil⟩ := haccepted.fieldIssues_eq_nil hplain
  obtain ⟨_, hobj, hget⟩ := Fragment.exists_obj_of_field? hschema
  cases hfields.symm.trans hobj
  exact (parameterFieldIssues_eq_nil hnil).2.2.1 _ hget

theorem Validated.accepted_media (hissues : issues doc = []) {role : Role} (hrole : role ≠ .schema)
    {owner content media f : Fragment} {mime : String} (howner : Validated doc role owner)
    (hplain : Plain owner) (hcontent : owner.field? "content" = some content)
    (hmem : (mime, media) ∈ content.fields) (hschema : media.field? "schema" = some f)
    (hobj : f.value.isObj = true) : Accepted .schema f.value := by
  have haccepted := howner.accepted_of_ne_schema hissues hrole
  obtain ⟨fields, location, hfields, hnil⟩ := haccepted.fieldIssues_eq_nil hplain
  obtain ⟨_, hobj', hget⟩ := Fragment.exists_obj_of_field? hcontent
  cases hfields.symm.trans hobj'
  obtain ⟨content, hvalue, hall⟩ :=
    contentIssues_eq_nil (Role.contentIssues_eq_nil hrole hnil) hget
  obtain ⟨_, v, hvs, hin, rfl⟩ := Fragment.mem_fields_iff.mp hmem
  cases hvalue.symm.trans hvs
  obtain ⟨fs, hfs, hschemas⟩ := hall _ v hin
  obtain ⟨_, hmedia, hget'⟩ := Fragment.exists_obj_of_field? hschema
  cases hfs.symm.trans hmedia
  exact hschemas _ hget' hobj

/-- What a checked object of another role holds under a content type is reached through objects
only. -/
theorem Validated.content (hissues : issues doc = []) {role : Role} {owner : Fragment}
    (hrole : role ≠ .schema) (howner : Validated doc role owner) (hplain : Plain owner)
    {mimeType : String} {raw : Fragment}
    (hraw : owner.walk? ["content", mimeType, "schema"] = some raw) :
    ∃ content media, owner.field? "content" = some content ∧ (mimeType, media) ∈ content.fields ∧
      media.field? "schema" = some raw := by
  obtain ⟨fields, _, hfields, hnil⟩ :=
    (howner.accepted_of_ne_schema hissues hrole).fieldIssues_eq_nil hplain
  simp only [Fragment.walk?, Fragment.step?_of_obj hfields] at hraw
  obtain ⟨content, hcontent, hraw⟩ := Option.bind_eq_some_iff.mp hraw
  obtain ⟨_, hobj, hget⟩ := Fragment.exists_obj_of_field? hcontent
  cases hfields.symm.trans hobj
  obtain ⟨entries, hentries, hmedia⟩ :=
    contentIssues_eq_nil (Role.contentIssues_eq_nil hrole hnil) hget
  rw [Fragment.step?_of_obj hentries] at hraw
  obtain ⟨media, hfield, hraw⟩ := Option.bind_eq_some_iff.mp hraw
  obtain ⟨_, hobj, hget⟩ := Fragment.exists_obj_of_field? hfield
  cases hentries.symm.trans hobj
  obtain ⟨fs, hfs, _⟩ := hmedia mimeType media.value (Fields.mem_of_get?_eq_some hget)
  rw [Fragment.step?_of_obj hfs] at hraw
  obtain ⟨schema, hschema, hself⟩ := Option.bind_eq_some_iff.mp hraw
  cases hself
  exact ⟨content, media, hcontent, Fragment.mem_fields_of_field? hfield, hschema⟩

theorem Validated.accepted (hissues : issues doc = []) (h : Buildable doc) {role : Role}
    {f : Fragment} (hf : Validated doc role f) : Accepted role f.value := by
  induction hf with
  | shared hentries hmem => exact accepted_of_shared hissues hentries hmem
  | listed howner hlist hmem =>
    exact (Validated.listed howner hlist hmem).accepted_of_ne_schema hissues (by decide)
  | answered hop hentries hmem =>
    exact (Validated.answered hop hentries hmem).accepted_of_ne_schema hissues (by decide)
  | requested hop hbody =>
    exact (Validated.requested hop hbody).accepted_of_ne_schema hissues (by decide)
  | typed hparameter hplain hschema _ => exact hparameter.accepted_typed hissues hplain hschema
  | media hrole howner hplain hcontent hmem hschema hobj _ =>
    exact howner.accepted_media hissues hrole hplain hcontent hmem hschema hobj
  | nested hf hplain hmem ih =>
    obtain ⟨fields, location, hfields, hnil⟩ := ih.fieldIssues_eq_nil hplain
    have hholds := holdsSchemas_of_schemaFieldIssues hnil
    refine (hholds.of_mem_positions hfields hmem).resolve_right ?_
    rintro ⟨hadditional, hbool, hobj⟩
    have htrue := h.additional _ _ hf hplain hadditional hbool
    rw [hobj] at htrue
    cases htrue

omit [Pattern.Checker] in
theorem Validated.wellFormed (hwf : doc.WellFormed) {role : Role} {f : Fragment}
    (hf : Validated doc role f) : f.value.WellFormed := by
  have hroot : (Fragment.ofDocument doc).value.WellFormed := hwf
  have hitem : ∀ {item}, IsPathItem doc item → item.value.WellFormed := by
    rintro item ⟨paths, name, hpaths, hmem⟩
    exact (Fragment.part_of_mem_fields hmem).wellFormed
      ((Fragment.part_of_field? hpaths).wellFormed hroot)
  have hop : ∀ {op}, IsOperation doc op → op.value.WellFormed := by
    rintro op ⟨item, method, hi, _, hfield⟩
    exact (Fragment.part_of_field? hfield).wellFormed (hitem hi)
  induction hf with
  | shared hentries hmem =>
    have hsection := Fragment.walk?_induction (P := fun f => f.value.WellFormed)
      (fun _ _ hpart hf => hpart.wellFormed hf) hentries hroot
    exact (Fragment.part_of_mem_fields hmem).wellFormed hsection
  | listed howner hlist hmem =>
    have hvalue := howner.elim (fun h => hitem h.1) hop
    exact (Fragment.part_of_mem_items hmem).wellFormed
      ((Fragment.part_of_field? hlist).wellFormed hvalue)
  | answered ho hentries hmem =>
    exact (Fragment.part_of_mem_fields hmem).wellFormed
      ((Fragment.part_of_field? hentries).wellFormed (hop ho))
  | requested ho hbody => exact (Fragment.part_of_field? hbody).wellFormed (hop ho)
  | typed _ _ hschema ih => exact (Fragment.part_of_field? hschema).wellFormed ih
  | media _ _ _ hcontent hmem hschema _ ih =>
    exact (Fragment.part_of_field? hschema).wellFormed
      ((Fragment.part_of_mem_fields hmem).wellFormed
        ((Fragment.part_of_field? hcontent).wellFormed ih))
  | nested _ _ hmem ih => exact (TypeSchema.inside_of_mem_positions hmem).wellFormed ih

end Accepted

/-! ### References lead to checked positions -/

section Building

variable [Pattern.Checker] {doc : Json} (hwf : doc.WellFormed) (hissues : issues doc = [])
  (h : Buildable doc)
include hissues h

/-- A reference at a checked position leads to a checked position of the same role. -/
theorem Validated.next {role : Role} {f : Fragment} (hf : Validated doc role f) {pointer : String}
    (href : f.value.reference? = some pointer) :
    ∃ target, Reference.next? doc f = some target ∧ Validated doc role target := by
  obtain ⟨name, entries, target, hkeys, hentries, htarget⟩ := h.references role f pointer hf href
  have hlocal : Pointer.isLocal pointer = true := by
    obtain ⟨fields, hfields, ⟨pointer', href', hlocal⟩ | ⟨hnone, _⟩⟩ := (hf.accepted hissues h).cases
    · rw [hfields, Json.reference?, Json.strAt?, Json.get?, href'] at href
      cases href
      exact hlocal
    · rw [hfields, Json.reference?, Json.strAt?, Json.get?, hnone] at href
      cases href
  obtain ⟨fields, hfields, hget⟩ := Fragment.exists_obj_of_field? htarget
  refine ⟨target, Reference.next?_eq_some_iff.mpr ⟨pointer, href, hlocal, ?_⟩, ?_⟩
  · rw [hkeys, show ["components", role.sectionName, name] =
      ["components", role.sectionName] ++ [name] from rfl, Fragment.walk?_append, hentries]
    show (entries.step? name).bind (·.walk? []) = some target
    rw [Fragment.step?, hfields]
    exact Option.bind_eq_some_iff.mpr ⟨target, htarget, rfl⟩
  · refine .shared hentries (Fragment.mem_fields_iff.mpr ⟨fields, target.value, hfields,
      Fields.mem_of_get?_eq_some hget, ?_⟩)
    obtain ⟨_, _, heq⟩ := Fragment.field?_eq_some_iff.mp htarget
    rw [heq]

theorem Validated.after {role : Role} {f : Fragment} (hf : Validated doc role f) {n : Nat}
    {g : Fragment} (hg : Reference.after doc f n = some g) : Validated doc role g := by
  induction n generalizing g with
  | zero =>
    cases hg
    exact hf
  | succ n ih =>
    rw [Reference.after, Option.bind_eq_some_iff] at hg
    obtain ⟨e, he, hnext⟩ := hg
    obtain ⟨pointer, href, _⟩ := Reference.next?_eq_some_iff.mp hnext
    obtain ⟨target, htarget, hvalidated⟩ := (ih he).next hissues h href
    cases htarget.symm.trans hnext
    exact hvalidated

/-- What a checked position stands for is a checked object of the same role. -/
theorem Validated.exists_resolve {role : Role} {f : Fragment} (hf : Validated doc role f) :
    ∃ node, Reference.resolve doc f = .ok node ∧ Validated doc role node ∧ Plain node := by
  obtain ⟨n, hends⟩ := Reference.ends_resolve doc f
  generalize Reference.resolve doc f = r at hends
  cases hends with
  | @arrived node hnode href =>
    have hvalidated := hf.after hissues h hnode
    refine ⟨node, rfl, hvalidated, ?_⟩
    obtain ⟨fields, hfields, ⟨pointer, href', _⟩ | ⟨hnone, _⟩⟩ :=
      (hvalidated.accepted hissues h).cases
    · rw [hfields, Json.reference?, Json.strAt?, Json.get?, href'] at href
      cases href
    · rw [Plain, hfields]
      exact hnone
  | lost hg hdangles =>
    obtain ⟨target, htarget, _⟩ := (hf.after hissues h hg).next hissues h hdangles.1
    rw [hdangles.next?] at htarget
    cases htarget
  | closed hg href hlocal hrep _ =>
    exact absurd (Reference.endless_of_repeats hg href hlocal hrep) (h.chains_end role f hf)

/-! ### Schemas -/

theorem Validated.of_reached {f : Fragment} (hf : Validated doc .schema f) {position : Fragment}
    (hreached : TypeSchema.Reached doc f position) : Validated doc .schema position := by
  induction hreached with
  | start => exact hf
  | down _ hopens hmem ih =>
    obtain ⟨node, hnode, hvalidated, hplain⟩ := ih.exists_resolve hissues h
    cases hopens.1.symm.trans hnode
    exact .nested hvalidated hplain hmem

include hwf in
theorem Validated.readable {node : Fragment} (hnode : Validated doc .schema node)
    (hplain : Plain node) : TypeSchema.Readable node := by
  obtain ⟨fields, location, hfields, hnil⟩ :=
    (hnode.accepted hissues h).fieldIssues_eq_nil hplain
  have hvalue : (Json.obj fields).WellFormed := hfields ▸ hnode.wellFormed hwf
  constructor
  · have hread : ∀ field ∈ fields, ∃ d, Descriptor.readKeyword {} field.1 field.2 = .ok d := by
      intro field hfield
      refine (inOrder_of_schemaFieldIssues hnil).exists_readKeyword (fun key kind w hk hw => ?_)
        ((Fields.get?_eq_some_iff hvalue.1).mpr hfield)
      exact h.scalars .schema node key kind w hnode hplain hk (by rw [hfields]; exact hw)
    obtain ⟨d, hd⟩ := Descriptor.exists_read hread
    exact ⟨fields, d, hfields, hd⟩
  · intro f hf
    obtain ⟨_, hobj, hget⟩ := Fragment.exists_obj_of_field? hf
    cases hfields.symm.trans hobj
    exact isObj_of_properties hnil hget

include hwf in
/-- A checked schema resolves, under whatever location. -/
theorem Validated.exists_schema {f : Fragment} (hf : Validated doc .schema f) :
    ∃ s, ∀ l, TypeSchema.resolve doc f l = .ok s := by
  refine TypeSchema.exists_resolve (fun position hreached => ?_) fun hrevisits =>
    h.schemas_acyclic f hf (Or.inl hrevisits)
  obtain ⟨node, hnode, hvalidated, hplain⟩ :=
    (hf.of_reached hissues h hreached).exists_resolve hissues h
  obtain ⟨fields, _, hfields, _⟩ := (hvalidated.accepted hissues h).fieldIssues_eq_nil hplain
  exact ⟨node, ⟨hnode, fields, hfields⟩, hvalidated.readable hwf hissues h hplain⟩

include hwf in
/-- The schema under a content type can be had: a scalar there is none, an object is checked. -/
theorem Validated.exists_mediaSchema {role : Role} {owner : Fragment} (hrole : role ≠ .schema)
    (howner : Validated doc role owner) (hplain : Plain owner) (mimeType location : String) :
    ∃ s, Declaration.mediaSchema doc owner mimeType location = .ok s := by
  refine Declaration.exists_mediaSchema fun raw hraw => ?_
  obtain ⟨content, media, hcontent, hmedia, hschema⟩ :=
    howner.content hissues hrole hplain hraw
  cases hobj : raw.value.isObj with
  | true =>
    have hchecked : Validated doc .schema raw :=
      .media hrole howner hplain hcontent hmedia hschema hobj
    obtain ⟨node, hnode, hvalidated, _⟩ := hchecked.exists_resolve hissues h
    exact ⟨node, hnode, fun _ => hvalidated.exists_schema hwf hissues h⟩
  | false =>
    refine ⟨raw, Reference.resolve_eq_ok_iff.mpr ⟨⟨0, rfl⟩, ?_⟩, fun htrue => ?_⟩
    · cases hv : raw.value with
      | obj fs =>
        rw [hv] at hobj
        cases hobj
      | _ => rfl
    · rw [hobj] at htrue
      cases htrue

/-! ### Declarations -/

include hwf in
/-- A checked parameter has a head, with the name and the carrier that it shows. -/
theorem Validated.exists_head {f : Fragment} (hf : Validated doc .parameter f) (hplain : Plain f) :
    ∃ head, ParameterHead.read f.value = .ok head ∧ f.value.strAt? "name" = some head.name ∧
      f.value.strAt? "in" = some head.carrier.name := by
  obtain ⟨fields, location, hfields, hnil⟩ := (hf.accepted hissues h).fieldIssues_eq_nil hplain
  obtain ⟨⟨name, hname⟩, ⟨carrier, hcarrier⟩, _, _⟩ := parameterFieldIssues_eq_nil hnil
  have hnodup : (fields.map Prod.fst).Nodup := by
    have hvalue := hf.wellFormed hwf
    rw [hfields] at hvalue
    exact hvalue.1
  have hscalar : ∀ {key kind v}, (key, kind) ∈ Role.parameter.scalars →
      Fields.get? key fields = some v → Scalar.Holds kind v := by
    intro key kind v hk hv
    exact h.scalars .parameter f key kind v hf hplain hk (by rw [hfields]; exact hv)
  have hshaped : ParameterHead.Shaped fields := {
    name := by
      intro v hv
      cases hname.symm.trans hv
      exact ⟨name, rfl⟩
    carrier := by
      intro v hv
      cases hcarrier.symm.trans hv
      exact ⟨carrier, ParameterHead.choice_carrier carrier⟩
    required := fun v hv => Scalar.exists_flag (hscalar (by decide) hv)
    deprecated := fun v hv => Scalar.exists_flag (hscalar (by decide) hv)
    description := fun v hv => Scalar.exists_text (hscalar (by decide) hv) }
  obtain ⟨head, hhead⟩ := ParameterHead.exists_read hnodup hshaped (by rw [hname]; rfl)
    (by rw [hcarrier]; rfl)
  have hsays := ParameterHead.says_of_read hnodup hhead
  refine ⟨head, by rw [hfields]; exact hhead, ?_, ?_⟩
  · rw [hfields]
    exact Option.bind_eq_some_iff.mpr ⟨_, hsays.name, rfl⟩
  · obtain ⟨v, hv, hchoice⟩ := hsays.carrier
    cases hcarrier.symm.trans hv
    cases (ParameterHead.choice_carrier carrier).symm.trans hchoice
    rw [hfields]
    exact Option.bind_eq_some_iff.mpr ⟨_, hcarrier, rfl⟩

omit h in
theorem HoldsParameters.validated {owner : Fragment} (howner : HoldsParameters doc owner) :
    (∀ list, owner.field? "parameters" = some list → ∃ vs, list.value = .arr vs) ∧
    ∀ raw ∈ Declaration.parameterEntries owner, Validated doc .parameter raw := by
  constructor
  · intro list hlist
    obtain ⟨fields, location, hfields, hnil⟩ := howner.parametersIssues_eq_nil hissues
    obtain ⟨_, hobj, hget⟩ := Fragment.exists_obj_of_field? hlist
    cases hfields.symm.trans hobj
    obtain ⟨items, hitems, _⟩ := Validation.parametersIssues_eq_nil hnil hget
    exact ⟨items, hitems⟩
  · intro raw hraw
    rw [Declaration.parameterEntries] at hraw
    cases hlist : owner.field? "parameters" with
    | none =>
      rw [hlist] at hraw
      cases hraw
    | some list =>
      rw [hlist] at hraw
      exact .listed howner hlist hraw

/-- The schemas of a list of pending parameters have been checked. -/
def SchemasValidated (doc : Json) (ps : List PendingParameter) : Prop :=
  ∀ p ∈ ps, ∀ raw, p.schema = some raw → Validated doc .schema raw

include hwf in
theorem HoldsParameters.exists_readParameters {owner : Fragment}
    (howner : HoldsParameters doc owner) (location : String) :
    ∃ ps, Declaration.readParameters doc owner location = .ok ps ∧ SchemasValidated doc ps := by
  obtain ⟨hlist, hvalidated⟩ := howner.validated hissues
  have hentries : ∀ raw ∈ Declaration.parameterEntries owner, ∃ head entry,
      Reference.resolve doc raw = .ok entry ∧ ParameterHead.read entry.value = .ok head ∧
      entry.value.strAt? "name" = some head.name ∧
      entry.value.strAt? "in" = some head.carrier.name := by
    intro raw hraw
    obtain ⟨entry, hentry, hchecked, hplain⟩ := (hvalidated raw hraw).exists_resolve hissues h
    obtain ⟨head, hhead⟩ := hchecked.exists_head hwf hissues h hplain
    exact ⟨head, entry, hentry, hhead⟩
  obtain ⟨heads, hheads⟩ := exists_forall₂ hentries
  have hnodup : (heads.map fun head => (head.name, head.carrier)).Nodup := by
    have hdistinct : (Declaration.parameterEntries owner).Pairwise (Distinct doc) := by
      rw [Declaration.parameterEntries]
      cases hfield : owner.field? "parameters" with
      | none => exact .nil
      | some list => exact h.parameters_distinct owner list howner hfield
    refine List.pairwise_map.mpr (pairwise_of_forall₂ hheads hdistinct ?_)
    rintro p q head head' hpq ⟨a, ha, _, hname, hin⟩ ⟨b, hb, _, hname', hin'⟩ heq
    obtain ⟨hnames, hcarriers⟩ := Prod.mk.inj heq
    exact hpq a b ha hb ⟨by rw [hname, hname', hnames], by rw [hin, hin', hcarriers]⟩
  obtain ⟨ps, hps⟩ : ∃ ps, Declaration.readParameters doc owner location = .ok ps := by
    refine Declaration.exists_readParameters hlist (hheads.imp ?_) hnodup
    rintro _ _ ⟨entry, hentry, hhead, _⟩
    exact ⟨entry, hentry, hhead⟩
  refine ⟨ps, hps, fun p hp raw hraw => ?_⟩
  obtain ⟨source, hsource, hpending⟩ :=
    exists_of_forall₂_mem (Declaration.forall₂_of_readParameters hps).flip hp
  obtain ⟨entry, hentry, _, hschema⟩ := hpending.entry
  obtain ⟨node, hnode, hchecked, hplain⟩ := (hvalidated source hsource).exists_resolve hissues h
  cases hentry.symm.trans hnode
  exact .typed hchecked hplain (hschema.symm.trans hraw)

include hwf in
theorem SchemasValidated.exists_parameters {ps : List PendingParameter}
    (hps : SchemasValidated doc ps) :
    ∃ ds, List.Forall₂ (fun p d => Declaration.parameter doc p = .ok d) ps ds := by
  refine exists_forall₂ fun p hp => ?_
  obtain ⟨schema, hschema⟩ : ∃ schema, Option.Rel (fun raw s =>
      TypeSchema.resolve doc raw (Pointer.child p.location "schema") = .ok s) p.schema schema := by
    refine exists_rel fun raw hraw => ?_
    obtain ⟨s, hs⟩ := (hps p hp raw hraw).exists_schema hwf hissues h
    exact ⟨s, hs _⟩
  exact ⟨_, Declaration.parameter_eq_ok_iff.mpr ⟨schema, hschema, rfl⟩⟩

include hwf in
theorem Validated.exists_response {raw : Fragment} (hraw : Validated doc .response raw)
    {key : String} (hkey : (StatusKey.parse? key).isSome = true) (location : String) :
    ∃ ds, Declaration.response doc location key raw = .ok ds := by
  obtain ⟨status, hstatus⟩ := Option.isSome_iff_exists.mp hkey
  obtain ⟨entry, hentry, hchecked, hplain⟩ := hraw.exists_resolve hissues h
  have hfan : ∀ mimeType ∈ Declaration.contentTypes entry.value, ∃ d : ResponseDeclaration,
      ∃ schema, Declaration.mediaSchema doc entry mimeType (Pointer.child location key) =
        .ok schema ∧ d = ⟨status, mimeType, entry.value.strAt? "description", schema⟩ := by
    intro mimeType _
    obtain ⟨schema, hschema⟩ := hchecked.exists_mediaSchema hwf hissues h (by decide) hplain
      mimeType (Pointer.child location key)
    exact ⟨_, schema, hschema, rfl⟩
  obtain ⟨ds, hds⟩ := exists_forall₂ hfan
  exact ⟨ds, Declaration.response_eq_ok_iff.mpr ⟨status, entry, hstatus, hentry, hds⟩⟩

include hwf in
theorem IsOperation.exists_responses {op : Fragment} (hop : IsOperation doc op)
    (location : String) : ∃ ds, Declaration.responses doc op location = .ok ds := by
  obtain ⟨_, hnil⟩ := hop.operationIssues_eq_nil hissues
  obtain ⟨fields, hfields, _, _, hresponses⟩ := Validation.operationIssues_eq_nil hnil
  obtain ⟨entries, hget, hall⟩ := responsesIssues_eq_nil hresponses
  obtain ⟨map, hmap, hvalue⟩ : ∃ map, op.field? "responses" = some map ∧
      map.value = .obj entries := by
    refine ⟨_, Fragment.field?_eq_some_iff.mpr ⟨_, ?_, rfl⟩, rfl⟩
    rw [hfields]
    exact hget
  have hgroups : ∀ entry ∈ map.fields, ∃ group, Declaration.response doc
      (Pointer.child location "responses") entry.1 entry.2 = .ok group := by
    intro entry hentry
    obtain ⟨_, v, hvs, hin, _⟩ := Fragment.mem_fields_iff.mp hentry
    cases hvalue.symm.trans hvs
    have hchecked : Validated doc .response entry.2 := .answered hop hmap hentry
    exact hchecked.exists_response hwf hissues h (hall entry.1 v hin).1 _
  obtain ⟨groups, hgroups⟩ := exists_forall₂ hgroups
  exact ⟨groups.flatten, (Declaration.responses_eq_ok_iff hmap).mpr
    ⟨by rw [hvalue]; rfl, groups, hgroups, rfl⟩⟩

include hwf in
theorem IsOperation.exists_bodies {op : Fragment} (hop : IsOperation doc op) (location : String) :
    ∃ ds, Declaration.bodies doc op location = .ok ds := by
  cases hbody : op.field? "requestBody" with
  | none => exact ⟨[], Declaration.bodies_of_field?_eq_none hbody location⟩
  | some raw =>
    have hraw : Validated doc .body raw := .requested hop hbody
    obtain ⟨entry, hentry, hchecked, hplain⟩ := hraw.exists_resolve hissues h
    have hfan : ∀ mimeType ∈ Declaration.contentTypes entry.value, ∃ d : BodyDeclaration,
        ∃ schema, Declaration.mediaSchema doc entry mimeType
          (Pointer.child location "requestBody") = .ok schema ∧
          d = ⟨mimeType, (entry.value.boolAt? "required").getD false,
            entry.value.strAt? "description", schema⟩ := by
      intro mimeType _
      obtain ⟨schema, hschema⟩ := hchecked.exists_mediaSchema hwf hissues h (by decide) hplain
        mimeType (Pointer.child location "requestBody")
      exact ⟨_, schema, hschema, rfl⟩
    obtain ⟨ds, hds⟩ := exists_forall₂ hfan
    exact ⟨ds, (Declaration.bodies_eq_ok_iff hbody).mpr ⟨entry, hentry, hds⟩⟩

include hwf in
theorem IsOperation.exists_operation {raw : Fragment} (hop : IsOperation doc raw)
    {shared : List PendingParameter} (hshared : SchemasValidated doc shared) (location : String)
    (method : Method) :
    ∃ d, Declaration.operation doc shared location method raw = .ok d := by
  obtain ⟨_, hnil⟩ := hop.operationIssues_eq_nil hissues
  obtain ⟨fields, hfields, _⟩ := Validation.operationIssues_eq_nil hnil
  obtain ⟨own, hown, hchecked⟩ :=
    HoldsParameters.exists_readParameters hwf hissues h (Or.inr hop) location
  have hall : SchemasValidated doc (Declaration.inherit own shared) := by
    intro p hp
    rcases List.mem_append.mp hp with hp | hp
    · exact hchecked p hp
    · exact hshared p (List.mem_filter.mp hp).1
  obtain ⟨parameters, hparameters⟩ := hall.exists_parameters hwf hissues h
  obtain ⟨responses, hresponses⟩ := hop.exists_responses hwf hissues h location
  obtain ⟨bodies, hbodies⟩ := hop.exists_bodies hwf hissues h location
  exact ⟨_, Declaration.operation_eq_ok_iff.mpr ⟨raw, own, parameters, responses, bodies,
    Reference.resolve_of_not_reference (h.operations_inline raw hop), by rw [hfields]; rfl, hown,
    hparameters, hresponses, hbodies, rfl⟩⟩

include hwf in
theorem IsPathItem.exists_path {item : Fragment} (hitem : IsPathItem doc item) (name : String) :
    ∃ d, Declaration.path doc name item = .ok d := by
  have hinline := h.items_inline item hitem
  obtain ⟨fields, hfields, ⟨pointer, href⟩ | ⟨hplain, _⟩⟩ := hitem.fields hissues
  · rw [hfields, Json.reference?, Json.strAt?, Json.get?, href] at hinline
    cases hinline
  · obtain ⟨shared, hread, hshared⟩ := HoldsParameters.exists_readParameters hwf hissues h
      (Or.inl ⟨hitem, hplain⟩) (Pointer.child "#/paths" name)
    have hall : ∀ declared ∈ Declaration.methodsOf item, ∃ op, Declaration.operation doc shared
        (Pointer.child (Pointer.child "#/paths" name) declared.1.name) declared.1 declared.2 =
          .ok op := by
      intro declared hdeclared
      have hop : IsOperation doc declared.2 :=
        ⟨item, declared.1, hitem, hplain, Declaration.mem_methodsOf_iff.mp hdeclared⟩
      exact hop.exists_operation hwf hissues h hshared _ _
    obtain ⟨operations, hoperations⟩ := exists_forall₂ hall
    exact ⟨_, Declaration.path_eq_ok_iff.mpr ⟨item, shared, operations,
      Reference.resolve_of_not_reference hinline, by rw [hfields]; rfl, hread, hoperations, rfl⟩⟩

end Building

/-- **A document without issues can be built.**  Validation and the builder agree on every object
that both look at, so a document in which validation finds nothing has a graph, if the conditions
are met that validation leaves to the builder. -/
theorem ofDocument_of_no_issues [Pattern.Checker] {doc : Json} (hwf : doc.WellFormed)
    (hissues : issues doc = []) (h : Buildable doc) : ∃ g, Graph.ofDocument doc = .ok g := by
  obtain ⟨root, hroot, _⟩ := exists_root hissues
  obtain ⟨paths, hpaths, hobj⟩ := exists_paths hissues
  have hall : ∀ entry ∈ paths.fields, ∃ d, Declaration.path doc entry.1 entry.2 = .ok d := by
    intro entry hentry
    have hitem : IsPathItem doc entry.2 := ⟨paths, entry.1, hpaths, hentry⟩
    exact hitem.exists_path hwf hissues h entry.1
  obtain ⟨declared, hdeclared⟩ := exists_forall₂ hall
  have hread : Declaration.paths doc = .ok declared :=
    (Declaration.paths_eq_ok_iff hpaths).mpr ⟨hobj, hdeclared⟩
  refine ⟨Graph.ofDeclarations doc declared, ?_⟩
  rw [hroot] at hread ⊢
  rw [Graph.ofDocument, hread]
  rfl

/-! ### A document that shares its parts -/

/-- A document whose one parameter is shared, and whose schema is shared too. -/
def sharingDocument : Json := .obj [
  ("openapi", .str "3.0.0"),
  ("info", .obj [("title", .str "Sharing"), ("version", .str "1")]),
  ("paths", .obj [("/a", .obj [("get", .obj [
    ("parameters", .arr [.obj [("$ref", .str "#/components/parameters/p")]]),
    ("responses", .obj [])])])]),
  ("components", .obj [
    ("parameters", .obj [("p", .obj [("name", .str "n"), ("in", .str "query"),
      ("schema", .obj [("$ref", .str "#/components/schemas/s")])])]),
    ("schemas", .obj [("s", .obj [("type", .str "string")])])])]

/-- The positions of that document that are checked: in each role a reference and its target. -/
inductive SharingPosition : Role → List String → Prop
  | parameter : SharingPosition .parameter ["paths", "/a", "get", "parameters", "0"]
  | sharedParameter : SharingPosition .parameter ["components", "parameters", "p"]
  | schema : SharingPosition .schema ["components", "parameters", "p", "schema"]
  | sharedSchema : SharingPosition .schema ["components", "schemas", "s"]

def sharingAt (keys : List String) : Option Fragment :=
  (Fragment.ofDocument sharingDocument).walk? keys

theorem isPathItem_sharing {item : Fragment} (h : IsPathItem sharingDocument item) :
    sharingAt ["paths", "/a"] = some item := by
  obtain ⟨paths, name, hpaths, hmem⟩ := h
  cases hpaths
  cases hmem with
  | head => rfl
  | tail _ h => cases h

theorem isOperation_sharing {op : Fragment} (h : IsOperation sharingDocument op) :
    sharingAt ["paths", "/a", "get"] = some op := by
  obtain ⟨item, method, hitem, _, hop⟩ := h
  cases isPathItem_sharing hitem
  cases method <;> cases hop
  rfl

theorem exists_sharingPosition {role : Role} {f : Fragment}
    (h : Validated sharingDocument role f) :
    ∃ keys, SharingPosition role keys ∧ sharingAt keys = some f := by
  induction h with
  | @shared role entries f name hentries hmem =>
    cases role with
    | parameter =>
      cases hentries
      cases hmem with
      | head => exact ⟨_, .sharedParameter, rfl⟩
      | tail _ h => cases h
    | schema =>
      cases hentries
      cases hmem with
      | head => exact ⟨_, .sharedSchema, rfl⟩
      | tail _ h => cases h
    | response => cases hentries
    | body => cases hentries
  | listed howner hlist hmem =>
    rcases howner with ⟨hitem, _⟩ | hop
    · cases isPathItem_sharing hitem
      cases hlist
    · cases isOperation_sharing hop
      cases hlist
      cases hmem with
      | head => exact ⟨_, .parameter, rfl⟩
      | tail _ h => cases h
  | answered hop hentries hmem =>
    cases isOperation_sharing hop
    cases hentries
    cases hmem
  | requested hop hbody =>
    cases isOperation_sharing hop
    cases hbody
  | typed _ hplain hschema ih =>
    obtain ⟨_, hposition, hf⟩ := ih
    cases hposition <;> cases hf
    · cases hplain
    · cases hschema
      exact ⟨_, .schema, rfl⟩
  | media hrole _ _ hcontent _ _ _ ih =>
    obtain ⟨_, hposition, hf⟩ := ih
    cases hposition <;> cases hf <;> cases hcontent
  | nested _ hplain hmem ih =>
    obtain ⟨_, hposition, hf⟩ := ih
    cases hposition <;> cases hf
    · cases hplain
    · cases hmem

theorem buildable_sharing : Buildable sharingDocument where
  items_inline item hitem := by
    cases isPathItem_sharing hitem
    rfl
  operations_inline op hop := by
    cases isOperation_sharing hop
    rfl
  references role f pointer hf href := by
    obtain ⟨_, hposition, hf⟩ := exists_sharingPosition hf
    cases hposition <;> cases hf <;> cases href
    · exact ⟨"p", _, _, rfl, rfl, rfl⟩
    · exact ⟨"s", _, _, rfl, rfl, rfl⟩
  chains_end role f hf := by
    obtain ⟨_, hposition, hf⟩ := exists_sharingPosition hf
    cases hposition <;> cases hf
    · exact Reference.not_endless_of_next?_eq_none (n := 1) rfl rfl
    · exact Reference.not_endless_of_next?_eq_none (n := 0) rfl rfl
    · exact Reference.not_endless_of_next?_eq_none (n := 1) rfl rfl
    · exact Reference.not_endless_of_next?_eq_none (n := 0) rfl rfl
  schemas_acyclic f hf := by
    obtain ⟨_, hposition, hf⟩ := exists_sharingPosition hf
    have hresolves : ∃ s, TypeSchema.resolve sharingDocument f "" = .ok s := by
      cases hposition <;> cases hf
      · refine ⟨?s, ?h⟩
        case h => cbv; rfl
      · refine ⟨?s, ?h⟩
        case h => cbv
    obtain ⟨s, hs⟩ := hresolves
    exact TypeSchema.not_cyclic_of_resolve_eq_ok hs
  parameters_distinct owner list howner hlist := by
    rcases howner with ⟨hitem, _⟩ | hop
    · cases isPathItem_sharing hitem
      cases hlist
    · cases isOperation_sharing hop
      cases hlist
      exact List.pairwise_singleton _ _
  additional f a hf _ ha := by
    obtain ⟨_, hposition, hf⟩ := exists_sharingPosition hf
    cases hposition <;> cases hf <;> cases ha
  scalars role f key kind v hf hplain hk hv := by
    obtain ⟨_, hposition, hf⟩ := exists_sharingPosition hf
    cases hposition <;> cases hf
    · cases hplain
    · have hnone : ∀ entry ∈ Role.parameter.scalars, Fields.get? entry.1 [("name", .str "n"),
          ("in", .str "query"), ("schema", .obj [("$ref", .str "#/components/schemas/s")])] =
            none := by
        simp [Role.scalars, Fields.get?]
      cases (hnone _ hk).symm.trans hv
    · cases hplain
    · have hnone : ∀ entry ∈ Role.schema.scalars,
          Fields.get? entry.1 [("type", .str "string")] = none := by
        simp [Role.scalars, Fields.get?]
      cases (hnone _ hk).symm.trans hv

theorem ofDocument_of_no_issues_of_sharing :
    sharingDocument.WellFormed ∧ issues sharingDocument = [] ∧ Buildable sharingDocument ∧
      ∃ g, Graph.ofDocument sharingDocument = .ok g := by
  have hwf : sharingDocument.WellFormed := by
    simp [sharingDocument, Json.WellFormed, Json.FieldsWellFormed, Json.AllWellFormed]
  have hissues : issues sharingDocument = [] := by cbv
  exact ⟨hwf, hissues, buildable_sharing, ofDocument_of_no_issues hwf hissues buildable_sharing⟩

end ApiGraph.Validation
