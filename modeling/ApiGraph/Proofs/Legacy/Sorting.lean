import ApiGraph.Proofs.Graph.Declaration
import ApiGraph.Proofs.Legacy.WellFormed
import ApiGraph.Proofs.Reference.Pointer

/-!
# Sorted parameters

A parameter list is sorted by what its entries stand for: the entries for body and form
parameters are taken out, and the others keep their order. An entry that is left is a
reference, which stays as it is, or a parameter whose type has been moved under `schema`;
everything else that is read from a parameter is read from it as before.
-/

namespace ApiGraph.Legacy

open Outcome

/-- A parameter that goes neither into a body nor into a form. -/
def isPlain (v : Json) : Bool :=
  !(carrierOf v == some "body") && !(carrierOf v == some "formData")

/-- The parameter that an entry of a list stands for. -/
def target (doc : Fields) (v : Json) : Json :=
  match sharedName? v with
  | some name => ((sharedEntries doc "parameters").get? name).getD v
  | none => v

/-- A plain parameter that is no reference, and has its type inline. -/
def TypedInline (v : Json) : Prop :=
  v.reference? = none ∧ (isPlain v = true → v.get? "$ref" = none ∧ v.get? "schema" = none)

/-- A reference that names a parameter of the document. -/
structure Names (doc : Fields) (v : Json) (key : String) (fields : Fields) : Prop where
  reference : v.reference? = some ("#/parameters/" ++ key)
  literal : Pointer.IsLiteral key
  ordinary : key ≠ "x-nullable"
  shared : (sharedEntries doc "parameters").get? key = some (.obj fields)
  typed : TypedInline (.obj fields)

/-- An entry of a parameter list is a parameter, or it names one; and if it names a plain one, it
does not call itself one of a body or a form. -/
def Listed (doc : Fields) (v : Json) : Prop :=
  TypedInline v ∨ ∃ key fields, Names doc v key fields ∧
    (isPlain (.obj fields) = true → isPlain v = true)

/-! ### Where entries go -/

section Destinations

variable {doc : Fields} {v : Json}

theorem sharedName?_of_not_reference (h : v.reference? = none) : sharedName? v = none := by
  rw [sharedName?, h]
  rfl

theorem sharedName?_of_reference {name : String}
    (h : v.reference? = some ("#/parameters/" ++ name)) : sharedName? v = some name := by
  have hafter : Text.after? "#/parameters/".toList ("#/parameters/" ++ name).toList =
      some name.toList := by
    rw [Text.after?_eq_some_iff, String.toList_append]
  rw [sharedName?, h, Option.bind_some, hafter, Option.map_some, String.ofList_toList]

theorem target_of_shared {name : String} {w : Json} (hname : sharedName? v = some name)
    (hw : (sharedEntries doc "parameters").get? name = some w) : target doc v = w := by
  rw [target, hname]
  simp only [hw, Option.getD_some]

theorem Names.target {key : String} {fields : Fields} (h : Names doc v key fields) :
    target doc v = .obj fields :=
  target_of_shared (sharedName?_of_reference h.reference) h.shared

theorem target_of_not_reference (h : v.reference? = none) : target doc v = v := by
  rw [target, sharedName?_of_not_reference h]

theorem inlined_eq (v : Json) : inlined v =
    if carrierOf v = some "body" then .body (.inline v)
    else if carrierOf v = some "formData" then .form v else .plain (convertParameter v) := by
  rw [inlined]
  split
  · next hin =>
    have hbody : carrierOf v = some "body" := hin
    rw [if_pos hbody]
  · next hin =>
    have hform : carrierOf v = some "formData" := hin
    rw [if_neg (by simp [hform]), if_pos hform]
  · next hbody hform =>
    rw [if_neg (show ¬ carrierOf v = some "body" from hbody),
      if_neg (show ¬ carrierOf v = some "formData" from hform)]

theorem inlined_of_body (h : carrierOf v = some "body") : inlined v = .body (.inline v) := by
  rw [inlined_eq, if_pos h]

theorem inlined_of_form (h : carrierOf v = some "formData") : inlined v = .form v := by
  rw [inlined_eq, if_neg (by simp [h]), if_pos h]

theorem isPlain_iff :
    isPlain v = true ↔ carrierOf v ≠ some "body" ∧ carrierOf v ≠ some "formData" := by
  simp [isPlain]

theorem inlined_of_isPlain (h : isPlain v = true) : inlined v = .plain (convertParameter v) := by
  obtain ⟨hbody, hform⟩ := isPlain_iff.mp h
  rw [inlined_eq, if_neg hbody, if_neg hform]

theorem mem_bodies_iff (hdoc : (Json.obj doc).WellFormed) {key : String} {w : Json}
    (hw : (sharedEntries doc "parameters").get? key = some w) :
    key ∈ (surroundings doc).bodies ↔ carrierOf w = some "body" := by
  have hnodup := (wellFormed_sharedEntries hdoc "parameters").1
  simp only [surroundings, List.mem_map, List.mem_filter, beq_iff_eq]
  constructor
  · rintro ⟨⟨k, u⟩, ⟨hmem, hcarrier⟩, rfl⟩
    rw [(Fields.get?_eq_some_iff hnodup).mpr hmem] at hw
    cases hw
    exact hcarrier
  · exact fun hcarrier => ⟨(key, w), ⟨Fields.mem_of_get?_eq_some hw, hcarrier⟩, rfl⟩

theorem get?_forms (hdoc : (Json.obj doc).WellFormed) (key : String) :
    (surroundings doc).forms.get? key =
      ((sharedEntries doc "parameters").get? key).filter fun w => carrierOf w == some "formData" :=
  Fields.get?_filter (p := fun w => carrierOf w == some "formData")
    (wellFormed_sharedEntries hdoc "parameters").1

/-- The body that an entry stands for is the shared one that it names, or is written in it. -/
def bodySource (doc : Fields) (v : Json) : BodySource :=
  match (sharedName? v).filter fun name => decide (name ∈ (surroundings doc).bodies) with
  | some name => .shared name
  | none => .inline v

/-- An entry does not call itself one of a body or a form where it stands for a plain one. -/
def Consistent (doc : Fields) (v : Json) : Prop := isPlain (target doc v) = true → isPlain v = true

theorem Listed.consistent (h : Listed doc v) : Consistent doc v := by
  rcases h with htyped | ⟨key, fields, hnames, hself⟩
  · intro hplain
    rwa [target_of_not_reference htyped.1] at hplain
  · intro hplain
    rw [hnames.target] at hplain
    exact hself hplain

/-- An entry stands for itself, or it stands for the shared parameter that it names. -/
theorem destination_cases (hdoc : (Json.obj doc).WellFormed) (v : Json) :
    (target doc v = v ∧ bodySource doc v = .inline v ∧
      destination (surroundings doc) v = inlined v) ∨
    ∃ name w, (sharedName? v = some name ∧ (sharedEntries doc "parameters").get? name = some w) ∧
      bodySource doc v = (if carrierOf w = some "body" then .shared name else .inline v) ∧
      destination (surroundings doc) v =
        if carrierOf w = some "body" then .body (.shared name)
        else if carrierOf w = some "formData" then .form w else inlined v := by
  cases hname : sharedName? v with
  | none =>
    refine Or.inl ⟨?_, ?_, ?_⟩
    · rw [target, hname]
    · rw [bodySource, hname]
      rfl
    · simp only [destination, hname]
      rfl
  | some name =>
    have hforms := get?_forms hdoc name
    cases hshared : (sharedEntries doc "parameters").get? name with
    | none =>
      have hbodies : name ∉ (surroundings doc).bodies := by
        intro hmem
        obtain ⟨⟨k, u⟩, hin, rfl⟩ := List.mem_map.mp hmem
        have hget := (Fields.get?_eq_some_iff (wellFormed_sharedEntries hdoc "parameters").1).mpr
          (List.mem_filter.mp hin).1
        cases hget.symm.trans hshared
      rw [hshared] at hforms
      refine Or.inl ⟨?_, ?_, ?_⟩
      · rw [target, hname]
        simp only [hshared, Option.getD_none]
      · rw [bodySource, hname, Option.filter_some_neg (by simpa using hbodies)]
      · simp only [destination, hname, if_neg hbodies, hforms, Option.filter_none]
        rfl
    | some w =>
      have hbodies := mem_bodies_iff hdoc hshared
      rw [hshared] at hforms
      refine Or.inr ⟨name, w, ⟨rfl, hshared⟩, ?_, ?_⟩
      · rw [bodySource, hname]
        by_cases hbody : carrierOf w = some "body"
        · rw [if_pos hbody, Option.filter_some_pos (by simpa using hbodies.mpr hbody)]
        · rw [if_neg hbody, Option.filter_some_neg (by simpa [hbodies] using hbody)]
      · simp only [destination, hname, hbodies]
        by_cases hform : carrierOf w = some "formData"
        · rw [hforms, Option.filter_some_pos (by simpa using hform), if_pos hform]
        · rw [hforms, Option.filter_some_neg (by simpa using hform), if_neg hform]
          rfl

/-- The parameter as which an entry is sorted: the one for a body or a form that it names, or else
the entry itself, whatever else it names. -/
def sortedAs (doc : Fields) (v : Json) : Json :=
  if isPlain (target doc v) then v else target doc v

/-- An entry goes by the parameter as which it is sorted. -/
theorem destination_eq (hdoc : (Json.obj doc).WellFormed) (v : Json) :
    destination (surroundings doc) v =
      if carrierOf (sortedAs doc v) = some "body" then .body (bodySource doc v)
      else if carrierOf (sortedAs doc v) = some "formData" then .form (sortedAs doc v)
      else .plain (convertParameter v) := by
  rcases destination_cases hdoc v with
    ⟨hself, hsource, hdest⟩ | ⟨name, w, ⟨hname, hw⟩, hsource, hdest⟩
  · have hsame : sortedAs doc v = v := by
      rw [sortedAs, hself, ite_self]
    rw [hdest, hsame, hsource, inlined_eq]
  · rw [hdest, hsource, sortedAs, target_of_shared hname hw]
    by_cases hbody : carrierOf w = some "body"
    · have hnot : ¬ isPlain w = true := by simp [isPlain, hbody]
      rw [if_neg hnot, if_pos hbody, if_pos hbody, if_pos hbody]
    · by_cases hform : carrierOf w = some "formData"
      · have hnot : ¬ isPlain w = true := by simp [isPlain, hform]
        rw [if_neg hnot, if_neg hbody, if_neg hbody, if_pos hform, if_pos hform]
      · rw [if_pos (isPlain_iff.mpr ⟨hbody, hform⟩), if_neg hbody, if_neg hbody, if_neg hform,
          inlined_eq]

/-- The entries that are sorted as bodies. -/
def bodiesAmong (doc : Fields) (entries : List Json) : List Json :=
  entries.filter fun v => carrierOf (sortedAs doc v) == some "body"

/-- The form parameters as which entries are sorted. -/
def fieldsAmong (doc : Fields) (entries : List Json) : List Json :=
  (entries.map (sortedAs doc)).filter fun v => carrierOf v == some "formData"

/-- Of the entries sorted as bodies the last one stays, and of the others all of them in their
order. -/
theorem sortParameters_eq_among (hdoc : (Json.obj doc).WellFormed) (entries : List Json) :
    sortParameters (surroundings doc) entries =
      { plain := (entries.filter fun v => isPlain (sortedAs doc v)).map convertParameter
        body := (bodiesAmong doc entries).getLast?.map (bodySource doc)
        form := fieldsAmong doc entries } := by
  rw [sortParameters_eq_filterMap, bodiesAmong, fieldsAmong, List.filter_map, ← List.getLast?_map]
  congr 1
  · refine filterMap_eq_map_filter fun v _ => ?_
    rw [destination_eq hdoc]
    by_cases hbody : carrierOf (sortedAs doc v) = some "body"
    · rw [if_pos hbody, if_neg (by simp [isPlain, hbody])]
      rfl
    · by_cases hform : carrierOf (sortedAs doc v) = some "formData"
      · rw [if_neg hbody, if_pos hform, if_neg (by simp [isPlain, hform])]
        rfl
      · rw [if_neg hbody, if_neg hform, if_pos (isPlain_iff.mpr ⟨hbody, hform⟩)]
        rfl
  · congr 1
    refine filterMap_eq_map_filter fun v _ => ?_
    rw [destination_eq hdoc]
    simp only [beq_iff_eq]
    by_cases hbody : carrierOf (sortedAs doc v) = some "body"
    · rw [if_pos hbody, if_pos hbody]
      rfl
    · rw [if_neg hbody, if_neg hbody]
      split <;> rfl
  · refine filterMap_eq_map_filter fun v _ => ?_
    rw [destination_eq hdoc]
    simp only [Function.comp_apply, beq_iff_eq]
    by_cases hform : carrierOf (sortedAs doc v) = some "formData"
    · rw [if_neg (by simp [hform]), if_pos hform, if_pos hform]
      rfl
    · rw [if_neg hform, if_neg hform]
      split <;> rfl

/-- The entries that stand for a body. -/
def bodyEntries (doc : Fields) (entries : List Json) : List Json :=
  entries.filter fun v => carrierOf (target doc v) == some "body"

/-- The form parameters that the entries stand for. -/
def formTargets (doc : Fields) (entries : List Json) : List Json :=
  (entries.map (target doc)).filter fun v => carrierOf v == some "formData"

/-- An entry that does not call itself what it does not stand for is sorted as what it stands
for. -/
theorem carrierOf_sortedAs (h : Consistent doc v) {carrier : String}
    (hcarrier : carrier = "body" ∨ carrier = "formData") :
    carrierOf (sortedAs doc v) = some carrier ↔ carrierOf (target doc v) = some carrier := by
  rw [sortedAs]
  by_cases hplain : isPlain (target doc v) = true
  · obtain ⟨hself, hself'⟩ := isPlain_iff.mp (h hplain)
    obtain ⟨hbody, hform⟩ := isPlain_iff.mp hplain
    rw [if_pos hplain]
    rcases hcarrier with rfl | rfl
    · exact iff_of_false hself hbody
    · exact iff_of_false hself' hform
  · rw [if_neg hplain]

theorem bodiesAmong_eq_bodyEntries {entries : List Json} (h : ∀ v ∈ entries, Consistent doc v) :
    bodiesAmong doc entries = bodyEntries doc entries := by
  refine List.filter_congr fun v hv => ?_
  simp only [Bool.beq_eq_decide_eq, carrierOf_sortedAs (h v hv) (Or.inl rfl)]

theorem fieldsAmong_eq_formTargets {entries : List Json} (h : ∀ v ∈ entries, Consistent doc v) :
    fieldsAmong doc entries = formTargets doc entries := by
  have hkept : entries.filter ((fun v => carrierOf v == some "formData") ∘ sortedAs doc) =
      entries.filter ((fun v => carrierOf v == some "formData") ∘ target doc) := by
    refine List.filter_congr fun v hv => ?_
    simp only [Function.comp_apply, Bool.beq_eq_decide_eq,
      carrierOf_sortedAs (h v hv) (Or.inr rfl)]
  rw [fieldsAmong, formTargets, List.filter_map, List.filter_map, hkept]
  refine List.map_congr_left fun v hv => ?_
  have hform := (List.mem_filter.mp hv).2
  have hplain : ¬ isPlain (target doc v) = true := by
    intro hplain
    exact (isPlain_iff.mp hplain).2 (by simpa using hform)
  rw [sortedAs, if_neg hplain]

/-- An entry goes by what it stands for: of the bodies the last one stays, and of the other
parameters all of them in their order. -/
theorem sortParameters_eq (hdoc : (Json.obj doc).WellFormed) {entries : List Json}
    (h : ∀ v ∈ entries, Consistent doc v) : sortParameters (surroundings doc) entries =
      { plain := (entries.filter fun v => isPlain (target doc v)).map convertParameter
        body := (bodyEntries doc entries).getLast?.map (bodySource doc)
        form := formTargets doc entries } := by
  have hplain : entries.filter (fun v => isPlain (sortedAs doc v)) =
      entries.filter fun v => isPlain (target doc v) := by
    refine List.filter_congr fun v hv => ?_
    simp only [isPlain, Bool.beq_eq_decide_eq, carrierOf_sortedAs (h v hv) (Or.inl rfl),
      carrierOf_sortedAs (h v hv) (Or.inr rfl)]
  rw [sortParameters_eq_among hdoc, hplain, bodiesAmong_eq_bodyEntries h,
    fieldsAmong_eq_formTargets h]

end Destinations

/-! ### What is read from a converted parameter -/

open ParameterHead Shape

instance indifferent_carrier : Indifferent (choice Carrier.choices) := indifferent_choice rfl rfl

theorem readKeyword_modernize_iff (p : Partial) (key : String) (v : Json) (p' : Partial) :
    readKeyword p key (modernize v) = .ok p' ↔ readKeyword p key v = .ok p' := by
  unfold ParameterHead.readKeyword
  split
  all_goals first
    | exact return_eq_ok_iff
    | rfl

theorem get?_bareParameter {fields : Fields} (hnodup : (fields.map Prod.fst).Nodup) {key : String}
    (hkeyword : key ∉ schemaKeywords) (hformat : key ≠ "collectionFormat")
    (hexplode : key ≠ "explode") : Fields.get? key (bareParameter fields) = fields.get? key := by
  have hbare : Fields.get? key ((fields.erases schemaKeywords).erase "collectionFormat") =
      fields.get? key := by
    rw [Fields.get?_erase_of_ne (Fields.nodup_erases hnodup) (Ne.symm hformat),
      Fields.get?_erases hkeyword hnodup]
  rw [bareParameter]
  split
  · exact (Fields.get?_insert_of_ne (Ne.symm hexplode) _ _).trans hbare
  · exact hbare

theorem get?_liftSchema {fields : Fields} (hnodup : (fields.map Prod.fst).Nodup) {key : String}
    (hkeyword : key ∉ schemaKeywords) (hformat : key ≠ "collectionFormat")
    (hexplode : key ≠ "explode") (hschema : key ≠ "schema") :
    Fields.get? key (liftSchema fields) = fields.get? key := by
  rw [liftSchema_eq]
  split
  · exact get?_bareParameter hnodup hkeyword hformat hexplode
  · rw [Fields.get?_insert_of_ne (Ne.symm hschema)]
    exact get?_bareParameter hnodup hkeyword hformat hexplode

theorem get?_schema_liftSchema {fields : Fields} (hnodup : (fields.map Prod.fst).Nodup)
    (hnone : fields.get? "schema" = none) : Fields.get? "schema" (liftSchema fields) =
      if (inlineSchema fields).isEmpty then none else some (.obj (inlineSchema fields)) := by
  rw [liftSchema_eq]
  split
  · rw [get?_bareParameter hnodup (by decide) (by decide) (by decide), hnone]
  · exact Fields.get?_insert_self _ _ _

/-- What a reader finds in a rewritten value, it finds in the value. -/
theorem exists_ok_of_modernize {α : Type} {reader : Json → Except ShapeFault α}
    [Indifferent reader] {old new : Option Json} (hnew : new = old.map modernize)
    (h : ∀ v, new = some v → ∃ a, reader v = .ok a) :
    ∀ v, old = some v → ∃ a, reader v = .ok a := by
  intro v hv
  obtain ⟨a, ha⟩ := h (modernize v) (by rw [hnew, hv]; rfl)
  exact ⟨a, (Indifferent.eq_ok_iff v a).mp ha⟩

theorem bind_bool?_modernize (x : Option Json) :
    (x.map modernize).bind Json.bool? = x.bind Json.bool? := by
  cases x with
  | none => rfl
  | some v => exact bool?_modernize v

theorem bind_str?_modernize (x : Option Json) :
    (x.map modernize).bind Json.str? = x.bind Json.str? := by
  cases x with
  | none => rfl
  | some v => exact str?_modernize v

/-- A head read from rewritten values is read from the values themselves. -/
theorem read_of_get?_eq {fields fields' : Fields} (hnodup : (fields.map Prod.fst).Nodup)
    (hnodup' : (fields'.map Prod.fst).Nodup)
    (hget : ∀ key ∈ positions, fields'.get? key = (fields.get? key).map modernize)
    {head : ParameterHead} (h : read (.obj fields') = .ok head) :
    read (.obj fields) = .ok head := by
  obtain ⟨hshaped, hsaid⟩ := (read_obj_eq_ok_iff hnodup').mp h
  have hname := hget "name" (by decide)
  have hcarrier := hget "in" (by decide)
  have hrequired := hget "required" (by decide)
  have hdeprecated := hget "deprecated" (by decide)
  have hdescription := hget "description" (by decide)
  refine (read_obj_eq_ok_iff hnodup).mpr ⟨?shaped, ?said⟩
  case shaped =>
    exact {
      name := exists_ok_of_modernize hname hshaped.name
      carrier := exists_ok_of_modernize hcarrier hshaped.carrier
      required := exists_ok_of_modernize hrequired hshaped.required
      deprecated := exists_ok_of_modernize hdeprecated hshaped.deprecated
      description := exists_ok_of_modernize hdescription hshaped.description }
  case said =>
    refine ⟨?_, ?_, ?_, ?_, ?_⟩
    · have hsome := hsaid.name
      rw [hname, Option.map_eq_some_iff] at hsome
      obtain ⟨v, hv, hmodern⟩ := hsome
      rw [hv]
      cases v <;> cases hmodern
      rfl
    · obtain ⟨w, hw, hc⟩ := hsaid.carrier
      rw [hcarrier, Option.map_eq_some_iff] at hw
      obtain ⟨v, hv, rfl⟩ := hw
      exact ⟨v, hv, (Indifferent.eq_ok_iff v _).mp hc⟩
    · rw [hsaid.required, hrequired, bind_bool?_modernize]
    · rw [hsaid.deprecated, hdeprecated, bind_bool?_modernize]
    · rw [hsaid.description, hdescription, bind_str?_modernize]

theorem read_modernize_arr {items : List Json} {head : ParameterHead} :
    read (modernize (.arr items)) = .ok head ↔ read (.arr items) = .ok head := by
  have hkeywords : ∀ p, readKeywords (positions.zip (modernizeItems items)) = .ok p ↔
      readKeywords (positions.zip items) = .ok p := by
    intro p
    rw [modernizeItems_eq_map, List.zip_map_right]
    exact foldlM_map_eq_ok_iff (fun field _ start next =>
      readKeyword_modernize_iff start field.1 field.2 next) {} p
  rw [modernize, ParameterHead.read, ParameterHead.read, bind_eq_ok_iff, bind_eq_ok_iff,
    modernizeItems_eq_map, List.length_map, ← modernizeItems_eq_map]
  exact exists_congr fun p => and_congr_left fun _ => hkeywords p

section Converted

variable {w : Json}

/-- The inline type of a parameter. -/
def inlineOf (w : Json) : Fields := inlineSchema (w.fields?.getD [])

theorem convertParameter_of_plain {fields : Fields} (h : fields.get? "$ref" = none) :
    convertParameter (.obj fields) = .obj (liftSchema fields) := by
  rw [convertParameter, Fields.contains, h]
  rfl

theorem convertParameter_of_reference {fields : Fields} {pointer : Json}
    (h : fields.get? "$ref" = some pointer) : convertParameter (.obj fields) = .obj fields := by
  rw [convertParameter, Fields.contains, h]
  rfl

/-- A parameter is a reference exactly if it was one. -/
theorem reference?_convertParameter (hwf : w.WellFormed) :
    (convertParameter w).reference? = w.reference? := by
  cases w with
  | obj fields =>
    cases href : Fields.get? "$ref" fields with
    | none =>
      rw [convertParameter_of_plain href]
      exact Fragment.reference?_of_get?_eq
        (get?_liftSchema hwf.1 (by decide) (by decide) (by decide) (by decide))
    | some pointer => rw [convertParameter_of_reference href]
  | _ => rfl

theorem convertParameter_of_typedInline {fields : Fields} (h : TypedInline (.obj fields))
    (hplain : isPlain (.obj fields) = true) :
    convertParameter (.obj fields) = .obj (liftSchema fields) :=
  convertParameter_of_plain (h.2 hplain).1

/-- A converted parameter is no reference, has the head that it had, and under `schema` its inline
type, if it has one. -/
theorem read_of_converted (hwf : w.WellFormed) (h : TypedInline w) (hplain : isPlain w = true)
    {head : ParameterHead} (hread : read (modernize (convertParameter w)) = .ok head) :
    read w = .ok head := by
  cases w with
  | obj fields =>
    rw [convertParameter_of_typedInline h hplain] at hread
    have hlifted := wellFormed_liftSchema hwf
    refine read_of_get?_eq hwf.1 (wellFormed_promoteNullable
      ⟨nodup_modernizeFields hlifted.1, wellFormed_modernizeFields hlifted.2⟩).1 ?_ hread
    intro key hkey
    have hget : Fields.get? key (promoteNullable (modernizeFields (liftSchema fields))) =
        (Fields.get? key (liftSchema fields)).map fun v => retargetField key (modernize v) := by
      refine get?_modernize (v := .obj (liftSchema fields)) hlifted ?_ ?_
      all_goals
        rintro rfl
        exact absurd hkey (by decide)
    have hne : ∀ other, other ∉ positions → key ≠ other := by
      rintro other hother rfl
      exact hother hkey
    have hkeyword : key ∉ schemaKeywords := by
      intro hmem
      have hapart : ∀ k ∈ positions, k ∉ schemaKeywords := by decide
      exact hapart key hkey hmem
    rw [hget, get?_liftSchema hwf.1 hkeyword (hne _ (by decide)) (hne _ (by decide))
      (hne _ (by decide))]
    congr 1
    funext v
    exact retargetField_of_ne (hne _ (by decide)) _
  | arr items => exact read_modernize_arr.mp hread
  | _ => exact hread

theorem get?_schema_converted (hwf : w.WellFormed) (h : TypedInline w) (hplain : isPlain w = true) :
    (modernize (convertParameter w)).get? "schema" =
      if (inlineOf w).isEmpty then none else some (modernize (.obj (inlineOf w))) := by
  cases w with
  | obj fields =>
    have hschema : Fields.get? "schema" fields = none := (h.2 hplain).2
    rw [convertParameter_of_typedInline h hplain,
      get?_modernize (wellFormed_liftSchema hwf) (by decide) (by decide)]
    show (Fields.get? "schema" (liftSchema fields)).map _ = _
    rw [get?_schema_liftSchema hwf.1 hschema]
    by_cases hempty : (inlineSchema fields).isEmpty = true
    · rw [if_pos hempty]
      exact (if_pos hempty).symm
    · rw [if_neg hempty]
      exact (if_neg hempty).symm
  | _ => rfl

end Converted

end ApiGraph.Legacy
