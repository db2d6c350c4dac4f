import ApiGraph.Proofs.Schema.Descriptor
import ApiGraph.Proofs.Validation.Positions

/-!
# Keywords that validation lets through

Of the keywords that a descriptor is read from, validation looks at some and passes over
the others. What it has no complaint about can be read; of what it passes over, `Scalar`
says which type the reader needs. Between them they cover every keyword a reader knows, so
a schema object in order has a descriptor.
-/

namespace ApiGraph.Validation

open Outcome

/-- The types that readers need of keywords which validation does not look at. -/
inductive Scalar where
  | flag
  | text
  | number
  | bound
  deriving DecidableEq, Repr

def Scalar.Holds : Scalar → Json → Prop
  | flag, v => ∃ b, v = .bool b
  | text, v => v = .null ∨ ∃ s, v = .str s
  | number, v => v = .null ∨ ∃ n, v = .num n
  | bound, v => v = .null ∨ (∃ b, v = .bool b) ∨ ∃ n, v = .num n

/-- The keywords of a role that validation does not look at, with the types they need. -/
def Role.scalars : Role → List (String × Scalar)
  | parameter => [("required", .flag), ("deprecated", .flag), ("description", .text)]
  | schema =>
    [("format", .text), ("description", .text), ("title", .text), ("nullable", .flag),
     ("deprecated", .flag), ("readOnly", .flag), ("writeOnly", .flag), ("uniqueItems", .flag),
     ("minimum", .number), ("maximum", .number), ("exclusiveMinimum", .bound),
     ("exclusiveMaximum", .bound)]
  | response => []
  | body => []

section Keywords

open Shape

variable {v : Json}

theorem optional_eq_ok {α : Type} {read : Json → Except ShapeFault α} {a : α} (hv : v ≠ .null)
    (h : read v = .ok a) : optional read v = .ok (some a) :=
  Descriptor.optional_eq_ok_iff.mpr (Or.inr ⟨hv, a, h, rfl⟩)

theorem exists_kind (h : typeComplaint v = none) :
    ∃ k, optional (choice Kind.choices) v = .ok k := by
  cases v with
  | str name =>
    rw [typeComplaint] at h
    have hknown : name ∈ Kind.all.map Kind.name := by
      by_contra hunknown
      rw [if_neg hunknown] at h
      cases h
    obtain ⟨kind, _, rfl⟩ := List.mem_map.mp hknown
    refine ⟨some kind, optional_eq_ok (by simp) ?_⟩
    cases kind <;> rfl
  | _ => cases h

theorem exists_strings (h : requiredComplaint v = none) : ∃ names, strings v = .ok names := by
  cases v with
  | arr items =>
    rw [requiredComplaint] at h
    have hall : ∀ item ∈ items, ∃ s, string item = .ok s := by
      intro item hitem
      have hstrings : items.all Json.isStr = true := by
        by_contra hnot
        rw [if_neg hnot] at h
        cases h
      have hstr := List.all_eq_true.mp hstrings item hitem
      cases item with
      | str s => exact ⟨s, rfl⟩
      | _ => cases hstr
    obtain ⟨names, hnames⟩ := exists_forall₂ hall
    exact ⟨names, mapM_eq_ok_iff.mpr hnames⟩
  | _ => cases h

theorem exists_sequence (h : enumComplaint v = none) : ∃ items, sequence v = .ok items := by
  cases v with
  | arr items => exact ⟨items, rfl⟩
  | _ => cases h

theorem exists_multiple (h : multipleComplaint v = none) : ∃ x, optional real v = .ok x := by
  cases v with
  | num n => exact ⟨some n.toBinary64, rfl⟩
  | _ => cases h

theorem exists_count (h : boundComplaint v = none) :
    v ≠ .null ∧ ∃ n, count v = .ok n := by
  rw [boundComplaint] at h
  have hsome : (v.num?.bind Json.Number.toCount?).isSome = true := by
    by_contra hnot
    rw [if_neg hnot] at h
    cases h
  cases v with
  | num n =>
    refine ⟨by simp, ?_⟩
    cases n with
    | int n =>
      have hnonneg : ¬ n < 0 := by
        intro hneg
        have hnot : ¬ 0 ≤ n := by omega
        simp [Json.num?, Json.Number.toCount?, hnot] at hsome
      exact ⟨n.toNat, by rw [count, if_neg hnonneg]⟩
    | float x => cases hsome
  | _ => cases hsome

theorem exists_pattern [Pattern.Checker] (h : patternComplaint v = none) :
    ∃ s, optional string v = .ok s := by
  cases v with
  | str s => exact ⟨some s, rfl⟩
  | _ => cases h

theorem Scalar.exists_flag (h : Scalar.Holds .flag v) : ∃ b, boolean v = .ok b := by
  obtain ⟨b, rfl⟩ := h
  exact ⟨b, rfl⟩

theorem Scalar.exists_text (h : Scalar.Holds .text v) : ∃ s, optional string v = .ok s := by
  obtain rfl | ⟨s, rfl⟩ := h
  · exact ⟨none, rfl⟩
  · exact ⟨some s, rfl⟩

theorem Scalar.exists_number (h : Scalar.Holds .number v) : ∃ x, optional real v = .ok x := by
  obtain rfl | ⟨n, rfl⟩ := h
  · exact ⟨none, rfl⟩
  · exact ⟨some n.toBinary64, rfl⟩

theorem Scalar.exists_bound (h : Scalar.Holds .bound v) :
    ∃ b, optional ExclusiveBound.read v = .ok b := by
  obtain rfl | ⟨b, rfl⟩ | ⟨n, rfl⟩ := h
  · exact ⟨none, rfl⟩
  · exact ⟨some (.flag b), rfl⟩
  · exact ⟨some (.limit n.toBinary64), rfl⟩

variable [Pattern.Checker]

/-- What the check of a schema has found of a keyword that is in order. -/
structure InOrder (fields : Fields) : Prop where
  type : ∀ v, fields.get? "type" = some v → typeComplaint v = none
  required : ∀ v, fields.get? "required" = some v → requiredComplaint v = none
  enum : ∀ v, fields.get? "enum" = some v → enumComplaint v = none
  multiple : ∀ v, fields.get? "multipleOf" = some v → multipleComplaint v = none
  counts : ∀ key ∈ countKeywords, ∀ v, fields.get? key = some v → boundComplaint v = none
  pattern : ∀ v, fields.get? "pattern" = some v → patternComplaint v = none

theorem inOrder_of_schemaFieldIssues {fields : Fields} {location : String}
    (h : schemaFieldIssues fields location = []) : InOrder fields := by
  simp only [schemaFieldIssues, keywordIssues, List.append_eq_nil_iff] at h
  obtain ⟨⟨htype, _⟩, ⟨⟨⟨hrequired, henum⟩, hmultiple⟩, hcounts⟩, hpattern⟩ := h
  exact {
    type := fun _ hv => check_eq_nil htype hv
    required := fun _ hv => check_eq_nil hrequired hv
    enum := fun _ hv => check_eq_nil henum hv
    multiple := fun _ hv => check_eq_nil hmultiple hv
    counts := fun key hk _ hv => check_eq_nil (List.flatMap_eq_nil_iff.mp hcounts key hk) hv
    pattern := fun _ hv => check_eq_nil hpattern hv }

/-- Each keyword of a schema is known to its reader, to validation, or is of a plain type. -/
theorem InOrder.exists_readKeyword {fields : Fields} (h : InOrder fields)
    (hscalars : ∀ key kind w, (key, kind) ∈ Role.schema.scalars → fields.get? key = some w →
      Scalar.Holds kind w) {key : String} (hv : fields.get? key = some v) :
    ∃ d, Descriptor.readKeyword {} key v = .ok d := by
  have hread : ∀ {α : Type} {r : Except ShapeFault α} {put : α → Descriptor},
      (∃ a, r = .ok a) → ∃ d, (do return put (← r) : Except ShapeFault Descriptor) = .ok d := by
    rintro α r put ⟨a, ha⟩
    exact ⟨put a, bind_eq_ok_iff.mpr ⟨a, ha, rfl⟩⟩
  have hcount : key ∈ countKeywords → ∃ n, count v = .ok n := fun hk =>
    (exists_count (h.counts key hk v hv)).2
  have hlimit : key ∈ countKeywords → ∃ n, optional count v = .ok n := fun hk => by
    obtain ⟨hnull, n, hn⟩ := exists_count (h.counts key hk v hv)
    exact ⟨some n, optional_eq_ok hnull hn⟩
  have hflag : (key, Scalar.flag) ∈ Role.schema.scalars → ∃ b, boolean v = .ok b := fun hk =>
    Scalar.exists_flag (hscalars key _ v hk hv)
  have htext : (key, Scalar.text) ∈ Role.schema.scalars → ∃ s, optional string v = .ok s :=
    fun hk => Scalar.exists_text (hscalars key _ v hk hv)
  have hnumber : (key, Scalar.number) ∈ Role.schema.scalars → ∃ x, optional real v = .ok x :=
    fun hk => Scalar.exists_number (hscalars key _ v hk hv)
  have hbound : (key, Scalar.bound) ∈ Role.schema.scalars →
      ∃ b, optional ExclusiveBound.read v = .ok b := fun hk =>
    Scalar.exists_bound (hscalars key _ v hk hv)
  have hany : ∃ w, optional pure v = .ok w := by
    cases v with
    | null => exact ⟨none, rfl⟩
    | _ => exact ⟨some _, rfl⟩
  unfold Descriptor.readKeyword
  split
  · exact hread (exists_kind (h.type v hv))
  · exact hread (htext (by decide))
  · exact hread (htext (by decide))
  · exact hread (htext (by decide))
  · exact hread hany
  · exact hread hany
  · exact hread (hflag (by decide))
  · exact hread (hflag (by decide))
  · exact hread (hflag (by decide))
  · exact hread (hflag (by decide))
  · exact hread (exists_sequence (h.enum v hv))
  · exact hread (exists_multiple (h.multiple v hv))
  · exact hread (hnumber (by decide))
  · exact hread (hbound (by decide))
  · exact hread (hnumber (by decide))
  · exact hread (hbound (by decide))
  · exact hread (hlimit (by decide))
  · exact hread (hcount (by decide))
  · exact hread (exists_pattern (h.pattern v hv))
  · exact hread (hlimit (by decide))
  · exact hread (hcount (by decide))
  · exact hread (hflag (by decide))
  · exact hread (hlimit (by decide))
  · exact hread (hcount (by decide))
  · exact hread (exists_strings (h.required v hv))
  · exact ⟨{}, rfl⟩

end Keywords

end ApiGraph.Validation
