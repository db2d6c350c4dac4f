import ApiGraph.Graph.Status
import ApiGraph.Issue
import ApiGraph.Pattern.Checker
import ApiGraph.Pointer
import ApiGraph.Schema.Descriptor

/-!
# Schema issues

A schema is checked together with every schema below it. The check never gives up:
each position contributes its own issues, in a fixed order of keywords, whatever was
found before.

References are not followed. A reference only has to be a string that points into a
document. Patterns are left to a checker, whose objections are passed on.
-/

namespace ApiGraph.Validation

/-- Issues of a `$ref` entry, if there is one. -/
def referenceIssues? (fields : Fields) (location : String) : Option (List Issue) :=
  (fields.get? "$ref").map fun target =>
    let at_ := Pointer.child location "$ref"
    match target with
    | .str pointer =>
      if Pointer.isLocal pointer then [] else [⟨at_, .unsupportedReference pointer⟩]
    | _ => [⟨at_, .mustBe "a string"⟩]

/-- What stands at a keyword that may hold schemas. -/
inductive Part where
  | schema (v : Json) (location : String)
  | issue (i : Issue)

def memberParts (fields : Fields) (location key : String) : List Part :=
  let base := Pointer.child location key
  match fields.get? key with
  | none => []
  | some (.arr members) => members.mapIdx fun i v => .schema v (Pointer.item base i)
  | some _ => [.issue ⟨base, .mustBe "an array"⟩]

def childParts (fields : Fields) (location key : String) : List Part :=
  ((fields.get? key).map fun v => Part.schema v (Pointer.child location key)).toList

def additionalParts (fields : Fields) (location : String) : List Part :=
  match fields.get? "additionalProperties" with
  | some (.obj fs) => [.schema (.obj fs) (Pointer.child location "additionalProperties")]
  | _ => []

def propertyParts (fields : Fields) (location : String) : List Part :=
  let base := Pointer.child location "properties"
  match fields.get? "properties" with
  | none => []
  | some (.obj properties) => properties.map fun (name, v) => .schema v (Pointer.child base name)
  | some _ => [.issue ⟨base, .mustBe "an object"⟩]

/-- The schemas below a schema object, in the order of their keywords. -/
def parts (fields : Fields) (location : String) : List Part :=
  memberParts fields location "allOf" ++
  memberParts fields location "oneOf" ++
  memberParts fields location "anyOf" ++
  childParts fields location "not" ++
  childParts fields location "items" ++
  additionalParts fields location ++
  propertyParts fields location

theorem sizeOf_get? {fields : Fields} {key : String} {v : Json} (h : fields.get? key = some v) :
    sizeOf v < sizeOf fields := by
  induction fields with
  | nil => simp [Fields.get?] at h
  | cons field rest ih =>
    obtain ⟨k, w⟩ := field
    simp only [Fields.get?] at h
    split at h
    · cases h
      simp only [List.cons.sizeOf_spec, Prod.mk.sizeOf_spec]
      omega
    · have := ih h
      simp only [List.cons.sizeOf_spec]
      omega

theorem sizeOf_part {fields : Fields} {location at_ : String} {v : Json}
    (h : Part.schema v at_ ∈ parts fields location) : sizeOf v < sizeOf (Json.obj fields) := by
  have base : ∀ {key w}, fields.get? key = some w → sizeOf w < sizeOf (Json.obj fields) :=
    fun {_ _} hw => by
      have := sizeOf_get? hw
      simp only [Json.obj.sizeOf_spec]
      omega
  have members : ∀ {key}, Part.schema v at_ ∈ memberParts fields location key →
      sizeOf v < sizeOf (Json.obj fields) := by
    intro key hm
    unfold memberParts at hm
    split at hm
    · simp at hm
    · rename_i items hk
      obtain ⟨i, hi, he⟩ := List.mem_mapIdx.mp hm
      cases he
      have := base hk
      have := List.sizeOf_lt_of_mem (List.getElem_mem hi)
      simp only [Json.arr.sizeOf_spec] at *
      omega
    · simp at hm
  have single : ∀ {key}, Part.schema v at_ ∈ childParts fields location key →
      sizeOf v < sizeOf (Json.obj fields) := by
    intro key hm
    simp only [childParts, Option.mem_toList, Option.map_eq_some_iff] at hm
    obtain ⟨w, hw, he⟩ := hm
    cases he
    exact base hw
  simp only [parts, List.mem_append] at h
  rcases h with (((((h | h) | h) | h) | h) | h) | h
  · exact members h
  · exact members h
  · exact members h
  · exact single h
  · exact single h
  · unfold additionalParts at h
    split at h
    · rename_i fs hk
      simp only [List.mem_singleton] at h
      cases h
      exact base hk
    · simp at h
  · unfold propertyParts at h
    split at h
    · simp at h
    · rename_i properties hk
      simp only [List.mem_map, Part.schema.injEq] at h
      obtain ⟨p, hp, rfl, -⟩ := h
      have := base hk
      have := List.sizeOf_lt_of_mem hp
      have hs : sizeOf p = 1 + sizeOf p.1 + sizeOf p.2 := rfl
      simp only [Json.obj.sizeOf_spec] at *
      omega
    · simp at h

/-- Issues of a keyword, if it is there and a test rejects its value. -/
def check (fields : Fields) (location key : String) (complaint : Json → Option Complaint) :
    List Issue :=
  (((fields.get? key).bind complaint).map fun c => ⟨Pointer.child location key, c⟩).toList

def typeComplaint (v : Json) : Option Complaint :=
  match v with
  | .str name => if name ∈ Kind.all.map Kind.name then none else some (.invalidType v)
  | _ => some (.invalidType v)

def requiredComplaint (v : Json) : Option Complaint :=
  match v with
  | .arr names => if names.all Json.isStr then none else some (.mustBe "an array of strings")
  | _ => some (.mustBe "an array of strings")

def enumComplaint (v : Json) : Option Complaint :=
  match v with
  | .arr (_ :: _) => none
  | _ => some (.mustBe "a non-empty array")

def multipleComplaint (v : Json) : Option Complaint :=
  match v with
  | .num n => if n.toBinary64.isPositive then none else some (.mustBe "a number greater than 0")
  | _ => some (.mustBe "a number greater than 0")

def boundComplaint (v : Json) : Option Complaint :=
  if (v.num?.bind Json.Number.toCount?).isSome then none
  else some (.mustBe "a non-negative integer")

variable [Pattern.Checker]

def patternComplaint (v : Json) : Option Complaint :=
  match v with
  | .str p => (Pattern.Checker.objection? p).map .invalidPattern
  | _ => some (.mustBe "a string")

/-- The bounds that count something. -/
def countKeywords : List String :=
  ["maxLength", "minLength", "maxItems", "minItems", "maxProperties", "minProperties"]

/-- Issues of the keywords that hold no schemas, apart from the type. -/
def keywordIssues (fields : Fields) (location : String) : List Issue :=
  check fields location "required" requiredComplaint ++
  check fields location "enum" enumComplaint ++
  check fields location "multipleOf" multipleComplaint ++
  (countKeywords.flatMap fun key => check fields location key boundComplaint) ++
  check fields location "pattern" patternComplaint

def schemaIssues (schema : Json) (location : String) : List Issue :=
  match schema with
  | .obj fields =>
    match referenceIssues? fields location with
    | some issues => issues
    | none =>
      check fields location "type" typeComplaint ++
      ((parts fields location).attach.flatMap fun ⟨part, _⟩ =>
        match part with
        | .schema v at_ => schemaIssues v at_
        | .issue i => [i]) ++
      keywordIssues fields location
  | _ => [⟨location, .notAnObject "schema"⟩]
termination_by sizeOf schema
decreasing_by exact sizeOf_part ‹_›

end ApiGraph.Validation
