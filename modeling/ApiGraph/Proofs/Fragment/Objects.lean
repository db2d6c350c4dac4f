import ApiGraph.Proofs.Fragment.Parts

/-!
# Properties of all objects

Some conditions on a document speak of every object in it, at whatever depth. They hold of the
parts of a value if they hold of the value.
-/

namespace ApiGraph

namespace Json

mutual

/-- Every object at and below a value has a property of its fields. -/
def EveryObject (p : Fields → Prop) : Json → Prop
  | .arr items => EveryObjectOfItems p items
  | .obj fields => p fields ∧ EveryObjectOfFields p fields
  | _ => True

def EveryObjectOfItems (p : Fields → Prop) : List Json → Prop
  | [] => True
  | v :: rest => EveryObject p v ∧ EveryObjectOfItems p rest

def EveryObjectOfFields (p : Fields → Prop) : List (String × Json) → Prop
  | [] => True
  | (_, v) :: rest => EveryObject p v ∧ EveryObjectOfFields p rest

end

variable {p q : Fields → Prop}

mutual

theorem EveryObject.mono (hpq : ∀ fields, p fields → q fields) :
    ∀ {v : Json}, v.EveryObject p → v.EveryObject q
  | .arr _, h => everyObjectOfItems_mono hpq h
  | .obj fields, h => ⟨hpq fields h.1, everyObjectOfFields_mono hpq h.2⟩
  | .null, _ => trivial
  | .bool _, _ => trivial
  | .num _, _ => trivial
  | .str _, _ => trivial

theorem everyObjectOfItems_mono (hpq : ∀ fields, p fields → q fields) :
    ∀ {items : List Json}, EveryObjectOfItems p items → EveryObjectOfItems q items
  | [], _ => trivial
  | _ :: _, h => ⟨h.1.mono hpq, everyObjectOfItems_mono hpq h.2⟩

theorem everyObjectOfFields_mono (hpq : ∀ fields, p fields → q fields) :
    ∀ {fields : Fields}, EveryObjectOfFields p fields → EveryObjectOfFields q fields
  | [], _ => trivial
  | (_, _) :: _, h => ⟨h.1.mono hpq, everyObjectOfFields_mono hpq h.2⟩

end

theorem everyObject_of_mem_items {items : List Json} (h : EveryObjectOfItems p items) {v : Json}
    (hv : v ∈ items) : EveryObject p v := by
  induction items with
  | nil => cases hv
  | cons w rest ih =>
    rcases List.mem_cons.mp hv with rfl | hv
    · exact h.1
    · exact ih h.2 hv

theorem everyObject_of_mem_fields {fields : Fields} (h : EveryObjectOfFields p fields)
    {key : String} {v : Json} (hv : (key, v) ∈ fields) : EveryObject p v := by
  induction fields with
  | nil => cases hv
  | cons field rest ih =>
    rcases List.mem_cons.mp hv with heq | hv
    · cases heq
      exact h.1
    · exact ih h.2 hv

theorem everyObject_arr_iff {items : List Json} :
    (arr items).EveryObject p ↔ ∀ v ∈ items, v.EveryObject p := by
  refine ⟨fun h v hv => everyObject_of_mem_items h hv, fun h => ?_⟩
  show EveryObjectOfItems p items
  induction items with
  | nil => trivial
  | cons v rest ih =>
    exact ⟨h v List.mem_cons_self, ih fun w hw => h w (List.mem_cons_of_mem _ hw)⟩

theorem everyObject_obj_iff {fields : Fields} :
    (obj fields).EveryObject p ↔ p fields ∧ ∀ key v, (key, v) ∈ fields → v.EveryObject p := by
  refine and_congr_right' ⟨fun h key v hv => everyObject_of_mem_fields h hv, fun h => ?_⟩
  induction fields with
  | nil => trivial
  | cons field rest ih =>
    exact ⟨h _ _ List.mem_cons_self, ih fun k w hw => h k w (List.mem_cons_of_mem _ hw)⟩

end Json

theorem Fragment.Part.everyObject {p : Fields → Prop} {f g : Fragment} (h : Part g f)
    (hf : f.value.EveryObject p) : g.value.EveryObject p := by
  cases h with
  | field hv => exact Json.everyObject_of_mem_fields hf.2 hv
  | item hv => exact Json.everyObject_of_mem_items hf (List.mem_of_getElem? hv)

end ApiGraph
