import ApiGraph.Legacy.Upgrade

/-!
# Destinations

An entry of a parameter list goes among the plain parameters, into the body or into the form.
A property of each of the three is a property of the sorted list as soon as every entry has
it where it goes, and then one of the request body that an operation gets.
-/

namespace ApiGraph.Legacy

/-- Where an entry goes that is no known reference. -/
def inlined (v : Json) : Destination :=
  match v.strAt? "in" with
  | some "body" => .body (.inline v)
  | some "formData" => .form v
  | _ => .plain (convertParameter v)

/-! ### Sorted lists as one -/

/-- What is put back into the list for an entry. -/
def Destination.plain? : Destination → Option Json
  | .plain p => some p
  | _ => none

/-- What an entry hands over as a body. -/
def Destination.body? : Destination → Option BodySource
  | .body source => some source
  | _ => none

/-- What an entry hands over as a field of the form. -/
def Destination.form? : Destination → Option Json
  | .form field => some field
  | _ => none

/-- The three parts of a sorted list: of the bodies the last one stays, and of the others all of
them in their order. -/
theorem sortParameters_eq_filterMap (around : Surroundings) (entries : List Json) :
    sortParameters around entries =
      { plain := entries.filterMap fun v => (destination around v).plain?
        body := (entries.filterMap fun v => (destination around v).body?).getLast?
        form := entries.filterMap fun v => (destination around v).form? } := by
  have hrun : ∀ s : Sorted, entries.foldl (fun s v => s.add (destination around v)) s =
      { plain := s.plain ++ entries.filterMap fun v => (destination around v).plain?
        body := (entries.filterMap fun v => (destination around v).body?).getLast?.or s.body
        form := s.form ++ entries.filterMap fun v => (destination around v).form? } := by
    induction entries with
    | nil => simp
    | cons v rest ih =>
      intro s
      rw [List.foldl_cons, ih]
      -- A later body, if there is one, takes the place of an earlier one.
      have hlast : ∀ source (later : List BodySource),
          (source :: later).getLast?.or s.body = later.getLast?.or (some source) := by
        intro source later
        rw [List.getLast?_cons]
        cases later.getLast? <;> rfl
      cases hdest : destination around v <;>
        simp only [List.filterMap_cons, hdest, Sorted.add, Destination.plain?, Destination.body?,
          Destination.form?, hlast, List.append_assoc, List.singleton_append]
  rw [sortParameters, hrun]
  simp

section Properties

variable (P : Json → Prop) (B : BodySource → Prop) (F : Json → Prop)

def Destination.All : Destination → Prop
  | .plain p => P p
  | .body source => B source
  | .form field => F field

/-- Everything that has been sorted has the property of its kind. -/
structure Sorted.All (s : Sorted) : Prop where
  plain : ∀ p ∈ s.plain, P p
  body : ∀ source, s.body = some source → B source
  form : ∀ field ∈ s.form, F field

end Properties

variable {P : Json → Prop} {B : BodySource → Prop} {F : Json → Prop} {around : Surroundings}

/-- An entry goes by the shared parameter that it names, if that is a body or a form field, and
otherwise by what it says of itself. -/
theorem Destination.all_destination {v : Json}
    (hbody : ∀ name ∈ around.bodies, sharedName? v = some name → B (.shared name))
    (hform : ∀ name field, around.forms.get? name = some field → F field)
    (hinlined : (∀ name, sharedName? v = some name →
      name ∉ around.bodies ∧ around.forms.get? name = none) → (inlined v).All P B F) :
    (destination around v).All P B F := by
  simp only [destination]
  split
  · next hnone => exact hinlined fun name hname => by cases hnone.symm.trans hname
  · next name hname =>
    split
    · next hmem => exact hbody name hmem hname
    · next hmem =>
      split
      · next field hfield => exact hform name field hfield
      · next hnone =>
        refine hinlined fun other hother => ?_
        cases hname.symm.trans hother
        exact ⟨hmem, hnone⟩

theorem Sorted.All.add {s : Sorted} (hs : s.All P B F) {d : Destination} (hd : d.All P B F) :
    (s.add d).All P B F := by
  cases d with
  | plain p =>
    refine ⟨fun q hq => ?_, hs.body, hs.form⟩
    rcases List.mem_append.mp hq with hq | hq
    · exact hs.plain q hq
    · exact List.mem_singleton.mp hq ▸ hd
  | body source =>
    refine ⟨hs.plain, fun other hother => ?_, hs.form⟩
    cases hother
    exact hd
  | form field =>
    refine ⟨hs.plain, hs.body, fun v hv => ?_⟩
    rcases List.mem_append.mp hv with hv | hv
    · exact hs.form v hv
    · exact List.mem_singleton.mp hv ▸ hd

theorem all_sortParameters {entries : List Json}
    (h : ∀ v ∈ entries, (destination around v).All P B F) :
    (sortParameters around entries).All P B F := by
  have hrun : ∀ s : Sorted, s.All P B F →
      (entries.foldl (fun s v => s.add (destination around v)) s).All P B F := by
    induction entries with
    | nil => exact fun _ hs => hs
    | cons v rest ih =>
      exact fun s hs => ih (fun w hw => h w (List.mem_cons_of_mem _ hw)) _
        (hs.add (h v List.mem_cons_self))
  exact hrun {} ⟨by simp, by simp, by simp⟩

theorem mem_mergeForms {own shared : List Json} {v : Json} (h : v ∈ mergeForms own shared) :
    v ∈ own ∨ v ∈ shared := by
  rw [mergeForms] at h
  induction shared generalizing own with
  | nil => exact Or.inl h
  | cons field rest ih =>
    rw [List.foldl_cons] at h
    split at h
    · exact (ih h).imp_right (List.mem_cons_of_mem _)
    · rcases ih h with hown | hrest
      · rcases List.mem_append.mp hown with hown | hnew
        · exact Or.inl hown
        · exact Or.inr (List.mem_singleton.mp hnew ▸ List.mem_cons_self)
      · exact Or.inr (List.mem_cons_of_mem _ hrest)

/-- The request body of an operation is made of a body or of form fields. -/
theorem operationBody?_induction {consumes : List String} {own shared : Sorted}
    {R : Json → Prop} (hsource : ∀ source, B source → R (source.requestBody consumes))
    (hform : ∀ form, (∀ v ∈ form, F v) → R (formBody consumes form)) (hown : own.All P B F)
    (hshared : shared.All P B F) {body : Json}
    (h : operationBody? consumes own shared = some body) : R body := by
  simp only [operationBody?] at h
  split at h
  · next source hbody =>
    cases h
    exact hsource source (hown.body source hbody)
  · split at h
    · obtain ⟨source, hbody, rfl⟩ := Option.map_eq_some_iff.mp h
      exact hsource source (hshared.body source hbody)
    · cases h
      exact hform _ fun v hv => (mem_mergeForms hv).elim (hown.form v) (hshared.form v)

end ApiGraph.Legacy
