import ApiGraph.Proofs.Graph.Listing

/-!
# Selecting responses

A response is selected among the entities of an operation, and an entry of the responses map
has an entity for each of its content types. So an entry without content takes no part: a
code that is declared without content falls back to `default` as if it were not there, and
an entry that has content is stood for by its first content type.

The key of a code is its decimal text, so at most one entry of a map is under a code and at
most one is the default. What is selected is then the first entity of that entry, whatever
stands around it; entries under classes of codes are passed over.
-/

namespace ApiGraph

open Outcome

namespace StatusKey

/-! ### Keys -/

theorem digit?_eq_some {c : Char} {n : Nat} (h : digit? c = some n) :
    n < 10 ∧ c = Nat.digitChar n := by
  rw [digit?] at h
  split at h
  · next hrange =>
    cases h
    have hlow : 48 ≤ c.toNat := hrange.1
    have hhigh : c.toNat ≤ 57 := hrange.2
    refine ⟨by omega, Char.toNat_inj.mp ?_⟩
    rw [Nat.toNat_digitChar_of_lt_ten (by omega)]
    omega
  · cases h

/-- The key of a code is three digits, and the first of them is one to five. -/
theorem exists_digits_of_parse? {key : String} {n : Nat} (h : parse? key = some (.code n)) :
    ∃ hundreds tens ones : Nat, 0 < hundreds ∧ hundreds ≤ 5 ∧ tens < 10 ∧ ones < 10 ∧
      key.toList = [hundreds.digitChar, tens.digitChar, ones.digitChar] ∧
      n = 100 * hundreds + 10 * tens + ones := by
  rw [parse?] at h
  split at h
  · cases h
  · split at h
    · next a b c hkey =>
      split at h
      · cases h
      · next hundreds ha =>
        split at h
        · cases h
        · next hbounds =>
          split at h
          · cases h
          · split at h
            · next tens ones hb hc =>
              cases h
              obtain ⟨_, rfl⟩ := digit?_eq_some ha
              obtain ⟨ht, rfl⟩ := digit?_eq_some hb
              obtain ⟨ho, rfl⟩ := digit?_eq_some hc
              exact ⟨hundreds, tens, ones, by omega, by omega, ht, ho, hkey, rfl⟩
            · cases h
    · cases h

/-- A code is declared under its decimal text only. -/
theorem eq_toString_of_parse? {key : String} {n : Nat} (h : parse? key = some (.code n)) :
    key = toString n := by
  obtain ⟨hundreds, tens, ones, _, hh, ht, ho, hkey, rfl⟩ := exists_digits_of_parse? h
  have hdigits : Nat.toDigits 10 (100 * hundreds + 10 * tens + ones) =
      [hundreds.digitChar, tens.digitChar, ones.digitChar] := by
    rw [show 100 * hundreds + 10 * tens + ones = 10 * (10 * hundreds + tens) + ones by omega,
      ← Nat.toDigits_append_toDigits (by omega) (by omega) ho,
      ← Nat.toDigits_append_toDigits (by omega) (by omega) ht,
      Nat.toDigits_of_lt_base (by omega : hundreds < 10), Nat.toDigits_of_lt_base ht,
      Nat.toDigits_of_lt_base ho]
    rfl
  rw [Nat.toString_eq_ofList_toDigits, hdigits, ← hkey, String.ofList_toList]

/-- A key has the number of its code, which is at least a hundred, and other keys have none. -/
theorem number_of_parse? {key : String} {status : StatusKey} (h : parse? key = some status) :
    (status.number = 0 ↔ status = .default ∨ ∃ hundreds, status = .range hundreds) ∧
      (status.number ≠ 0 → 100 ≤ status.number ∧ status.number ≤ 599) := by
  cases status with
  | code n =>
    obtain ⟨hundreds, tens, ones, _, _, _, _, _, rfl⟩ := exists_digits_of_parse? h
    simp only [number, reduceCtorEq, exists_const, or_false, iff_false]
    omega
  | range hundreds => simp [number]
  | default => simp [number]

theorem eq_default_of_parse? {key : String} (h : parse? key = some .default) :
    key = "default" := by
  rw [parse?] at h
  split at h
  · next hkey => exact hkey
  · repeat' split at h
    all_goals cases h

/-- The key of a class of codes is no number. -/
theorem exists_not_isDigit_of_parse? {key : String} {hundreds : Nat}
    (h : parse? key = some (.range hundreds)) : ∃ c ∈ key.toList, c.isDigit = false := by
  rw [parse?] at h
  split at h
  · cases h
  · split at h
    · next a b c hkey =>
      split at h
      · cases h
      · split at h
        · cases h
        · split at h
          · next hx =>
            rw [hkey]
            refine ⟨b, by simp, ?_⟩
            rcases hx.1 with rfl | rfl <;> rfl
          · split at h
            · cases h
            · cases h
    · cases h

theorem toString_injective {m n : Nat} (h : toString m = toString n) : m = n := by
  rw [Nat.toString_eq_ofList_toDigits, Nat.toString_eq_ofList_toDigits] at h
  have hdigits : Nat.toDigits 10 m = Nat.toDigits 10 n := String.ofList_injective h
  calc m = Nat.ofDigitChars 10 (Nat.toDigits 10 m) 0 := Nat.ofDigitChars_ten_toDigits.symm
    _ = Nat.ofDigitChars 10 (Nat.toDigits 10 n) 0 := by rw [hdigits]
    _ = n := Nat.ofDigitChars_ten_toDigits

/-- A decimal text is no class of codes and not the default, so if it is a key it is a code. -/
theorem eq_code_of_parse?_toString {n : Nat} {status : StatusKey}
    (h : parse? (toString n) = some status) : status = .code n := by
  have hdigit : ∀ c ∈ (toString n).toList, c.isDigit = true := by
    intro c hc
    rw [Nat.toString_eq_ofList_toDigits, String.toList_ofList] at hc
    exact Nat.isDigit_of_mem_toDigits (by omega) (by omega) hc
  cases status with
  | code m =>
    rw [toString_injective (eq_toString_of_parse? h)]
  | default =>
    rw [eq_default_of_parse? h] at hdigit
    exact absurd (hdigit 'd' (by decide)) (by decide)
  | range hundreds =>
    obtain ⟨c, hc, hnot⟩ := exists_not_isDigit_of_parse? h
    rw [hdigit c hc] at hnot
    cases hnot

end StatusKey

/-! ### The entities under one status -/

theorem find?_eq_head? {α : Type} {p : α → Bool} {xs : List α} (h : ∀ x ∈ xs, p x = true) :
    xs.find? p = xs.head? := by
  cases xs with
  | nil => rfl
  | cons x xs => rw [List.find?_cons_of_pos (h x List.mem_cons_self), List.head?_cons]

namespace Declaration

/-- One key, and no other, is read as a status. -/
def KeyOf (status : StatusKey) (key : String) : Prop :=
  ∀ k s, StatusKey.parse? k = some s → (s = status ↔ k = key)

theorem keyOf_code (n : Nat) : KeyOf (.code n) (toString n) := by
  intro k s hs
  constructor
  · rintro rfl
    exact StatusKey.eq_toString_of_parse? hs
  · rintro rfl
    exact StatusKey.eq_code_of_parse?_toString hs

theorem keyOf_default : KeyOf .default "default" := by
  intro k s hs
  constructor
  · rintro rfl
    exact StatusKey.eq_default_of_parse? hs
  · rintro rfl
    exact (Option.some.inj hs).symm

/-- Among groups of entities, one group for each entry, the first entity of a status is the first
one of the group under its key. -/
theorem find?_groups {R : String × Fragment → List ResponseDeclaration → Prop}
    (hR : ∀ e group, R e group →
      ∃ s, StatusKey.parse? e.1 = some s ∧ ∀ d ∈ group, d.status = s)
    {status : StatusKey} {key : String} (hkey : KeyOf status key)
    {entries : List (String × Fragment)} {groups : List (List ResponseDeclaration)}
    (h : List.Forall₂ R entries groups) (hnodup : (entries.map Prod.fst).Nodup) :
    (∃ raw group, (key, raw) ∈ entries ∧ R (key, raw) group ∧
      groups.flatten.find? (·.status == status) = group.head?) ∨
    (key ∉ entries.map Prod.fst ∧ groups.flatten.find? (·.status == status) = none) := by
  induction h with
  | nil => exact Or.inr ⟨List.not_mem_nil, rfl⟩
  | @cons e group entries groups hgroup _ ih =>
    obtain ⟨k, raw⟩ := e
    rw [List.map_cons, List.nodup_cons] at hnodup
    obtain ⟨s, hs, hstatus⟩ := hR _ _ hgroup
    rw [List.flatten_cons, List.find?_append]
    by_cases hk : k = key
    · subst hk
      have hrest : groups.flatten.find? (·.status == status) = none := by
        rcases ih hnodup.2 with ⟨raw', _, hmem, _⟩ | ⟨_, hnone⟩
        · exact absurd (List.mem_map.mpr ⟨_, hmem, rfl⟩) hnodup.1
        · exact hnone
      have hall : ∀ d ∈ group, (d.status == status) = true := by
        intro d hd
        rw [hstatus d hd, (hkey k s hs).mpr rfl, beq_self_eq_true]
      left
      refine ⟨raw, group, List.mem_cons_self, hgroup, ?_⟩
      rw [hrest, Option.or_none, find?_eq_head? hall]
    · have hnone : group.find? (·.status == status) = none := by
        rw [List.find?_eq_none]
        intro d hd heq
        exact hk ((hkey k s hs).mp ((hstatus d hd).symm.trans (beq_iff_eq.mp heq)))
      rw [hnone, Option.none_or]
      rcases ih hnodup.2 with ⟨raw', group', hmem, hR', hfind⟩ | ⟨hnot, hfind⟩
      · exact Or.inl ⟨raw', group', List.mem_cons_of_mem _ hmem, hR', hfind⟩
      · refine Or.inr ⟨?_, hfind⟩
        rw [List.map_cons, List.mem_cons, not_or]
        exact ⟨Ne.symm hk, hnot⟩

/-- The first content type under a key of the responses map, and the entry that declares it. -/
def FirstUnder (root : Json) (op : Fragment) (key : String) (entry : Fragment)
    (mimeType : String) : Prop :=
  ∃ map raw, op.field? "responses" = some map ∧ map.field? key = some raw ∧
    Reference.resolve root raw = .ok entry ∧
    (contentTypes entry.value).head? = some mimeType

/-- The entry under a key is there and has content. -/
def HasContent (root : Json) (op : Fragment) (key : String) : Prop :=
  ∃ entry mimeType, FirstUnder root op key entry mimeType

/-- What an entity says, its status apart. -/
structure StandsFor (root : Json) (entry : Fragment) (mimeType : String)
    (d : ResponseDeclaration) : Prop where
  mime : d.mimeType = mimeType
  description : d.description = entry.value.strAt? "description"
  schema : ∃ location, mediaSchema root entry mimeType location = .ok d.schema

/-- The first entity of a status stands for the first content type under its key, and there is
none if there is no content. -/
theorem find?_responses {root : Json} {op : Fragment} {location : String}
    {ds : List ResponseDeclaration} (hwf : op.value.WellFormed)
    (h : responses root op location = .ok ds) {status : StatusKey} {key : String}
    (hkey : KeyOf status key) :
    (∀ entry mimeType, FirstUnder root op key entry mimeType →
      ∃ d, ds.find? (·.status == status) = some d ∧ d.status = status ∧
        StandsFor root entry mimeType d) ∧
    (¬ HasContent root op key → ds.find? (·.status == status) = none) := by
  cases hmap : op.field? "responses" with
  | none =>
    rw [responses_of_field?_eq_none hmap] at h
    cases h
    refine ⟨?_, fun _ => rfl⟩
    rintro entry mimeType ⟨map, _, hmap', _⟩
    rw [hmap] at hmap'
    cases hmap'
  | some map =>
    obtain ⟨_, groups, hgroups, rfl⟩ := (responses_eq_ok_iff hmap).mp h
    have hmapwf := (Fragment.part_of_field? hmap).wellFormed hwf
    have hstatus : ∀ (e : String × Fragment) group,
        response root (Pointer.child location "responses") e.1 e.2 = .ok group →
        ∃ s, StatusKey.parse? e.1 = some s ∧ ∀ d ∈ group, d.status = s := by
      intro e group hgroup
      obtain ⟨s, entry, hs, _, hall⟩ := response_eq_ok_iff.mp hgroup
      refine ⟨s, hs, fun d hd => ?_⟩
      obtain ⟨_, _, _, _, rfl⟩ := exists_of_forall₂_mem hall.flip hd
      rfl
    rcases find?_groups hstatus hkey hgroups (Fragment.nodup_fields hmapwf) with
      ⟨raw, group, hmem, hgroup, hfind⟩ | ⟨hnot, hfind⟩
    · obtain ⟨s, entry, hs, hentry, hall⟩ := response_eq_ok_iff.mp hgroup
      have hraw : map.field? key = some raw := Fragment.field?_of_mem_fields hmapwf hmem
      rw [hfind]
      constructor
      · rintro entry' mimeType ⟨map', raw', hmap', hraw', hentry', hhead⟩
        cases hmap.symm.trans hmap'
        cases hraw.symm.trans hraw'
        cases hentry.symm.trans hentry'
        obtain ⟨rest, htypes⟩ := List.head?_eq_some_iff.mp hhead
        rw [htypes, List.forall₂_cons_left_iff] at hall
        obtain ⟨d, ds, ⟨schema, hschema, rfl⟩, _, rfl⟩ := hall
        exact ⟨_, rfl, ((hkey key s hs).mpr rfl), ⟨rfl, rfl, _, hschema⟩⟩
      · intro hnone
        cases htypes : contentTypes entry.value with
        | nil =>
          rw [htypes, List.forall₂_nil_left_iff] at hall
          rw [hall]
          rfl
        | cons mimeType rest =>
          exact absurd ⟨entry, mimeType, map, raw, hmap, hraw, hentry, by rw [htypes]; rfl⟩ hnone
    · refine ⟨?_, fun _ => hfind⟩
      rintro entry mimeType ⟨map', raw, hmap', hraw, _⟩
      cases hmap.symm.trans hmap'
      exact absurd (List.mem_map.mpr ⟨_, Fragment.mem_fields_of_field? hraw, rfl⟩) hnot

end Declaration

namespace Graph

open Declaration

/-- What is selected is an exact code or the default, never a class of codes. -/
theorem status_of_select {rs : List Response} {n : Nat} {r : Response}
    (h : Response.select rs n = some r) : r.status = .code n ∨ r.status = .default := by
  rw [Response.select, Option.or_eq_some_iff] at h
  rcases h with h | ⟨_, h⟩
  · exact Or.inl (beq_iff_eq.mp (List.find?_some (p := fun r : Response => r.status == _) h))
  · exact Or.inr (beq_iff_eq.mp (List.find?_some (p := fun r : Response => r.status == _) h))

/-- The first entity of a status, among the entities made of declarations. -/
theorem find?_map_status (ds : List ResponseDeclaration) (operation : Nat) (status : StatusKey) :
    (ds.map fun d => ({ d with operation } : Response)).find? (·.status == status) =
      (ds.find? (·.status == status)).map fun d => { d with operation } := by
  rw [List.find?_map]
  rfl

/-- **Selection follows the responses map.**  For an operation and the object that declares it:
an entry with content under the exact code is selected by its first content type; where there is
none, the default entry is, if it has content; and otherwise nothing is.  An entry under a class
of codes is never selected. -/
theorem responseFor?_follows_declaration {doc : Json} {g : Graph} (hwf : doc.WellFormed)
    (h : ofDocument doc = .ok g) {op : Operation} (hop : op ∈ g.operations) :
    ∃ node, DeclaredBy doc g op node ∧ ∀ n : Nat,
      (∀ entry mimeType, FirstUnder doc node (toString n) entry mimeType →
        ∃ r, g.responseFor? op n = some r ∧ r.operation = op.id ∧ r.status = .code n ∧
          StandsFor doc entry mimeType r.toResponseDeclaration) ∧
      (¬ HasContent doc node (toString n) → ∀ entry mimeType,
        FirstUnder doc node "default" entry mimeType →
        ∃ r, g.responseFor? op n = some r ∧ r.operation = op.id ∧ r.status = .default ∧
          StandsFor doc entry mimeType r.toResponseDeclaration) ∧
      (¬ HasContent doc node (toString n) → ¬ HasContent doc node "default" →
        g.responseFor? op n = none) ∧
      ∀ r, g.responseFor? op n = some r → ∀ hundreds, r.status ≠ .range hundreds := by
  obtain ⟨node, shared, location, rawNode, d, hdeclared, hnode, hlists, hread⟩ :=
    exists_declaredBy h hop
  refine ⟨node, hdeclared, fun n => ?_⟩
  obtain ⟨node', _, _, responses, _, hnode', _, _, _, hresponses, _, rfl⟩ :=
    operation_eq_ok_iff.mp hread
  cases hnode.symm.trans hnode'
  have hnodewf : node.value.WellFormed := hdeclared.wellFormed hwf
  have hselect : g.responseFor? op n =
      ((responses.find? (·.status == .code n)).map fun d =>
        ({ d with operation := op.id } : Response)).or
      ((responses.find? (·.status == .default)).map fun d => { d with operation := op.id }) := by
    rw [responseFor?, hlists.responsesOf, Response.select, find?_map_status, find?_map_status]
  obtain ⟨hcode, hnoCode⟩ := find?_responses hnodewf hresponses (keyOf_code n)
  obtain ⟨hdefault, hnoDefault⟩ := find?_responses hnodewf hresponses keyOf_default
  refine ⟨?_, ?_, ?_, ?_⟩
  · intro entry mimeType hfirst
    obtain ⟨d, hd, hstatus, hstands⟩ := hcode entry mimeType hfirst
    rw [hselect, hd]
    exact ⟨_, rfl, rfl, hstatus, hstands⟩
  · intro hnone entry mimeType hfirst
    obtain ⟨d, hd, hstatus, hstands⟩ := hdefault entry mimeType hfirst
    rw [hselect, hnoCode hnone, hd]
    exact ⟨_, rfl, rfl, hstatus, hstands⟩
  · intro hnone hnoFallback
    rw [hselect, hnoCode hnone, hnoDefault hnoFallback]
    rfl
  · intro r hr hundreds hrange
    rcases status_of_select hr with hs | hs
    · rw [hs] at hrange
      cases hrange
    · rw [hs] at hrange
      cases hrange

/-- An operation whose `204` is declared without content, beside a class of codes and a default. -/
def silentDocument : Json := .obj [("paths", .obj [("/a", .obj [("get", .obj [
  ("responses", .obj [
    ("204", .obj [("description", .str "nothing")]),
    ("2XX", .obj [("content", .obj [("text/html", .obj [])])]),
    ("default", .obj [("description", .str "any"), ("content", .obj [("text/plain", .obj []),
      ("text/html", .obj [])])]),
    ("404", .obj [("content", .obj [("text/html", .obj []), ("text/plain", .obj [])])])])])])])]

theorem responseFor?_follows_declaration_of_silentDocument :
    silentDocument.WellFormed ∧ ∃ g, ofDocument silentDocument = .ok g ∧ ∃ op ∈ g.operations,
      ∃ node, DeclaredBy silentDocument g op node ∧
        (∃ r, g.responseFor? op 404 = some r ∧ r.status = .code 404 ∧ r.mimeType = "text/html") ∧
        ∃ r, g.responseFor? op 201 = some r ∧ r.status = .default ∧ r.mimeType = "text/plain" := by
  have hwf : silentDocument.WellFormed := by
    simp [silentDocument, Json.WellFormed, Json.FieldsWellFormed]
  refine ⟨hwf, ?g, ?h, ?selected⟩
  case h =>
    cbv
    rfl
  case selected =>
    refine ⟨_, List.mem_singleton_self _, ?_⟩
    obtain ⟨node, hdeclared, hselect⟩ :=
      responseFor?_follows_declaration hwf (by cbv) (List.mem_singleton_self _)
    refine ⟨node, hdeclared, ?_⟩
    obtain ⟨_, _, _, _, _, hroute, hpaths, hmem, hitem, hfield, hnode⟩ := hdeclared
    cases hroute
    cases hpaths
    cases List.mem_singleton.mp hmem
    rw [Reference.resolve_of_not_reference rfl] at hitem
    cases hitem
    cases hfield
    rw [Reference.resolve_of_not_reference rfl] at hnode
    cases hnode
    obtain ⟨r, hr, _, hstatus, hstands⟩ := (hselect 404).1 _ _
      ⟨_, _, rfl, rfl, Reference.resolve_of_not_reference rfl, rfl⟩
    obtain ⟨r', hr', _, hstatus', hstands'⟩ := (hselect 201).2.1
      (by
        rintro ⟨_, _, _, _, hmap, hraw, _⟩
        cases hmap
        cases hraw) _ _ ⟨_, _, rfl, rfl, Reference.resolve_of_not_reference rfl, rfl⟩
    exact ⟨⟨r, hr, hstatus, hstands.mime⟩, r', hr', hstatus', hstands'.mime⟩

/-- A code that is declared without content is answered by the default entry all the same. -/
theorem default_selected_for_declared_code :
    ∃ g, ofDocument silentDocument = .ok g ∧ ∃ op ∈ g.operations, ∃ node entries raw r,
      DeclaredBy silentDocument g op node ∧ node.field? "responses" = some entries ∧
      entries.field? (toString 204) = some raw ∧
      g.responseFor? op 204 = some r ∧ r.status = .default := by
  refine ⟨?g, ?h, ?selected⟩
  case h =>
    cbv
    rfl
  case selected =>
    refine ⟨_, List.mem_singleton_self _, _, _, _, _, ⟨_, _, _, _, _, rfl, rfl,
      List.mem_singleton_self _, Reference.resolve_of_not_reference rfl, rfl,
      Reference.resolve_of_not_reference rfl⟩, rfl, rfl, rfl, rfl⟩

end Graph

end ApiGraph
