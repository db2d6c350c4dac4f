import ApiGraph.Proofs.Reference.Pointer
import ApiGraph.Proofs.Text.Escapes

/-!
# Pointers that are read back

A location is written by escaping tildes and slashes only, so it is read back but for the percent
escapes in its keys: these are read as the text that they spell, which is always a shorter one. The
locations that are read back exactly are therefore those whose keys have no percent escapes.

In the fragment of a URI, percent escapes are laid over those for slashes and tildes, and would be
taken away first. Here they are taken away last. The order makes no difference as long as the
characters that the inner escapes are written with, the tilde and the two digits, stay as they are.
-/

namespace ApiGraph.Pointer

/-! ### Locations -/

theorem keys_foldl_child (ks : List String) (base : String) :
    keys (ks.foldl child base) =
      keys base ++ ks.map fun key => String.ofList (Text.Percent.decode key.toList) := by
  induction ks generalizing base with
  | nil => exact (List.append_nil _).symm
  | cons key ks ih =>
    rw [List.foldl_cons, ih, child, keys_append, segments_encodeKey, List.append_assoc,
      List.map_cons, List.singleton_append]

theorem ofList_decode_eq_self_iff {key : String} :
    String.ofList (Text.Percent.decode key.toList) = key ↔
      ¬ Text.Percent.HasEscape key.toList := by
  rw [← Text.Percent.decode_eq_self_iff]
  constructor
  · intro h
    rw [← String.toList_inj] at h
    exact (String.toList_ofList).symm.trans h
  · intro h
    rw [h, String.ofList_toList]

/-- **Locations are read back exactly if and only if no key has a percent escape.** -/
theorem keys_foldl_child_eq_iff (ks : List String) :
    keys (ks.foldl child "#") = ks ↔ ∀ key ∈ ks, ¬ Text.Percent.HasEscape key.toList := by
  have hanchor : keys "#" = [] := rfl
  rw [keys_foldl_child, hanchor, List.nil_append]
  calc (ks.map fun key => String.ofList (Text.Percent.decode key.toList)) = ks
      ↔ (ks.map fun key => String.ofList (Text.Percent.decode key.toList)) = ks.map id := by
        rw [List.map_id]
    _ ↔ ∀ key ∈ ks, String.ofList (Text.Percent.decode key.toList) = key := List.map_inj_left
    _ ↔ ∀ key ∈ ks, ¬ Text.Percent.HasEscape key.toList := by
        simp only [ofList_decode_eq_self_iff]

example : ["", "a/b", "~", "~0", "~1", "50%", "%4", "é"].foldl child "#" =
      "#//a~1b/~0/~00/~01/50%/%4/é" ∧
    keys "#//a~1b/~0/~00/~01/50%/%4/é" = ["", "a/b", "~", "~0", "~1", "50%", "%4", "é"] := by
  cbv

/-! ### Fragments of URIs -/

/-- A set of characters whose escapes do not get in the way of those for slashes and tildes. -/
structure Escapable (escaped : Set Char) : Prop where
  percent : '%' ∈ escaped
  tilde : '~' ∉ escaped
  slash : '/' ∉ escaped
  zero : '0' ∉ escaped
  one : '1' ∉ escaped

/-- A key as a segment in the fragment of a URI, with escapes over those for slashes and tildes. -/
def SpellsKey (escaped : Set Char) (key segment : String) : Prop :=
  Text.Percent.Spells escaped (encodeKey key).toList segment.toList

/-- The pointer with an anchor and segments behind it. -/
def ofSegments (anchor : String) (segments : List String) : String :=
  segments.foldl (fun pointer segment => pointer ++ "/" ++ segment) anchor

section Escapable

variable {escaped : Set Char}

/-- What is left when the inner escapes are taken away spells the key itself. -/
theorem Escapable.spells_unescape (h : Escapable escaped) {cs text : List Char}
    (hspells : Text.Percent.Spells escaped (cs.flatMap encodeChar) text) :
    Text.Percent.Spells escaped cs (unescapeTilde (unescapeSlash text)) := by
  induction cs generalizing text with
  | nil =>
    cases hspells
    exact .nil
  | cons c cs ih =>
    rw [List.flatMap_cons, encodeChar.eq_def] at hspells
    split at hspells
    -- A tilde is left as it is, and so is the digit behind it, whatever the set escapes besides.
    · obtain ⟨_, rfl, hdigit⟩ := hspells.exists_of_not_mem h.tilde
      obtain ⟨_, rfl, hrest⟩ := hdigit.exists_of_not_mem h.zero
      exact .literal h.tilde (ih hrest)
    · obtain ⟨_, rfl, hdigit⟩ := hspells.exists_of_not_mem h.tilde
      obtain ⟨_, rfl, hrest⟩ := hdigit.exists_of_not_mem h.one
      exact .literal h.slash (ih hrest)
    · next htilde hslash =>
      cases hspells with
      | @literal _ _ text hmem hspells =>
        have hc : '~' ∉ [c] := fun hmem => htilde (List.mem_singleton.mp hmem).symm
        have hunescape : unescapeTilde (unescapeSlash (c :: text)) =
            c :: unescapeTilde (unescapeSlash text) := by
          rw [← List.singleton_append, unescapeSlash_append hc, unescapeTilde_append hc]
          rfl
        rw [hunescape]
        exact .literal hmem (ih hspells)
      | escape hmem hescapes hspells =>
        have hnone := hescapes.not_mem (x := '~') (by decide) (by decide)
        rw [unescapeSlash_append hnone, unescapeTilde_append hnone]
        exact .escape hmem hescapes (ih hspells)

theorem Escapable.segments_eq (h : Escapable escaped) {key segment : String}
    (hspells : SpellsKey escaped key segment) : segments segment = [key] := by
  have hslash : '/' ∉ segment.toList :=
    hspells.not_mem (slash_not_mem_encodeKey key) (by decide) (by decide)
  have hkey : Text.Percent.Spells escaped key.toList
      (unescapeTilde (unescapeSlash segment.toList)) := by
    refine h.spells_unescape ?_
    rw [← String.toList_ofList (l := key.toList.flatMap encodeChar)]
    exact hspells
  rw [segments, Text.splitOn_of_not_mem hslash, List.map_singleton, decodeChars,
    hkey.decode_eq h.percent, String.ofList_toList]

theorem Escapable.keys_ofSegments (h : Escapable escaped) {ks segments : List String}
    (hspells : List.Forall₂ (SpellsKey escaped) ks segments) (anchor : String) :
    keys (ofSegments anchor segments) = keys anchor ++ ks := by
  induction hspells generalizing anchor with
  | nil => exact (List.append_nil _).symm
  | @cons key segment ks segments hkey _ ih =>
    show keys (ofSegments (anchor ++ "/" ++ segment) segments) = _
    rw [ih, keys_append, h.segments_eq hkey, List.append_assoc, List.singleton_append]

open Classical in
theorem exists_spellsKey (escaped : Set Char) (key : String) :
    ∃ segment, SpellsKey escaped key segment := by
  have hwritten := Text.Percent.spells_encode escaped (encodeKey key).toList
  rw [← String.toList_ofList (l := Text.Percent.encode _ _)] at hwritten
  exact ⟨_, hwritten⟩

/-- **Pointers in fragments of URIs are read back, however they are spelled.**  Every key has a
spelling, and the keys of a pointer are those that its segments spell, behind the anchor and behind
no anchor at all. -/
theorem keys_ofSegments_of_spelled (h : Escapable escaped) :
    (∀ key, ∃ segment, SpellsKey escaped key segment) ∧
    ∀ ks segments, List.Forall₂ (SpellsKey escaped) ks segments →
      keys (ofSegments "#" segments) = ks ∧ keys (ofSegments "" segments) = ks := by
  refine ⟨exists_spellsKey escaped, fun ks segments hspells => ⟨?_, ?_⟩⟩
  · exact h.keys_ofSegments hspells "#"
  · exact h.keys_ofSegments hspells ""

/-- Digits of both cases in one character, and a key that looks like an escape itself. -/
theorem keys_ofSegments_of_mixed_digits :
    let escaped : Set Char := {'%', 'é'}
    Escapable escaped ∧
    List.Forall₂ (SpellsKey escaped) ["~é/", "%2F"] ["~0%c3%A9~1", "%252F"] ∧
    keys "#/~0%c3%A9~1/%252F" = ["~é/", "%2F"] ∧ keys "/~0%c3%A9~1/%252F" = ["~é/", "%2F"] := by
  intro escaped
  have h : Escapable escaped := by
    constructor <;> simp [escaped]
  have hdigits : Text.Percent.SpellsBytes (Text.Utf8.encodeChar 'é')
      ['%', 'c', '3', '%', 'A', '9'] :=
    .cons (Or.inl rfl) (Or.inl rfl) (.cons (Or.inr rfl) (Or.inl rfl) .nil)
  have hpercent : Text.Percent.SpellsBytes (Text.Utf8.encodeChar '%') ['%', '2', '5'] :=
    .cons (Or.inl rfl) (Or.inl rfl) .nil
  have hplain : ∀ c ∈ ['~', '/', '0', '1', '2', 'F'], c ∉ escaped := by simp [escaped]
  have hfirst : SpellsKey escaped "~é/" "~0%c3%A9~1" :=
    .literal (hplain _ (by decide)) <| .literal (hplain _ (by decide)) <|
      .escape (by simp [escaped]) hdigits <| .literal (hplain _ (by decide)) <|
      .literal (hplain _ (by decide)) .nil
  have hsecond : SpellsKey escaped "%2F" "%252F" :=
    .escape h.percent hpercent <| .literal (hplain _ (by decide)) <|
      .literal (hplain _ (by decide)) .nil
  have hspells : List.Forall₂ (SpellsKey escaped) ["~é/", "%2F"] ["~0%c3%A9~1", "%252F"] :=
    .cons hfirst (.cons hsecond .nil)
  exact ⟨h, hspells, (keys_ofSegments_of_spelled h).2 _ _ hspells⟩

end Escapable

end ApiGraph.Pointer
