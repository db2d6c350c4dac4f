import ApiGraph.Pointer
import ApiGraph.Proofs.Text.Utf8

/-!
# Keys of pointers

The keys of a pointer are read segment by segment, so a pointer that begins with the pointer
of a section has the keys of the section first, and then those of what follows. A key without
slashes, tildes and percent signs is a segment that is read back as it is. Every other key is read
back from the segment that is written for it, unless a percent escape stands in it.
-/

namespace ApiGraph

theorem Text.splitOn_append_cons (separator : Char) (front rest : List Char) :
    splitOn separator (front ++ separator :: rest) =
      splitOn separator front ++ splitOn separator rest := by
  induction front with
  | nil => simp [splitOn]
  | cons c front ih =>
    rw [List.cons_append, splitOn, splitOn, ih]
    by_cases hc : c = separator
    · rw [if_pos hc, if_pos hc, List.cons_append]
    · rw [if_neg hc, if_neg hc]
      cases hfront : splitOn separator front with
      | nil => exact absurd hfront (splitOn_ne_nil separator front)
      | cons piece pieces => rfl

theorem Text.splitOn_of_not_mem {separator : Char} {cs : List Char} (h : separator ∉ cs) :
    splitOn separator cs = [cs] := by
  induction cs with
  | nil => rfl
  | cons c cs ih =>
    rw [List.mem_cons, not_or] at h
    rw [splitOn, if_neg (Ne.symm h.1), ih h.2]

theorem Text.join_cons_of_ne_nil {separator piece : String} {rest : List String} (h : rest ≠ []) :
    join separator (piece :: rest) = piece ++ separator ++ join separator rest :=
  String.intercalate_cons_of_ne_nil h

theorem Text.isDigit_of_mem_toString {n : Nat} {c : Char} (h : c ∈ (toString n).toList) :
    c.isDigit = true := by
  rw [Nat.toString_eq_ofList_toDigits, String.toList_ofList] at h
  exact Nat.isDigit_of_mem_toDigits (by omega) (by omega) h

/-- Digits without a sign are read one by one. -/
theorem Text.natural?_of_digits {cs : List Char} (hne : cs ≠ [])
    (h : ∀ c ∈ cs, c.isDigit = true) :
    natural? (String.ofList cs) = some (Nat.ofDigitChars 10 cs 0) := by
  have hall : cs.all (fun c => '0' ≤ c && c ≤ '9') = true := List.all_eq_true.mpr h
  have hfold : cs.foldl (fun n c => n * 10 + (c.toNat - 48)) 0 = Nat.ofDigitChars 10 cs 0 := by
    rw [Nat.ofDigitChars_eq_foldl]
    simp only [Nat.mul_comm]
    rfl
  unfold natural?
  rw [String.toList_ofList]
  split
  · exact absurd (h '+' List.mem_cons_self) (by decide)
  · simp [hne, hall, hfold]

theorem Text.natural?_toString (n : Nat) : natural? (toString n) = some n := by
  have hdigits : ∀ c ∈ Nat.toDigits 10 n, c.isDigit = true :=
    fun c hc => Nat.isDigit_of_mem_toDigits (by omega) (by omega) hc
  rw [Nat.toString_eq_ofList_toDigits, natural?_of_digits Nat.toDigits_ne_nil hdigits,
    Nat.ofDigitChars_ten_toDigits]

namespace Pointer

/-- The keys that the segments of a text stand for. -/
def segments (text : String) : List String :=
  (Text.splitOn '/' text.toList).map fun segment => String.ofList (decodeChars segment)

theorem keys_append (front rest : String) :
    keys (front ++ "/" ++ rest) = keys front ++ segments rest := by
  have hchars : (front ++ "/" ++ rest).toList = front.toList ++ '/' :: rest.toList := by simp
  obtain ⟨anchor, pieces, hfront⟩ :=
    List.exists_cons_of_ne_nil (Text.splitOn_ne_nil '/' front.toList)
  rw [keys, hchars, Text.splitOn_append_cons, keys, hfront, segments]
  simp

/-- Where no tilde stands, nothing is escaped. -/
theorem unescapeSlash_append {front : List Char} (h : '~' ∉ front) (rest : List Char) :
    unescapeSlash (front ++ rest) = front ++ unescapeSlash rest := by
  induction front with
  | nil => rfl
  | cons c front ih =>
    rw [List.mem_cons, not_or] at h
    rw [List.cons_append, unescapeSlash, ih h.2, List.cons_append]
    rintro _ rfl
    exact absurd rfl h.1

theorem unescapeTilde_append {front : List Char} (h : '~' ∉ front) (rest : List Char) :
    unescapeTilde (front ++ rest) = front ++ unescapeTilde rest := by
  induction front with
  | nil => rfl
  | cons c front ih =>
    rw [List.mem_cons, not_or] at h
    rw [List.cons_append, unescapeTilde, ih h.2, List.cons_append]
    rintro _ rfl
    exact absurd rfl h.1

theorem unescape_of_not_mem {cs : List Char} (h : '~' ∉ cs) :
    unescapeTilde (unescapeSlash cs) = cs := by
  have hslash := unescapeSlash_append h []
  have htilde := unescapeTilde_append h []
  rw [List.append_nil, unescapeSlash, List.append_nil] at hslash
  rw [List.append_nil, unescapeTilde, List.append_nil] at htilde
  rw [hslash, htilde]

/-- None of the characters that pointers treat apart stands in a key. -/
def IsLiteral (key : String) : Prop := '/' ∉ key.toList ∧ '~' ∉ key.toList ∧ '%' ∉ key.toList

instance (key : String) : Decidable (IsLiteral key) := inferInstanceAs (Decidable (_ ∧ _ ∧ _))

theorem segments_of_isLiteral {key : String} (h : IsLiteral key) : segments key = [key] := by
  obtain ⟨hslash, htilde, hpercent⟩ := h
  rw [segments, Text.splitOn_of_not_mem hslash, List.map_singleton, decodeChars,
    unescape_of_not_mem htilde, Text.Percent.decode_of_not_mem hpercent, String.ofList_toList]

/-! ### Keys as segments -/

/-- Half of the way from a key to its segment: the tildes are escaped, the slashes are not. -/
def escapeTilde (c : Char) : List Char := if c = '~' then ['~', '0'] else [c]

theorem unescapeTilde_escapeTilde (cs : List Char) :
    unescapeTilde (cs.flatMap escapeTilde) = cs := by
  induction cs with
  | nil => rfl
  | cons c cs ih =>
    rw [List.flatMap_cons, escapeTilde]
    by_cases hc : c = '~'
    · rw [if_pos hc, hc]
      exact congrArg ('~' :: ·) ih
    · rw [if_neg hc, List.singleton_append, unescapeTilde, ih]
      rintro _ rfl
      exact absurd rfl hc

theorem unescapeSlash_encodeChar (cs : List Char) :
    unescapeSlash (cs.flatMap encodeChar) = cs.flatMap escapeTilde := by
  induction cs with
  | nil => rfl
  | cons c cs ih =>
    rw [List.flatMap_cons, List.flatMap_cons, encodeChar.eq_def, escapeTilde]
    split
    · -- No slash is read here, because the tilde is followed by a zero.
      show '~' :: '0' :: unescapeSlash (cs.flatMap encodeChar) = _
      rw [ih]
      rfl
    · show '/' :: unescapeSlash (cs.flatMap encodeChar) = _
      rw [ih]
      rfl
    · next htilde _ =>
      rw [if_neg htilde, List.singleton_append, List.singleton_append, unescapeSlash, ih]
      rintro _ rfl
      exact absurd rfl htilde

theorem slash_not_mem_encodeKey (key : String) : '/' ∉ (encodeKey key).toList := by
  rw [encodeKey, String.toList_ofList, List.mem_flatMap]
  rintro ⟨c, _, hslash⟩
  rw [encodeChar.eq_def] at hslash
  split at hslash
  · exact absurd hslash (by decide)
  · exact absurd hslash (by decide)
  · next hc => exact hc (List.mem_singleton.mp hslash).symm

/-- A key is read back from its segment but for its percent escapes. -/
theorem segments_encodeKey (key : String) :
    segments (encodeKey key) = [String.ofList (Text.Percent.decode key.toList)] := by
  rw [segments, Text.splitOn_of_not_mem (slash_not_mem_encodeKey key), List.map_singleton,
    decodeChars, encodeKey, String.toList_ofList, unescapeSlash_encodeChar,
    unescapeTilde_escapeTilde]

/-- The pointer of a child has the key of the child behind those of its parent. -/
theorem keys_child {key : String} (h : ¬ Text.Percent.HasEscape key.toList) (base : String) :
    keys (child base key) = keys base ++ [key] := by
  rw [child, keys_append, segments_encodeKey, Text.Percent.decode_of_not_hasEscape h,
    String.ofList_toList]

theorem IsLiteral.not_hasEscape {key : String} (h : IsLiteral key) :
    ¬ Text.Percent.HasEscape key.toList :=
  Text.Percent.not_hasEscape_of_not_mem h.2.2

theorem keys_item (base : String) (index : Nat) :
    keys (item base index) = keys base ++ [toString index] := by
  refine keys_child (Text.Percent.not_hasEscape_of_not_mem fun hmem => ?_) base
  exact absurd (Text.isDigit_of_mem_toString hmem) (by decide)

/-- How many keys a location has behind its anchor. -/
def depth (location : String) : Nat := (keys location).length

@[simp]
theorem depth_child (base key : String) : depth (child base key) = depth base + 1 := by
  rw [depth, child, keys_append, segments_encodeKey, List.length_append, List.length_singleton,
    depth]

@[simp]
theorem depth_item (base : String) (index : Nat) : depth (item base index) = depth base + 1 :=
  depth_child base (toString index)

/-- What follows the beginning of a pointer does not make it leave its document. -/
theorem isLocal_append {front : String} (h : isLocal front = true) (rest : String) :
    isLocal (front ++ rest) = true := by
  rw [isLocal] at h ⊢
  rw [String.toList_append]
  split at h
  · next cs hfront =>
    rw [hfront]
    rfl
  · next cs hfront =>
    rw [hfront]
    rfl
  · cases h

theorem keys_definitions (rest : String) :
    keys ("#/definitions/" ++ rest) = "definitions" :: segments rest :=
  keys_append "#/definitions" rest

theorem keys_schemas (rest : String) :
    keys ("#/components/schemas/" ++ rest) = "components" :: "schemas" :: segments rest :=
  keys_append "#/components/schemas" rest

/-- The pointer of an entry of a section of the components. -/
def component (name text : String) : String := "#/components/" ++ name ++ "/" ++ text

theorem isLocal_component (name text : String) : isLocal (component name text) = true := by
  rw [component, String.append_assoc, String.append_assoc]
  exact isLocal_append rfl _

theorem keys_component {name : String} (hname : IsLiteral name) (text : String) :
    keys (component name text) = "components" :: name :: segments text := by
  have hsection : keys ("#/components" ++ "/" ++ name) = ["components", name] := by
    rw [keys_append, segments_of_isLiteral hname]
    rfl
  rw [component, keys_append]
  exact congrArg (· ++ segments text) hsection

end Pointer

end ApiGraph
