import ApiGraph.Proofs.Text.Utf8
import Mathlib.Data.Set.Insert

/-!
# Texts with percent escapes

Reading escapes makes a text shorter: three characters become one byte, and no byte adds more than
one character to the text, whatever the bytes around it are. A text is therefore read as itself
only if no escape stands in it.

`Spells` is the relation between a text and its spellings with escapes. Each character of a set is
spelled by the escapes of its UTF-8 bytes, and each digit of an escape may have either case. Where
the set has the percent sign, all spellings of a text are read back as that text.
-/

namespace ApiGraph.Text

namespace Utf8

theorem encodeChar_lt {c : Char} {b : Nat} (h : b ∈ encodeChar c) : b < 256 := by
  have hbounds := toNat_bounds c
  simp only [encodeChar] at h
  split at h
  · rw [List.mem_singleton.mp h]
    omega
  · split at h
    · simp only [List.mem_cons, List.not_mem_nil, or_false] at h
      omega
    · split at h
      · simp only [List.mem_cons, List.not_mem_nil, or_false] at h
        omega
      · simp only [List.mem_cons, List.not_mem_nil, or_false] at h
        omega

/-! ### Counting bytes and characters -/

theorem Pending.high_lt_of_ofLead? {b : Nat} {p : Pending} (h : Pending.ofLead? b = some p) :
    p.high < 0xc2 := by
  rw [Pending.ofLead?] at h
  split at h
  · cases h
  · split at h
    · cases h
      show 0xbf < 0xc2
      decide
    · split at h
      · cases h
        dsimp only
        split <;> decide
      · split at h
        · cases h
          dsimp only
          split <;> decide
        · cases h

/-- A byte that leads no sequence is one character by itself. -/
theorem length_decodeFrom_of_lt {b : Nat} (h : b < 0xc2) (rest : List Nat) :
    (decodeFrom none (b :: rest)).length = (decodeFrom none rest).length + 1 := by
  rw [decodeFrom]
  by_cases hb : b < 0x80
  · rw [if_pos hb, List.length_cons]
  · rw [if_neg hb, Pending.ofLead?, if_pos h, List.length_cons]

/-- An unfinished sequence adds at most one character to what follows it. -/
theorem length_decodeFrom_some_le {p : Pending} (hp : p.high < 0xc2) (bs : List Nat) :
    (decodeFrom (some p) bs).length ≤ (decodeFrom none bs).length + 1 := by
  induction bs generalizing p with
  | nil => exact Nat.le_refl 1
  | cons b rest ih =>
    rw [decodeFrom]
    split
    -- A byte that goes on with the sequence would be one character outside of it.
    · next hbounds =>
      rw [length_decodeFrom_of_lt (Nat.lt_of_le_of_lt hbounds.2 hp)]
      dsimp only
      split
      · rw [List.length_cons]
        omega
      · exact Nat.le_succ_of_le (ih (show 0xbf < 0xc2 by decide))
    -- Any other byte makes one character of the sequence and is then read as outside of it.
    · rw [decodeFrom]
      split
      · simp only [List.length_cons, Nat.le_refl]
      · split
        · simp only [List.length_cons, Nat.le_refl]
        · simp only [List.length_cons, Nat.le_refl]

/-- One byte adds at most one character to what follows it. -/
theorem length_decodeFrom_cons_le (b : Nat) (rest : List Nat) :
    (decodeFrom none (b :: rest)).length ≤ (decodeFrom none rest).length + 1 := by
  by_cases hb : b < 0xc2
  · exact Nat.le_of_eq (length_decodeFrom_of_lt hb rest)
  · rw [decodeFrom, if_neg (by omega)]
    split
    · next q hlead => exact length_decodeFrom_some_le (Pending.high_lt_of_ofLead? hlead) rest
    · exact Nat.le_refl _

end Utf8

namespace Percent

/-! ### Escapes are shorter when they are read -/

theorem bytes_of_digits {a b : Char} {x y : Nat} (ha : hexDigit? a = some x)
    (hb : hexDigit? b = some y) (rest : List Char) :
    bytes ('%' :: a :: b :: rest) = (16 * x + y) :: bytes rest := by
  simp only [bytes, ha, hb]

/-- An escape takes three characters for one, so a text that begins with one is shorter when it is
read, if what follows the escape is not longer. -/
theorem length_decode_lt_of_opensEscape {cs : List Char} (h : opensEscape cs = true)
    (hshorter : ∀ tail, tail.length < cs.length → (decode tail).length ≤ tail.length) :
    (decode cs).length < cs.length := by
  obtain ⟨a, b, tail, x, y, rfl, ha, hb⟩ := exists_of_opensEscape h
  simp only [List.length_cons] at hshorter ⊢
  have htail := hshorter tail (by omega)
  have hle := Utf8.length_decodeFrom_cons_le (16 * x + y) (bytes tail)
  rw [decode, Utf8.decode] at htail ⊢
  rw [bytes_of_digits ha hb]
  omega

theorem length_decode_le (cs : List Char) : (decode cs).length ≤ cs.length := by
  match cs with
  | [] => exact Nat.le_refl 0
  | c :: rest =>
    cases hopens : opensEscape (c :: rest) with
    | false =>
      rw [decode_cons hopens]
      exact Nat.succ_le_succ (length_decode_le rest)
    | true =>
      have hlt := length_decode_lt_of_opensEscape hopens fun tail htail => length_decode_le tail
      exact Nat.le_of_lt hlt
termination_by cs.length
decreasing_by
  · exact Nat.lt_succ_self _
  · exact htail

theorem length_decode_lt {cs : List Char} (h : HasEscape cs) : (decode cs).length < cs.length := by
  induction cs with
  | nil => exact absurd h (by decide)
  | cons c rest ih =>
    cases hopens : opensEscape (c :: rest) with
    | false =>
      rw [decode_cons hopens]
      have hrest : HasEscape rest := by simpa [hopens] using hasEscape_cons_iff.mp h
      exact Nat.succ_lt_succ (ih hrest)
    | true => exact length_decode_lt_of_opensEscape hopens fun tail _ => length_decode_le tail

/-- The texts without escapes are those that spell themselves. -/
theorem decode_eq_self_iff {cs : List Char} : decode cs = cs ↔ ¬ HasEscape cs := by
  refine ⟨fun heq hescape => ?_, decode_of_not_hasEscape⟩
  have hlt := length_decode_lt hescape
  rw [heq] at hlt
  exact Nat.lt_irrefl _ hlt

/-! ### Spellings -/

/-- A hexadecimal digit of a number, in either case. -/
def SpellsDigit (n : Nat) (c : Char) : Prop := c = Nat.digitChar n ∨ c = (Nat.digitChar n).toUpper

/-- A text that consists of the escapes of bytes. -/
inductive SpellsBytes : List Nat → List Char → Prop
  | nil : SpellsBytes [] []
  | cons {b : Nat} {high low : Char} {bs : List Nat} {text : List Char} :
      SpellsDigit (b / 16) high → SpellsDigit (b % 16) low → SpellsBytes bs text →
      SpellsBytes (b :: bs) ('%' :: high :: low :: text)

/-- A text in which the characters of a set are spelled by the escapes of their bytes, and all
others by themselves. -/
inductive Spells (escaped : Set Char) : List Char → List Char → Prop
  | nil : Spells escaped [] []
  | literal {c : Char} {cs text : List Char} :
      c ∉ escaped → Spells escaped cs text → Spells escaped (c :: cs) (c :: text)
  | escape {c : Char} {cs escapes text : List Char} :
      c ∈ escaped → SpellsBytes (Utf8.encodeChar c) escapes → Spells escaped cs text →
      Spells escaped (c :: cs) (escapes ++ text)

theorem SpellsDigit.hexDigit? {n : Nat} {c : Char} (h : SpellsDigit n c) (hn : n < 16) :
    Text.hexDigit? c = some n := by
  have hlower : ∀ n < 16, Text.hexDigit? (Nat.digitChar n) = some n := by decide
  have hupper : ∀ n < 16, Text.hexDigit? (Nat.digitChar n).toUpper = some n := by decide
  rcases h with rfl | rfl
  · exact hlower n hn
  · exact hupper n hn

theorem SpellsBytes.bytes_append {bs : List Nat} {text : List Char} (h : SpellsBytes bs text)
    (hbs : ∀ b ∈ bs, b < 256) (rest : List Char) : bytes (text ++ rest) = bs ++ bytes rest := by
  induction h with
  | nil => rfl
  | @cons b high low bs text hhigh hlow _ ih =>
    have hb : b < 256 := hbs b List.mem_cons_self
    have hx := hhigh.hexDigit? (by omega)
    have hy := hlow.hexDigit? (by omega)
    simp only [List.cons_append]
    rw [bytes_of_digits hx hy, ih fun b hb => hbs b (List.mem_cons_of_mem _ hb), Nat.div_add_mod]

/-- The characters of escapes are percent signs and digits. -/
theorem SpellsBytes.eq_or_isSome {bs : List Nat} {text : List Char} (h : SpellsBytes bs text)
    (hbs : ∀ b ∈ bs, b < 256) : ∀ c ∈ text, c = '%' ∨ (Text.hexDigit? c).isSome = true := by
  induction h with
  | nil => exact List.forall_mem_nil _
  | @cons b high low bs text hhigh hlow _ ih =>
    have hb : b < 256 := hbs b List.mem_cons_self
    have hx := Option.isSome_of_eq_some (hhigh.hexDigit? (by omega))
    have hy := Option.isSome_of_eq_some (hlow.hexDigit? (by omega))
    rw [List.forall_mem_cons, List.forall_mem_cons, List.forall_mem_cons]
    exact ⟨Or.inl rfl, Or.inr hx, Or.inr hy, ih fun b hb => hbs b (List.mem_cons_of_mem _ hb)⟩

theorem SpellsBytes.not_mem {c x : Char} {escapes : List Char}
    (h : SpellsBytes (Utf8.encodeChar c) escapes) (hpercent : x ≠ '%')
    (hdigit : Text.hexDigit? x = none) : x ∉ escapes := by
  intro hx
  rcases h.eq_or_isSome (fun _ hb => Utf8.encodeChar_lt hb) x hx with heq | hsome
  · exact hpercent heq
  · rw [hdigit] at hsome
    cases hsome

theorem Spells.exists_of_not_mem {escaped : Set Char} {c : Char} {cs text : List Char}
    (h : Spells escaped (c :: cs) text) (hc : c ∉ escaped) :
    ∃ rest, text = c :: rest ∧ Spells escaped cs rest := by
  cases h with
  | literal _ hrest => exact ⟨_, rfl, hrest⟩
  | escape hmem => exact absurd hmem hc

/-- A spelling has no further characters than percent signs and digits. -/
theorem Spells.not_mem {escaped : Set Char} {cs text : List Char} {x : Char}
    (h : Spells escaped cs text) (hx : x ∉ cs) (hpercent : x ≠ '%')
    (hdigit : Text.hexDigit? x = none) : x ∉ text := by
  induction h with
  | nil => exact hx
  | literal _ _ ih =>
    rw [List.mem_cons, not_or] at hx ⊢
    exact ⟨hx.1, ih hx.2⟩
  | escape _ hescapes _ ih =>
    rw [List.mem_cons, not_or] at hx
    rw [List.mem_append, not_or]
    exact ⟨hescapes.not_mem hpercent hdigit, ih hx.2⟩

theorem Spells.bytes_eq {escaped : Set Char} (hpercent : '%' ∈ escaped) {cs text : List Char}
    (h : Spells escaped cs text) : bytes text = Utf8.encode cs := by
  induction h with
  | nil => rfl
  | @literal c cs text hc _ ih =>
    have hopens : opensEscape (c :: text) = false := by
      rw [opensEscape]
      rintro _ _ _ heq
      cases heq
      exact hc hpercent
    rw [bytes_cons hopens, ih]
    rfl
  | escape _ hescapes _ ih =>
    rw [hescapes.bytes_append fun _ hb => Utf8.encodeChar_lt hb, ih]
    rfl

/-- A spelling with all percent signs escaped is read back. -/
theorem Spells.decode_eq {escaped : Set Char} (hpercent : '%' ∈ escaped) {cs text : List Char}
    (h : Spells escaped cs text) : decode text = cs := by
  rw [decode, h.bytes_eq hpercent, Utf8.decode_encode]

/-! ### The spelling that is written -/

theorem toList_hex {b : Nat} (h : b < 256) :
    (hex 2 b).toList = [Nat.digitChar (b / 16), Nat.digitChar (b % 16)] := by
  rw [hex, String.toList_ofList]
  by_cases hb : b < 16
  · rw [Nat.toDigits_of_lt_base hb, Nat.div_eq_of_lt hb, Nat.mod_eq_of_lt hb]
    rfl
  · have hhigh : b / 16 < 16 := by omega
    rw [Nat.toDigits_of_base_le (by decide) (by omega), Nat.toDigits_of_lt_base hhigh]
    rfl

theorem spellsBytes_escapeByte {bs : List Nat} (h : ∀ b ∈ bs, b < 256) :
    SpellsBytes bs (bs.flatMap escapeByte) := by
  induction bs with
  | nil => exact .nil
  | cons b bs ih =>
    rw [List.forall_mem_cons] at h
    rw [List.flatMap_cons, escapeByte, toList_hex h.1]
    exact .cons (Or.inr rfl) (Or.inr rfl) (ih h.2)

/-- Escapes are written in one of their spellings, with upper-case digits. -/
theorem spells_encode (escaped : Set Char) [DecidablePred (· ∈ escaped)] (cs : List Char) :
    Spells escaped cs (encode (fun c => decide (c ∈ escaped)) cs) := by
  induction cs with
  | nil => exact .nil
  | cons c cs ih =>
    rw [encode, List.flatMap_cons]
    by_cases hc : c ∈ escaped
    · rw [if_pos (decide_eq_true hc)]
      exact .escape hc (spellsBytes_escapeByte fun _ hb => Utf8.encodeChar_lt hb) ih
    · rw [if_neg (by rwa [decide_eq_true_eq])]
      exact .literal hc ih

end Percent

end ApiGraph.Text
