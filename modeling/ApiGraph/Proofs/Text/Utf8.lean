import ApiGraph.Text.Percent
import Mathlib.Data.List.Infix

/-!
# Text that is read back

What UTF-8 encodes, it decodes again. The bytes of a text without escapes are the encoded ones,
so it is read back as itself, and so is a text without percent signs, which has no escapes.
-/

namespace ApiGraph.Text

namespace Utf8

/-- The numbers of characters leave out the surrogates. -/
theorem toNat_bounds (c : Char) : c.toNat < 0xd800 ∨ 0xdfff < c.toNat ∧ c.toNat < 0x110000 :=
  c.valid

theorem decodeFrom_lead {b : Nat} {p : Pending} (hb : 0x80 ≤ b) (hlead : Pending.ofLead? b = some p)
    (rest : List Nat) : decodeFrom none (b :: rest) = decodeFrom (some p) rest := by
  rw [decodeFrom, if_neg (by omega), hlead]

theorem decodeFrom_last {p : Pending} {b : Nat} (hlow : p.low ≤ b) (hhigh : b ≤ p.high)
    (hmore : p.more = 1) (rest : List Nat) :
    decodeFrom (some p) (b :: rest) = Char.ofNat (p.bits * 64 + (b - 0x80)) :: decodeFrom none rest := by
  rw [decodeFrom, if_pos ⟨hlow, hhigh⟩, if_pos hmore]

theorem decodeFrom_more {p : Pending} {b : Nat} (hlow : p.low ≤ b) (hhigh : b ≤ p.high)
    (hmore : p.more ≠ 1) (rest : List Nat) : decodeFrom (some p) (b :: rest) =
      decodeFrom (some ⟨p.more - 1, 0x80, 0xbf, p.bits * 64 + (b - 0x80)⟩) rest := by
  rw [decodeFrom, if_pos ⟨hlow, hhigh⟩, if_neg hmore]

/-- One character is read back, whatever follows it. -/
theorem decodeFrom_encodeChar (c : Char) (rest : List Nat) :
    decodeFrom none (encodeChar c ++ rest) = c :: decodeFrom none rest := by
  have hbounds := toNat_bounds c
  have hback : ∀ {n : Nat}, n = c.toNat → Char.ofNat n = c := fun h => by
    rw [h, Char.ofNat_toNat]
  rw [encodeChar]
  by_cases h₁ : c.toNat < 0x80
  · rw [if_pos h₁, List.singleton_append, decodeFrom, if_pos h₁, hback rfl]
  rw [if_neg h₁]
  by_cases h₂ : c.toNat < 0x800
  · have hlead : Pending.ofLead? (0xc0 + c.toNat / 64) = some ⟨1, 0x80, 0xbf, c.toNat / 64⟩ := by
      rw [Pending.ofLead?, if_neg (by omega), if_pos (by omega), Nat.add_sub_cancel_left]
    rw [if_pos h₂, List.cons_append, List.singleton_append, decodeFrom_lead (by omega) hlead,
      decodeFrom_last (by simp) (by dsimp only; omega) rfl, hback (by dsimp only; omega)]
  rw [if_neg h₂]
  by_cases h₃ : c.toNat < 0x10000
  · obtain ⟨p, hlead, hmore, hlow, hhigh, hbits⟩ : ∃ p, Pending.ofLead? (0xe0 + c.toNat / 4096) =
        some p ∧ p.more = 2 ∧ p.low ≤ 0x80 + c.toNat / 64 % 64 ∧
        0x80 + c.toNat / 64 % 64 ≤ p.high ∧ p.bits = c.toNat / 4096 := by
      rw [Pending.ofLead?, if_neg (by omega), if_neg (by omega), if_pos (by omega)]
      refine ⟨_, rfl, rfl, ?_, ?_, Nat.add_sub_cancel_left _ _⟩
      · dsimp only
        split <;> omega
      · dsimp only
        split <;> omega
    rw [if_pos h₃, List.cons_append, List.cons_append, List.singleton_append,
      decodeFrom_lead (by omega) hlead, decodeFrom_more hlow hhigh (by omega),
      decodeFrom_last (by simp) (by dsimp only; omega) (by dsimp only; omega),
      hback (by dsimp only; omega)]
  · obtain ⟨p, hlead, hmore, hlow, hhigh, hbits⟩ : ∃ p, Pending.ofLead? (0xf0 + c.toNat / 262144) =
        some p ∧ p.more = 3 ∧ p.low ≤ 0x80 + c.toNat / 4096 % 64 ∧
        0x80 + c.toNat / 4096 % 64 ≤ p.high ∧ p.bits = c.toNat / 262144 := by
      rw [Pending.ofLead?, if_neg (by omega), if_neg (by omega), if_neg (by omega),
        if_pos (by omega)]
      refine ⟨_, rfl, rfl, ?_, ?_, Nat.add_sub_cancel_left _ _⟩
      · dsimp only
        split <;> omega
      · dsimp only
        split <;> omega
    rw [if_neg h₃, List.cons_append, List.cons_append, List.cons_append, List.singleton_append,
      decodeFrom_lead (by omega) hlead, decodeFrom_more hlow hhigh (by omega),
      decodeFrom_more (by simp) (by dsimp only; omega) (by dsimp only; omega),
      decodeFrom_last (by simp) (by dsimp only; omega) (by dsimp only; omega),
      hback (by dsimp only; omega)]

theorem decode_encode (cs : List Char) : decode (encode cs) = cs := by
  show decodeFrom none (cs.flatMap encodeChar) = cs
  induction cs with
  | nil => rfl
  | cons c cs ih => rw [List.flatMap_cons, decodeFrom_encodeChar, ih]

end Utf8

namespace Percent

/-- An escape stands in a text: a percent sign with two hexadecimal digits behind it. -/
def HasEscape (cs : List Char) : Prop :=
  ∃ front a b rest, cs = front ++ '%' :: a :: b :: rest ∧
    (hexDigit? a).isSome = true ∧ (hexDigit? b).isSome = true

/-- Whether a text begins with an escape. -/
def opensEscape : List Char → Bool
  | '%' :: a :: b :: _ => (hexDigit? a).isSome && (hexDigit? b).isSome
  | _ => false

theorem exists_of_opensEscape {cs : List Char} (h : opensEscape cs = true) :
    ∃ a b rest x y, cs = '%' :: a :: b :: rest ∧ hexDigit? a = some x ∧ hexDigit? b = some y := by
  rw [opensEscape.eq_def] at h
  split at h
  · next a b rest =>
    obtain ⟨ha, hb⟩ := Bool.and_eq_true_iff.mp h
    obtain ⟨x, hx⟩ := Option.isSome_iff_exists.mp ha
    obtain ⟨y, hy⟩ := Option.isSome_iff_exists.mp hb
    exact ⟨a, b, rest, x, y, rfl, hx, hy⟩
  · cases h

theorem any_opensEscape_iff {cs : List Char} :
    cs.tails.any opensEscape = true ↔ HasEscape cs := by
  rw [List.any_eq_true]
  constructor
  · rintro ⟨tail, hmem, hopens⟩
    obtain ⟨front, rfl⟩ := (List.mem_tails _ _).mp hmem
    obtain ⟨a, b, rest, x, y, rfl, ha, hb⟩ := exists_of_opensEscape hopens
    exact ⟨front, a, b, rest, rfl, Option.isSome_of_eq_some ha, Option.isSome_of_eq_some hb⟩
  · rintro ⟨front, a, b, rest, rfl, ha, hb⟩
    exact ⟨'%' :: a :: b :: rest, (List.mem_tails _ _).mpr (List.suffix_append front _),
      Bool.and_eq_true_iff.mpr ⟨ha, hb⟩⟩

instance (cs : List Char) : Decidable (HasEscape cs) := decidable_of_iff _ any_opensEscape_iff

theorem hasEscape_cons_iff {c : Char} {cs : List Char} :
    HasEscape (c :: cs) ↔ opensEscape (c :: cs) = true ∨ HasEscape cs := by
  rw [← any_opensEscape_iff, ← any_opensEscape_iff, List.tails_cons, List.any_cons,
    Bool.or_eq_true]

theorem not_hasEscape_of_not_mem {cs : List Char} (h : '%' ∉ cs) : ¬ HasEscape cs := by
  rintro ⟨front, a, b, rest, rfl, _⟩
  exact h (List.mem_append_right _ List.mem_cons_self)

/-- A character that opens no escape stands for its own bytes. -/
theorem bytes_cons {c : Char} {rest : List Char} (h : opensEscape (c :: rest) = false) :
    bytes (c :: rest) = Utf8.encodeChar c ++ bytes rest := by
  rw [bytes.eq_def]
  split
  · next a b tail heq =>
    cases heq
    split
    · next x y ha hb =>
      rw [opensEscape, ha, hb] at h
      cases h
    · rfl
  · next heq =>
    cases heq
    rfl
  · next heq => cases heq

theorem decode_cons {c : Char} {rest : List Char} (h : opensEscape (c :: rest) = false) :
    decode (c :: rest) = c :: decode rest := by
  rw [decode, bytes_cons h, Utf8.decode, Utf8.decodeFrom_encodeChar, decode, Utf8.decode]

/-- A text without escapes spells itself. -/
theorem decode_of_not_hasEscape {cs : List Char} (h : ¬ HasEscape cs) : decode cs = cs := by
  induction cs with
  | nil => rfl
  | cons c rest ih =>
    rw [hasEscape_cons_iff, not_or, Bool.not_eq_true] at h
    rw [decode_cons h.1, ih h.2]

/-- A text without percent signs spells itself. -/
theorem decode_of_not_mem {cs : List Char} (h : '%' ∉ cs) : decode cs = cs :=
  decode_of_not_hasEscape (not_hasEscape_of_not_mem h)

end Percent

end ApiGraph.Text
