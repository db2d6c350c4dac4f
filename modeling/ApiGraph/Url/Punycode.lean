/-!
# Labels in ASCII

A label beyond ASCII is written as its ASCII characters followed by digits that say
which other characters go where. The others are taken in increasing order, and for each
one a number is written: the steps that a walk over all code points and all places of
the label has taken since the one before. A number has its lowest digit first, in base
36, and a digit below a threshold ends it. The threshold follows a bias that adapts to
the numbers written so far.
-/

namespace ApiGraph.Url.Punycode

def digitChar (d : Nat) : Char := Char.ofNat (if d < 26 then 0x61 + d else 0x16 + d)

def digitValue? (c : Char) : Option Nat :=
  if 'a' ≤ c ∧ c ≤ 'z' then some (c.toNat - 0x61)
  else if 'A' ≤ c ∧ c ≤ 'Z' then some (c.toNat - 0x41)
  else if '0' ≤ c ∧ c ≤ '9' then some (c.toNat - 0x16)
  else none

/-- The least value of a digit that lets the number go on, at a place `k` that grows by 36. -/
def threshold (bias k : Nat) : Nat := min 26 (max 1 (k - bias))

theorem threshold_pos (bias k : Nat) : 0 < threshold bias k := by unfold threshold; omega

def settle (delta k : Nat) : Nat :=
  if 455 < delta then settle (delta / 35) (k + 36) else k + 36 * delta / (delta + 38)
termination_by delta
decreasing_by exact Nat.div_lt_self (by omega) (by omega)

/-- The bias after a number, when the label has `count` characters. The first number is large by
nature and counts for less. -/
def adapt (delta count : Nat) (first : Bool) : Nat :=
  let halved := if first then delta / 700 else delta / 2
  settle (halved + halved / count) 0

def numberDigits (bias k n : Nat) : List Char :=
  let t := threshold bias k
  if n < t then [digitChar n]
  else digitChar (t + (n - t) % (36 - t)) :: numberDigits bias (k + 36) ((n - t) / (36 - t))
termination_by n
decreasing_by
  have := threshold_pos bias k
  exact Nat.lt_of_le_of_lt (Nat.div_le_self _ _) (by omega)

/-- How far the walk has come: the digits so far, the steps since the last number, the bias, and
the number of characters that are placed. -/
structure Writing where
  digits : List Char
  delta : Nat
  bias : Nat
  placed : Nat

/-- A character already placed is a step, the present one is written, a later one is passed over. -/
def Writing.visit (basic present : Nat) (w : Writing) (c : Char) : Writing :=
  if c.toNat < present then { w with delta := w.delta + 1 }
  else if c.toNat = present then
    { digits := w.digits ++ numberDigits w.bias 36 w.delta
      delta := 0
      bias := adapt w.delta (w.placed + 1) (w.placed == basic)
      placed := w.placed + 1 }
  else w

def writeAll (label : List Char) (basic : Nat) : Nat → Writing → List Nat → Writing
  | _, w, [] => w
  | reached, w, present :: rest =>
    let start := { w with delta := w.delta + (present - reached) * (w.placed + 1) }
    let done := label.foldl (Writing.visit basic present) start
    writeAll label basic (present + 1) { done with delta := done.delta + 1 } rest

def encode (label : List Char) : List Char :=
  let basic := label.filter (·.toNat < 0x80)
  let others := ((label.map Char.toNat).filter (0x80 ≤ ·)).mergeSort.eraseDups
  let written := writeAll label basic.length 0x80 ⟨[], 0, 72, basic.length⟩ others
  (if basic.isEmpty then [] else basic ++ ['-']) ++ written.digits

/-- Reads a number at a place and with a weight, and gives what stands behind it. -/
def number? (bias : Nat) : Nat → Nat → List Char → Option (Nat × List Char)
  | _, _, [] => none
  | k, weight, c :: rest =>
    match digitValue? c with
    | none => none
    | some d =>
      if d < threshold bias k then some (d * weight, rest)
      else
        (number? bias (k + 36) (weight * (36 - threshold bias k)) rest).map fun r =>
          (d * weight + r.1, r.2)

theorem length_lt_of_number? {bias k weight n : Nat} {cs rest : List Char}
    (h : number? bias k weight cs = some (n, rest)) : rest.length < cs.length := by
  fun_induction number? bias k weight cs generalizing n with
  | case1 => simp at h
  | case2 => simp at h
  | case3 => simp at h; simp [← h.2]
  | case4 k weight c more d _ _ ih =>
    obtain ⟨⟨m, r⟩, hr, he⟩ := Option.map_eq_some_iff.1 h
    simp at he
    have := ih (he.2 ▸ hr)
    simp
    omega

def isCharacter (n : Nat) : Bool := n < 0xd800 || (0xdfff < n && n < 0x110000)

/-- Places the characters that the numbers call for. `place` is where the walk stands in the
label, and `reached` is the code point it is at. -/
def placeAll? (bias reached place : Nat) (label : List Char) (cs : List Char) :
    Option (List Char) :=
  if cs.isEmpty then some label
  else
    match _h : number? bias 36 1 cs with
    | none => none
    | some (n, rest) =>
      let steps := place + n
      let count := label.length + 1
      let present := reached + steps / count
      if isCharacter present then
        placeAll? (adapt n count (place == 0)) present (steps % count + 1)
          (label.insertIdx (steps % count) (Char.ofNat present)) rest
      else none
termination_by cs.length
decreasing_by exact length_lt_of_number? _h

/-- The ASCII characters stand before the last hyphen. Without any there is no hyphen either. -/
def decode? (cs : List Char) : Option (List Char) :=
  match cs.reverse.span (· ≠ '-') with
  | (digits, '-' :: c :: basic) => placeAll? 72 0x80 0 (c :: basic).reverse digits.reverse
  | _ => placeAll? 72 0x80 0 [] cs

end ApiGraph.Url.Punycode
