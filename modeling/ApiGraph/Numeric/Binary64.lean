/-!
# Binary floating-point words

A double-precision number is kept as its three fields, so equality, order and
rounding are decided in exact integer arithmetic and no runtime float operation
is involved.

`ofRatio` is the only way a word is made from a number. It rounds to the nearest
representable value, ties going to the even significand, and overflows to an
infinity.
-/

namespace ApiGraph

/-- The exponent field is biased by 1023; all ones mark infinities and NaNs. -/
structure Binary64 where
  negative : Bool
  exponent : Nat
  fraction : Nat
  deriving DecidableEq, Repr, Inhabited

namespace Binary64

def isFinite (x : Binary64) : Bool := x.exponent < 2047

def isNan (x : Binary64) : Bool := x.exponent == 2047 && x.fraction != 0

def zero (negative : Bool) : Binary64 := ⟨negative, 0, 0⟩

def infinity (negative : Bool) : Binary64 := ⟨negative, 2047, 0⟩

def nan : Binary64 := ⟨false, 2047, Nat.pow 2 51⟩

/-- A finite word stands for `significand * 2 ^ scale`. -/
def significand (x : Binary64) : Nat :=
  if x.exponent = 0 then x.fraction else Nat.pow 2 52 + x.fraction

def scale (x : Binary64) : Int :=
  if x.exponent = 0 then -1074 else (x.exponent : Int) - 1075

/-- The two zeros are the same number, and a NaN equals nothing. -/
def sameNumber (x y : Binary64) : Bool :=
  !x.isNan && !y.isNan &&
    (x == y || (x.exponent == 0 && x.fraction == 0 && y.exponent == 0 && y.fraction == 0))

def isPositive (x : Binary64) : Bool :=
  !x.isNan && !x.negative && !(x.exponent == 0 && x.fraction == 0)

/-- The quotient rounded to a whole number, halves going to the even neighbour. -/
def roundDiv (num den : Nat) : Nat :=
  let q := num / den
  let r := num % den
  if 2 * r < den then q
  else if den < 2 * r then q + 1
  else if q % 2 = 0 then q else q + 1

/-- `num / den` measured in units of `2 ^ scale`. -/
def roundScaled (num den : Nat) (scale : Int) : Nat :=
  if scale < 0 then roundDiv (num * Nat.pow 2 (-scale).toNat) den
  else roundDiv num (den * Nat.pow 2 scale.toNat)

/-- The fields of `m * 2 ^ scale`, for a significand of at most 53 bits. -/
def ofSignificand (negative : Bool) (m : Nat) (scale : Int) : Binary64 :=
  if m < Nat.pow 2 52 then ⟨negative, 0, m⟩
  else if 2047 ≤ scale + 1075 then infinity negative
  else ⟨negative, (scale + 1075).toNat, m - Nat.pow 2 52⟩

/-- The scale that leaves `num / den` with 53 significant bits, or the smallest scale there is. -/
def scaleOf (num den : Nat) : Int :=
  let guess : Int := (num.log2 : Int) - den.log2 - 52
  let full :=
    if guess < 0 then decide (Nat.pow 2 52 * den ≤ num * Nat.pow 2 (-guess).toNat)
    else decide (Nat.pow 2 52 * den * Nat.pow 2 guess.toNat ≤ num)
  max (if full then guess else guess - 1) (-1074)

def ofRatio (negative : Bool) (num den : Nat) : Binary64 :=
  if num = 0 then zero negative
  else
    let scale := scaleOf num den
    let m := roundScaled num den scale
    if m = Nat.pow 2 53 then ofSignificand negative (Nat.pow 2 52) (scale + 1)
    else ofSignificand negative m scale

def ofInt (n : Int) : Binary64 := ofRatio (n < 0) n.natAbs 1

/-- `digits * 10 ^ exponent`. Exponents far outside the format are settled without computing
powers. -/
def ofDecimal (negative : Bool) (digits : Nat) (exponent : Int) : Binary64 :=
  if digits = 0 then zero negative
  else
    let magnitude := exponent + digits.log2 / 3
    if 400 < exponent then infinity negative
    else if magnitude < -400 then zero negative
    else if exponent < 0 then ofRatio negative digits (Nat.pow 10 (-exponent).toNat)
    else ofRatio negative (digits * Nat.pow 10 exponent.toNat) 1

end Binary64

end ApiGraph
