import ApiGraph.Numeric.Binary64

/-!
# Shortest decimal text

The digits written for a finite word are the fewest that read back as that word,
and among those the nearest to its value. They are found on the decimal grids of
one digit, two digits and so on up to seventeen: on each grid only the two
neighbours of the value can lie in the interval of numbers that round to it.

Values from `1e-5` up to `1e16` are written positionally and keep a fractional
part; all others are written with an exponent.
-/

namespace ApiGraph

/-- A positive decimal `digits * 10 ^ exponent`. -/
structure Decimal where
  digits : Nat
  exponent : Int
  deriving DecidableEq, Repr, Inhabited

namespace Decimal

def zeros (n : Nat) : String := String.ofList (List.replicate n '0')

/-- Positional notation for point positions `-4` to `16`, otherwise one digit before the point
and an exponent, whose plus sign is optional. -/
def text (plus : String) (d : Decimal) : String :=
  let ds := (toString d.digits).toList
  let len := ds.length
  let point : Int := len + d.exponent
  if 0 ≤ d.exponent && point ≤ 16 then
    String.ofList ds ++ zeros d.exponent.toNat ++ ".0"
  else if 0 < point && point ≤ 16 then
    String.ofList (ds.take point.toNat) ++ "." ++ String.ofList (ds.drop point.toNat)
  else if -5 < point && point ≤ 0 then
    "0." ++ zeros (-point).toNat ++ String.ofList ds
  else
    let mantissa :=
      match ds with
      | [d] => String.ofList [d]
      | d :: rest => String.ofList [d] ++ "." ++ String.ofList rest
      | [] => ""
    let e := point - 1
    mantissa ++ "e" ++ (if e < 0 then "-" ++ toString e.natAbs else plus ++ toString e.natAbs)

end Decimal

namespace Binary64

/-- Numbers around a word as quarters of its unit, as a fraction over a power of two. -/
structure Neighbourhood where
  value : Nat
  low : Nat
  high : Nat
  den : Nat
  closed : Bool

def neighbourhood (x : Binary64) : Neighbourhood :=
  let m := x.significand
  let q := x.scale - 2
  let up := Nat.pow 2 q.toNat
  let narrow := x.fraction = 0 && 1 < x.exponent
  { value := 4 * m * up
    low := (4 * m - if narrow then 1 else 2) * up
    high := (4 * m + 2) * up
    den := Nat.pow 2 (-q).toNat
    closed := m % 2 = 0 }

/-- Whether `d * 10 ^ k` rounds to the word. -/
def Neighbourhood.holds (n : Neighbourhood) (d : Nat) (k : Int) : Bool :=
  let num := d * Nat.pow 10 k.toNat * n.den
  let den := Nat.pow 10 (-k).toNat
  if n.closed then n.low * den ≤ num && num ≤ n.high * den
  else n.low * den < num && num < n.high * den

/-- The value in whole units of `10 ^ k`, and the remainder over its divisor. -/
def Neighbourhood.split (n : Neighbourhood) (k : Int) : Nat × Nat × Nat :=
  let num := n.value * Nat.pow 10 (-k).toNat
  let den := n.den * Nat.pow 10 k.toNat
  (num / den, num % den, den)

/-- The decimal on the grid of step `10 ^ k` that rounds to the word, the nearer of two. -/
def Neighbourhood.onGrid? (n : Neighbourhood) (k : Int) : Option Decimal :=
  let (d, r, den) := n.split k
  let nearer := if 2 * r < den || (2 * r = den && d % 2 = 0) then d else d + 1
  let other := if nearer = d then d + 1 else d
  if 0 < nearer && n.holds nearer k then some ⟨nearer, k⟩
  else if 0 < other && n.holds other k then some ⟨other, k⟩
  else none

/-- The power of ten of the leading digit, searched upwards from a lower bound. -/
def Neighbourhood.leading (n : Neighbourhood) : Nat → Int → Int
  | 0, k => k
  | steps + 1, k => if (n.split (k + 1)).1 = 0 then k else n.leading steps (k + 1)

def shortestFrom (n : Neighbourhood) (top : Int) (count : Nat) : Nat → Decimal
  | 0 => ⟨(n.split (top - 17)).1, top - 17⟩
  | more + 1 =>
    match n.onGrid? (top - count) with
    | some d => d
    | none => shortestFrom n top (count + 1) more

/-- The decimal without trailing zeros. -/
def dropZeros (d : Nat) (k : Int) : Nat → Decimal
  | 0 => ⟨d, k⟩
  | fuel + 1 => if d % 10 = 0 then dropZeros (d / 10) (k + 1) fuel else ⟨d, k⟩

/-- The shortest decimal of a finite non-zero magnitude. -/
def shortest (x : Binary64) : Decimal :=
  let n := x.neighbourhood
  let bound : Int := (x.scale + x.significand.log2) * 3 / 10 - 2
  let d := shortestFrom n (n.leading 40 bound) 0 17
  dropZeros d.digits d.exponent 20

/-- The text of a finite word; `plus` is written before a positive exponent. -/
def text (plus : String) (x : Binary64) : String :=
  let sign := if x.negative then "-" else ""
  if x.significand = 0 then sign ++ "0.0" else sign ++ x.shortest.text plus

end Binary64

end ApiGraph
