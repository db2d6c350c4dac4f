import ApiGraph.Text.Hex
import ApiGraph.Text.Split

/-!
# Internet addresses

A short address is a number of 32 bits in up to four parts, each in base ten, eight or
sixteen; the last part fills all the bytes that are left. A long address is eight
pieces of 16 bits in base sixteen, where two colons stand for a run of zero pieces and
a plain short address may take the place of the last two. Either kind is written in
one way only.
-/

namespace ApiGraph.Url.Address

open ApiGraph.Text

def isDecimal (c : Char) : Bool := '0' ≤ c && c ≤ '9'

/-- A part with its base in front, `0x` for sixteen and `0` for eight. A base alone is zero. -/
def part? : List Char → Option Nat
  | ['0', 'x'] => some 0
  | '0' :: 'x' :: digits => ofDigits? 16 digits
  | '0' :: d :: digits => ofDigits? 8 (d :: digits)
  | digits => ofDigits? 10 digits

/-- The parts between the dots; one dot may stand at the end. -/
def partTexts (name : List Char) : List (List Char) :=
  let texts := splitOn '.' name
  if texts.getLast? = some [] then texts.dropLast else texts

/-- A name whose last part is a number can only be an address. -/
def endsInNumber (name : List Char) : Bool :=
  match (partTexts name).getLast? with
  | none => false
  | some last => (!last.isEmpty && last.all isDecimal) || (part? last).isSome

/-- Every part before the last is a byte, and the last one fills the rest. -/
def short? (name : List Char) : Option Nat :=
  ((partTexts name).mapM part?).bind fun parts =>
    let bytes := parts.dropLast
    let room := Nat.pow 256 (4 - bytes.length)
    match parts.getLast? with
    | none => none
    | some last =>
      if 3 < bytes.length ∨ bytes.any (255 < ·) ∨ room ≤ last then none
      else some (bytes.foldl (· * 256 + ·) 0 * room + last)

def bytes (n : Nat) : List Nat := [n / 16777216, n / 65536 % 256, n / 256 % 256, n % 256]

def shortText (n : Nat) : List Char := ['.'].intercalate ((bytes n).map (Nat.toDigits 10))

/-- A byte in base ten without needless zeros. -/
def byte? (digits : List Char) : Option Nat :=
  if digits.head? = some '0' ∧ digits.length ≠ 1 then none
  else (ofDigits? 10 digits).bind fun n => if n < 256 then some n else none

/-- The two pieces of a short address. -/
def lastPieces? (cs : List Char) : Option (List Nat) :=
  ((splitOn '.' cs).mapM byte?).bind fun
    | [a, b, c, d] => some [256 * a + b, 256 * c + d]
    | _ => none

def piece? (cs : List Char) : Option Nat := if 4 < cs.length then none else ofDigits? 16 cs

/-- Pieces between single colons. The end of a whole address may be a short one. -/
def pieces? (ending : Bool) : List (List Char) → Option (List Nat)
  | [] => some []
  | [cs] => if ending && cs.contains '.' then lastPieces? cs else (piece? cs).map ([·])
  | cs :: rest => (piece? cs).bind fun n => (pieces? ending rest).map (n :: ·)

def group? (ending : Bool) (cs : List Char) : Option (List Nat) :=
  if cs.isEmpty then some [] else pieces? ending (splitOn ':' cs)

/-- What stands before and behind the first two colons. -/
def atTwoColons? : List Char → Option (List Char × List Char)
  | ':' :: ':' :: rest => some ([], rest)
  | c :: rest => (atTwoColons? rest).map fun r => (c :: r.1, r.2)
  | [] => none

/-- Two colons stand for one zero piece at least. -/
def long? (cs : List Char) : Option (List Nat) :=
  match atTwoColons? cs with
  | none => (pieces? true (splitOn ':' cs)).bind fun ps => if ps.length = 8 then some ps else none
  | some (front, back) =>
    (group? false front).bind fun a =>
      (group? true back).bind fun b =>
        if a.length + b.length < 8 then
          some (a ++ List.replicate (8 - a.length - b.length) 0 ++ b)
        else none

/-- Where the first of the longest runs of zeros begins, and its length. -/
def longestZeros : List Nat → Nat × Nat
  | [] => (0, 0)
  | p :: rest =>
    let here := ((p :: rest).takeWhile (· = 0)).length
    let later := longestZeros rest
    if later.2 ≤ here then (0, here) else (later.1 + 1, later.2)

def piecesText (ps : List Nat) : List Char := [':'].intercalate (ps.map (Nat.toDigits 16))

/-- Two colons take the place of two zeros or more. -/
def longText (ps : List Nat) : List Char :=
  let (start, length) := longestZeros ps
  if length < 2 then piecesText ps
  else piecesText (ps.take start) ++ [':', ':'] ++ piecesText (ps.drop (start + length))

end ApiGraph.Url.Address
