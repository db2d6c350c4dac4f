/-!
# UTF-8

Bytes are natural numbers below 256. Encoding follows the length classes of the
format. Decoding never fails: a sequence that is cut short or out of range becomes
one replacement character for its longest well-formed beginning, and reading goes
on with the byte that broke it.
-/

namespace ApiGraph.Text.Utf8

def encodeChar (c : Char) : List Nat :=
  let n := c.toNat
  if n < 0x80 then [n]
  else if n < 0x800 then [0xc0 + n / 64, 0x80 + n % 64]
  else if n < 0x10000 then [0xe0 + n / 4096, 0x80 + n / 64 % 64, 0x80 + n % 64]
  else [0xf0 + n / 262144, 0x80 + n / 4096 % 64, 0x80 + n / 64 % 64, 0x80 + n % 64]

def encode (cs : List Char) : List Nat := cs.flatMap encodeChar

/-- An unfinished sequence: how many bytes it still needs, the bounds of the next one, and
the bits read so far. -/
structure Pending where
  more : Nat
  low : Nat
  high : Nat
  bits : Nat
  deriving DecidableEq, Repr

/-- The sequence that a leading byte begins. Overlong forms, surrogates and numbers beyond the
last code point are ruled out by the bounds of the second byte. -/
def Pending.ofLead? (b : Nat) : Option Pending :=
  if b < 0xc2 then none
  else if b < 0xe0 then some ⟨1, 0x80, 0xbf, b - 0xc0⟩
  else if b < 0xf0 then
    some ⟨2, if b = 0xe0 then 0xa0 else 0x80, if b = 0xed then 0x9f else 0xbf, b - 0xe0⟩
  else if b < 0xf5 then
    some ⟨3, if b = 0xf0 then 0x90 else 0x80, if b = 0xf4 then 0x8f else 0xbf, b - 0xf0⟩
  else none

/-- The character that stands for bytes that are no character. -/
def replacement : Char := '\ufffd'

def decodeFrom : Option Pending → List Nat → List Char
  | none, [] => []
  | some _, [] => [replacement]
  | some p, b :: rest =>
    if p.low ≤ b ∧ b ≤ p.high then
      let bits := p.bits * 64 + (b - 0x80)
      if p.more = 1 then Char.ofNat bits :: decodeFrom none rest
      else decodeFrom (some ⟨p.more - 1, 0x80, 0xbf, bits⟩) rest
    else if b < 0x80 then replacement :: Char.ofNat b :: decodeFrom none rest
    else
      match Pending.ofLead? b with
      | some q => replacement :: decodeFrom (some q) rest
      | none => replacement :: replacement :: decodeFrom none rest
  | none, b :: rest =>
    if b < 0x80 then Char.ofNat b :: decodeFrom none rest
    else
      match Pending.ofLead? b with
      | some q => decodeFrom (some q) rest
      | none => replacement :: decodeFrom none rest

def decode (bytes : List Nat) : List Char := decodeFrom none bytes

end ApiGraph.Text.Utf8
