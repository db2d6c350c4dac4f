import ApiGraph.Text.Hex
import ApiGraph.Text.Utf8

/-!
# Percent escapes

An escape is a percent sign and two hexadecimal digits; it stands for one byte. A
percent sign without two digits behind it stands for itself. The bytes of a text are
those of its escapes and the UTF-8 bytes of everything else.
-/

namespace ApiGraph.Text.Percent

def bytes : List Char → List Nat
  | '%' :: a :: b :: rest =>
    match hexDigit? a, hexDigit? b with
    | some x, some y => (16 * x + y) :: bytes rest
    | _, _ => 0x25 :: bytes (a :: b :: rest)
  | c :: rest => Utf8.encodeChar c ++ bytes rest
  | [] => []

/-- The text that the bytes spell; bytes that spell nothing are replaced. -/
def decode (cs : List Char) : List Char := Utf8.decode (bytes cs)

/-- The escape of one byte, with upper-case digits. -/
def escapeByte (b : Nat) : List Char :=
  '%' :: (hex 2 b).toList.map Char.toUpper

/-- Escapes every byte of the characters that a test singles out. -/
def encode (escaped : Char → Bool) (cs : List Char) : List Char :=
  cs.flatMap fun c => if escaped c then (Utf8.encodeChar c).flatMap escapeByte else [c]

end ApiGraph.Text.Percent
