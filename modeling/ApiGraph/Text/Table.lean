import ApiGraph.Text.Hex

/-!
# Tables written as text

A table of code points is a text. Commas end its rows, and the numbers of a row stand
in hexadecimal digits with blanks between them. What the numbers of a row mean is up
to the table: bounds of a range, a character and its parts, a run and its image.
-/

namespace ApiGraph.Text.Table

/-- The finished rows and the numbers of the open row, newest first, and the number whose
digits are being read. -/
structure Reading where
  rows : List (List Nat)
  row : List Nat
  number : Option Nat

def Reading.start : Reading := ⟨[], [], none⟩

def Reading.endNumber (r : Reading) : Reading :=
  match r.number with
  | none => r
  | some n => ⟨r.rows, n :: r.row, none⟩

def Reading.endRow (r : Reading) : Reading :=
  let r := r.endNumber
  ⟨r.row.reverse :: r.rows, [], none⟩

def Reading.push (r : Reading) (c : Char) : Reading :=
  match hexDigit? c with
  | some d => { r with number := some (r.number.getD 0 * 16 + d) }
  | none => if c = ',' then r.endRow else r.endNumber

def rows (s : String) : List (List Nat) := (s.foldl Reading.push Reading.start).endRow.rows.reverse

/-- Rows of one code point or of two bounds. -/
def ranges (s : String) : List (Nat × Nat) :=
  (rows s).filterMap fun
    | [n] => some (n, n)
    | [low, high] => some (low, high)
    | _ => none

/-- Rows of a character and the characters that it stands for. -/
def images (s : String) : List (Char × List Char) :=
  (rows s).filterMap fun
    | [] => none
    | n :: ns => some (Char.ofNat n, ns.map Char.ofNat)

end ApiGraph.Text.Table
