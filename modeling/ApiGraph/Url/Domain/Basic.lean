import ApiGraph.Text.Split
import ApiGraph.Url.Domain.Direction
import ApiGraph.Url.Domain.Joining
import ApiGraph.Url.Domain.Mapping
import ApiGraph.Url.Punycode

/-!
# Domain names

A domain name is unified, composed and cut into labels. A label is either shown as it
is, or it comes in its ASCII form, which a marker announces. The ASCII form has to be
the one form of what it shows: it is refused if it shows nothing beyond ASCII or if
what it shows would be unified or composed to something else. `toAscii?` is the name
with every label in ASCII.
-/

namespace ApiGraph.Url.Domain

open ApiGraph.Text

/-- A label as it is shown and as it is sent. -/
structure Label where
  shown : List Char
  ascii : List Char
  deriving DecidableEq, Repr

def marker : List Char := ['x', 'n', '-', '-']

/-- The greatest number of characters that a shown label beyond ASCII may have. -/
def shownLimit : Nat := 1000

/-- The greatest number of characters behind the marker. -/
def sentLimit : Nat := 2000

def unified (cs : List Char) : List Char := canonical (cs.flatMap unify)

/-- What a label of either form may show. -/
def isShowable (label : List Char) : Bool :=
  label.all isPermitted && !(label.head?.any isMark) && joinersFit [] label

/-- Reads what stands behind the marker. -/
def shownBy? (digits : List Char) : Option (List Char) :=
  if !digits.all isAscii ∨ digits.getLast? = some '-' ∨ sentLimit < digits.length then none
  else
    (Punycode.decode? digits).bind fun shown =>
      if shown.all isAscii || unified shown != shown then none else some shown

def Label.ofUnified? (label : List Char) : Option Label :=
  match after? marker label with
  | some digits =>
    (shownBy? digits).bind fun shown =>
      if isShowable shown then some ⟨shown, label⟩ else none
  | none =>
    if !isShowable label then none
    else if label.all isAscii then some ⟨label, label⟩
    else if shownLimit < label.length then none
    else some ⟨label, marker ++ Punycode.encode label⟩

/-- The rule of direction binds every label as soon as one label runs to the left. -/
def agree (labels : List Label) : Bool :=
  !labels.any (runsLeft ·.shown) || labels.all (keepsDirection ·.shown)

def toAscii? (name : List Char) : Option (List Char) :=
  ((splitOn '.' (unified name)).mapM Label.ofUnified?).bind fun labels =>
    if agree labels then some (['.'].intercalate (labels.map Label.ascii)) else none

end ApiGraph.Url.Domain
