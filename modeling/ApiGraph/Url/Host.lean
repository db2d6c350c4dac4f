import ApiGraph.Text.Percent
import ApiGraph.Url.Address
import ApiGraph.Url.Domain.Basic
import ApiGraph.Url.Escape

/-!
# Hosts

A long address stands in brackets under any scheme. Where the scheme is known, the host
is a domain name whose escapes are undone, and a name that ends in a number is a short
address. Elsewhere it is any text without the characters that part a URL.
-/

namespace ApiGraph.Url

open ApiGraph.Text

inductive Host where
  | absent
  | name (text : List Char)
  | short (address : Nat)
  | long (pieces : List Nat)
  deriving DecidableEq, Repr

def Host.text : Host → List Char
  | .absent => []
  | .name text => text
  | .short address => Address.shortText address
  | .long pieces => '[' :: Address.longText pieces ++ [']']

/-- A text that opens with a bracket has to be a long address and close with one. -/
def bracketed? (cs : List Char) : Option Host :=
  if cs.getLast? = some ']' then (Address.long? (cs.drop 1).dropLast).map .long else none

def Host.ofName? (cs : List Char) : Option Host :=
  if cs.head? = some '[' then bracketed? cs
  else
    (Domain.toAscii? (Percent.decode cs)).bind fun name =>
      if name.isEmpty then none
      else if Address.endsInNumber name then (Address.short? name).map .short
      else some (.name name)

def isHostBreak (c : Char) : Bool := "\x00\t\n\r #/:<>?@[\\]^|".contains c

def Host.ofText? (cs : List Char) : Option Host :=
  if cs.isEmpty then some .absent
  else if cs.head? = some '[' then bracketed? cs
  else if cs.any isHostBreak then none
  else some (.name (escape needsEscape cs))

end ApiGraph.Url
