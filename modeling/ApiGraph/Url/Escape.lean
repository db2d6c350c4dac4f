import ApiGraph.Text.Percent

/-!
# What is escaped where

Controls and everything beyond ASCII are escaped in every part of a URL. To these each
part adds the characters that would end it or that are easily mangled in passing.
-/

namespace ApiGraph.Url

open ApiGraph.Text

def needsEscape (c : Char) : Bool := c.toNat < 0x20 || 0x7e < c.toNat

def inFragment (c : Char) : Bool := needsEscape c || " \"<>`".contains c

def inQuery (special : Bool) (c : Char) : Bool :=
  needsEscape c || " \"#<>".contains c || (special && c == '\x27')

def inPath (c : Char) : Bool := inFragment c || "#?\x7b\x7d".contains c

def inCredentials (c : Char) : Bool := inPath c || "/:;=@[\\]^|".contains c

def escape (escaped : Char → Bool) (cs : List Char) : List Char := Percent.encode escaped cs

end ApiGraph.Url
