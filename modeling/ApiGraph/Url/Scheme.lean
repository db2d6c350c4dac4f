/-!
# Schemes

The scheme decides how the rest of a URL is read. Those of the web always name a host,
allow a backslash for a slash, and have a port of their own. Files have a host at
times and paths that may begin with a drive. For every other scheme the host is a text
without a meaning, and the path may be one, too.
-/

namespace ApiGraph.Url

inductive Kind where
  | web
  | file
  | other
  deriving DecidableEq, Repr

def Kind.ofScheme : String → Kind
  | "http" | "https" | "ws" | "wss" | "ftp" => .web
  | "file" => .file
  | _ => .other

def Kind.isSpecial (k : Kind) : Bool := k != .other

/-- A backslash counts as a slash where the scheme is known. -/
def Kind.isSlash (k : Kind) (c : Char) : Bool := c == '/' || (k.isSpecial && c == '\\')

/-- A port that goes without saying. -/
def ownPort? : String → Option Nat
  | "http" | "ws" => some 80
  | "https" | "wss" => some 443
  | "ftp" => some 21
  | _ => none

def isSchemeChar (c : Char) : Bool :=
  c.isAlphanum || c == '+' || c == '-' || c == '.'

/-- The scheme, in small letters, and what stands behind its colon. -/
def scheme? (cs : List Char) : Option (String × List Char) :=
  match cs.span isSchemeChar with
  | (c :: name, ':' :: rest) =>
    if c.isAlpha then some (String.ofList ((c :: name).map Char.toLower), rest) else none
  | _ => none

end ApiGraph.Url
