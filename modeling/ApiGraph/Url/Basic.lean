import ApiGraph.Url.Authority
import ApiGraph.Url.Path

/-!
# URLs

A URL is read into its parts, each of them brought to one spelling, and written again.
`normalize?` is the text of what was read, and there is none if the text has no scheme
or its host is not one. Blanks around the text and line breaks within it do not count.
-/

namespace ApiGraph

open ApiGraph.Text

/-- The parts of a URL, escaped where they need it. -/
structure Url where
  scheme : String
  authority : Option Url.Authority
  path : List Char
  query : Option (List Char)
  fragment : Option (List Char)
  deriving DecidableEq, Repr

namespace Url

/-- A path that begins with two slashes must not be taken for an authority. -/
def text (u : Url) : String :=
  let front := match u.authority with
    | some a => '/' :: '/' :: a.text
    | none => if (after? ['/', '/'] u.path).isSome then ['/', '.'] else []
  let query := (u.query.map ('?' :: ·)).getD []
  let fragment := (u.fragment.map ('#' :: ·)).getD []
  u.scheme ++ String.ofList (':' :: front ++ u.path ++ query ++ fragment)

def tidy (cs : List Char) : List Char :=
  let blank (c : Char) : Bool := c.toNat ≤ 0x20
  let trimmed := ((cs.dropWhile blank).reverse.dropWhile blank).reverse
  trimmed.filter fun c => c != '\t' && c != '\n' && c != '\r'

/-- The path, the query behind a question mark and the fragment behind a hash. -/
def cut (cs : List Char) : List Char × Option (List Char) × Option (List Char) :=
  let (path, tail) := cs.span fun c => c != '?' && c != '#'
  match tail with
  | [] => (path, none, none)
  | '?' :: rest =>
    let (query, tail) := rest.span (· != '#')
    (path, some query, tail.head?.map fun _ => tail.drop 1)
  | _ :: fragment => (path, none, some fragment)

/-- Without an authority, a path that does not begin with a slash is no list of segments. -/
def pathText (k : Kind) (anchored : Bool) (path : List Char) : List Char :=
  if k = .other ∧ path = [] then []
  else if !anchored ∧ path.head? ≠ some '/' then escape needsEscape path
  else segmentsText (segments k path)

def ofParts (scheme : String) (authority : Option Authority) (rest : List Char) : Url :=
  let k := Kind.ofScheme scheme
  let (path, query, fragment) := cut rest
  { scheme, authority
    path := pathText k authority.isSome path
    query := query.map (escape (inQuery k.isSpecial))
    fragment := fragment.map (escape inFragment) }

/-- The host of a file and what stands behind it. A drive in its place begins the path, and the
machine itself is no host. -/
def fileHost? (cs : List Char) : Option (Host × List Char) :=
  match cs with
  | a :: b :: rest =>
    if Kind.file.isSlash a && Kind.file.isSlash b then
      let (name, tail) := rest.span fun c => !(Kind.file.isSlash c || c == '?' || c == '#')
      if isDrive name then some (.absent, rest)
      else if name.isEmpty then some (.absent, tail)
      else
        (Host.ofName? name).map fun host =>
          (if host = .name "localhost".toList then .absent else host, tail)
    else some (.absent, cs)
  | _ => some (.absent, cs)

/-- A drive at the front of the path leaves no room for a host. -/
def ofFile? (cs : List Char) : Option Url :=
  (fileHost? cs).map fun (host, rest) =>
    let (path, query, fragment) := cut rest
    let found := segments .file path
    let host := if found.head?.any isDrive then .absent else host
    { scheme := "file"
      authority := some ⟨[], host, none⟩
      path := segmentsText (dropEmptyFront found)
      query := query.map (escape (inQuery true))
      fragment := fragment.map (escape inFragment) }

def parse? (s : String) : Option Url :=
  (scheme? (tidy s.toList)).bind fun (scheme, rest) =>
    let read (cs : List Char) : Option Url :=
      (Authority.read? scheme cs).map fun (authority, rest) => ofParts scheme (some authority) rest
    match Kind.ofScheme scheme with
    | .file => ofFile? rest
    | .web => read (rest.dropWhile Kind.web.isSlash)
    | .other =>
      match after? ['/', '/'] rest with
      | some rest => read rest
      | none => some (ofParts scheme none rest)

def normalize? (s : String) : Option String := (parse? s).map text

end Url

end ApiGraph
