import ApiGraph.Text.Split

/-!
# Routes

A path is cut at slashes into segments, empty ones being dropped. A segment in braces
is a parameter; the other segments, in order, are the static segments, and joined by
slashes they form the static path.
-/

namespace ApiGraph

structure Segment where
  text : String
  route : Nat
  position : Nat
  last : Bool
  deriving DecidableEq, Repr, Inhabited

/-- The text between the braces of a parameter segment. -/
def placeholder? (text : String) : Option String :=
  match text.toList with
  | '{' :: rest => if rest.getLast? = some '}' then some (String.ofList rest.dropLast) else none
  | _ => none

def isPlaceholder (text : String) : Bool := (placeholder? text).isSome

/-- The segment texts of a path. -/
def segmentTexts (path : String) : List String :=
  (Text.pieces '/' path).filter (· ≠ "")

namespace Segment

def isParameter (s : Segment) : Bool := isPlaceholder s.text

def parameterName? (s : Segment) : Option String := placeholder? s.text

/-- The segments of a path, numbered, the last one marked. -/
def ofTexts (route : Nat) (texts : List String) : List Segment :=
  texts.mapIdx fun i text => ⟨text, route, i, i + 1 == texts.length⟩

end Segment

structure Route where
  id : Nat
  path : String
  segments : List Segment
  operations : List Nat
  deriving DecidableEq, Repr, Inhabited

namespace Route

def ofPath (id : Nat) (path : String) (operations : List Nat) : Route :=
  ⟨id, path, Segment.ofTexts id (segmentTexts path), operations⟩

def texts (r : Route) : List String := r.segments.map Segment.text

def staticSegments (r : Route) : List String :=
  (r.segments.filter fun s => !s.isParameter).map Segment.text

def staticPath (r : Route) : String := Text.join "/" r.staticSegments

/-- How many static segments the route has. -/
def level (r : Route) : Nat := (r.segments.filter fun s => !s.isParameter).length

/-- Whether the segment texts begin with the given ones. -/
def startsWithTexts (r : Route) (texts : List String) : Bool := texts.isPrefixOf r.texts

def startsWith (r other : Route) : Bool := r.startsWithTexts other.texts

def equalStatic (r other : Route) : Bool := r.staticSegments == other.staticSegments

end Route

end ApiGraph
