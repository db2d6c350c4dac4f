import ApiGraph.Graph.Basic

/-!
# The route hierarchy

Routes form a tree by their segments. The queries below look at one level at a time;
segment texts are compared literally, so `{id}` matches only itself.
-/

namespace ApiGraph

namespace Graph

def routesAtLevel (g : Graph) (level : Nat) : List Route :=
  g.routes.filter (·.level == level)

/-- The distinct first segments, in order of first occurrence. -/
def rootTexts (g : Graph) : List String :=
  (g.routes.filterMap fun r => r.segments.head?.map Segment.text).eraseDups

def routesStartingWith (g : Graph) (texts : List String) : List Route :=
  g.routes.filter (·.startsWithTexts texts)

/-- The segments right behind the given texts. -/
def nextSegments (g : Graph) (texts : List String) : List Segment :=
  (g.routesStartingWith texts).filterMap fun r => r.segments[texts.length]?

def nextTexts (g : Graph) (texts : List String) : List String :=
  ((g.nextSegments texts).map Segment.text).eraseDups

def nextStaticTexts (g : Graph) (texts : List String) : List String :=
  (((g.nextSegments texts).filter fun s => !s.isParameter).map Segment.text).eraseDups

/-- The first route with exactly these static segments. -/
def routeByStatic? (g : Graph) (texts : List String) : Option Route :=
  g.routes.find? (·.staticSegments == texts)

/-- The routes that go on where a route ends. -/
def routesUnder (g : Graph) (r : Route) : List Route :=
  g.routes.filter fun s => r.segments.length < s.segments.length && s.startsWith r

end Graph

end ApiGraph
