import ApiGraph.Graph.Hierarchy

/-!
# Outlines

The outline of a graph shows its title and then the tree of route segments, two
spaces deeper at each level. A line ends with the upper-case methods of the routes
that end there.

A level is drawn by drawing, below each of its texts, the next level. No route is
longer than the longest one, which bounds the depth.
-/

namespace ApiGraph.Graph

/-- The methods of all routes whose segments are exactly these. -/
def methodsAt (g : Graph) (texts : List String) : List String :=
  ((g.routesStartingWith texts).filter (·.segments.length == texts.length)).flatMap fun r =>
    (g.operationsOf r).map (·.method.upperName)

def outlineLine (g : Graph) (texts : List String) (text : String) : String :=
  let indent := String.ofList (List.replicate (2 * (texts.length - 1)) ' ')
  let methods := g.methodsAt texts
  if methods.isEmpty then indent ++ text ++ "\n"
  else indent ++ text ++ "  " ++ " ".intercalate methods ++ "\n"

/-- The lines below a list of segment texts, at most `depth` levels of them. -/
def outlineBelow (g : Graph) : Nat → List String → List String → List String
  | 0, _, _ => []
  | depth + 1, above, here =>
    here.flatMap fun text =>
      let texts := above ++ [text]
      g.outlineLine texts text :: g.outlineBelow depth texts (g.nextTexts texts)

def depth (g : Graph) : Nat := (g.routes.map (·.segments.length)).foldl max 0

def outline (g : Graph) : String :=
  let header := g.title?.getD "untitled" ++ " (" ++ g.version?.getD "?" ++ ")\n"
  let rootMethods := g.methodsAt []
  let root := if rootMethods.isEmpty then "" else "/  " ++ " ".intercalate rootMethods ++ "\n"
  header ++ root ++ String.join (g.outlineBelow g.depth [] g.rootTexts)

end ApiGraph.Graph
