import ApiGraph.Graph.Basic
import ApiGraph.Normalization
import ApiGraph.Yaml.Document

/-!
# Loading descriptions

A description is read, normalized and laid out as a graph. The first stage that finds
a fault decides the answer.
-/

namespace ApiGraph.Graph

variable [Pattern.Checker]

/-- The graph of a document, normalized first. -/
def load (options : NormalizeOptions) (input : Json) : Except Fault Graph := do
  ofDocument (← normalize options input)

/-- The graph of a YAML or JSON text. -/
def ofText (text : String) : Except Fault Graph := do
  load {} (← decodeDocument text)

end ApiGraph.Graph
