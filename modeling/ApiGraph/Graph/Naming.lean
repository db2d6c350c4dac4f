import ApiGraph.Graph.Basic
import ApiGraph.Text.Alphanumeric
import ApiGraph.Text.LetterCase

/-!
# Handler names

A handler is named by the operation id in snake case, or failing that by the method
and the static path. In snake case words are lower-case and stand between single
underscores; a capital begins a word when a small letter or digit stands before it.
-/

namespace ApiGraph

namespace SnakeCase

/-- What has been written, the last character first, and whether the last character read was a
small letter or a digit. -/
structure Progress where
  written : List Char := []
  afterSmall : Bool := false

/-- Begins a new word, unless nothing has been written since the last one began. -/
def breakWord (written : List Char) : List Char :=
  match written with
  | [] => []
  | '_' :: _ => written
  | _ => '_' :: written

def step (p : Progress) (c : Char) : Progress :=
  if Text.isAlphanumeric c then
    if Text.isUppercase c then
      let written := if p.afterSmall then breakWord p.written else p.written
      ⟨(Text.lowercase c).reverse ++ written, false⟩
    else ⟨c :: p.written, true⟩
  else ⟨breakWord p.written, false⟩

def convert (cs : List Char) : List Char :=
  ((cs.foldl step {}).written.dropWhile (· = '_')).reverse

end SnakeCase

/-- A text as words in snake case. -/
def snakeCase (s : String) : String := String.ofList (SnakeCase.convert s.toList)

def handlerName (m : Method) (operationId : Option String) (staticPath : String) : String :=
  match (operationId.map snakeCase).filter (· ≠ "") with
  | some name => name
  | none => if staticPath = "" then m.name ++ "_root" else m.name ++ "_" ++ snakeCase staticPath

def Graph.handlerName (g : Graph) (op : Operation) : String :=
  let staticPath := ((g.routeOf? op).map Route.staticPath).getD ""
  ApiGraph.handlerName op.method op.operationId staticPath

end ApiGraph
