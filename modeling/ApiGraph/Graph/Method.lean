/-!
# HTTP methods

The methods a path may declare. `Method.all` is the order in which the operations of
a path are listed, whatever order the document writes them in.
-/

namespace ApiGraph

inductive Method where
  | get
  | put
  | post
  | delete
  | options
  | head
  | patch
  | trace
  deriving DecidableEq, Repr

namespace Method

def name : Method → String
  | get => "get"
  | put => "put"
  | post => "post"
  | delete => "delete"
  | options => "options"
  | head => "head"
  | patch => "patch"
  | trace => "trace"

/-- The name as it stands in a request line. -/
def upperName (m : Method) : String := m.name.toUpper

def all : List Method := [get, put, post, delete, options, head, patch, trace]

theorem mem_all (m : Method) : m ∈ all := by cases m <;> decide

theorem name_injective {m n : Method} (h : m.name = n.name) : m = n := by
  cases m <;> cases n <;> first | rfl | exact absurd h (by decide)

def ofName? (name : String) : Option Method := all.find? (·.name == name)

end Method

end ApiGraph
