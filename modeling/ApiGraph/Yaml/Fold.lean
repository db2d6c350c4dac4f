import ApiGraph.Yaml.Cursor

/-!
# Line folding

Between two words of a scalar there is a gap of blanks and line breaks. On one line
its blanks are kept. Across lines a single break reads as one blank and further breaks
are kept, while all blanks around them are dropped.
-/

namespace ApiGraph.Yaml

structure Gap where
  blanks : List Char := []
  broken : Bool := false
  first : Option Char := none
  more : List Char := []
  tabColumns : List Nat := []

namespace Gap

/-- What the gap reads as. -/
def text (g : Gap) : List Char :=
  if g.broken then
    match g.first with
    | some '\n' => if g.more.isEmpty then [' '] else g.more
    | some c => c :: g.more
    | none => g.more
  else g.blanks

def addBlank (g : Gap) (c : Char) (column : Nat) : Gap :=
  if g.broken then
    if c == '\t' then { g with tabColumns := column :: g.tabColumns } else g
  else { g with blanks := g.blanks ++ [c] }

def addBreak (g : Gap) (c : Char) : Gap :=
  if g.broken then { g with more := g.more ++ [c] }
  else { g with broken := true, blanks := [], first := some c }

/-- Reads on to the next character that is neither blank nor break, within a bound. -/
def read (g : Gap) (cur : Cursor) : Nat → Gap × Cursor
  | 0 => (g, cur)
  | bound + 1 =>
    match cur.peek? with
    | none => (g, cur)
    | some c =>
      if isBlank c then read (g.addBlank c cur.column) cur.skip bound
      else
        match cur.lineBreak? with
        | some (b, next) => read (g.addBreak b) next bound
        | none => (g, cur)

/-- Whether a tab stands where a line has to be indented. -/
def tabBefore (g : Gap) (column : Int) : Bool := g.tabColumns.any fun c => (c : Int) < column

end Gap

end ApiGraph.Yaml
