import ApiGraph.Command

/-!
# The program

Reads the file that the arguments name, prints the answer, and reports failures on
the standard error stream: status 2 for arguments that do not fit, 1 for a file that
cannot be used.
-/

namespace ApiGraph.Command

def usage : String :=
  "Usage: oapi-graph [-v] tree [FILE]\n       oapi-graph [-v] routes [FILE] [--level N] [--json]"

/-- What stands under a file name. -/
def readContent (file : String) : IO FileContent := do
  try
    return .text (← IO.FS.readFile file)
  catch
    | .noFileOrDirectory .. => return .missing
    | .inappropriateType .. => return .unreadable "Is a directory (os error 21)"
    | e => return .unreadable e.toString

/-- Carries out what the arguments ask for, and gives the status to end with. -/
def run (args : List String) : IO UInt32 := do
  match read args (← IO.getEnv "OAPI_GRAPH_INPUT") with
  | .error .help =>
    IO.println usage
    return 0
  | .error .usage =>
    IO.eprintln usage
    return 2
  | .ok command =>
    match command.execute (← readContent command.file) with
    | .ok out =>
      IO.print out
      return 0
    | .error fault =>
      IO.eprintln ("Error: " ++ fault.message)
      return 1

end ApiGraph.Command

def main (args : List String) : IO UInt32 := ApiGraph.Command.run args
