import ApiGraph.Graph.Outline
import ApiGraph.Graph.Summary
import ApiGraph.Loading
import ApiGraph.Pattern.Validity

/-!
# The command line

Two commands read a description from a file: `tree` prints its outline, `routes` its
summary. The file may come from the environment; an argument has precedence.

Arguments are taken in from left to right, and the first one that does not fit ends
the reading. A request for help ends it too.
-/

namespace ApiGraph

inductive Command where
  | tree (file : String)
  | routes (file : String) (level : Option Nat) (json : Bool)
  deriving DecidableEq, Repr

/-- Why arguments name no command to run. -/
inductive Refusal where
  | usage
  | help
  deriving DecidableEq, Repr

namespace Command

/-- Arguments of a command that have been taken in. -/
structure Arguments where
  file : Option String := none
  level : Option Nat := none
  json : Bool := false
  verbose : Bool := false

/-- What may follow the name of a command beside a file. -/
structure Options where
  takesLevel : Bool
  takesJson : Bool

def once (given : Bool) : Except Refusal Unit := if given then .error .usage else .ok ()

def setVerbose (a : Arguments) : Except Refusal Arguments := do
  once a.verbose
  return { a with verbose := true }

def setJson (a : Arguments) : Except Refusal Arguments := do
  once a.json
  return { a with json := true }

def setLevel (a : Arguments) (text : String) : Except Refusal Arguments := do
  once a.level.isSome
  match Text.natural? text with
  | some n => if n < Nat.pow 2 64 then return { a with level := some n } else throw .usage
  | none => throw .usage

def setFile (a : Arguments) (text : String) : Except Refusal Arguments := do
  once a.file.isSome
  if text = "" then throw .usage
  return { a with file := some text }

/-- A cluster of one-letter flags. -/
def setLetters (a : Arguments) : List Char → Except Refusal Arguments
  | [] => .ok a
  | 'v' :: rest => do setLetters (← setVerbose a) rest
  | 'h' :: _ => .error .help
  | _ => .error .usage

/-- Whether an argument is written like an option. -/
def isOption (arg : String) : Bool :=
  match arg.toList with
  | '-' :: _ :: _ => true
  | _ => false

/-- Takes in the arguments of a command; behind two dashes all of them are files. -/
def readArguments (o : Options) (a : Arguments) : List String → Except Refusal Arguments
  | [] => .ok a
  | "--" :: files => files.foldlM setFile a
  | arg :: rest =>
    match arg.toList with
    | '-' :: '-' :: name =>
      match String.ofList name with
      | "verbose" => do readArguments o (← setVerbose a) rest
      | "help" => .error .help
      | "json" => do
        if !o.takesJson then throw .usage
        readArguments o (← setJson a) rest
      | "level" => do
        if !o.takesLevel then throw .usage
        match rest with
        | text :: rest =>
          if isOption text then throw .usage
          readArguments o (← setLevel a text) rest
        | [] => throw .usage
      | name =>
        match Text.after? "level=".toList name.toList with
        | some text => do
          if !o.takesLevel then throw .usage
          readArguments o (← setLevel a (String.ofList text)) rest
        | none => .error .usage
    | '-' :: letter :: letters => do readArguments o (← setLetters a (letter :: letters)) rest
    | _ => do readArguments o (← setFile a arg) rest

/-- The file given, else the one the environment names. -/
def fileOf (a : Arguments) (env : Option String) : Except Refusal String :=
  match a.file.or env with
  | some file => if file = "" then .error .usage else .ok file
  | none => .error .usage

/-- Asking for help on a command. -/
def readHelp : List String → Refusal
  | [] => .help
  | [name] => if name ∈ ["tree", "routes", "help"] then .help else .usage
  | _ => .usage

/-- Flags in front of the command. -/
def readLetters (verbose : Bool) : List Char → Except Refusal Bool
  | [] => .ok verbose
  | 'v' :: rest => if verbose then .error .usage else readLetters true rest
  | 'h' :: _ => .error .help
  | 'V' :: _ => .error .help
  | _ => .error .usage

def readFrom (env : Option String) (verbose : Bool) : List String → Except Refusal Command
  | [] => .error .usage
  | "tree" :: rest => do
    let a ← readArguments ⟨false, false⟩ {} rest
    return .tree (← fileOf a env)
  | "routes" :: rest => do
    let a ← readArguments ⟨true, true⟩ {} rest
    return .routes (← fileOf a env) a.level a.json
  | "help" :: rest => .error (readHelp rest)
  | "--verbose" :: rest => if verbose then .error .usage else readFrom env true rest
  | "--help" :: _ => .error .help
  | "--version" :: _ => .error .help
  | arg :: rest =>
    match arg.toList with
    | '-' :: '-' :: _ => .error .usage
    | '-' :: letter :: letters => do
      readFrom env (← readLetters verbose (letter :: letters)) rest
    | _ => .error .usage

/-- The command that arguments name. -/
def read (args : List String) (env : Option String) : Except Refusal Command :=
  readFrom env false args

def file : Command → String
  | .tree file => file
  | .routes file _ _ => file

end Command

/-- What is found under the name of a file. -/
inductive FileContent where
  | missing
  | unreadable (reason : String)
  | text (s : String)
  deriving Repr

/-- Why a command fails. -/
inductive CommandFault where
  | notFound (file : String)
  | unreadable (reason : String)
  | description (fault : Fault)
  deriving Repr

def CommandFault.message : CommandFault → String
  | .notFound file => "Operation failed: API description not found: " ++ Text.quotedFileName file
  | .unreadable reason => "IO Error: " ++ reason
  | .description fault => fault.message

namespace Command

def loadFile (file : String) : FileContent → Except CommandFault Graph
  | .missing => .error (.notFound file)
  | .unreadable reason => .error (.unreadable reason)
  | .text s => (Graph.ofText s).mapError .description

/-- What a command prints about a graph. -/
def render (g : Graph) : Command → String
  | .tree _ => g.outline
  | .routes _ level json =>
    let routes := g.summaries level
    if json then (RouteSummary.listToJson routes).pretty ++ "\n" else RouteSummary.listText routes

/-- The output of a command, given what its file holds. -/
def execute (c : Command) (content : FileContent) : Except CommandFault String := do
  return c.render (← loadFile c.file content)

end Command

end ApiGraph
