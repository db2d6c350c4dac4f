import ApiGraph.Pattern.Property

/-!
# Pattern trees

The parts of a regular expression that decide whether it can be used. What a part
matches plays no role here, so zero-width parts are all alike, and a set keeps only
its members.
-/

namespace ApiGraph.Pattern

/-- A flag and whether it is switched on. -/
structure FlagSetting where
  flag : Char
  on : Bool
  deriving DecidableEq, Repr

/-- A character, and whether it was written as the escape of one byte. -/
structure Literal where
  char : Char
  byte : Bool := false
  deriving DecidableEq, Repr

/-- A named set of characters. -/
inductive Named where
  | shorthand (kind : Char) (negated : Bool)
  | property (text : List Char)
  deriving DecidableEq, Repr

inductive Member where
  | range (first last : Literal)
  | named (set : Named)
  | posix (negated : Bool)
  | nested (negated : Bool) (members : List Member)
  deriving Repr

inductive Tree where
  | empty
  | setFlags (settings : List FlagSetting)
  | literal (l : Literal)
  | dot
  | look
  | named (set : Named)
  | bracket (negated : Bool) (members : List Member)
  | repeated (t : Tree) (least : Nat) (most : Option Nat)
  | group (settings : List FlagSetting) (captures : Bool) (t : Tree)
  | either (branches : List Tree)
  | sequence (parts : List Tree)
  deriving Repr, Inhabited

/-- The last setting of a flag. -/
def setting? (flag : Char) (settings : List FlagSetting) : Option Bool :=
  (settings.find? fun s => s.flag == flag).map FlagSetting.on

end ApiGraph.Pattern
