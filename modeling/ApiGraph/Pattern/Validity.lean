import ApiGraph.Pattern.Checker
import ApiGraph.Pattern.Parser
import ApiGraph.Text.Utf8

/-!
# Usable patterns

A pattern that can be read may still be unusable: it nests too deep, names a set of
characters that does not exist, could match inside a character while Unicode is
switched off, or takes a matcher larger than the limit, whatever its sets are.

The flag for Unicode holds from where it is set to the end of its group, alternatives
included.
-/

namespace ApiGraph.Pattern

/-! ## Depth -/

mutual

def Member.depth : Member → Nat
  | .nested _ members => 1 + Member.deepest members
  | _ => 0

def Member.deepest : List Member → Nat
  | [] => 0
  | m :: rest => max m.depth (Member.deepest rest)

end

mutual

def Tree.depth : Tree → Nat
  | .bracket _ members => 1 + Member.deepest members
  | .repeated t _ _ => 1 + t.depth
  | .group _ _ t => 1 + t.depth
  | .either branches => 1 + Tree.deepest branches
  | .sequence parts => 1 + Tree.deepest parts
  | _ => 0

def Tree.deepest : List Tree → Nat
  | [] => 0
  | t :: rest => max t.depth (Tree.deepest rest)

end

def maxDepth : Nat := 250

/-! ## Sets and Unicode -/

def Named.isUsable (unicode : Bool) : Named → Bool
  | .shorthand _ negated => unicode || !negated
  | .property text => unicode && isProperty text

/-- Without Unicode the escape of a byte beyond ASCII would match a part of a character. -/
def Literal.isUsable (unicode : Bool) (l : Literal) : Bool :=
  unicode || !l.byte || l.char.toNat < 0x80

mutual

def Member.isUsable (unicode : Bool) : Member → Bool
  | .range first last => unicode || (first.char.toNat < 0x80 && last.char.toNat < 0x80)
  | .named set => set.isUsable unicode
  | .posix negated => unicode || !negated
  | .nested negated members => (unicode || !negated) && Member.allUsable unicode members

def Member.allUsable (unicode : Bool) : List Member → Bool
  | [] => true
  | m :: rest => m.isUsable unicode && Member.allUsable unicode rest

end

mutual

/-- Whether a tree is usable, and whether Unicode is on behind it. -/
def Tree.usable? (unicode : Bool) : Tree → Option Bool
  | .empty => some unicode
  | .look => some unicode
  | .setFlags settings => some ((setting? 'u' settings).getD unicode)
  | .literal l => if l.isUsable unicode then some unicode else none
  | .dot => if unicode then some unicode else none
  | .named set => if set.isUsable unicode then some unicode else none
  | .bracket negated members =>
    if (unicode || !negated) && Member.allUsable unicode members then some unicode else none
  | .repeated t _ _ => t.usable? unicode
  | .group settings _ t =>
    (t.usable? ((setting? 'u' settings).getD unicode)).map fun _ => unicode
  | .either branches => Tree.allUsable? unicode branches
  | .sequence parts => Tree.allUsable? unicode parts

def Tree.allUsable? (unicode : Bool) : List Tree → Option Bool
  | [] => some unicode
  | t :: rest =>
    match t.usable? unicode with
    | some unicode => Tree.allUsable? unicode rest
    | none => none

end

/-! ## Size -/

mutual

/-- The least size of a matcher, in bytes. A state takes 32 of them, and there is at least one for
every byte or set that is read, in every turn of a repetition that is laid out. -/
def Tree.leastSize : Tree → Nat
  | .literal l => 32 * (Text.Utf8.encodeChar l.char).length
  | .dot => 32
  | .named _ => 32
  | .bracket _ _ => 32
  | .repeated t least most => most.getD (max least 1) * t.leastSize
  | .group _ _ t => t.leastSize
  | .either branches => Tree.largest branches
  | .sequence parts => Tree.totalSize parts
  | .empty | .setFlags _ | .look => 0

/-- Branches may share states, but not those of one branch. -/
def Tree.largest : List Tree → Nat
  | [] => 0
  | t :: rest => max t.leastSize (Tree.largest rest)

def Tree.totalSize : List Tree → Nat
  | [] => 0
  | t :: rest => t.leastSize + Tree.totalSize rest

end

def maxSize : Nat := 10 * Nat.pow 2 20

/-! ## Objections -/

/-- Why a pattern cannot be used. -/
inductive Objection where
  | unreadable
  | tooDeep
  | unusableSet
  | tooLarge
  deriving DecidableEq, Repr

def Objection.text : Objection → String
  | .unreadable => "regex parse error"
  | .tooDeep =>
    "exceeded the maximum number of nested parentheses/brackets (" ++ toString maxDepth ++ ")"
  | .unusableSet => "set of characters does not exist or could match invalid UTF-8"
  | .tooLarge => "Compiled regex exceeds size limit of " ++ toString maxSize ++ " bytes."

/-- The objection to a pattern. A matcher may object to more: the sets in it may be so large that
they take it over the limit. -/
def objection? (text : String) : Option Objection :=
  match Tree.ofText? text with
  | none => some .unreadable
  | some t =>
    if maxDepth < t.depth then some .tooDeep
    else if (t.usable? true).isNone then some .unusableSet
    else if maxSize < t.leastSize then some .tooLarge
    else none

/-- The checker that the command line uses. -/
instance : Checker := ⟨fun text => (objection? text).map Objection.text⟩

end ApiGraph.Pattern
