import ApiGraph.Pattern.Basic
import ApiGraph.Text.Alphanumeric
import ApiGraph.Text.Hex

/-!
# Reading patterns

Patterns have groups, alternatives, repetitions and sets, and none of the constructs
that would need a matcher to go back: no back references and no looking around. A
brace always begins a repetition. In verbose mode blanks and comments between parts
are passed over.

Every reader takes up a part of the text, and nesting is bounded by its length.
-/

namespace ApiGraph.Pattern

structure Scan where
  rest : List Char
  verbose : Bool := false
  names : List (List Char) := []

/-- A reader of a part of a pattern. -/
abbrev Reads := StateT Scan Option

namespace Reads

/-- Moves over blanks and comments. -/
def afterSpace (inComment : Bool) : List Char → List Char
  | [] => []
  | c :: rest =>
    if inComment then afterSpace (c != '\n') rest
    else if Text.isWhiteSpace c then afterSpace false rest
    else if c == '#' then afterSpace true rest
    else c :: rest

def peek? : Reads (Option Char) := return (← get).rest.head?

/-- The next character, which must be there. -/
def peek : Reads Char := do
  match ← peek? with
  | some c => return c
  | none => failure

def sees (c : Char) : Reads Bool := return (← peek?) == some c

def bump : Reads Unit := modify fun s => { s with rest := s.rest.tail }

def space : Reads Unit :=
  modify fun s => if s.verbose then { s with rest := afterSpace false s.rest } else s

def bumpSpace : Reads Unit := do bump; space

/-- Moves over a text if it comes next. -/
def takes (text : String) : Reads Bool := do
  let s ← get
  match dropStart text.toList s.rest with
  | some rest => set { s with rest }; return true
  | none => return false
where
  dropStart : List Char → List Char → Option (List Char)
    | [], cs => some cs
    | a :: start, c :: cs => if a == c then dropStart start cs else none
    | _ :: _, [] => none

/-- Moves over a character that has to come next. -/
def expect (c : Char) : Reads Unit := do
  if ← sees c then bump else failure

/-- Characters up to one that does not fit, with blanks between them passed over. -/
def spacedRun (fits : Char → Bool) : Nat → Reads (List Char)
  | 0 => return []
  | bound + 1 => do
    match ← peek? with
    | some c =>
      if fits c then
        bumpSpace
        return c :: (← spacedRun fits bound)
      else return []
    | none => return []

def bound : Reads Nat := return (← get).rest.length

def skipWhile (fits : Char → Bool) : Reads Unit :=
  modify fun s => { s with rest := s.rest.dropWhile fits }

end Reads

open Reads

def isMeta (c : Char) : Bool :=
  ['\\', '.', '+', '*', '?', '(', ')', '|', '[', ']', '{', '}', '^', '$', '#', '&', '-',
   '~'].contains c

/-- Whether a backslash may stand in front of a character to no effect. -/
def isEscapable (c : Char) : Bool :=
  isMeta c || (c.toNat < 0x80 && !c.isAlphanum && c != '<' && c != '>')

def charOf (n : Nat) : Reads Char :=
  if n < 0xd800 || (0xdfff < n && n ≤ 0x10ffff) then return Char.ofNat n else failure

/-- The digits of a hexadecimal escape, behind its letter. -/
def hexEscape (letter : Char) : Reads Literal := do
  bumpSpace
  if ← sees '{' then
    bumpSpace
    let digits ← spacedRun (· != '}') (← bound)
    expect '}'
    match Text.ofDigits? 16 digits with
    | some n => return ⟨← charOf n, false⟩
    | none => failure
  else
    let count := if letter == 'x' then 2 else if letter == 'u' then 4 else 8
    let digits ← spacedRun (fun c => (Text.hexDigit? c).isSome) count
    if digits.length < count then failure
    match Text.ofDigits? 16 digits with
    | some n => return ⟨← charOf n, letter == 'x'⟩
    | none => failure

/-- A property escape, behind its backslash. -/
def propertyEscape : Reads Named := do
  bumpSpace
  if ← sees '{' then
    bumpSpace
    let text ← spacedRun (· != '}') (← bound)
    expect '}'
    return .property text
  else
    let c ← peek
    if c == '\\' then failure
    bumpSpace
    return .property [c]

/-- The name in braces of a special word boundary, if the braces hold no repetition. -/
def specialBoundary : Reads Unit := do
  let start ← get
  let isPart (c : Char) : Bool := c.isAlpha || c == '-'
  bumpSpace
  let c ← peek
  if isPart c then
    let name ← spacedRun isPart (← bound)
    expect '}'
    if String.ofList name ∉ ["start", "end", "start-half", "end-half"] then failure
  else set start

/-- What an escape stands for. -/
inductive Escaped where
  | literal (l : Literal)
  | named (set : Named)
  | look

def controlEscapes : List (Char × Char) :=
  [('a', '\x07'), ('f', '\x0c'), ('t', '\t'), ('n', '\n'), ('r', '\r'), ('v', '\x0b')]

def escape : Reads Escaped := do
  bump
  let c ← peek
  if ['x', 'u', 'U'].contains c then return .literal (← hexEscape c)
  else if ['p', 'P'].contains c then return .named (← propertyEscape)
  else if ['d', 's', 'w', 'D', 'S', 'W'].contains c then
    bump
    return .named (.shorthand c.toLower c.isUpper)
  else
    bump
    if isEscapable c then return .literal ⟨c, false⟩
    else if c == 'b' then
      if ← sees '{' then specialBoundary
      return .look
    else if ['A', 'z', 'B', '<', '>'].contains c then return .look
    else
      match controlEscapes.lookup c with
      | some control => return .literal ⟨control, false⟩
      | none => failure

/-! ## Sets -/

def posixNames : List String :=
  ["alnum", "alpha", "ascii", "blank", "cntrl", "digit", "graph", "lower", "print", "punct",
   "space", "upper", "word", "xdigit"]

/-- A named set inside brackets; whatever is none is left to be read as a nested set. -/
def posix? : Reads (Option Member) := do
  let start ← get
  if ← takes "[:" then
    let negated ← takes "^"
    let s ← get
    let name := s.rest.takeWhile (· != ':')
    set { s with rest := s.rest.drop name.length }
    if (← takes ":]") && posixNames.contains (String.ofList name) then
      return some (.posix negated)
  set start
  return none

/-- The members a set begins with: any number of hyphens, and a closing bracket that comes
first. -/
def setStart : Reads (Bool × List Member) := do
  bumpSpace
  let negated ← sees '^'
  if negated then bumpSpace
  let hyphens ← spacedRun (· == '-') (← bound)
  let dash : Member := .range ⟨'-', false⟩ ⟨'-', false⟩
  let members := hyphens.map fun _ => dash
  if members.isEmpty && (← sees ']') then
    bumpSpace
    return (negated, [.range ⟨']', false⟩ ⟨']', false⟩])
  return (negated, members)

def setItem : Reads Escaped := do
  let c ← peek
  if c == '\\' then escape
  else
    bump
    return .literal ⟨c, false⟩

def memberOf : Escaped → Reads Member
  | .literal l => return .range l l
  | .named set => return .named set
  | .look => failure

/-- The character behind the next one, blanks left aside. -/
def peekBehind? : Reads (Option Char) := do
  let s ← get
  let rest := s.rest.tail
  return (if s.verbose then afterSpace false rest else rest).head?

def setRange : Reads Member := do
  let first ← setItem
  space
  let c ← peek
  let behind ← peekBehind?
  if c != '-' || behind == some ']' || behind == some '-' then memberOf first
  else
    bumpSpace
    match first, ← setItem with
    | .literal first, .literal last =>
      if first.char ≤ last.char then return .range first last else failure
    | _, _ => failure

/-- Reads the members of a set up to its closing bracket. -/
def setMembers : Nat → List Member → Reads (List Member)
  | 0, _ => failure
  | bound + 1, members => do
    space
    let c ← peek
    if c == '[' then
      match ← posix? with
      | some m => setMembers bound (members ++ [m])
      | none =>
        let (negated, start) ← setStart
        let nested ← setMembers bound start
        setMembers bound (members ++ [.nested negated nested])
    else if c == ']' then
      bump
      return members
    else if (← takes "&&") || (← takes "--") || (← takes "~~") then setMembers bound members
    else setMembers bound (members ++ [← setRange])

def bracket : Reads Tree := do
  let (negated, start) ← setStart
  return .bracket negated (← setMembers ((← bound) + 1) start)

/-! ## Repetitions -/

/-- A count, with blanks around it passed over. -/
def count? : Reads (Option Nat) := do
  skipWhile Text.isWhiteSpace
  let digits ← spacedRun Char.isDigit (← bound)
  skipWhile Text.isWhiteSpace
  match Text.ofDigits? 10 digits with
  | none => return none
  | some n => if n < Nat.pow 2 32 then return some n else failure

/-- A repetition in braces: its least and greatest count. -/
def counts : Reads (Nat × Option Nat) := do
  bumpSpace
  let least ← count?
  let range ← if ← sees ',' then do
      bumpSpace
      if ← sees '}' then pure (least, none)
      else
        match ← count? with
        | some most => pure (least, some most)
        | none => failure
    else pure (least, least)
  expect '}'
  space
  if ← sees '?' then bump
  match range with
  | (some least, some most) => if least ≤ most then return (least, some most) else failure
  | (some least, none) => return (least, none)
  | (none, _) => failure

def canRepeat : Tree → Bool
  | .empty => false
  | .setFlags _ => false
  | _ => true

/-- Applies a repetition to the last of the parts read. -/
def repeatLast (parts : List Tree) (least : Nat) (most : Option Nat) : Reads (List Tree) :=
  match parts with
  | t :: rest => if canRepeat t then return .repeated t least most :: rest else failure
  | [] => failure

def lazyMark : Reads Unit := do
  bump
  if ← sees '?' then bump

/-! ## Groups -/

def isNameChar (first : Bool) (c : Char) : Bool :=
  c == '_' ||
    if first then Text.isAlphabetic c
    else c == '.' || c == '[' || c == ']' || Text.isAlphanumeric c

/-- The name of a group, up to its closing bracket; no two groups share one. -/
def groupName : Reads Unit := do
  let s ← get
  let name := s.rest.takeWhile (· != '>')
  set { s with rest := s.rest.drop name.length, names := name :: s.names }
  expect '>'
  match name with
  | [] => failure
  | c :: rest =>
    if !isNameChar true c || !rest.all (isNameChar false) || s.names.contains name then failure

def flagLetters : List Char := ['i', 'm', 's', 'U', 'u', 'R', 'x']

/-- Flags up to a colon or a closing bracket. A hyphen switches off those behind it. -/
def flags (on afterHyphen : Bool) (read : List FlagSetting) : Nat → Reads (List FlagSetting)
  | 0 => failure
  | bound + 1 => do
    let c ← peek
    if c == ':' || c == ')' then if afterHyphen then failure else return read
    else if c == '-' then
      if on then bump; flags false true read bound else failure
    else if flagLetters.contains c && !read.any (·.flag == c) then
      bump
      flags on false (read ++ [⟨c, on⟩]) bound
    else failure

/-- What stands behind the opening bracket of a group. -/
inductive Opening where
  | flags (settings : List FlagSetting)
  | group (settings : List FlagSetting) (captures : Bool)

def opening : Reads Opening := do
  bump
  space
  for mark in ["?=", "?!", "?<=", "?<!"] do
    if ← takes mark then failure
  if (← takes "?P<") || (← takes "?<") then
    groupName
    return .group [] true
  else if ← takes "?" then
    let settings ← flags true false [] ((← bound) + 1)
    let c ← peek
    bump
    if c == ')' then if settings.isEmpty then failure else return .flags settings
    else return .group settings false
  else return .group [] true

def setVerbose (settings : List FlagSetting) : Reads Unit :=
  modify fun s => { s with verbose := (setting? 'x' settings).getD s.verbose }

def sequenceOf (parts : List Tree) : Tree :=
  match parts with
  | [] => .empty
  | [t] => t
  | parts => .sequence parts.reverse

def eitherOf (branches : List Tree) (last : List Tree) : Tree :=
  match branches with
  | [] => sequenceOf last
  | branches => .either (sequenceOf last :: branches).reverse

/-- Reads alternatives up to a closing bracket or the end; both lists hold what has been read, the
last part first. -/
def alternatives : Nat → List Tree → List Tree → Reads Tree
  | 0, _, _ => failure
  | bound + 1, branches, parts => do
    space
    match ← peek? with
    | none => return eitherOf branches parts
    | some ')' => return eitherOf branches parts
    | some '|' =>
      bump
      alternatives bound (sequenceOf parts :: branches) []
    | some '(' =>
      match ← opening with
      | .flags settings =>
        setVerbose settings
        alternatives bound branches (.setFlags settings :: parts)
      | .group settings captures =>
        let outer := (← get).verbose
        setVerbose settings
        let t ← alternatives bound [] []
        expect ')'
        modify fun s => { s with verbose := outer }
        alternatives bound branches (.group settings captures t :: parts)
    | some '[' => alternatives bound branches ((← bracket) :: parts)
    | some '?' =>
      lazyMark
      alternatives bound branches (← repeatLast parts 0 (some 1))
    | some '*' =>
      lazyMark
      alternatives bound branches (← repeatLast parts 0 none)
    | some '+' =>
      lazyMark
      alternatives bound branches (← repeatLast parts 1 none)
    | some '{' =>
      let (least, most) ← counts
      alternatives bound branches (← repeatLast parts least most)
    | some '\\' =>
      let t := match ← escape with
        | .literal l => Tree.literal l
        | .named set => .named set
        | .look => .look
      alternatives bound branches (t :: parts)
    | some '.' =>
      bump
      alternatives bound branches (.dot :: parts)
    | some c =>
      bump
      let t : Tree := if c == '^' || c == '$' then .look else .literal ⟨c, false⟩
      alternatives bound branches (t :: parts)

/-- Reads a whole pattern; a closing bracket too many is left over and refused. -/
def Tree.ofText? (text : String) : Option Tree := do
  let cs := text.toList
  let (t, s) ← (alternatives (2 * cs.length + 2) [] []).run { rest := cs }
  if s.rest.isEmpty then return t else none

end ApiGraph.Pattern
