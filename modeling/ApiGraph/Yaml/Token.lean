import ApiGraph.Text.Percent
import ApiGraph.Yaml.Scalar

/-!
# YAML tokens

A text becomes a list of tokens. Indentation is turned into tokens of its own, which
open and close blocks. A key is known to be one only when its colon is reached: until
then its token number is remembered, and the key token is put in front of it later.

A remembered key must stay on its line and within 1024 characters of its colon. At
the indentation of a block mapping it has to become a key.
-/

namespace ApiGraph.Yaml

inductive Token where
  | version (major minor : Nat)
  | handle (name target : String)
  | documentStart
  | documentEnd
  | blockSequence
  | blockMapping
  | blockEnd
  | flowSequence
  | flowSequenceEnd
  | flowMapping
  | flowMappingEnd
  | entry
  | comma
  | key
  | value
  | alias (name : String)
  | anchor (name : String)
  | tag (handle suffix : String)
  | scalar (text : String) (plain : Bool)
  deriving DecidableEq, Repr

/-- A token that may turn out to begin a key. -/
structure KeyCandidate where
  required : Bool
  number : Nat
  line : Nat
  column : Nat
  index : Nat

def KeyCandidate.isNear (c : KeyCandidate) (cur : Cursor) : Bool :=
  c.line == cur.line && cur.index ≤ c.index + 1024

structure Lexer where
  cur : Cursor
  tokens : Array Token := #[]
  indent : Int := -1
  outer : List Int := []
  /-- Candidates of the enclosing brackets, the innermost first; the last one belongs to the
  block around all brackets. -/
  candidates : List (Option KeyCandidate) := [none]
  keyAllowed : Bool := true

namespace Lexer

/-- How many brackets are open. -/
def flow (l : Lexer) : Nat := l.candidates.length - 1

def inFlow (l : Lexer) : Bool := l.flow != 0

def push (l : Lexer) (t : Token) : Lexer := { l with tokens := l.tokens.push t }

def skip (l : Lexer) (n : Nat := 1) : Lexer := { l with cur := l.cur.skip n }

def allowKey (l : Lexer) (yes : Bool) : Lexer := { l with keyAllowed := yes }

def setCandidate (l : Lexer) (candidate : Option KeyCandidate) : Lexer :=
  match l.candidates with
  | [] => { l with candidates := [candidate] }
  | _ :: rest => { l with candidates := candidate :: rest }

/-- Gives up the current candidate, which must not be required. -/
def dropCandidate? (l : Lexer) : Option Lexer :=
  match l.candidates.head? with
  | some (some candidate) => if candidate.required then none else some (l.setCandidate none)
  | _ => some l

/-- Remembers that the next token may begin a key. -/
def saveCandidate? (l : Lexer) : Option Lexer :=
  if l.keyAllowed then
    let candidate : KeyCandidate :=
      { required := !l.inFlow && l.indent == (l.cur.column : Int)
        number := l.tokens.size
        line := l.cur.line
        column := l.cur.column
        index := l.cur.index }
    l.dropCandidate?.map (·.setCandidate (some candidate))
  else some l

/-- Opens a block if the column lies deeper than the current one. The block's token goes in front
of the token with the given number. -/
def openBlock (l : Lexer) (column number : Nat) (t : Token) : Lexer :=
  if !l.inFlow && l.indent < (column : Int) then
    { l with
      outer := l.indent :: l.outer
      indent := column
      tokens := l.tokens.insertIdxIfInBounds number t }
  else l

/-- Closes blocks that lie deeper than a column. -/
def closeFrom (column : Int) (tokens : Array Token) (indent : Int) :
    List Int → Array Token × Int × List Int
  | [] => (tokens, indent, [])
  | o :: outer =>
    if column < indent then closeFrom column (tokens.push .blockEnd) o outer
    else (tokens, indent, o :: outer)

def closeBlocks (l : Lexer) (column : Int) : Lexer :=
  if l.inFlow then l
  else
    let (tokens, indent, outer) := closeFrom column l.tokens l.indent l.outer
    { l with tokens, indent, outer }

/-- Moves over blanks, comments and line breaks. A tab counts as a blank only where no key can
begin. -/
def skipSpace (l : Lexer) : Nat → Lexer
  | 0 => l
  | bound + 1 =>
    let cur := if l.cur.column == 0 && l.cur.sees '\ufeff' then l.cur.skip else l.cur
    let cur := cur.skipWhile fun c => c == ' ' || (c == '\t' && (l.inFlow || !l.keyAllowed))
    let cur := if cur.sees '#' then cur.skipWhile (fun c => !isBreak c) else cur
    match cur.lineBreak? with
    | some (_, next) =>
      skipSpace { l with cur := next, keyAllowed := l.keyAllowed || !l.inFlow } bound
    | none => { l with cur }

/-- Ends all blocks before a document marker, a directive or the end. -/
def leaveBlocks? (l : Lexer) : Option Lexer :=
  (l.closeBlocks (-1)).dropCandidate?.map (·.allowKey false)

def marker? (l : Lexer) (t : Token) : Option Lexer :=
  l.leaveBlocks?.map fun l => (l.skip 3).push t

def openFlow? (l : Lexer) (t : Token) : Option Lexer :=
  l.saveCandidate?.map fun l =>
    ({ l with candidates := none :: l.candidates, keyAllowed := true }.skip).push t

def closeFlow? (l : Lexer) (t : Token) : Option Lexer :=
  l.dropCandidate?.map fun l =>
    let candidates := if l.inFlow then l.candidates.tail else l.candidates
    ({ l with candidates, keyAllowed := false }.skip).push t

def comma? (l : Lexer) : Option Lexer :=
  l.dropCandidate?.map fun l => ((l.allowKey true).skip).push .comma

def entry? (l : Lexer) : Option Lexer :=
  if !l.inFlow && !l.keyAllowed then none
  else
    (l.openBlock l.cur.column l.tokens.size .blockSequence).dropCandidate?.map fun l =>
      ((l.allowKey true).skip).push .entry

def key? (l : Lexer) : Option Lexer :=
  if !l.inFlow && !l.keyAllowed then none
  else
    (l.openBlock l.cur.column l.tokens.size .blockMapping).dropCandidate?.map fun l =>
      ((l.allowKey !l.inFlow).skip).push .key

/-- Turns the candidate into a key. -/
def valueOf (l : Lexer) (c : KeyCandidate) : Lexer :=
  let l := { l with tokens := l.tokens.insertIdxIfInBounds c.number .key }
  let l := l.openBlock c.column c.number .blockMapping
  ((l.setCandidate none).allowKey false).skip.push .value

def valueAlone? (l : Lexer) : Option Lexer :=
  if !l.inFlow && !l.keyAllowed then none
  else
    some (((l.openBlock l.cur.column l.tokens.size .blockMapping).allowKey !l.inFlow).skip.push
      .value)

def value? (l : Lexer) : Option Lexer :=
  match l.candidates.head? with
  | some (some c) =>
    if c.isNear l.cur then some (l.valueOf c)
    else if c.required then none
    else valueAlone? (l.setCandidate none)
  | _ => l.valueAlone?

/-- What may stand right behind the name of an anchor or alias. -/
def nameEnds : List Char := ['?', ':', ',', ']', '}', '%', '@', '\x60']

/-- An anchor or alias, from its indicator. -/
def named? (l : Lexer) (make : String → Token) : Option Lexer := do
  let l ← l.saveCandidate?
  let (name, next) := l.cur.skip.takeWhile isWord
  if name.isEmpty || !(next.seesSpace || next.seesAny nameEnds) then failure
  return { l with cur := next, keyAllowed := false }.push (make (String.ofList name))

def uriMarks : List Char :=
  [';', '/', '?', ':', '@', '&', '=', '+', '$', '.', '%', '!', '~', '*', '\x27', '(', ')']

def isUriChar (verbatim : Bool) (c : Char) : Bool :=
  isWord c || uriMarks.contains c || (verbatim && (c == ',' || c == '[' || c == ']'))

/-- Whether every percent sign begins an escape and the escapes spell characters. -/
def uriText? (cs : List Char) : Option String :=
  let rec sound : List Char → Bool
    | '%' :: a :: b :: rest =>
      (Text.hexDigit? a).isSome && (Text.hexDigit? b).isSome && sound rest
    | c :: rest => c != '%' && sound rest
    | [] => true
  if sound cs then some (String.ofList (Text.Percent.decode cs)) else none

def uri? (verbatim : Bool) (cur : Cursor) : Option (String × Cursor) :=
  let (cs, next) := cur.takeWhile (isUriChar verbatim)
  (uriText? cs).map fun s => (s, next)

/-- The handle that begins a tag: an exclamation mark, and possibly a word closed by another. -/
def handle? (cur : Cursor) : Option (String × Cursor) :=
  if cur.sees '!' then
    let (name, next) := cur.skip.takeWhile isWord
    let (close, next) := if next.sees '!' then (['!'], next.skip) else ([], next)
    some (String.ofList ('!' :: name ++ close), next)
  else none

def tagParts? (cur : Cursor) : Option (String × String × Cursor) :=
  if cur.sees '<' 1 then do
    let (suffix, next) ← uri? true (cur.skip 2)
    if suffix.isEmpty || !next.sees '>' then failure
    return ("", suffix, next.skip)
  else do
    let (handle, next) ← handle? cur
    let (suffix, next) ← uri? false next
    if 2 ≤ handle.length && handle.toList.getLast? == some '!' then
      if suffix.isEmpty then failure
      return (handle, suffix, next)
    else
      let suffix := String.ofList (handle.toList.drop 1) ++ suffix
      if suffix.isEmpty then return ("", "!", next) else return ("!", suffix, next)

def tag? (l : Lexer) : Option Lexer := do
  let l ← l.saveCandidate?
  let (handle, suffix, next) ← tagParts? l.cur
  if !(next.seesSpace || (l.inFlow && next.sees ',')) then failure
  return { l with cur := next, keyAllowed := false }.push (.tag handle suffix)

/-- A version number of at most nine digits. -/
def number? (cur : Cursor) : Option (Nat × Cursor) := do
  let (digits, next) := cur.takeWhile Char.isDigit
  if digits.isEmpty || 9 < digits.length then failure
  return (← Text.ofDigits? 10 digits, next)

def versionDirective? (cur : Cursor) : Option (Token × Cursor) := do
  let (major, next) ← number? (cur.skipWhile isBlank)
  if !next.sees '.' then failure
  let (minor, next) ← number? next.skip
  return (.version major minor, next)

def handleDirective? (cur : Cursor) : Option (Token × Cursor) := do
  let (handle, next) ← handle? (cur.skipWhile isBlank)
  if handle.toList.getLast? != some '!' then failure
  if !next.seesBlank then failure
  let (target, next) ← uri? true (next.skipWhile isBlank)
  if target.isEmpty || !next.seesSpace then failure
  return (.handle handle target, next)

def directive? (l : Lexer) : Option Lexer := do
  let l ← l.leaveBlocks?
  let (name, next) := l.cur.skip.takeWhile isWord
  if !next.seesSpace then failure
  let (token, next) ← match String.ofList name with
    | "YAML" => versionDirective? next
    | "TAG" => handleDirective? next
    | _ => none
  return { l with cur := ← next.restOfLine? }.push token

def ofScalar (l : Lexer) (s : ScalarText) (plain : Bool) : Lexer :=
  { l with cur := s.next }.push (.scalar (String.ofList s.text) plain)

def block? (l : Lexer) (literal : Bool) : Option Lexer := do
  let l := (← l.dropCandidate?).allowKey true
  return l.ofScalar (← Block.read? literal l.indent l.cur) false

def quoted? (l : Lexer) (single : Bool) : Option Lexer := do
  let l := (← l.saveCandidate?).allowKey false
  return l.ofScalar (← Quoted.read? single l.cur) false

def plain? (l : Lexer) : Option Lexer := do
  let l := (← l.saveCandidate?).allowKey false
  let s ← Plain.read? l.inFlow (l.indent + 1) l.cur
  return (l.ofScalar s true).allowKey s.broken

/-- Characters that begin no plain scalar, or only under a condition. -/
def indicators : List Char :=
  ['-', '?', ':', ',', '[', ']', '{', '}', '#', '&', '*', '!', '|', '>', '\x27', '"', '%', '@',
   '\x60']

def beginsPlain (l : Lexer) : Bool :=
  let cur := l.cur
  !(cur.seesSpace || cur.seesAny indicators) ||
    (cur.sees '-' && !cur.seesBlank 1) ||
    (!l.inFlow && cur.seesAny ['?', ':'] && !cur.seesSpace 1)

/-- Reads the token at the cursor, which is neither at a blank nor at the end. -/
def token? (l : Lexer) : Option Lexer :=
  let cur := l.cur
  if cur.column == 0 && cur.sees '%' then l.directive?
  else if cur.seesMarker '-' then l.marker? .documentStart
  else if cur.seesMarker '.' then l.marker? .documentEnd
  else if cur.sees '[' then l.openFlow? .flowSequence
  else if cur.sees '{' then l.openFlow? .flowMapping
  else if cur.sees ']' then l.closeFlow? .flowSequenceEnd
  else if cur.sees '}' then l.closeFlow? .flowMappingEnd
  else if cur.sees ',' then l.comma?
  else if cur.sees '-' && cur.seesSpace 1 then l.entry?
  else if cur.sees '?' && (l.inFlow || cur.seesSpace 1) then l.key?
  else if cur.sees ':' && (l.inFlow || cur.seesSpace 1) then l.value?
  else if cur.sees '*' then l.named? .alias
  else if cur.sees '&' then l.named? .anchor
  else if cur.sees '!' then l.tag?
  else if cur.sees '|' && !l.inFlow then l.block? true
  else if cur.sees '>' && !l.inFlow then l.block? false
  else if cur.sees '\x27' then l.quoted? true
  else if cur.sees '"' then l.quoted? false
  else if l.beginsPlain then l.plain?
  else none

def run (l : Lexer) : Nat → Option (List Token)
  | 0 => none
  | bound + 1 =>
    let l := l.skipSpace (l.cur.limit + 1)
    let l := l.closeBlocks l.cur.column
    if l.cur.atEnd then l.leaveBlocks?.map (·.tokens.toList)
    else
      match l.token? with
      | some next => run next bound
      | none => none

end Lexer

/-- The tokens of a text. Every token takes up a character at least. -/
def Token.ofText? (text : String) : Option (List Token) :=
  let cs := text.toList
  if cs.all isAllowed then Lexer.run { cur := { rest := cs } } (cs.length + 2) else none

end ApiGraph.Yaml
