import ApiGraph.Text.Hex
import ApiGraph.Yaml.Fold

/-!
# Scalars in YAML text

Four notations spell a scalar. Plain and quoted scalars are folded across lines;
block scalars keep the lines below their indicator, whose indentation the first line
sets, and folded ones join neighbouring lines that are not indented further.

Every reader starts at the first character of its scalar and returns the text with
the cursor behind it, or nothing if the notation is broken.
-/

namespace ApiGraph.Yaml

/-- A scalar as it was read, and whether it ended behind a line break. -/
structure ScalarText where
  text : List Char
  next : Cursor
  broken : Bool := false

namespace Plain

/-- Characters that end a plain scalar inside brackets. -/
def flowEnds : List Char := [',', '[', ']', '{', '}']

/-- The run of a plain scalar up to a blank or an indicator; fails at a colon that is glued to an
indicator inside brackets. -/
def word? (inFlow : Bool) : List Char → Option (List Char)
  | [] => some []
  | c :: rest =>
    let spaceNext := match rest with
      | [] => true
      | d :: _ => isBlank d || isBreak d
    let gluedNext := match rest with
      | [] => false
      | d :: _ => d == '?' || flowEnds.contains d
    if isBlank c || isBreak c then some []
    else if inFlow && c == ':' && gluedNext then none
    else if (c == ':' && spaceNext) || (inFlow && flowEnds.contains c) then some []
    else (word? inFlow rest).map (c :: ·)

/-- A scalar of pieces that are kept last first. -/
def ended (read : List (List Char)) (gap : Gap) (next : Cursor) : ScalarText :=
  ⟨read.reverse.flatten, next, gap.broken⟩

/-- Reads words and the gaps between them. A gap counts only if another word follows it. -/
def readFrom (inFlow : Bool) (indent : Int) (read : List (List Char)) (gap : Gap) (cur : Cursor) :
    Nat → Option ScalarText
  | 0 => none
  | bound + 1 =>
    if cur.seesDocumentMarker || cur.sees '#' then some (ended read gap cur)
    else
      match word? inFlow cur.rest with
      | none => none
      | some [] => some (ended read gap cur)
      | some word =>
        let read := word :: gap.text :: read
        let next := cur.skip word.length
        if next.seesBlank || next.seesBreak then
          let (gap, after) := Gap.read {} next next.limit
          if gap.tabBefore indent then none
          else if !inFlow && (after.column : Int) < indent then some (ended read gap after)
          else readFrom inFlow indent read gap after bound
        else some (ended read {} next)

def read? (inFlow : Bool) (indent : Int) (cur : Cursor) : Option ScalarText :=
  readFrom inFlow indent [] {} cur (cur.limit + 1)

end Plain

namespace Quoted

/-- The character behind a backslash, for escapes of one letter. -/
def simpleEscape? : Char → Option Char
  | '0' => some '\x00'
  | 'a' => some '\x07'
  | 'b' => some '\x08'
  | 't' => some '\t'
  | '\t' => some '\t'
  | 'n' => some '\n'
  | 'v' => some '\x0b'
  | 'f' => some '\x0c'
  | 'r' => some '\r'
  | 'e' => some '\x1b'
  | ' ' => some ' '
  | '"' => some '"'
  | '/' => some '/'
  | '\\' => some '\\'
  | 'N' => some '\u0085'
  | '_' => some '\u00a0'
  | 'L' => some '\u2028'
  | 'P' => some '\u2029'
  | _ => none

/-- How many digits follow the letter of a numeric escape. -/
def escapeDigits? : Char → Option Nat
  | 'x' => some 2
  | 'u' => some 4
  | 'U' => some 8
  | _ => none

/-- The character of an escape and how many characters the escape has. -/
def escape? (behind : List Char) : Option (Char × Nat) :=
  match behind with
  | [] => none
  | c :: rest =>
    match simpleEscape? c with
    | some e => some (e, 2)
    | none => do
      let count ← escapeDigits? c
      let digits := rest.take count
      if digits.length < count then failure
      let n ← Text.ofDigits? 16 digits
      if (0xd800 ≤ n && n ≤ 0xdfff) || 0x10ffff < n then failure
      return (Char.ofNat n, count + 2)

/-- A piece without blanks or breaks. It ends before one, before the closing quote, or behind an
escaped line break, which the flag tells. -/
def word? (single : Bool) (cur : Cursor) : Nat → Option (List Char × Cursor × Bool)
  | 0 => none
  | bound + 1 =>
    let add (c : Char) (width : Nat) :=
      (word? single (cur.skip width) bound).map fun (cs, next, joined) => (c :: cs, next, joined)
    match cur.rest with
    | [] => some ([], cur, false)
    | c :: rest =>
      if isBlank c || isBreak c then some ([], cur, false)
      else if single then
        if c == '\x27' then
          if rest.head? == some '\x27' then add c 2 else some ([], cur, false)
        else add c 1
      else if c == '"' then some ([], cur, false)
      else if c == '\\' then
        match cur.skip.lineBreak? with
        | some (_, next) => some ([], next, true)
        | none =>
          match escape? rest with
          | none => none
          | some (e, width) => add e width
      else add c 1

/-- Reads words and gaps up to the closing quote, the pieces being kept last first. -/
def readFrom (single : Bool) (read : List (List Char)) (cur : Cursor) : Nat → Option ScalarText
  | 0 => none
  | bound + 1 =>
    if cur.seesDocumentMarker || cur.atEnd then none
    else
      match word? single cur (cur.limit + 1) with
      | none => none
      | some (word, next, joined) =>
        let read := word :: read
        if next.sees (if single then '\x27' else '"') then
          some { text := read.reverse.flatten, next := next.skip }
        else
          let (gap, after) := Gap.read { broken := joined } next next.limit
          readFrom single (gap.text :: read) after bound

/-- Reads a quoted scalar from its opening quote. -/
def read? (single : Bool) (cur : Cursor) : Option ScalarText :=
  readFrom single [] cur.skip (cur.limit + 1)

end Quoted

namespace Block

/-- What becomes of the line breaks at the end. -/
inductive Chomp where
  | clip
  | strip
  | keep
  deriving DecidableEq, Repr

structure Header where
  chomp : Chomp := .clip
  indent : Nat := 0

def chomp? (cur : Cursor) : Option Chomp :=
  if cur.sees '+' then some .keep else if cur.sees '-' then some .strip else none

/-- An indentation digit; zero is no indentation. -/
def indent? (cur : Cursor) : Option Nat :=
  (cur.peek?.bind (Text.digit? 10)).bind fun n => if n = 0 then none else some n

def header? (cur : Cursor) : Option (Header × Cursor) := do
  let (header, cur) : Header × Cursor :=
    match chomp? cur with
    | some chomp =>
      match indent? cur.skip with
      | some n => (⟨chomp, n⟩, cur.skip 2)
      | none => (⟨chomp, 0⟩, cur.skip)
    | none =>
      match indent? cur with
      | some n =>
        match chomp? cur.skip with
        | some chomp => (⟨chomp, n⟩, cur.skip 2)
        | none => (⟨.clip, n⟩, cur.skip)
      | none => ({}, cur)
  return (header, ← cur.restOfLine?)

/-- Leading blank lines: their breaks, the widest indentation seen, and the first line that is not
empty. With no indentation known yet, all spaces are taken. -/
def emptyLines? (indent : Nat) (breaks : List Char) (widest : Nat) (cur : Cursor) :
    Nat → Option (List Char × Nat × Cursor)
  | 0 => none
  | bound + 1 =>
    let spaces := (cur.rest.takeWhile (· == ' ')).length
    let wanted := if indent = 0 then spaces else min spaces (indent - cur.column)
    let cur := cur.skip wanted
    let widest := max widest cur.column
    if (indent = 0 || cur.column < indent) && cur.sees '\t' then none
    else
      match cur.lineBreak? with
      | some (b, next) => emptyLines? indent (breaks ++ [b]) widest next bound
      | none => some (breaks, widest, cur)

/-- The lines read so far, as pieces of text that are kept last first. -/
structure Lines where
  read : List (List Char) := []
  /-- The break behind the last line. -/
  lead : List Char := []
  /-- The breaks of the empty lines behind it. -/
  more : List Char := []
  blankBefore : Bool := false

/-- The text up to the line that starts here. -/
def Lines.upTo (l : Lines) (literal blankHere : Bool) : List (List Char) :=
  if !literal && l.lead == ['\n'] && !l.blankBefore && !blankHere then
    l.more :: (if l.more.isEmpty then [' '] else []) :: l.read
  else l.more :: l.lead :: l.read

def linesFrom? (literal : Bool) (indent : Nat) (l : Lines) (cur : Cursor) :
    Nat → Option (Lines × Cursor)
  | 0 => none
  | bound + 1 =>
    if cur.column != indent || cur.atEnd then some (l, cur)
    else
      let blankHere := cur.seesBlank
      let (line, behind) := cur.takeWhile fun c => !isBreak c
      let read := line :: l.upTo literal blankHere
      let (lead, next) := match behind.lineBreak? with
        | some (b, next) => ([b], next)
        | none => ([], behind)
      match emptyLines? indent [] 0 next (next.limit + 1) with
      | none => none
      | some (more, _, after) =>
        linesFrom? literal indent ⟨read, lead, more, blankHere⟩ after bound

def Lines.chomped (l : Lines) : Chomp → List Char
  | .strip => l.read.reverse.flatten
  | .clip => l.read.reverse.flatten ++ l.lead
  | .keep => l.read.reverse.flatten ++ l.lead ++ l.more

/-- Reads a block scalar from its indicator, inside a block of the given indentation. -/
def read? (literal : Bool) (parent : Int) (cur : Cursor) : Option ScalarText := do
  let (header, cur) ← header? cur.skip
  let given := if header.indent = 0 then 0 else (max parent 0).toNat + header.indent
  let bound := cur.limit + 1
  let (breaks, widest, start) ← emptyLines? given [] 0 cur bound
  let indent := if given = 0 then max (max widest (parent + 1).toNat) 1 else given
  let (lines, next) ← linesFrom? literal indent { more := breaks } start bound
  return { text := lines.chomped header.chomp, next }

end Block

end ApiGraph.Yaml
