/-!
# Positions in a YAML text

A cursor is the rest of a text with its line, its column and its distance from the
start. Columns decide the structure of a text, so every move keeps them; the distance
and the line limit how far apart a key and its colon may stand. The length of the whole
text goes along as a bound on the steps of any walk over the rest.

Line breaks are read as one line feed, whatever their form, except for the two
separators that stand for themselves.
-/

namespace ApiGraph.Yaml

def isBlank (c : Char) : Bool := c == ' ' || c == '\t'

def isBreak (c : Char) : Bool :=
  c == '\n' || c == '\r' || c == '\u0085' || c == '\u2028' || c == '\u2029'

/-- A character of names and handles. -/
def isWord (c : Char) : Bool := c.isAlphanum || c == '-' || c == '_'

/-- The characters a text may hold at all. -/
def isAllowed (c : Char) : Bool :=
  let n := c.toNat
  n == 0x09 || n == 0x0a || n == 0x0d || (0x20 ≤ n && n ≤ 0x7e) || n == 0x85 ||
    (0xa0 ≤ n && n ≤ 0xfffd) || 0x10000 ≤ n

structure Cursor where
  rest : List Char
  line : Nat := 0
  column : Nat := 0
  index : Nat := 0
  limit : Nat := rest.length

namespace Cursor

def peek? (cur : Cursor) (k : Nat := 0) : Option Char := cur.rest[k]?

def sees (cur : Cursor) (c : Char) (k : Nat := 0) : Bool := cur.peek? k == some c

def seesAny (cur : Cursor) (cs : List Char) (k : Nat := 0) : Bool :=
  match cur.peek? k with
  | some c => cs.contains c
  | none => false

def seesBlank (cur : Cursor) (k : Nat := 0) : Bool := (cur.peek? k).any isBlank

def seesBreak (cur : Cursor) (k : Nat := 0) : Bool := (cur.peek? k).any isBreak

def atEnd (cur : Cursor) : Bool := cur.rest.isEmpty

/-- A line break or the end of the text. -/
def seesLineEnd (cur : Cursor) (k : Nat := 0) : Bool :=
  match cur.peek? k with
  | some c => isBreak c
  | none => true

/-- A blank, a line break or the end of the text. -/
def seesSpace (cur : Cursor) (k : Nat := 0) : Bool := cur.seesBlank k || cur.seesLineEnd k

/-- Moves over characters of the current line. -/
def skip (cur : Cursor) (n : Nat := 1) : Cursor :=
  { cur with rest := cur.rest.drop n, column := cur.column + n, index := cur.index + n }

def takeWhile (cur : Cursor) (p : Char → Bool) : List Char × Cursor :=
  let taken := cur.rest.takeWhile p
  (taken, cur.skip taken.length)

def skipWhile (cur : Cursor) (p : Char → Bool) : Cursor := (cur.takeWhile p).2

/-- The line break at the cursor, as it is read, and the start of the next line. -/
def lineBreak? (cur : Cursor) : Option (Char × Cursor) :=
  let next (rest : List Char) (n : Nat) : Cursor :=
    { cur with rest, line := cur.line + 1, column := 0, index := cur.index + n }
  match cur.rest with
  | '\r' :: '\n' :: rest => some ('\n', next rest 2)
  | '\r' :: rest => some ('\n', next rest 1)
  | '\n' :: rest => some ('\n', next rest 1)
  | '\u0085' :: rest => some ('\n', next rest 1)
  | '\u2028' :: rest => some ('\u2028', next rest 1)
  | '\u2029' :: rest => some ('\u2029', next rest 1)
  | _ => none

def skipBreak (cur : Cursor) : Cursor := (cur.lineBreak?.map Prod.snd).getD cur

/-- Skips what may follow on a line behind an indicator; fails if anything else follows. -/
def restOfLine? (cur : Cursor) : Option Cursor :=
  let cur := cur.skipWhile isBlank
  let cur := if cur.sees '#' then cur.skipWhile (fun c => !isBreak c) else cur
  if cur.seesLineEnd then some cur.skipBreak else none

/-- Whether a document marker of three equal characters stands here. -/
def seesMarker (cur : Cursor) (c : Char) : Bool :=
  cur.column == 0 && cur.sees c 0 && cur.sees c 1 && cur.sees c 2 && cur.seesSpace 3

def seesDocumentMarker (cur : Cursor) : Bool := cur.seesMarker '-' || cur.seesMarker '.'

end Cursor

end ApiGraph.Yaml
