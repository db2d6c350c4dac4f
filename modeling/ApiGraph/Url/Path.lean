import ApiGraph.Text.Split
import ApiGraph.Url.Escape
import ApiGraph.Url.Scheme

/-!
# Paths

A path is a list of segments. A segment of one dot is left out and one of two dots
takes back the segment before it; a dot may be escaped. A drive, which is a letter with
a colon or a bar, is never taken back. At the front of a file's path a drive has a
colon and no host, and empty segments are dropped.
-/

namespace ApiGraph.Url

open ApiGraph.Text

/-- Whether a segment is a number of dots, each plain or escaped. -/
def isDots : Nat → List Char → Bool
  | 0, [] => true
  | n + 1, '.' :: rest => isDots n rest
  | n + 1, '%' :: '2' :: e :: rest => (e == 'e' || e == 'E') && isDots n rest
  | _, _ => false

def isDrive : List Char → Bool
  | [letter, mark] => letter.isAlpha && (mark == ':' || mark == '|')
  | _ => false

/-- The segments so far, last first, without the last one unless it is a drive. -/
def takeBack : List (List Char) → List (List Char)
  | [] => []
  | s :: before => if isDrive s then s :: before else before

/-- A segment as it is kept, given the segments before it. -/
def keep (k : Kind) (before : List (List Char)) (segment : List Char) : List Char :=
  let text := escape inPath segment
  if k = .file ∧ before = [] ∧ isDrive text then text.take 1 ++ [':'] else text

/-- Adds segments to those before, which are kept last first. Dots at the end leave an empty
segment, so that the path ends in a slash. -/
def settleSegments (k : Kind) : List (List Char) → List (List Char) → List (List Char)
  | before, [] => before
  | before, [s] =>
    if isDots 2 s then [] :: takeBack before
    else if isDots 1 s then [] :: before
    else keep k before s :: before
  | before, s :: rest =>
    if isDots 2 s then settleSegments k (takeBack before) rest
    else if isDots 1 s then settleSegments k before rest
    else settleSegments k (keep k before s :: before) rest

/-- Cuts a path at its slashes; the one in front begins the first segment. -/
def segments (k : Kind) (path : List Char) : List (List Char) :=
  let slashed := path.map fun c => if k.isSlash c then '/' else c
  (settleSegments k [] (splitOn '/' ((after? ['/'] slashed).getD slashed))).reverse

def segmentsText (ss : List (List Char)) : List Char := ss.flatMap ('/' :: ·)

/-- A file's path loses its empty segments in front, all but the last. -/
def dropEmptyFront : List (List Char) → List (List Char)
  | [] :: s :: rest => dropEmptyFront (s :: rest)
  | ss => ss

end ApiGraph.Url
