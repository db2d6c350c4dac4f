import ApiGraph.Text.Split
import ApiGraph.Text.Hex
import ApiGraph.Yaml.Basic

/-!
# The meaning of plain scalars

A plain scalar is null, a truth value or a number if its spelling is one of those
known for it, and a string otherwise. Whole numbers may be written in four bases and
have to fit 64 bits; a decimal one that does not is refused. Leading zeros make a
string, and so does a number too large to be finite.
-/

namespace ApiGraph.Yaml

def nullNames : List String := ["null", "Null", "NULL", "~"]

def bool? (s : String) : Option Bool :=
  if s ∈ ["true", "True", "TRUE"] then some true
  else if s ∈ ["false", "False", "FALSE"] then some false
  else none

def isDigits (cs : List Char) : Bool := !cs.isEmpty && cs.all Char.isDigit

/-- Digits with a leading zero, which are no number. -/
def isPadded (cs : List Char) : Bool :=
  let digits := match cs with
    | '+' :: rest => rest
    | '-' :: rest => rest
    | _ => cs
  match digits with
  | '0' :: rest => isDigits rest
  | _ => false

/-- The base that a two-letter mark names, and the digits behind it. -/
def marked? (cs : List Char) : Option (Nat × List Char) :=
  match cs with
  | '0' :: 'x' :: rest => some (16, rest)
  | '0' :: 'o' :: rest => some (8, rest)
  | '0' :: 'b' :: rest => some (2, rest)
  | _ => none

def magnitude? (cs : List Char) : Option Nat :=
  match marked? cs with
  | some (base, digits) => Text.ofDigits? base digits
  | none => if isPadded cs then none else Text.ofDigits? 10 cs

/-- What the spelling of a whole number means: nothing, a number, or one that is too large. -/
inductive WholeNumber where
  | none
  | fits (n : Int)
  | tooLarge

def wholeNumber (s : String) : WholeNumber :=
  let (negative, cs) := match s.toList with
    | '-' :: rest => (true, rest)
    | '+' :: rest => (false, rest)
    | cs => (false, cs)
  match magnitude? cs with
  | none => .none
  | some n =>
    if negative then if n ≤ Nat.pow 2 63 then .fits (-n) else beyond cs n (Nat.pow 2 127)
    else if n < Nat.pow 2 64 then .fits n
    else beyond cs n (Nat.pow 2 128 - 1)
where
  beyond (cs : List Char) (n bound : Nat) : WholeNumber :=
    if (marked? cs).isSome && bound < n then .none else .tooLarge

/-- The digits of a decimal fraction around its point, and its exponent. -/
def decimal? (cs : List Char) : Option (Nat × Int) := do
  let whole := cs.takeWhile Char.isDigit
  let rest := cs.dropWhile Char.isDigit
  let (fraction, rest) := match rest with
    | '.' :: rest => (rest.takeWhile Char.isDigit, rest.dropWhile Char.isDigit)
    | _ => ([], rest)
  let digits ← Text.ofDigits? 10 (whole ++ fraction)
  let exponent ← match rest with
    | [] => some 0
    | e :: rest => if e == 'e' || e == 'E' then exponent? rest else none
  return (digits, exponent - fraction.length)
where
  exponent? (cs : List Char) : Option Int :=
    match cs with
    | '-' :: rest => (Text.ofDigits? 10 rest).map fun n => -(n : Int)
    | '+' :: rest => (Text.ofDigits? 10 rest).map Int.ofNat
    | _ => (Text.ofDigits? 10 cs).map Int.ofNat

def finite? (x : Binary64) : Option Binary64 := if x.isFinite then some x else none

def float? (s : String) : Option Binary64 :=
  let infinities := [".inf", ".Inf", ".INF"]
  if s ∈ infinities || s ∈ infinities.map ("+" ++ ·) then some (.infinity false)
  else if s ∈ infinities.map ("-" ++ ·) then some (.infinity true)
  else if s ∈ [".nan", ".NaN", ".NAN"] then some .nan
  else
    let (negative, cs) := match s.toList with
      | '-' :: rest => (true, rest)
      | '+' :: rest => (false, rest)
      | cs => (false, cs)
    (decimal? cs).bind fun (digits, exponent) => finite? (.ofDecimal negative digits exponent)

/-- The value of a plain scalar without a tag; a whole number that is too large has none. -/
def ofPlain? (s : String) : Option Yaml :=
  if s = "" || s ∈ nullNames then some .null
  else
    match bool? s with
    | some b => some (.bool b)
    | none =>
      match wholeNumber s with
      | .fits n => some (.num (.int n))
      | .tooLarge => none
      | .none =>
        if isPadded s.toList then some (.str s)
        else
          match float? s with
          | some x => some (.num (.float x))
          | none => some (.str s)

/-- The value of a scalar under one of the tags of the core schema, however it is quoted. Other
tags leave it a string. -/
def ofTag? (tag s : String) : Option Yaml :=
  if tag = "tag:yaml.org,2002:bool" then (bool? s).map .bool
  else if tag = "tag:yaml.org,2002:int" then
    match wholeNumber s with
    | .fits n => some (.num (.int n))
    | _ => none
  else if tag = "tag:yaml.org,2002:float" then (float? s).map fun x => .num (.float x)
  else if tag = "tag:yaml.org,2002:null" then if s ∈ nullNames then some .null else none
  else some (.str s)

end ApiGraph.Yaml
