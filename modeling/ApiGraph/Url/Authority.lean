import ApiGraph.Url.Host
import ApiGraph.Url.Scheme

/-!
# Authorities

Behind two slashes stand credentials, a host and a port. The last at-sign ends the
credentials, whose first colon parts name and password. A port is left out where it
goes without saying. Credentials and ports need a host.
-/

namespace ApiGraph.Url

open ApiGraph.Text

structure Authority where
  credentials : List Char
  host : Host
  port : Option Nat
  deriving DecidableEq, Repr

def Authority.text (a : Authority) : List Char :=
  (if a.credentials.isEmpty then [] else a.credentials ++ ['@']) ++ a.host.text ++
    match a.port with
    | none => []
    | some n => ':' :: Nat.toDigits 10 n

/-- The escaped name, and the escaped password behind a colon unless it is empty. -/
def credentialsText (cs : List Char) : List Char :=
  let (name, password) := cs.span (· ≠ ':')
  escape inCredentials name ++
    if password.length ≤ 1 then [] else ':' :: escape inCredentials (password.drop 1)

/-- What stands before and behind the last at-sign. -/
def atLastAt? (cs : List Char) : Option (List Char × List Char) :=
  match cs.reverse.span (· ≠ '@') with
  | (_, []) => none
  | (back, _ :: front) => some (front.reverse, back.reverse)

/-- The host ends at the first colon outside brackets. -/
def hostSpan (inside : Bool) : List Char → List Char × List Char
  | [] => ([], [])
  | c :: rest =>
    if c = ':' ∧ !inside then ([], c :: rest)
    else
      let within := if c = '[' then true else if c = ']' then false else inside
      let (host, tail) := hostSpan within rest
      (c :: host, tail)

/-- A port and what stands behind it, where only a backslash may stand. No digits are no port. -/
def port? (scheme : String) (cs : List Char) : Option (Option Nat × List Char) :=
  let (digits, tail) := cs.span Address.isDecimal
  let n := (ofDigits? 10 digits).getD 0
  if 65535 < n ∨ (tail ≠ [] ∧ tail.head? ≠ some '\\') then none
  else some (if digits.isEmpty ∨ ownPort? scheme = some n then none else some n, tail)

def Kind.host? (k : Kind) (cs : List Char) : Option Host :=
  if k.isSpecial then (if cs.isEmpty then none else Host.ofName? cs) else Host.ofText? cs

/-- Reads the host and the port of an area that ends where the path begins, and gives what is
left of the area. -/
def hostAndPort? (scheme : String) (area : List Char) :
    Option (Host × Option Nat × List Char) :=
  let (hostText, portText) := hostSpan false area
  ((Kind.ofScheme scheme).host? hostText).bind fun host =>
    match portText with
    | [] => some (host, none, [])
    | _ :: rest =>
      if host = .absent then none
      else (port? scheme rest).map fun r => (host, r.1, r.2)

/-- Reads an authority and gives the path and what follows it. An at-sign with nothing on either
side ends the URL. -/
def Authority.read? (scheme : String) (cs : List Char) : Option (Authority × List Char) :=
  let kind := Kind.ofScheme scheme
  let (area, beyond) := cs.span fun c => !(kind.isSlash c || c == '?' || c == '#')
  let split := atLastAt? area
  let (front, hostArea) := split.getD ([], area)
  let credentials := credentialsText front
  if split = some ([], []) ∧ beyond ≠ [] then none
  else
    (hostAndPort? scheme hostArea).bind fun (host, port, rest) =>
      if host = .absent ∧ credentials ≠ [] then none
      else some (⟨credentials, host, port⟩, rest ++ beyond)

end ApiGraph.Url
