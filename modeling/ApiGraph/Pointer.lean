import ApiGraph.Text.Percent
import ApiGraph.Text.Split

/-!
# Pointers

A pointer names a place in a document by a list of keys: an anchor, then a slash and
an escaped key for every step. In a key `~1` stands for a slash and `~0` for a tilde,
and percent escapes stand for bytes.

`child` extends the locations that messages show. It escapes slashes and tildes only,
so a key that holds a percent escape is not read back as itself.
-/

namespace ApiGraph.Pointer

def unescapeSlash : List Char → List Char
  | '~' :: '1' :: rest => '/' :: unescapeSlash rest
  | c :: rest => c :: unescapeSlash rest
  | [] => []

def unescapeTilde : List Char → List Char
  | '~' :: '0' :: rest => '~' :: unescapeTilde rest
  | c :: rest => c :: unescapeTilde rest
  | [] => []

def decodeChars (cs : List Char) : List Char :=
  Text.Percent.decode (unescapeTilde (unescapeSlash cs))

/-- The key that a segment of a pointer stands for. -/
def decodeKey (segment : String) : String := String.ofList (decodeChars segment.toList)

def encodeChar (c : Char) : List Char :=
  match c with
  | '~' => ['~', '0']
  | '/' => ['~', '1']
  | c => [c]

/-- A key as a segment of a pointer. -/
def encodeKey (key : String) : String := String.ofList (key.toList.flatMap encodeChar)

/-- The keys of a pointer; whatever stands before the first slash is the anchor. -/
def keys (pointer : String) : List String :=
  ((Text.splitOn '/' pointer.toList).drop 1).map fun segment =>
    String.ofList (decodeChars segment)

/-- Whether a pointer stays inside its document. -/
def isLocal (pointer : String) : Bool :=
  match pointer.toList with
  | '#' :: _ => true
  | '/' :: _ => true
  | _ => false

/-- The location of a key below a location. -/
def child (base key : String) : String := base ++ "/" ++ encodeKey key

/-- The location of an array item below a location. -/
def item (base : String) (index : Nat) : String := child base (toString index)

end ApiGraph.Pointer
