import ApiGraph.Yaml.Event
import ApiGraph.Yaml.Plain

/-!
# From events to a value

The events of one document become a value. Anchored nodes are numbered as they are
met, and an alias stands for the node with the number of its name, which is read
again from its event. The names known so far give the next number, so a name that is
declared twice makes a later anchor share its number.

Collections nest at most 128 deep, through aliases as well, and the number of aliases
read is bounded by the number of events.
-/

namespace ApiGraph.Yaml

/-- Events of a document with aliases numbered, and the position of each numbered node. -/
structure Source where
  events : Array Event := #[]
  aliasOf : List (Nat × Nat) := []
  numbers : List (String × Nat) := []
  positions : List (Nat × Nat) := []

namespace Source

def declare (s : Source) (properties : Properties) : Source :=
  match properties.anchor with
  | none => s
  | some name =>
    let number := s.numbers.length
    let numbers := (name, number) :: s.numbers.filter fun entry => entry.1 != name
    { s with numbers, positions := (number, s.events.size) :: s.positions }

/-- Takes in one event; an alias must name an anchor met before it. -/
def add? (s : Source) (e : Event) : Option Source :=
  match e with
  | .alias name => do
    let number ← s.numbers.lookup name
    return { s with
      aliasOf := (s.events.size, number) :: s.aliasOf
      events := s.events.push e }
  | .scalar properties _ _ => some { s.declare properties with events := s.events.push e }
  | .sequenceStart properties => some { s.declare properties with events := s.events.push e }
  | .mappingStart properties => some { s.declare properties with events := s.events.push e }
  | e => some { s with events := s.events.push e }

def ofEvents? (events : List Event) : Option Source := events.foldlM add? {}

end Source

/-- A position in the events and the number of aliases followed so far. -/
structure Reading where
  position : Nat
  jumps : Nat

abbrev Reader := Reading → Option (Yaml × Reading)

def Reading.next (r : Reading) : Reading := { r with position := r.position + 1 }

/-- The tag that makes a node a tagged value, without its mark. -/
def ownTag? (properties : Properties) : Option String :=
  properties.tag.bind fun tag =>
    match tag.toList with
    | '!' :: [] => some "!"
    | '!' :: rest => some (String.ofList rest)
    | _ => none

def scalarValue? (properties : Properties) (inTagged : Bool) (text : String) (plain : Bool) :
    Option Yaml :=
  let untagged := if plain then ofPlain? text else some (.str text)
  if inTagged then untagged
  else
    match ownTag? properties, properties.tag with
    | some tag, _ => untagged.map (.tagged tag)
    | none, some tag => ofTag? tag text
    | none, none => untagged

/-- Items up to the end of a sequence. -/
def items? (s : Source) (item : Reader) (read : List Yaml) (r : Reading) :
    Nat → Option (List Yaml × Reading)
  | 0 => none
  | bound + 1 =>
    match s.events[r.position]? with
    | some .sequenceEnd => some (read.reverse, r.next)
    | _ => do
      let (v, r) ← item r
      items? s item (v :: read) r bound

/-- Entries up to the end of a mapping, no two with the same key. -/
def entries? (s : Source) (key value : Reader) (read : List (Yaml × Yaml)) (r : Reading) :
    Nat → Option (List (Yaml × Yaml) × Reading)
  | 0 => none
  | bound + 1 =>
    match s.events[r.position]? with
    | some .mappingEnd => some (read.reverse, r.next)
    | _ => do
      let (k, r) ← key r
      if read.any fun entry => entry.1.same k then failure
      let (v, r) ← value r
      entries? s key value ((k, v) :: read) r bound

def wrap (properties : Properties) (inTagged : Bool) (v : Yaml) : Yaml :=
  match ownTag? properties with
  | some tag => if inTagged then v else .tagged tag v
  | none => v

/-- Where to read a node: at its own event or, for an alias, at the event it stands for, from
where reading comes back behind the alias. -/
def Source.enter? (s : Source) (r : Reading) : Option (Reading × Option Nat) :=
  match s.aliasOf.lookup r.position with
  | none => some (r, none)
  | some number => do
    let jumps := r.jumps + 1
    if s.events.size * 100 < jumps then failure
    let target ← s.positions.lookup number
    return (⟨target, jumps⟩, some (r.position + 1))

/-- Reads a node with room for collections nested to a depth. Inside a tagged value
a node keeps no tag of its own, and neither do its keys. -/
def node? (s : Source) : Nat → Bool → Reader
  | depth, inTagged, start => do
    let (r, back) ← s.enter? start
    let inTagged := inTagged && back.isNone
    let (v, after) ← match s.events[r.position]?, depth with
      | some (.scalar properties text plain), _ =>
        (scalarValue? properties inTagged text plain).map fun v => (v, r.next)
      | some (.sequenceStart properties), depth + 1 => do
        let (items, after) ← items? s (node? s depth false) [] r.next s.events.size
        pure (wrap properties inTagged (.seq items), after)
      | some (.mappingStart properties), depth + 1 => do
        let keysTagged := inTagged || (ownTag? properties).isSome
        let (entries, after) ←
          entries? s (node? s depth keysTagged) (node? s depth false) [] r.next s.events.size
        pure (wrap properties inTagged (.map entries), after)
      | _, _ => none
    match back with
    | some position => return (v, { after with position })
    | none => return (v, after)

def maxDepth : Nat := 128

/-- The value of a stream of at most one document; an empty stream is null. -/
def ofEvents? (events : List Event) : Option Yaml :=
  match events with
  | [] => some .null
  | .documentStart :: rest => do
    let body := rest.takeWhile (· != .documentEnd)
    if rest.dropWhile (· != .documentEnd) != [.documentEnd] then failure
    let s ← Source.ofEvents? body
    let (v, _) ← node? s maxDepth false ⟨0, 0⟩
    return v
  | _ => none

/-- Reads a text as one YAML value. -/
def ofText? (text : String) : Option Yaml := do
  ofEvents? (← Event.ofTokens? (← Token.ofText? text))

end ApiGraph.Yaml
