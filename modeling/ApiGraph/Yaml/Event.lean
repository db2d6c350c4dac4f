import ApiGraph.Yaml.Token

/-!
# YAML events

Tokens are grouped into events: the begin and end of every collection, scalars and
aliases, document by document. The grammar is a machine with a stack of states, whose
every step reads at most a few tokens and produces one event.

Keys and values that are left out become empty scalars.
-/

namespace ApiGraph.Yaml

/-- What stands in front of a node. -/
structure Properties where
  anchor : Option String := none
  tag : Option String := none
  deriving DecidableEq, Repr

inductive Event where
  | documentStart
  | documentEnd
  | alias (name : String)
  | scalar (properties : Properties) (text : String) (plain : Bool)
  | sequenceStart (properties : Properties)
  | sequenceEnd
  | mappingStart (properties : Properties)
  | mappingEnd
  deriving DecidableEq, Repr

inductive ParserState where
  | documentStart (first : Bool)
  | documentContent
  | documentEnd
  | node
  | blockSequence (first : Bool)
  | bareSequence
  | blockMappingKey (first : Bool)
  | blockMappingValue
  | flowSequence (first : Bool)
  | flowPairKey
  | flowPairValue
  | flowPairEnd
  | flowMappingKey (first : Bool)
  | flowMappingValue
  | flowMappingNoValue
  deriving DecidableEq, Repr

structure Parser where
  tokens : List Token
  state : ParserState := .documentStart true
  stack : List ParserState := []
  handles : List (String × String) := []

/-- The result of a step; a parser at the end of its tokens has no next step. -/
abbrev Parser.Step := Option (Event × Parser)

namespace Parser

def emptyScalar : Event := .scalar {} "" true

def go (p : Parser) (s : ParserState) : Parser := { p with state := s }

def call (p : Parser) (back : ParserState) : Parser := { p with stack := back :: p.stack }

def back (p : Parser) : Parser :=
  match p.stack with
  | [] => p
  | s :: stack => { p with state := s, stack }

def drop (p : Parser) : Parser := { p with tokens := p.tokens.tail }

def peek? (p : Parser) : Option Token := p.tokens.head?

def empty (p : Parser) (s : ParserState) : Parser.Step := some (emptyScalar, p.go s)

/-- The tag that a handle and a suffix spell. -/
def expandTag? (handles : List (String × String)) (handle suffix : String) : Option String :=
  if handle = "" then some suffix
  else
    let known := handles ++ [("!", "!"), ("!!", "tag:yaml.org,2002:")]
    (known.lookup handle).map (· ++ suffix)

/-- An anchor and a tag in either order. -/
def properties? (p : Parser) : Option (Properties × Parser) := do
  let (anchor, p) := anchorOf p
  let (tag, p) := tagOf p
  let (anchor, p) := if anchor.isNone then anchorOf p else (anchor, p)
  match tag with
  | none => return ({ anchor }, p)
  | some (handle, suffix) =>
    let tag ← expandTag? p.handles handle suffix
    return ({ anchor, tag := some tag }, p)
where
  anchorOf (p : Parser) : Option String × Parser :=
    match p.tokens with
    | .anchor name :: rest => (some name, { p with tokens := rest })
    | _ => (none, p)
  tagOf (p : Parser) : Option (String × String) × Parser :=
    match p.tokens with
    | .tag handle suffix :: rest => (some (handle, suffix), { p with tokens := rest })
    | _ => (none, p)

/-- The event of a scalar. The bare tag says no more than that a scalar is to be read as usual. -/
def scalarEvent (properties : Properties) (text : String) (plain : Bool) : Event :=
  if properties.tag = some "!" then .scalar { properties with tag := none } text plain
  else .scalar properties text plain

/-- A node, after which the parser goes back to the state on its stack. -/
def node (p : Parser) (inBlock bareSequence : Bool) : Parser.Step :=
  match p.tokens with
  | .alias name :: rest => some (.alias name, { p with tokens := rest }.back)
  | _ => do
    let (properties, p) ← p.properties?
    match p.tokens with
    | .scalar text plain :: rest =>
      return (scalarEvent properties text plain, { p with tokens := rest }.back)
    | .flowSequence :: _ => return (.sequenceStart properties, p.go (.flowSequence true))
    | .flowMapping :: _ => return (.mappingStart properties, p.go (.flowMappingKey true))
    | token :: _ =>
      if bareSequence && token == .entry then
        return (.sequenceStart properties, p.go .bareSequence)
      else if inBlock && token == .blockSequence then
        return (.sequenceStart properties, p.go (.blockSequence true))
      else if inBlock && token == .blockMapping then
        return (.mappingStart properties, p.go (.blockMappingKey true))
      else bare properties p
    | [] => bare properties p
where
  bare (properties : Properties) (p : Parser) : Parser.Step :=
    if properties == {} then none else some (.scalar properties "" true, p.back)

/-- Reads directives up to a document's start. -/
def directives? (p : Parser) : Option Parser := loop p.tokens false []
where
  loop (tokens : List Token) (versioned : Bool) (handles : List (String × String)) :
      Option Parser :=
    match tokens with
    | .version major minor :: rest =>
      if versioned || major != 1 || !(minor == 1 || minor == 2) then none
      else loop rest true handles
    | .handle name target :: rest =>
      if (handles.lookup name).isSome then none
      else loop rest versioned (handles ++ [(name, target)])
    | tokens => some { p with tokens, handles }

def documentStart (p : Parser) (first : Bool) : Parser.Step :=
  let p := if first then p else { p with tokens := p.tokens.dropWhile (· == .documentEnd) }
  match p.tokens with
  | [] => none
  | token :: _ =>
    let explicit := match token with
      | .version _ _ => true
      | .handle _ _ => true
      | .documentStart => true
      | _ => false
    if first && !explicit then
      some (.documentStart, ({ p with handles := [] }.call .documentEnd).go .node)
    else do
      let p ← p.directives?
      if p.peek? != some .documentStart then failure
      return (.documentStart, (p.drop.call .documentEnd).go .documentContent)

def endsDocument : Option Token → Bool
  | none => true
  | some (.version _ _) => true
  | some (.handle _ _) => true
  | some .documentStart => true
  | some .documentEnd => true
  | _ => false

def documentContent (p : Parser) : Parser.Step :=
  if endsDocument p.peek? then some (emptyScalar, p.back) else p.node true false

def documentEnd (p : Parser) : Parser.Step :=
  let p := if p.peek? == some .documentEnd then p.drop else p
  some (.documentEnd, p.go (.documentStart false))

def blockSequence (p : Parser) (first : Bool) : Parser.Step :=
  let p := if first then p.drop else p
  match p.tokens with
  | .entry :: rest =>
    let p := { p with tokens := rest }
    if p.peek? == some .entry || p.peek? == some .blockEnd then p.empty (.blockSequence false)
    else (p.call (.blockSequence false)).node true false
  | .blockEnd :: rest => some (.sequenceEnd, { p with tokens := rest }.back)
  | _ => none

/-- Whether a token ends the value or entry in front of it in a block. -/
def endsBlockPart (t : Option Token) : Bool :=
  t == some .key || t == some .value || t == some .blockEnd

def bareSequence (p : Parser) : Parser.Step :=
  match p.tokens with
  | .entry :: rest =>
    let p := { p with tokens := rest }
    if p.peek? == some .entry || endsBlockPart p.peek? then p.empty .bareSequence
    else (p.call .bareSequence).node true false
  | _ => some (.sequenceEnd, p.back)

def blockMappingKey (p : Parser) (first : Bool) : Parser.Step :=
  let p := if first then p.drop else p
  match p.tokens with
  | .key :: rest =>
    let p := { p with tokens := rest }
    if endsBlockPart p.peek? then p.empty .blockMappingValue
    else (p.call .blockMappingValue).node true true
  | .blockEnd :: rest => some (.mappingEnd, { p with tokens := rest }.back)
  | _ => none

def blockMappingValue (p : Parser) : Parser.Step :=
  match p.tokens with
  | .value :: rest =>
    let p := { p with tokens := rest }
    if endsBlockPart p.peek? then p.empty (.blockMappingKey false)
    else (p.call (.blockMappingKey false)).node true true
  | _ => p.empty (.blockMappingKey false)

/-- Moves over the comma that must stand in front of all entries but the first. -/
def separator? (p : Parser) (first : Bool) : Option Parser :=
  if first then some p.drop else if p.peek? == some .comma then some p.drop else none

def flowSequence (p : Parser) (first : Bool) : Parser.Step :=
  let done (p : Parser) : Parser.Step := some (.sequenceEnd, p.drop.back)
  if !first && p.peek? == some .flowSequenceEnd then done p
  else do
    let p ← p.separator? first
    if p.peek? == some .flowSequenceEnd then done p
    else if p.peek? == some .key then return (.mappingStart {}, p.drop.go .flowPairKey)
    else (p.call (.flowSequence false)).node false false

def endsPairPart (t : Option Token) : Bool := t == some .comma || t == some .flowSequenceEnd

/-- The key of a single pair in a sequence. A key that is left out takes the token behind it
along. -/
def flowPairKey (p : Parser) : Parser.Step :=
  if p.peek? == some .value || endsPairPart p.peek? then p.drop.empty .flowPairValue
  else (p.call .flowPairValue).node false false

def flowPairValue (p : Parser) : Parser.Step :=
  if p.peek? == some .value then
    let p := p.drop
    if endsPairPart p.peek? then p.empty .flowPairEnd else (p.call .flowPairEnd).node false false
  else p.empty .flowPairEnd

def endsEntryPart (t : Option Token) : Bool := t == some .comma || t == some .flowMappingEnd

def flowMappingKey (p : Parser) (first : Bool) : Parser.Step :=
  let done (p : Parser) : Parser.Step := some (.mappingEnd, p.drop.back)
  if !first && p.peek? == some .flowMappingEnd then done p
  else do
    let p ← p.separator? first
    if p.peek? == some .flowMappingEnd then done p
    else if p.peek? == some .key then
      let p := p.drop
      if p.peek? == some .value || endsEntryPart p.peek? then p.empty .flowMappingValue
      else (p.call .flowMappingValue).node false false
    else (p.call .flowMappingNoValue).node false false

def flowMappingValue (p : Parser) : Parser.Step :=
  if p.peek? == some .value then
    let p := p.drop
    if endsEntryPart p.peek? then p.empty (.flowMappingKey false)
    else (p.call (.flowMappingKey false)).node false false
  else p.empty (.flowMappingKey false)

/-- Whether the stream is over: nothing is left but ends of documents. -/
def isOver (p : Parser) : Bool :=
  match p.state with
  | .documentStart first =>
    if first then p.tokens.isEmpty else p.tokens.all (· == .documentEnd)
  | _ => false

def step (p : Parser) : Parser.Step :=
  match p.state with
  | .documentStart first => p.documentStart first
  | .documentContent => p.documentContent
  | .documentEnd => p.documentEnd
  | .node => p.node true false
  | .blockSequence first => p.blockSequence first
  | .bareSequence => p.bareSequence
  | .blockMappingKey first => p.blockMappingKey first
  | .blockMappingValue => p.blockMappingValue
  | .flowSequence first => p.flowSequence first
  | .flowPairKey => p.flowPairKey
  | .flowPairValue => p.flowPairValue
  | .flowPairEnd => some (.mappingEnd, p.go (.flowSequence false))
  | .flowMappingKey first => p.flowMappingKey first
  | .flowMappingValue => p.flowMappingValue
  | .flowMappingNoValue => p.empty (.flowMappingKey false)

def run (events : List Event) (p : Parser) : Nat → Option (List Event)
  | 0 => none
  | bound + 1 =>
    if p.isOver then some events.reverse
    else
      match p.step with
      | some (event, next) => run (event :: events) next bound
      | none => none

end Parser

/-- The events of a list of tokens. Between two tokens only a few events can arise. -/
def Event.ofTokens? (tokens : List Token) : Option (List Event) :=
  Parser.run [] { tokens } (8 * tokens.length + 16)

end ApiGraph.Yaml
