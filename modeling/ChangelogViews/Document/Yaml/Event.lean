import ChangelogViews.Document.Yaml.Token

/-!
# The events of a document

The order of tokens is checked by a machine with a stack of what is still open. Each of its steps
tells one thing that happens in the document: a scalar, an alias, or the start or end of a collection.
Where a node may be left out, an empty scalar takes its place.
-/

namespace ChangelogViews.Yaml

/-- The anchor and the tag of a node. -/
structure Marks where
  anchor : Option String
  tag : Option String
  deriving DecidableEq, Repr

def Marks.none : Marks := ⟨Option.none, Option.none⟩

/-- An event. A scalar is `bare` if its text alone says what it is. -/
inductive Event where
  | documentStart
  | documentEnd
  | textEnd
  | reference (name : String)
  | scalar (marks : Marks) (text : LooseText) (bare : Bool)
  | sequenceStart (marks : Marks)
  | sequenceEnd
  | mappingStart (marks : Marks)
  | mappingEnd
  deriving DecidableEq, Repr

inductive Expect where
  | firstDocument
  | document
  | content
  | documentEnd
  | node (block indentless : Bool)
  | blockEntry
  | indentlessEntry
  | blockKey
  | blockValue
  | flowEntry (first : Bool)
  | flowPairKey
  | flowPairValue
  | flowPairEnd
  | flowKey (first : Bool)
  | flowValue
  | flowNoValue
  | nothing
  deriving DecidableEq, Repr

/-- The machine between two events: the tokens that are left and the fault behind them, what comes next, what
comes after that, and the tag prefixes of the handles. -/
structure Machine where
  tokens : List Token
  fault : YamlFault
  expect : Expect
  stack : List Expect
  handles : List (String × String)

namespace Machine

def knownHandles : List (String × String) := [("!", "!"), ("!!", "tag:yaml.org,2002:")]

def peek (m : Machine) : Except YamlFault Token :=
  match m.tokens with
  | token :: _ => .ok token
  | [] => .error m.fault

def skip (m : Machine) : Machine := { m with tokens := m.tokens.drop 1 }

def want (m : Machine) (expect : Expect) : Machine := { m with expect := expect }

def wantThen (m : Machine) (expect later : Expect) : Machine :=
  { m with expect := expect, stack := later :: m.stack }

def pop (m : Machine) : Machine :=
  match m.stack with
  | expect :: stack => { m with expect := expect, stack := stack }
  | [] => { m with expect := .nothing }

def empty : Event := .scalar Marks.none "" true

abbrev Step := Except YamlFault (Event × Machine)

/-- The tag that a handle and a suffix write. -/
def address (m : Machine) (handle : Option String) (suffix : String) : Except YamlFault String :=
  match handle with
  | none => .ok suffix
  | some handle =>
    match m.handles.find? (·.1 == handle) with
    | some (_, uri) => .ok (uri ++ suffix)
    | none => .error .order

def marks (m : Machine) : Except YamlFault (Marks × Machine) := do
  let anchored (m : Machine) : Except YamlFault (Option String × Machine) := do
    match ← m.peek with
    | .anchor name => return (some name, m.skip)
    | _ => return (none, m)
  let tagged (m : Machine) : Except YamlFault (Option (Option String × String) × Machine) := do
    match ← m.peek with
    | .tag handle suffix => return (some (handle, suffix), m.skip)
    | _ => return (none, m)
  let (before, m) ← anchored m
  let (tag, m) ← tagged m
  let (anchor, m) ← if before.isNone && tag.isSome then anchored m else pure (before, m)
  match tag with
  | none => return (⟨anchor, none⟩, m)
  | some (handle, suffix) => return (⟨anchor, some (← m.address handle suffix)⟩, m)

/-- A node. Blocks may begin only where `block` says so, and a sequence at the column of its key
only where `indentless` does. -/
def node (m : Machine) (block indentless : Bool) : Step := do
  if let .reference name ← m.peek then return (.reference name, m.skip.pop)
  let (marks, m) ← m.marks
  match ← m.peek, block, indentless with
  | .blockEntry, _, true => return (.sequenceStart marks, m.want .indentlessEntry)
  | .scalar text plain, _, _ =>
    let bare := marks.tag = some "!" || (plain && marks.tag.isNone)
    return (.scalar marks text bare, m.skip.pop)
  | .flowSequenceStart, _, _ => return (.sequenceStart marks, m.skip.want (.flowEntry true))
  | .flowMappingStart, _, _ => return (.mappingStart marks, m.skip.want (.flowKey true))
  | .blockSequenceStart, true, _ => return (.sequenceStart marks, m.skip.want .blockEntry)
  | .blockMappingStart, true, _ => return (.mappingStart marks, m.skip.want .blockKey)
  | _, _, _ =>
    if marks = Marks.none then throw .order
    else
      let bare := marks.tag.isNone || marks.tag = some "!"
      return (.scalar marks "" bare, m.pop)

/-- A node, unless the next token is among those that leave it out. -/
def nodeUnless (m : Machine) (stop : Token → Bool) (block indentless : Bool) (later : Expect) :
    Step := do
  if stop (← m.peek) then return (empty, m.want later)
  else (m.wantThen (.node block indentless) later).node block indentless

/-- The directives in front of a document. There is one version at most, and it is a first one. -/
def directives (m : Machine) : List Token → Option Nat → List (String × String) →
    Except YamlFault Machine
  | .directive (.version major) :: rest, seen, handles =>
    if seen.isSome || major ≠ 1 then .error .order else directives m rest (some major) handles
  | .directive (.tag handle uri) :: rest, seen, handles =>
    if (handles.find? (·.1 == handle)).isSome then .error .order
    else directives m rest seen (handles ++ [(handle, uri)])
  | .directive .other :: rest, seen, handles => directives m rest seen handles
  | tokens, _, handles => .ok { m with tokens := tokens, handles := handles ++ knownHandles }

def document (m : Machine) : Step := do
  let m := { m with tokens := m.tokens.dropWhile (· == Token.documentEnd) }
  match ← m.peek with
  | .textEnd => return (.textEnd, m.skip.want .nothing)
  | _ =>
    let m ← directives m m.tokens none []
    match ← m.peek with
    | .documentStart => return (.documentStart, m.skip.wantThen .content .documentEnd)
    | _ => throw .order

def firstDocument (m : Machine) : Step := do
  match ← m.peek with
  | .directive _ | .documentStart | .textEnd => m.document
  | _ =>
    let m := { m with handles := knownHandles }
    return (.documentStart, m.wantThen (.node true false) .documentEnd)

/-- The root of a document, which may be left out. -/
def content (m : Machine) : Step := do
  match ← m.peek with
  | .directive _ | .documentStart | .documentEnd | .textEnd => return (empty, m.pop)
  | _ => m.node true false

def documentEnd (m : Machine) : Step := do
  match ← m.peek with
  | .documentEnd => return (.documentEnd, m.skip.want .document)
  | _ => return (.documentEnd, m.want .document)

def blockEntry (m : Machine) : Step := do
  match ← m.peek with
  | .blockEntry =>
    m.skip.nodeUnless (fun t => t == .blockEntry || t == .blockEnd) true false .blockEntry
  | .blockEnd => return (.sequenceEnd, m.skip.pop)
  | _ => throw .order

def endsBlockPart (t : Token) : Bool := t == .key || t == .value || t == .blockEnd

/-- An entry of a sequence at the column of its key, or its end. -/
def indentlessEntry (m : Machine) : Step := do
  match ← m.peek with
  | .blockEntry =>
    m.skip.nodeUnless (fun t => t == .blockEntry || endsBlockPart t) true false .indentlessEntry
  | _ => return (.sequenceEnd, m.pop)

def blockKey (m : Machine) : Step := do
  match ← m.peek with
  | .key => m.skip.nodeUnless endsBlockPart true true .blockValue
  | .blockEnd => return (.mappingEnd, m.skip.pop)
  | _ => throw .order

def blockValue (m : Machine) : Step := do
  match ← m.peek with
  | .value => m.skip.nodeUnless endsBlockPart true true .blockKey
  | _ => return (empty, m.want .blockKey)

def endsEntry (t : Token) : Bool := t == .flowEntry || t == .flowSequenceEnd

def endsMember (t : Token) : Bool := t == .flowEntry || t == .flowMappingEnd

/-- The machine behind the comma in front of an item, which only the first item lacks. -/
def separated (m : Machine) (first : Bool) : Except YamlFault Machine := do
  if first then return m
  match ← m.peek with
  | .flowEntry => return m.skip
  | _ => throw .order

/-- An entry of a flow sequence, or its end. A key begins a mapping of one member. -/
def flowEntry (m : Machine) (first : Bool) : Step := do
  if (← m.peek) == .flowSequenceEnd then return (.sequenceEnd, m.skip.pop)
  let m ← m.separated first
  match ← m.peek with
  | .key => return (.mappingStart Marks.none, m.want .flowPairKey)
  | .flowSequenceEnd => return (.sequenceEnd, m.skip.pop)
  | _ => (m.wantThen (.node false false) (.flowEntry false)).node false false

def flowPairKey (m : Machine) : Step :=
  m.skip.nodeUnless (fun t => t == .value || endsEntry t) false false .flowPairValue

def flowPairValue (m : Machine) : Step := do
  match ← m.peek with
  | .value => m.skip.nodeUnless endsEntry false false .flowPairEnd
  | _ => return (empty, m.want .flowPairEnd)

def flowPairEnd (m : Machine) : Step := do
  let _ ← m.peek
  return (.mappingEnd, m.want (.flowEntry false))

/-- A key of a flow mapping, or the end of the mapping. A node without a mark is a key too. -/
def flowKey (m : Machine) (first : Bool) : Step := do
  if (← m.peek) == .flowMappingEnd then return (.mappingEnd, m.skip.pop)
  let m ← m.separated first
  match ← m.peek with
  | .key => m.skip.nodeUnless (fun t => t == .value || endsMember t) false false .flowValue
  | .flowMappingEnd => return (.mappingEnd, m.skip.pop)
  | _ => (m.wantThen (.node false false) .flowNoValue).node false false

def flowValue (m : Machine) : Step := do
  match ← m.peek with
  | .value => m.skip.nodeUnless endsMember false false (.flowKey false)
  | _ => return (empty, m.want (.flowKey false))

def flowNoValue (m : Machine) : Step := do
  let _ ← m.peek
  return (empty, m.want (.flowKey false))

def step (m : Machine) : Step :=
  match m.expect with
  | .firstDocument => m.firstDocument
  | .document => m.document
  | .content => m.content
  | .documentEnd => m.documentEnd
  | .node block indentless => m.node block indentless
  | .blockEntry => m.blockEntry
  | .indentlessEntry => m.indentlessEntry
  | .blockKey => m.blockKey
  | .blockValue => m.blockValue
  | .flowEntry first => m.flowEntry first
  | .flowPairKey => m.flowPairKey
  | .flowPairValue => m.flowPairValue
  | .flowPairEnd => m.flowPairEnd
  | .flowKey first => m.flowKey first
  | .flowValue => m.flowValue
  | .flowNoValue => m.flowNoValue
  | .nothing => .error .order

def run (m : Machine) : (limit : Nat) → Stream Event
  | 0 => ⟨[], some .order⟩
  | limit + 1 =>
    match m.step with
    | .error fault => ⟨[], some fault⟩
    | .ok (.textEnd, _) => ⟨[.textEnd], none⟩
    | .ok (event, m) => (run m limit).after [event]

end Machine

/-- The events of a text. No token leads to more than a few events. -/
def events (tokens : Stream Token) : Stream Event :=
  let m : Machine := ⟨tokens.items, tokens.fault.getD .order, .firstDocument, [], []⟩
  m.run (4 * tokens.items.length + 4)

end ChangelogViews.Yaml
