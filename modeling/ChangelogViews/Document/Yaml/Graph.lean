import ChangelogViews.Document.Value
import ChangelogViews.Document.Yaml.Event
import ChangelogViews.Document.Yaml.Plain

/-!
# The graph of a document

Events make up a graph of nodes. An alias leads to the node of its anchor, which may be a collection
that is not closed yet, so a collection may hold itself.
-/

namespace ChangelogViews.Yaml

abbrev NodeId := Nat

/-- A node with its tag. A collection holds other nodes of the graph. -/
inductive Node where
  | scalar (tag : Tag) (text : LooseText)
  | sequence (tag : Tag) (items : List NodeId)
  | mapping (tag : Tag) (members : List (NodeId × NodeId))
  deriving Repr

namespace Node

def blank : Node := .scalar .other ""

def tag : Node → Tag
  | .scalar tag _ => tag
  | .sequence tag _ => tag
  | .mapping tag _ => tag

end Node

/-- The nodes of a document in the order in which they begin, and the one that holds all others. -/
structure Graph where
  nodes : Array Node
  root : NodeId
  deriving Repr

namespace Graph

def node (g : Graph) (id : NodeId) : Node := g.nodes.getD id .blank

def set (g : Graph) (id : NodeId) (node : Node) : Graph :=
  { g with nodes := g.nodes.setIfInBounds id node }

end Graph

def markedTag (marks : Marks) (unmarked : Tag) : Tag :=
  match marks.tag with
  | none => unmarked
  | some uri => if uri = "!" then unmarked else Tag.ofAddress uri

/-- A collection that is open, with what it holds so far in reverse order. A mapping also keeps the key
whose value is due. -/
inductive OpenNode where
  | sequence (id : NodeId) (tag : Tag) (items : List NodeId)
  | mapping (id : NodeId) (tag : Tag) (members : List (NodeId × NodeId)) (key : Option NodeId)

structure Composition where
  nodes : Array Node
  openNodes : List OpenNode
  anchors : List (String × NodeId)
  root : Option NodeId

namespace Composition

def start : Composition := ⟨#[], [], [], none⟩

/-- How many collections may be open at once. -/
def mostOpen : Nat := 480

/-- Puts a node where it belongs. -/
def put (c : Composition) (id : NodeId) : Composition :=
  match c.openNodes with
  | [] => { c with root := some id }
  | .sequence outer tag items :: rest =>
    { c with openNodes := .sequence outer tag (id :: items) :: rest }
  | .mapping outer tag members none :: rest =>
    { c with openNodes := .mapping outer tag members (some id) :: rest }
  | .mapping outer tag members (some key) :: rest =>
    { c with openNodes := .mapping outer tag ((key, id) :: members) none :: rest }

/-- Puts a new node where it belongs, and lets its anchor stand for it. An anchor is given only
once. -/
def add (c : Composition) (marks : Marks) (node : Node) : Except YamlFault Composition :=
  let id := c.nodes.size
  let next := { c with nodes := c.nodes.push node }.put id
  match marks.anchor with
  | none => .ok next
  | some name =>
    if (member? c.anchors name).isSome then .error .reference
    else .ok { next with anchors := setMember c.anchors name id }

def enter (c : Composition) (opened : OpenNode) : Except YamlFault Composition :=
  if mostOpen ≤ c.openNodes.length then .error .tooDeep
  else .ok { c with openNodes := opened :: c.openNodes }

def close (c : Composition) : Composition :=
  match c.openNodes with
  | [] => c
  | .sequence id tag items :: outer =>
    { c with openNodes := outer, nodes := c.nodes.setIfInBounds id (.sequence tag items.reverse) }
  | .mapping id tag members _ :: outer =>
    { c with openNodes := outer, nodes := c.nodes.setIfInBounds id (.mapping tag members.reverse) }

def take (c : Composition) : Event → Except YamlFault Composition
  | .reference name =>
    match member? c.anchors name with
    | some id => .ok (c.put id)
    | none => .error .reference
  | .scalar marks text bare =>
    c.add marks (.scalar (markedTag marks (if bare then bareTag text.shown else .str)) text)
  | .sequenceStart marks => do
    let tag := markedTag marks .seq
    (← c.add marks (.sequence tag [])).enter (.sequence c.nodes.size tag [])
  | .mappingStart marks => do
    let tag := markedTag marks .map
    (← c.add marks (.mapping tag [])).enter (.mapping c.nodes.size tag [] none)
  | .sequenceEnd => .ok c.close
  | .mappingEnd => .ok c.close
  | _ => .ok c

def graph? (c : Composition) : Option Graph := c.root.map (⟨c.nodes, ·⟩)

end Composition

/-- The graph of the only document among the events, or the fault behind them. -/
def composeFrom (fault : YamlFault) (c : Composition) : List Event → Except YamlFault (Option Graph)
  | [] => .error fault
  | .textEnd :: _ => .ok c.graph?
  | .documentStart :: rest =>
    if c.root.isSome then .error .reference else composeFrom fault c rest
  | event :: rest => do composeFrom fault (← c.take event) rest

/-- The graph of the only document, if there is one. -/
def compose (events : Stream Event) : Except YamlFault (Option Graph) :=
  composeFrom (events.fault.getD .order) .start events.items

end ChangelogViews.Yaml
