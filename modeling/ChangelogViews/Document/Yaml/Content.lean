import ChangelogViews.Document.Yaml.Graph
import ChangelogViews.Document.Yaml.Meaning

/-!
# The content of a graph

What each node of a graph holds once the types of the nodes are followed: a scalar means something, and
a collection holds a list, a set, pairs or named members. A mapping may take the members of other
mappings in with its own.

The content is found in rounds from the root on, where the nodes that a collection holds are looked at
one round after the collection itself. So of several faults the one nearest to the root counts, and of
those in one round the first.
-/

namespace ChangelogViews.Yaml

/-- How many nodes may hang on each other. -/
def mostLinked : Nat := 950

/-- What a node holds. Of the members of an object only those with names are kept, and of equal
items in a bag one. -/
inductive Content where
  | scalar (s : Scalar) (written : LooseText)
  | list (items : List NodeId)
  | pairs (items : List (NodeId × NodeId))
  | bag (items : List Value)
  | object (members : List (String × NodeId))

namespace Graph

def members (g : Graph) (id : NodeId) : List (NodeId × NodeId) :=
  match g.node id with
  | .mapping _ members => members
  | _ => []

def setMembers (g : Graph) (id : NodeId) (members : List (NodeId × NodeId)) : Graph :=
  match g.node id with
  | .mapping tag _ => g.set id (.mapping tag members)
  | _ => g

/-- What is merged into a mapping by the first member that does so, and the graph without this
member. -/
def takeMerge? (g : Graph) (id : NodeId) : Option (NodeId × Graph) :=
  let (before, behind) := (g.members id).span fun (key, _) => (g.node key).tag != .merge
  match behind with
  | (_, source) :: behind => some (source, g.setMembers id (before ++ behind))
  | [] => none

/-- The mappings that a node to be merged stands for: itself, or the items of a sequence. -/
def mergedNodes (g : Graph) (id : NodeId) : Except YamlFault (List NodeId) :=
  let isMapping (id : NodeId) : Bool := match g.node id with
    | .mapping _ _ => true
    | _ => false
  match g.node id with
  | .mapping _ _ => .ok [id]
  | .sequence _ items => if items.all isMapping then .ok items else .error .meaning
  | .scalar _ _ => .error .meaning

/-- The graph where the defaults among some members count as texts. -/
def defaultsAsTexts (g : Graph) (members : List (NodeId × NodeId)) : Graph :=
  members.foldl (fun g (key, _) =>
    match g.node key with
    | .scalar .value text => g.set key (.scalar .str text)
    | _ => g) g

/-- Merges into a mapping what its members say, one after the other. What is merged in had its own
members merged before, where a mapping that is on the way to itself gives what it holds by then. All
that was merged in comes in front, an earlier item of a list behind a later one. At most `limit` members
are taken, through at most `depth` mappings. -/
def mergeFrom (merged : List (NodeId × NodeId)) (depth : Nat) (g : Graph) (id : NodeId) :
    (limit : Nat) → Except YamlFault Graph
  | 0 => .ok g
  | limit + 1 =>
    match g.takeMerge? id with
    | none =>
      let own := g.members id
      .ok ((g.defaultsAsTexts own).setMembers id (merged ++ own))
    | some (source, g) => do
      let sources ← g.mergedNodes source
      let g ← sources.foldlM (fun g source =>
        if depth = 0 then throw .tooDeep else mergeFrom [] (depth - 1) g source limit) g
      mergeFrom (merged ++ sources.reverse.flatMap g.members) depth g id limit

def memberCount (g : Graph) : Nat :=
  g.nodes.foldl (fun count node =>
    match node with
    | .mapping _ members => count + members.length
    | _ => count) 0

/-- Merges into a mapping what its members say. Each member is taken once. -/
def merge (g : Graph) (id : NodeId) : Except YamlFault Graph :=
  mergeFrom [] mostLinked g id (g.memberCount + 1)

end Graph

/-- A graph whose content is being found: the content so far, and the collections that are due in the
next round, the last one first. -/
structure Building where
  graph : Graph
  contents : Array (Option Content)
  due : List NodeId

namespace Building

def start (g : Graph) : Building := ⟨g, Array.replicate g.nodes.size none, []⟩

/-- What was found of a node. -/
def content? (b : Building) (id : NodeId) : Option Content := (b.contents.getD id none)

def found (b : Building) (id : NodeId) (content : Content) : Building :=
  { b with contents := b.contents.setIfInBounds id (some content) }

/-- The text of a node that is to be a scalar: its own, or that of the default in a mapping. The search
goes through `depth` nodes at most. -/
def scalarText (g : Graph) : (depth : Nat) → NodeId → Except YamlFault LooseText
  | 0, _ => .error .tooDeep
  | depth + 1, id =>
    match g.node id with
    | .scalar _ text => .ok text
    | .sequence _ _ => .error .meaning
    | .mapping _ members =>
      match members.find? fun (key, _) => (g.node key).tag == .value with
      | some (_, v) => scalarText g depth v
      | none => .error .meaning

/-- The meaning of a node as a scalar of its type. The moment of a mapping is none. -/
def scalarOf (g : Graph) (id : NodeId) : Except YamlFault Content := do
  let text ← scalarText g mostLinked id
  match (g.node id).tag, g.node id with
  | .timestamp, .mapping _ _ => throw .membersAsMoment
  | tag, _ => return .scalar (← scalarMeaning tag text) text

/-- Looks at a node for the first time. A collection is empty until its round has come. -/
def visit (b : Building) (id : NodeId) : Except YamlFault Building :=
  if (b.content? id).isSome then .ok b
  else
    let later (content : Content) : Building := { b.found id content with due := id :: b.due }
    match (b.graph.node id).tag with
    | .seq | .omap | .pairs => .ok (later (.list []))
    | .map => .ok (later (.object []))
    | .set => .ok (later (.bag []))
    | .merge | .value | .other => .error .meaning
    | _ => do return b.found id (← scalarOf b.graph id)

def keyOf (b : Building) (id : NodeId) : Except YamlFault (Scalar × LooseText) :=
  match b.content? id with
  | some (.scalar s written) => .ok (s, written)
  | _ => .error .meaning

def visitMember (b : Building) (member : NodeId × NodeId) : Except YamlFault Building := do
  let b ← b.visit member.1
  let _ ← b.keyOf member.1
  b.visit member.2

/-- Looks at the members of a mapping, merged ones included, and tells what their keys are. -/
def visitMembers (b : Building) (id : NodeId) :
    Except YamlFault (Building × List ((NodeId × Scalar × LooseText) × NodeId)) := do
  match b.graph.node id with
  | .mapping _ _ =>
    let graph ← b.graph.merge id
    let members := graph.members id
    let b ← members.foldlM visitMember { b with graph }
    return (b, ← members.mapM fun (key, v) => return ((key, ← b.keyOf key), v))
  | _ => throw .meaning

def visitPairs (b : Building) : List NodeId → Except YamlFault (Building × List (NodeId × NodeId))
  | [] => .ok (b, [])
  | item :: rest => do
    match b.graph.node item with
    | .mapping _ [(key, v)] =>
      let b ← (← b.visit key).visit v
      let (b, pairs) ← visitPairs b rest
      return (b, (key, v) :: pairs)
    | _ => throw .meaning

/-- The members with names, the last value of each. -/
def namedMembers (members : List ((NodeId × Scalar × LooseText) × NodeId)) : List (String × NodeId) :=
  members.foldl (fun named ((_, key, _), v) =>
    match key with
    | .text name => setMember named name.shown v
    | _ => named) []

/-- Two keys are the same: one node, or scalars that mean the same. -/
def sameKey (a b : NodeId × Scalar × LooseText) : Bool := a.1 == b.1 || a.2.1.same b.2.1

def scalarValue (s : Scalar) (written : LooseText) : Value :=
  match s with
  | .null => .null
  | .bool b => .bool b
  | .whole n => .int n
  | .real _ _ => .real written.shown
  | .text s => .text s
  | .bytes data => .bytes data
  | .moment _ => .moment written.shown

/-- The items of a set, of the same ones the first. -/
def distinct (keys : List (NodeId × Scalar × LooseText)) : List Value :=
  (keys.foldl (fun done key => if done.any (sameKey key) then done else done ++ [key]) []).map
    fun (_, s, written) => scalarValue s written

/-- Finds what a collection holds, now that its round has come. -/
def fill (b : Building) (id : NodeId) : Except YamlFault Building := do
  match (b.graph.node id).tag, b.graph.node id with
  | .seq, .sequence _ items => return (← items.foldlM visit b).found id (.list items)
  | .omap, .sequence _ items | .pairs, .sequence _ items =>
    let (b, pairs) ← b.visitPairs items
    return b.found id (.pairs pairs)
  | .map, _ =>
    let (b, members) ← b.visitMembers id
    return b.found id (.object (namedMembers members))
  | .set, _ =>
    let (b, members) ← b.visitMembers id
    return b.found id (.bag (distinct (members.map (·.1))))
  | _, _ => throw .meaning

/-- Finds the content of all that is due, in `limit` rounds at most. -/
def rounds (b : Building) : (limit : Nat) → Except YamlFault Building
  | 0 => .ok b
  | limit + 1 =>
    if b.due.isEmpty then .ok b
    else do rounds (← b.due.reverse.foldlM fill { b with due := [] }) limit

end Building

/-- The content of a graph's nodes. Each collection is due once, so there are no more rounds than
nodes. -/
def Graph.contents (g : Graph) : Except YamlFault (Array (Option Content)) := do
  let b ← (Building.start g).visit g.root
  return (← b.rounds (g.nodes.size + 1)).contents

end ChangelogViews.Yaml
