import ChangelogViews.Document.Yaml.Content

/-!
# The value of a graph

A graph stands for the value that is unfolded from its root. Where a collection holds itself the
unfolding comes to an end: an object is not unfolded again inside itself, except that the root is once,
and a list only behind an object. What does not hang on the collections around it is unfolded once.
-/

namespace ChangelogViews.Yaml

/-- Values that were unfolded already and are the same everywhere. -/
abbrev Unfolded := Array (Option Value)

/-- The unfolding of a content: the node of the root, and what each node holds. -/
structure Unfolding where
  root : NodeId
  contents : Array (Option Content)

namespace Unfolding

def isObject (u : Unfolding) (id : NodeId) : Bool :=
  match u.contents.getD id none with
  | some (.object _) => true
  | _ => false

/-- What stands for a node that is not unfolded again inside the nodes of `path`, the innermost of
which comes first. -/
def cut? (u : Unfolding) (path : List NodeId) (id : NodeId) : Option Value :=
  if u.isObject id then
    let most := if id = u.root then 2 else 1
    if most ≤ path.count id then some .cycle else none
  else if (path.takeWhile fun other => !u.isObject other).contains id then some (.list [])
  else none

/-- The value of a node inside the nodes of `path`, and whether it hangs on them. The unfolding goes
`depth` nodes deep at most. -/
def valueAt (u : Unfolding) : (depth : Nat) → (path : List NodeId) → NodeId →
    StateM Unfolded (Value × Bool)
  | 0, _, _ => return (.null, true)
  | depth + 1, path, id => do
    match (← get).getD id none, u.cut? path id with
    | some v, _ => return (v, false)
    | none, some v => return (v, true)
    | none, none =>
      let below := u.valueAt depth (id :: path)
      let (v, hangs) ←
        match u.contents.getD id none with
        | none => pure (Value.null, false)
        | some (.scalar s written) => pure (Building.scalarValue s written, false)
        | some (.bag items) => pure (Value.bag items, false)
        | some (.list items) => do
          let values ← items.mapM below
          pure (Value.list (values.map (·.1)), values.any (·.2))
        | some (.pairs items) => do
          let values ← items.mapM fun (key, v) => return (← below key, ← below v)
          pure (Value.list (values.map fun (key, v) => .list [key.1, v.1]),
            values.any fun (key, v) => key.2 || v.2)
        | some (.object members) => do
          let values ← members.mapM fun (name, v) => return (name, ← below v)
          pure (Value.object (values.map fun (name, v) => (name, v.1)), values.any (·.2.2))
      if !hangs then modify fun known => known.setIfInBounds id (some v)
      return (v, hangs)

/-- The value of the root. No path is longer than the square of the number of nodes, since only a list
comes again behind an object, and an object but once. -/
def value (u : Unfolding) : Value :=
  let size := u.contents.size
  ((u.valueAt ((size + 2) * (size + 2)) [] u.root).run (Array.replicate size none)).1.1

end Unfolding

def Graph.value (g : Graph) : Except YamlFault Value := do
  return Unfolding.value ⟨g.root, ← g.contents⟩

def isAllowed (c : Char) : Bool :=
  let n := c.toNat
  n = 0x09 || n = 0x0a || n = 0x0d || (0x20 ≤ n && n ≤ 0x7e) || n = 0x85 ||
    (0xa0 ≤ n && n ≤ 0xd7ff) || (0xe000 ≤ n && n ≤ 0xfffd) || 0x10000 ≤ n

/-- `safe_load`: the value of the only document, null if there is none. -/
def read (text : List Char) : Except YamlFault Value :=
  if !text.all isAllowed then .error .character
  else do
    match ← compose (events (tokens text)) with
    | none => return .null
    | some graph => graph.value

end ChangelogViews.Yaml
