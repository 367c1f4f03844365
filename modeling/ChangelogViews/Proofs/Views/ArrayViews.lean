import ChangelogViews.Proofs.Views.ArrayNodes
import ChangelogViews.Views.Compiled

/-!
# Views of array nodes

The view of an array node can be told from the node alone: from its places and from the arrays around it.
Compiling the children of a view, and the children of theirs, comes to no more than that, one node after the
other (`views_eq_mapM`).
-/

namespace ChangelogViews

/-- The path that the places of an array's view are looked up behind: that of the array, less its name
if the one place of the view has this name too. -/
def ArrayNode.anchor (n : ArrayNode) : List String :=
  if n.field.arrayElement.isMap then n.site.keyPath else n.site.keyPath.dropLast

/-- The ordinal of an array, by its alias. -/
def ArraySite.index (a : ArraySite) : String := s!"{joined a.keyPath}_index"

/-- The ordinals of an array and of those around it. -/
def ArrayNode.indices (n : ArrayNode) : List String := (n.around ++ [n.site]).map ArraySite.index

/-- What a place of a view splits off if it is an array. -/
def FieldPlace.child (p : FieldPlace) : ChildSchema := childOf p.field p.path p.jsonPath

namespace ChildSite

def enter (site : ChildSite) (outer : Enclosing) (a : ArraySite) : Enclosing :=
  let label := joined a.keyPath
  let level : UnnestLevel :=
    ⟨outer.source, Sql.jsonPath a.jsonPath, s!"{label}_member", s!"{label}_index"⟩
  ⟨a.keyPath, outer.levels ++ [level], site.spelling.quote level.member⟩

/-- The key path, the levels and the source inside some arrays, given from the outermost on. -/
def enclosing (site : ChildSite) (source : String) (arrays : List ArraySite) : Enclosing :=
  arrays.foldl site.enter ⟨[], [], source⟩

def insideNode (site : ChildSite) (source : String) (n : ArrayNode) : Enclosing :=
  site.enclosing source (n.around ++ [n.site])

theorem insideNode_eq (site : ChildSite) (source : String) (n : ArrayNode) :
    site.insideNode source n = site.enter (site.enclosing source n.around) n.site :=
  List.foldl_append

theorem insideNode_keyPath (site : ChildSite) (source : String) (n : ArrayNode) :
    (site.insideNode source n).keyPath = n.site.keyPath := by
  rw [insideNode_eq]
  rfl

/-- The ordinals of the arrays around an element are named for their key paths, from the outermost array on. -/
theorem enclosing_indices (site : ChildSite) (source : String) (arrays : List ArraySite) :
    (site.enclosing source arrays).levels.map UnnestLevel.index = arrays.map ArraySite.index := by
  have behind : ∀ (arrays : List ArraySite) (outer : Enclosing),
      (arrays.foldl site.enter outer).levels.map UnnestLevel.index =
        outer.levels.map UnnestLevel.index ++ arrays.map ArraySite.index := by
    intro arrays
    induction arrays with
    | nil => exact fun outer => (List.append_nil _).symm
    | cons a rest ih =>
      intro outer
      rw [List.foldl_cons, ih, enter, List.map_append, List.append_assoc]
      rfl
  exact behind arrays ⟨[], [], source⟩

theorem insideNode_indices (site : ChildSite) (source : String) (n : ArrayNode) :
    (site.insideNode source n).levels.map UnnestLevel.index = n.indices :=
  site.enclosing_indices source (n.around ++ [n.site])

/-- The reserved aliases of the view of an array node. -/
def nodeReserved (site : ChildSite) (source : String) (n : ArrayNode) : List String :=
  site.layout.documentName :: (site.insideNode source n).levels.map UnnestLevel.index

/-- The columns of the elements of an array node. -/
def nodeFlat (site : ChildSite) (source : String) (n : ArrayNode) : Except ViewError Flat :=
  takeSteps (reservedLabels (site.nodeReserved source n))
    (walk site.dialect (site.insideNode source n).source n.places)

/-- The view of an array node with some columns. -/
def nodeQuery (site : ChildSite) (source : String) (n : ArrayNode) (columns : List Column) :
    Except SqlFault View := do
  let query ← Sql.childQuery site.dialect site.snapshotRef site.layout
    (site.insideNode source n).levels columns
  return .of site.spelling s!"{site.top}_{joined n.site.keyPath}" query [site.snapshot]

/-- The view of an array node, or why there is none. -/
def nodeView (site : ChildSite) (source : String) (n : ArrayNode) : Except Failure View :=
  match site.nodeFlat source n with
  | .error e => .error (.views (anchored n.anchor e))
  | .ok flat => orSqlStop (site.nodeQuery source n flat.columns)

/-- A view of an array node is named for its key path and reads the snapshot. -/
theorem nodeView_ok {site : ChildSite} {source : String} {n : ArrayNode} {view : View}
    (made : site.nodeView source n = .ok view) :
    (∃ flat, site.nodeFlat source n = .ok flat) ∧
      view.name = s!"{site.top}_{joined n.site.keyPath}" ∧ view.dependsOn = [site.snapshot] := by
  unfold nodeView at made
  split at made
  · cases made
  · next flat passed =>
    unfold nodeQuery at made
    cases rendered : Sql.childQuery site.dialect site.snapshotRef site.layout
        (site.insideNode source n).levels flat.columns with
    | error fault => rw [rendered] at made; cases made
    | ok query =>
      rw [rendered] at made
      cases made
      exact ⟨⟨flat, passed⟩, rfl, rfl⟩

/-- An error of an array node is one of its columns, anchored at the array. -/
theorem nodeView_error {site : ChildSite} {source : String} {n : ArrayNode} {e : ViewError}
    (failed : site.nodeView source n = .error (.views e)) :
    ∃ inner, site.nodeFlat source n = .error inner ∧ e = anchored n.anchor inner := by
  unfold nodeView at failed
  split at failed
  · next inner faulty => cases failed; exact ⟨inner, faulty, rfl⟩
  · next flat passed =>
    cases rendered : site.nodeQuery source n flat.columns with
    | error fault => rw [rendered] at failed; cases failed
    | ok view => rw [rendered] at failed; cases failed

/-- The node of a place whose view lies inside some arrays. -/
def nodeAt (site : ChildSite) (source : String) (around : List ArraySite) (p : FieldPlace) :
    ArrayNode :=
  p.node around (site.enclosing source around).keyPath

section
variable (site : ChildSite) (source : String) (around : List ArraySite) (p : FieldPlace)

private theorem inside_child :
    site.inside (site.enclosing source around) p.child =
      site.insideNode source (site.nodeAt source around p) := by
  rw [insideNode_eq]
  unfold FieldPlace.child childOf
  simp only
  split
  · rfl
  · rfl

private theorem flat_child :
    site.flat (site.enclosing source around) p.child =
      site.nodeFlat source (site.nodeAt source around p) := by
  unfold ChildSite.flat
  rw [inside_child]
  exact childOf_flatten_eq_walk _ _ (site.nodeAt source around p).site.keyPath _ _ _ _

private theorem anchor_child :
    anchor (site.inside (site.enclosing source around) p.child) p.child =
      (site.nodeAt source around p).anchor := by
  rw [inside_child]
  unfold anchor ArrayNode.anchor
  rw [insideNode_keyPath]
  have own : (site.nodeAt source around p).field = p.field := rfl
  unfold FieldPlace.child childOf
  rw [own]
  by_cases isMap : p.field.arrayElement.type = .known .map
  · have yes : p.field.arrayElement.isMap = true := Field.isMap_iff.mpr isMap
    simp only [isMap, yes, if_true]
  · have no : p.field.arrayElement.isMap = false := by simpa [Field.isMap] using isMap
    simp only [no, Bool.false_eq_true, if_false]

private theorem view_child (flat : Flat) :
    site.view (site.enclosing source around) p.child flat =
      site.nodeQuery source (site.nodeAt source around p) flat.columns := by
  unfold ChildSite.view nodeQuery
  rw [inside_child]
  simp only [insideNode_keyPath]

end

/-- The children of a view that was compiled are the arrays that its node splits off. -/
private theorem children_of_nodeFlat {site : ChildSite} {source : String} {n : ArrayNode}
    {flat : Flat} (passed : site.nodeFlat source n = .ok flat) :
    flat.children = (n.places.filter (·.field.isArray)).map FieldPlace.child :=
  children_of_elementPlaces passed

/-- The view of a child is that of its node, and behind it come the arrays that the node splits off. -/
private theorem views_cons (site : ChildSite) (source : String) (around : List ArraySite)
    (p : FieldPlace) (rest : List ChildSchema) :
    site.views (site.enclosing source around) (p.child :: rest) = (do
      let view ← site.nodeView source (site.nodeAt source around p)
      let below ← site.views (site.insideNode source (site.nodeAt source around p))
        (((site.nodeAt source around p).places.filter (·.field.isArray)).map FieldPlace.child)
      let others ← site.views (site.enclosing source around) rest
      return view :: below ++ others) := by
  rw [ChildSite.views, nodeView, ← flat_child]
  split
  · next e failed =>
    rw [failed, anchor_child]
    rfl
  · next flat passed =>
    have children := passed
    rw [flat_child] at children
    rw [passed, ← children_of_nodeFlat children, inside_child]
    simp only
    rw [← view_child]
    cases site.view (site.enclosing source around) p.child flat with
    | error fault => rfl
    | ok view => rfl

/-- An array that was compiled leaves fewer arrays to its view than it stands for. -/
private theorem childrenSize_inner_lt {site : ChildSite} {source : String} {around : List ArraySite}
    {p : FieldPlace} {view : View}
    (made : site.nodeView source (site.nodeAt source around p) = .ok view) :
    childrenSize (((site.nodeAt source around p).places.filter (·.field.isArray)).map
      FieldPlace.child) < childrenSize [p.child] := by
  obtain ⟨⟨flat, passed⟩, _⟩ := nodeView_ok made
  have children := children_of_nodeFlat passed
  rw [← flat_child] at passed
  have bound := childrenSize_flatten_le passed
  rw [children] at bound
  simp only [childrenSize]
  omega

/-- The arrays in the view of a node are the nodes inside it. -/
private theorem inner_eq (site : ChildSite) (source : String) (n : ArrayNode) :
    (n.places.filter (·.field.isArray)).map (site.nodeAt source (n.around ++ [n.site])) = n.inner := by
  have key := site.insideNode_keyPath source n
  unfold insideNode at key
  unfold nodeAt ArrayNode.inner
  rw [key]

/-- The views of the arrays of a view are those of their nodes and of all nodes inside, in
depth-first order. -/
theorem views_eq_mapM (site : ChildSite) (source : String) (around : List ArraySite)
    (places : List FieldPlace) (arrays : ∀ p ∈ places, p.field.type = .known .array) :
    site.views (site.enclosing source around) (places.map FieldPlace.child) =
      ((places.map (site.nodeAt source around)).flatMap ArrayNode.all).mapM
        (site.nodeView source) := by
  match places with
  | [] =>
    rw [List.map_nil, ChildSite.views]
    rfl
  | p :: rest =>
    have own : (site.nodeAt source around p).field.type = .known .array :=
      arrays p List.mem_cons_self
    have shorter : childrenSize (rest.map FieldPlace.child) <
        childrenSize ((p :: rest).map FieldPlace.child) := by
      simp only [List.map_cons, childrenSize]
      omega
    have later := views_eq_mapM site source around rest
      fun q inside => arrays q (List.mem_cons_of_mem _ inside)
    rw [List.map_cons, views_cons, later, List.map_cons, List.flatMap_cons, ArrayNode.all_eq own,
      List.cons_append, List.mapM_cons, List.mapM_append]
    cases made : site.nodeView source (site.nodeAt source around p) with
    | error failure => rfl
    | ok view =>
      have smaller : childrenSize (((site.nodeAt source around p).places.filter
          (·.field.isArray)).map FieldPlace.child) <
          childrenSize ((p :: rest).map FieldPlace.child) := by
        have bound := childrenSize_inner_lt made
        simp only [List.map_cons, childrenSize] at bound ⊢
        omega
      have inner : ∀ q ∈ (site.nodeAt source around p).places.filter (·.field.isArray),
          q.field.type = .known .array :=
        fun q inside => Field.isArray_iff.mp (List.mem_filter.mp inside).2
      have below := views_eq_mapM site source (around ++ [(site.nodeAt source around p).site]) _ inner
      have inside := site.inner_eq source (site.nodeAt source around p)
      change List.map (site.nodeAt source (around ++ [_])) _ = _ at inside
      rw [inside] at below
      change (do
        let below ← site.views (site.enclosing source (around ++ [_])) _
        let others ← ((rest.map (site.nodeAt source around)).flatMap ArrayNode.all).mapM
          (site.nodeView source)
        pure (view :: below ++ others) : Except Failure (List View)) = _
      rw [below]
      cases ((site.nodeAt source around p).inner.flatMap ArrayNode.all).mapM
          (site.nodeView source) with
      | error e => rfl
      | ok below =>
        cases ((rest.map (site.nodeAt source around)).flatMap ArrayNode.all).mapM
            (site.nodeView source) with
        | error e => rfl
        | ok others => rfl
  termination_by childrenSize (places.map FieldPlace.child)
  decreasing_by all_goals assumption

/-- The views of the arrays of a schema whose fields were compiled are those of its array nodes. -/
theorem views_of_schema {d : Sql.Dialect} {text : String} {reserved : List String} {flat : Flat}
    {schema : Schema} (passed : flatten d text [] reserved schema.fields = .ok flat)
    (site : ChildSite) (source : String) :
    site.views ⟨[], [], source⟩ flat.children = schema.arrayNodes.mapM (site.nodeView source) := by
  rw [flatten_eq_walk d text []] at passed
  have arrays : ∀ p ∈ (placesIn [] [] [] [] schema.fields).filter (·.field.isArray),
      p.field.type = .known .array := by
    intro p inside
    exact Field.isArray_iff.mp (List.mem_filter.mp inside).2
  have laid := views_eq_mapM site source [] _ arrays
  rw [children_of_placesIn passed, arrayNodes_eq_top]
  exact laid

end ChildSite
end ChangelogViews
