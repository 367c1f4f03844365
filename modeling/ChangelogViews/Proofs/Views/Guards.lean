import Mathlib.Data.List.Induction
import ChangelogViews.Proofs.Document.Members
import ChangelogViews.Proofs.Views.Declarations
import ChangelogViews.Proofs.Views.Descent

/-!
# Guards

Some parts of the compiler can be handed what they have no answer for: a field that is no array and is
asked for its element, a schema of no field or of two where the element of an array stands at the root, a
view of array elements without an array, a dialect that does not spell or unnest. Here a schema is
compiled in one pass over its fields, with a guard in each of these places. The first two guards never
fail, and the others only where the schema does not compile without them (`Guarded.compile_eq`). In a
shipped dialect none fails, so a schema is stopped by errors of its own, which name it (`stops_located`).
-/

namespace ChangelogViews
namespace Guarded

/-- `ChildSchema` with its list of fields and the mark `element_at_root`. -/
structure Child where
  path : List String
  jsonPath : List String
  schema : Schema
  atRoot : Bool

/-- A value of a kind that is not expected. -/
def unexpected (message : String) : Failure := .foreign ⟨"ValueError", message⟩

/-- `child_schema_for`, guarded by `element_field`. -/
def childFor (f : Field) (path jsonPath : List String) : Except Failure Child :=
  match f.element? with
  | .error e => .error (unexpected e.message)
  | .ok element =>
    if element.isMap then .ok ⟨path, jsonPath, ⟨element.fields.getD []⟩, false⟩
    else .ok ⟨path, jsonPath, ⟨[{ element with name := f.name }]⟩, true⟩

/-- A child with its fields and its mark. -/
def Child.of (child : ChildSchema) : Child :=
  ⟨child.path, child.jsonPath, ⟨child.content.fields⟩, match child.content with
    | .members _ => false
    | .atRoot _ => true⟩

theorem childFor_array {f : Field} (isArray : f.isArray = true) (path jsonPath : List String) :
    childFor f path jsonPath = .ok (Child.of (childOf f path jsonPath)) := by
  unfold childFor Field.element? childOf
  rw [if_pos isArray]
  by_cases isMap : f.arrayElement.type = .known .map
  · have yes : f.arrayElement.isMap = true := Field.isMap_iff.mpr isMap
    simp only [yes, if_true, isMap]
    rfl
  · have no : f.arrayElement.isMap = false := by simpa [Field.isMap] using isMap
    simp only [no, Bool.false_eq_true, if_false]
    rfl

example (name : LooseText) : childFor (.ofKind name .string) [] [] =
    .error (unexpected (Field.NotAnArray.message ⟨name⟩)) := rfl

/-- What a pass has found so far: aliases in use, columns, and children by their keys. -/
structure Found where
  taken : List TakenLabel
  columns : List Column
  children : List (String × Child)

namespace Found

def start (reserved : List String) : Found := ⟨reservedLabels reserved, [], []⟩

def addColumn (found : Found) (column : Column) : Except Failure Found :=
  match collision found.taken column with
  | some problem => .error (.views (.atField problem column.name))
  | none => .ok { found with
      taken := ⟨column.label, some column.name⟩ :: found.taken
      columns := found.columns ++ [column] }

def addChild (found : Found) (child : Child) : Found :=
  { found with children := setMember found.children (dotted child.path) child }

end Found

def visitPlain (d : Sql.Dialect) (source : String) (path jsonPath : List String) (found : Found)
    (f : Field) : Except Failure Found :=
  if f.fields.isSome || f.element.isSome then
    .error (.views (.atField (.nestedBelow f.type.name) (dotted path)))
  else
    match d.resolve (.ofType f.type) with
    | .error e => .error (.views (e.addContext ⟨none, none, some (dotted path)⟩))
    | .ok rules =>
      rules.foldlM (fun found rule => found.addColumn (columnOf source path jsonPath rule)) found

mutual

/-- `visit_field` with its guards. -/
def visitField (d : Sql.Dialect) (source : String) (path jsonPath : List String) (found : Found) :
    Field → Except Failure Found
  | ⟨name, type, description, fields, element⟩ =>
    if !NameRule.identifier.accepts name.shown then
      .error (.views (.atField (.badFieldName name) (dotted path)))
    else
      match type, fields with
      | .known .map, fields =>
        if element.isSome then .error (.views (.atField .mapWithElement (dotted path)))
        else
          match fields with
          | some fields => visitFields d source path jsonPath [] found fields
          | none => .ok found
      | .known .array, fields =>
        if element.isSome && fields.isSome then
          .error (.views (.atField .arrayWithBoth (dotted path)))
        else
          (childFor ⟨name, .known .array, description, fields, element⟩ path jsonPath).map
            found.addChild
      | type, fields =>
        visitPlain d source path jsonPath found ⟨name, type, description, fields, element⟩

/-- `visit_fields` with its guards. The names before them are `seen`. -/
def visitFields (d : Sql.Dialect) (source : String) (path jsonPath : List String)
    (seen : List LooseText) (found : Found) : List Field → Except Failure Found
  | [] => .ok found
  | f :: rest =>
    if seen.contains f.name then
      .error (.views (.atField (.duplicateField f.name) (dotted (path ++ [f.name.shown]))))
    else do
      let found ← visitField d source (path ++ [f.name.shown]) (jsonPath ++ [f.name.shown]) found f
      visitFields d source path jsonPath (f.name :: seen) found rest

end

/-- `flatten_child`, which unpacks a single field for an element at the root. -/
def Child.flatten (child : Child) (d : Sql.Dialect) (source : String) (reserved : List String) :
    Except Failure Found :=
  if child.atRoot then
    match child.schema.fields with
    | [element] => visitField d source [element.name.shown] [] (.start reserved) element
    | [] => .error (unexpected "not enough values to unpack (expected 1, got 0)")
    | _ => .error (unexpected "too many values to unpack (expected 1)")
  else visitFields d source [] [] [] (.start reserved) child.schema.fields

/-- One step of a walk in a pass. -/
def Found.take (found : Found) : Step → Except Failure Found
  | .fail e => .error (.views e)
  | .column column => found.addColumn column
  | .child child => .ok (found.addChild (.of child))

/-- What a pass has found behind some columns and children. -/
def Found.behind (found : Found) (columns : List Column) (children : List ChildSchema) : Found :=
  ⟨takenBehind found.taken columns, found.columns ++ columns,
    children.foldl (fun kept child => setMember kept child.key (.of child)) found.children⟩

theorem foldlM_take (found : Found) (steps : List Step) :
    steps.foldlM Found.take found =
      (orStop (takeSteps found.taken steps)).map fun flat =>
        found.behind flat.columns (childrenOf steps) := by
  induction steps generalizing found with
  | nil =>
    change Except.ok found = .ok (found.behind [] [])
    simp [Found.behind, takenBehind]
  | cons step rest ih =>
    rw [List.foldlM_cons]
    cases step with
    | fail e => rfl
    | child child =>
      change rest.foldlM Found.take (found.addChild (.of child)) = _
      rw [ih]
      simp only [takeSteps, bind, Except.bind]
      change (orStop (takeSteps found.taken rest)).map _ = _
      cases takeSteps found.taken rest with
      | error e => rfl
      | ok flat =>
        simp only [orStop, Except.map]
        rfl
    | column column =>
      simp only [Found.take, Found.addColumn, takeSteps]
      cases collision found.taken column with
      | some problem => rfl
      | none =>
        change rest.foldlM Found.take _ = _
        rw [ih]
        simp only [bind, Except.bind]
        cases takeSteps (⟨column.label, some column.name⟩ :: found.taken) rest with
        | error e => rfl
        | ok flat =>
          simp only [orStop, Except.map]
          unfold Found.behind
          simp only [List.append_assoc, List.singleton_append]
          rfl

theorem visitPlain_eq (d : Sql.Dialect) (source : String) (path jsonPath : List String)
    (found : Found) (f : Field) :
    visitPlain d source path jsonPath found f =
      (plainSteps d source f path jsonPath).foldlM Found.take found := by
  unfold visitPlain plainSteps
  split
  · rfl
  · cases d.resolve (.ofType f.type) with
    | error e => rfl
    | ok rules =>
      simp only
      rw [List.foldlM_map]
      rfl

mutual

/-- A pass takes the steps of a walk one by one. -/
theorem visitField_eq (d : Sql.Dialect) (source : String) (path jsonPath : List String)
    (found : Found) : (f : Field) →
    visitField d source path jsonPath found f =
      (f.steps d source path jsonPath).foldlM Found.take found
  | ⟨name, type, description, fields, element⟩ => by
    unfold visitField Field.steps
    split
    · rfl
    · cases type with
      | other text => exact visitPlain_eq d source path jsonPath found _
      | known kind =>
        cases kind with
        | map =>
          simp only
          split
          · rfl
          · cases fields with
            | none => rfl
            | some fields => exact visitFields_eq d source path jsonPath [] found fields
        | array =>
          have isArray : Field.isArray ⟨name, .known .array, description, fields, element⟩ = true := rfl
          simp only [childFor_array isArray]
          split <;> rfl
        | _ => exact visitPlain_eq d source path jsonPath found _

theorem visitFields_eq (d : Sql.Dialect) (source : String) (path jsonPath : List String)
    (seen : List LooseText) (found : Found) : (fields : List Field) →
    visitFields d source path jsonPath seen found fields =
      (fieldSteps d source path jsonPath seen fields).foldlM Found.take found
  | [] => rfl
  | f :: rest => by
    rw [visitFields, fieldSteps]
    split
    · rfl
    · rw [List.foldlM_append, visitField_eq]
      congr 1
      funext found
      exact visitFields_eq d source path jsonPath _ found rest

end

/-! ### Passes without a fault of the compiler -/

/-- Children under their keys. -/
def byKey (children : List ChildSchema) : List (String × Child) :=
  children.map fun child => (child.key, .of child)

theorem byKey_before (child : ChildSchema) (later : List ChildSchema) :
    byKey (child.before later) =
      (child.key, (member? (byKey later) child.key).getD (.of child)) ::
        (byKey later).filter (·.1 != child.key) := by
  have others : byKey (later.filter (·.key != child.key)) =
      (byKey later).filter (·.1 != child.key) := by
    rw [byKey, byKey, List.filter_map]
    rfl
  have found : member? (byKey later) child.key =
      (later.find? (·.key == child.key)).map Child.of := by
    rw [member?, byKey, List.find?_map, Option.map_map]
    rfl
  rw [ChildSchema.before, byKey, List.map_cons, ← byKey, others, found]
  cases same : later.find? (·.key == child.key) with
  | none => rfl
  | some other =>
    have key : other.key = child.key := by simpa using List.find?_some same
    simp only [Option.getD_some, Option.map_some, key]

theorem byKey_concat (children : List ChildSchema) (last : ChildSchema) :
    byKey (keyed (children ++ [last])) =
      setMember (byKey (keyed children)) last.key (.of last) := by
  induction children with
  | nil => rfl
  | cons child rest ih =>
    change byKey (child.before (keyed (rest ++ [last]))) =
      setMember (byKey (child.before (keyed rest))) last.key (.of last)
    rw [byKey_before, byKey_before, ih, member?_setMember, setMember]
    -- with the key of the first child the last one stands in its place, and else among the others
    by_cases same : last.key = child.key
    · rw [if_pos same, if_pos same.symm, same, filter_setMember]
      rfl
    · rw [if_neg same, if_neg (Ne.symm same), filter_setMember_other same]

/-- The last child of each key is kept, in the place of the first. -/
theorem setMembers_keyed (children : List ChildSchema) :
    children.foldl (fun kept child => setMember kept child.key (.of child)) [] =
      byKey (keyed children) := by
  induction children using List.reverseRecOn with
  | nil => rfl
  | append_singleton children last ih =>
    rw [List.foldl_append, ih, byKey_concat]
    rfl

/-- What a whole pass has found whose walk gives these columns and children. -/
def Found.ofFlat (reserved : List String) (flat : Flat) : Found :=
  ⟨takenBehind (reservedLabels reserved) flat.columns, flat.columns, byKey flat.children⟩

theorem foldlM_start (reserved : List String) (steps : List Step) :
    steps.foldlM Found.take (.start reserved) =
      (orStop (takeSteps (reservedLabels reserved) steps)).map (Found.ofFlat reserved) := by
  rw [foldlM_take]
  change (orStop (takeSteps (reservedLabels reserved) steps)).map _ = _
  cases taken : takeSteps (reservedLabels reserved) steps with
  | error e => rfl
  | ok flat =>
    simp only [orStop, Except.map, Found.ofFlat, children_of_takeSteps taken, ← setMembers_keyed]
    rfl

theorem flatten_of (child : ChildSchema) (d : Sql.Dialect) (source : String)
    (reserved : List String) :
    (Child.of child).flatten d source reserved =
      (orStop (child.flatten d source reserved)).map (Found.ofFlat reserved) := by
  obtain ⟨path, jsonPath, content⟩ := child
  cases content with
  | members fields => exact (visitFields_eq d source [] [] [] _ fields).trans (foldlM_start reserved _)
  | atRoot element =>
    exact (visitField_eq d source [element.name.shown] [] _ element).trans (foldlM_start reserved _)

theorem of_flatten_ok {child : Child} {d : Sql.Dialect} {source : String} {reserved : List String}
    {found : Found} (done : child.flatten d source reserved = .ok found) :
    ∃ content, child = .of ⟨child.path, child.jsonPath, content⟩ := by
  obtain ⟨path, jsonPath, ⟨fields⟩, atRoot⟩ := child
  cases atRoot with
  | false => exact ⟨.members fields, rfl⟩
  | true =>
    match fields, done with
    | [element], _ => exact ⟨.atRoot element, rfl⟩

/-! ### Views of arrays -/

/-- The array nodes that some children stand for: one each, and those in their elements. -/
def size : List Child → Nat
  | [] => 0
  | child :: rest => arraysIn child.schema.fields + 1 + size rest

theorem size_of (children : List ChildSchema) :
    size (children.map Child.of) = childrenSize children := by
  induction children with
  | nil => rfl
  | cons child rest ih =>
    rw [childrenSize, ← ih, ← ElementContent.arraysIn_fields]
    rfl

theorem values_byKey (children : List ChildSchema) :
    (byKey children).map Prod.snd = children.map Child.of := by
  rw [byKey, List.map_map]
  rfl

theorem size_of_flatten {child : Child} {d : Sql.Dialect} {source : String} {reserved : List String}
    {found : Found} (done : child.flatten d source reserved = .ok found) :
    size (found.children.map Prod.snd) ≤ arraysIn child.schema.fields := by
  obtain ⟨content, same⟩ := of_flatten_ok done
  rw [same] at done ⊢
  rw [flatten_of] at done
  cases passed : ChildSchema.flatten ⟨child.path, child.jsonPath, content⟩ d source reserved with
  | error e => rw [passed] at done; cases done
  | ok flat =>
    rw [passed] at done
    cases done
    rw [Found.ofFlat, values_byKey, size_of]
    exact Nat.le_trans (childrenSize_flatten_le passed)
      (Nat.le_of_eq (ElementContent.arraysIn_fields content).symm)

def Child.inside (child : Child) (site : ChildSite) (outer : Enclosing) : Enclosing :=
  let keyPath := outer.keyPath ++ child.path
  let label := joined keyPath
  let level : UnnestLevel :=
    ⟨outer.source, Sql.jsonPath child.jsonPath, s!"{label}_member", s!"{label}_index"⟩
  ⟨keyPath, outer.levels ++ [level], site.spelling.quote level.member⟩

/-- The path that errors in an element are anchored to, less the name of the one at the root. -/
def Child.anchor (child : Child) (inner : Enclosing) : List String :=
  if child.atRoot then inner.keyPath.dropLast else inner.keyPath

/-- `_compile_children` with its guards, behind the views that are there. -/
def childViews (site : ChildSite) (outer : Enclosing) (views : List View) :
    List Child → Except Failure (List View)
  | [] => .ok views
  | child :: rest =>
    let inner := child.inside site outer
    match _ : child.flatten site.dialect inner.source
        (site.layout.documentName :: inner.levels.map UnnestLevel.index) with
    | .error (.views e) =>
      .error (.views (ChildSite.anchored (child.anchor inner) e))
    | .error failure => .error failure
    | .ok found => do
      let query ← orSqlStop
        (Sql.childQuery site.dialect site.snapshotRef site.layout inner.levels found.columns)
      let view := View.of site.spelling s!"{site.top}_{joined inner.keyPath}" query [site.snapshot]
      let views ← childViews site inner (views ++ [view]) (found.children.map Prod.snd)
      childViews site outer views rest
  termination_by children => size children
  decreasing_by
    · have le := size_of_flatten ‹child.flatten _ _ _ = .ok _›
      simp only [size]
      omega
    · simp only [size]
      omega

theorem Child.inside_of (child : ChildSchema) (site : ChildSite) (outer : Enclosing) :
    (Child.of child).inside site outer = site.inside outer child := rfl

theorem Child.anchor_of (child : ChildSchema) (inner : Enclosing) :
    (Child.of child).anchor inner = ChildSite.anchor inner child := by
  obtain ⟨path, jsonPath, content⟩ := child
  cases content <;> rfl

theorem childViews_cons (site : ChildSite) (outer : Enclosing) (views : List View)
    (child : ChildSchema) (rest : List Child) :
    childViews site outer views (.of child :: rest) =
      match site.flat outer child with
      | .error e =>
        .error (.views (ChildSite.anchored (ChildSite.anchor (site.inside outer child) child) e))
      | .ok flat =>
        match site.view outer child flat with
        | .error fault => .error (.sql fault)
        | .ok view =>
          childViews site (site.inside outer child) (views ++ [view]) (flat.children.map .of) >>=
            fun views => childViews site outer views rest := by
  have flattened := flatten_of child site.dialect (site.inside outer child).source
    (site.layout.documentName :: (site.inside outer child).levels.map UnnestLevel.index)
  change _ = (orStop (site.flat outer child)).map _ at flattened
  rw [← Child.inside_of] at flattened
  rw [childViews]
  cases passed : site.flat outer child with
  | error own =>
    rw [passed] at flattened
    split
    · next e failed =>
      cases flattened.symm.trans failed
      rw [Child.anchor_of, Child.inside_of]
    · next unforeseen failed => cases flattened.symm.trans failed; exact absurd rfl (unforeseen own)
    · next done => cases flattened.symm.trans done
  | ok flat =>
    rw [passed] at flattened
    split
    · next failed => cases flattened.symm.trans failed
    · next failed => cases flattened.symm.trans failed
    · next done =>
      cases flattened.symm.trans done
      rw [Child.inside_of, Found.ofFlat, values_byKey]
      simp only [ChildSite.view]
      cases Sql.childQuery site.dialect site.snapshotRef site.layout (site.inside outer child).levels
          flat.columns with
      | error fault => rfl
      | ok query => rfl

theorem childViews_eq (site : ChildSite) (outer : Enclosing) (children : List ChildSchema)
    (views : List View) :
    childViews site outer views (children.map Child.of) =
      (site.views outer children).map (views ++ ·) := by
  fun_induction ChildSite.views site outer children generalizing views with
  | case1 outer =>
    rw [List.map_nil, childViews]
    simp [Except.map]
  | case2 outer child rest e failed =>
    rw [List.map_cons, childViews_cons, failed]
    rfl
  | case3 outer child rest flat passed fault failed =>
    rw [List.map_cons, childViews_cons, passed]
    simp only [failed]
    rfl
  | case4 outer child rest flat passed view made ihBelow ihOthers =>
    rw [List.map_cons, childViews_cons, passed]
    simp only [made, ihBelow]
    cases site.views (site.inside outer child) flat.children with
    | error failure => rfl
    | ok below =>
      simp only [Except.map, bind, Except.bind, ihOthers]
      cases site.views outer rest with
      | error failure => rfl
      | ok others => simp [pure, Except.pure]

/-- `_compile` with its guards. -/
def layOut (t : Target) (dataset : String) (first schemaName : Option String) (schema : Schema)
    (changelog : Option String) : Except Failure SchemaViews := do
  let names ← orStop (Target.properNames first schemaName)
  let spelling ← orSqlStop t.dialect.spelled
  let source := spelling.quote t.layout.data
  let found ← visitFields t.dialect source [] [] [] (.start [t.layout.documentName]) schema.fields
  let children ← childViews (t.childSite spelling dataset names.1 names.2) ⟨[], [], source⟩ []
    (found.children.map Prod.snd)
  Target.withoutRepeats (t.assembled spelling dataset names.1 names.2 changelog found.columns children)

/-- `compile_schema_views` with its guards. -/
def compile (t : Target) (dataset : String) (first schemaName : Option String) (schema : Schema)
    (changelog : Option String) : Except Failure SchemaViews :=
  match layOut t dataset first schemaName schema changelog with
  | .error (.views e) => .error (.views (e.addContext ⟨schemaName, none, none⟩))
  | outcome => outcome

theorem layOut_eq (t : Target) (dataset : String) (first schemaName : Option String) (schema : Schema)
    (changelog : Option String) :
    layOut t dataset first schemaName schema changelog =
      t.layOut dataset first schemaName schema changelog := by
  rw [layOut, Target.layOut_eq]
  congr 1
  funext names
  congr 1
  funext spelling
  simp only
  rw [visitFields_eq, foldlM_start]
  change ((orStop (t.topFlat spelling schema)).map _ >>= _) = _
  cases top : t.topFlat spelling schema with
  | error e => rfl
  | ok flat =>
    have laid := childViews_eq (t.childSite spelling dataset names.1 names.2)
      ⟨[], [], spelling.quote t.layout.data⟩ flat.children []
    rw [ChildSite.views_of_schema top] at laid
    change _ = (t.arrayViews spelling dataset names.1 names.2 schema).map _ at laid
    simp only [orStop, Except.map, bind, Except.bind, Found.ofFlat, values_byKey]
    rw [laid]
    cases t.arrayViews spelling dataset names.1 names.2 schema with
    | error failure => rfl
    | ok children => rfl

/-- With its guards the compiler does the same, in whatever dialect. -/
theorem compile_eq (t : Target) (dataset : String) (first schemaName : Option String) (schema : Schema)
    (changelog : Option String) :
    compile t dataset first schemaName schema changelog =
      t.compile dataset first schemaName schema changelog := by
  rw [compile, layOut_eq]
  rfl

end Guarded

namespace Target

variable {t : Target} {dataset : String} {first schemaName : Option String} {schema : Schema}
  {changelog : Option String}

theorem schema_of_layOut_error {e : ViewError}
    (failed : t.layOut dataset first schemaName schema changelog = .error (.views e)) :
    e.context.schema = none := by
  generalize same : Failure.views e = failure at failed
  cases layOut_error failed with
  | misnamed improper =>
    cases same
    rcases bind_error improper with stop | ⟨_, _, improper⟩
    · rw [requireWord_error stop]
      rfl
    rcases bind_error improper with stop | ⟨_, _, ⟨⟩⟩
    rw [requireWord_error stop]
    rfl
  | unspelled _ => cases same
  | atTop _ _ faulty =>
    cases same
    rw [topFlat_eq] at faulty
    obtain ⟨_, _, _, _, rfl⟩ := takeSteps_walk_error_iff.mp faulty
    rfl
  | atArray _ _ _ faulty =>
    cases same
    obtain ⟨_, n, _, _, _, unlaid⟩ := mapM_error faulty
    obtain ⟨own, stopped, rfl⟩ := ChildSite.nodeView_error unlaid
    rw [ChildSite.nodeFlat_eq] at stopped
    obtain ⟨_, _, _, _, rfl⟩ := takeSteps_walk_error_iff.mp stopped
    rfl
  | twice => cases same; rfl

/-- In a shipped dialect compiling with all guards gives what it gives without. Either there are views, or
the schema is to blame and the error names it, so no guard against the compiler itself fails. -/
theorem stops_located (shipped : t.dialect ∈ Sql.dialects) (dataset : String)
    (first schemaName : Option String) (schema : Schema) (changelog : Option String) :
    Guarded.compile t dataset first schemaName schema changelog =
      t.compile dataset first schemaName schema changelog ∧
    ((∃ views, Guarded.compile t dataset first schemaName schema changelog = .ok views) ∨
      ∃ e, Guarded.compile t dataset first schemaName schema changelog = .error (.views e) ∧
        e.cause.IsOfSchema ∧
        ∀ name, schemaName = some name → name ≠ "" → e.context.schema = some name) := by
  rw [Guarded.compile_eq]
  refine ⟨rfl, ?_⟩
  cases compiled : t.compile dataset first schemaName schema changelog with
  | ok views => exact .inl ⟨views, rfl⟩
  | error failure =>
    obtain ⟨e, rfl⟩ := compile_failure (Sql.Dialect.regular_of_mem shipped) compiled
    refine .inr ⟨e, rfl, isOfSchema_of_compile compiled, ?_⟩
    rintro name rfl _
    obtain ⟨inner, stopped, rfl⟩ := compile_error compiled
    change Context.fill inner.context.schema (some name) = some name
    rw [schema_of_layOut_error stopped]
    rfl

/-- An array of elements whose type has no columns. -/
def unresolvedElements : Schema :=
  let element : Field := ⟨.ofString "", .other (.ofString "money"), none, none, none⟩
  ⟨[{ Field.ofKind (.ofString "prices") .array with element := some element }]⟩

theorem unresolvedElements_located :
    Sql.BigQuery.dialect ∈ Sql.dialects ∧
    ∃ e, Guarded.compile ⟨Sql.BigQuery.dialect, "p", .standard⟩ "d" (some "f") (some "s")
        unresolvedElements none = .error (.views e) ∧
      e.cause.IsOfSchema ∧ e.context.schema = some "s" := by
  have shipped : Sql.BigQuery.dialect ∈ Sql.dialects := by simp [Sql.dialects]
  have failed : ∃ e, compile ⟨Sql.BigQuery.dialect, "p", .standard⟩ "d" (some "f") (some "s")
      unresolvedElements none = .error (.views e) := by
    unfold compile
    rw [layOut_eq]
    exact ⟨_, rfl⟩
  obtain ⟨e, failed⟩ := failed
  obtain ⟨same, ⟨views, done⟩ | ⟨other, stopped, ofSchema, named⟩⟩ :=
    stops_located (t := ⟨Sql.BigQuery.dialect, "p", .standard⟩) shipped "d" (some "f") (some "s")
      unresolvedElements none
  · rw [same, failed] at done
    cases done
  · exact ⟨shipped, other, stopped, ofSchema, named "s" rfl (by decide)⟩

end Target
end ChangelogViews
