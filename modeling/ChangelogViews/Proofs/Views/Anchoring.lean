import ChangelogViews.Proofs.Contexts
import ChangelogViews.Proofs.Views.LaidOut
import ChangelogViews.Proofs.Views.Locations
import ChangelogViews.Sql.Dialects

/-!
# Anchored errors

A schema is looked at view by view: the top view first, then the view of each array node. Where one of
them meets a place at fault, the error of the schema is about that place, and its path is the one that
leads from the root of the schema to the field, whatever arrays lie between (`error_anchored`).
-/

namespace ChangelogViews

/-- The reserved aliases of a view, and the places that it is compiled from. -/
structure Scope where
  reserved : List String
  places : List FieldPlace

def Schema.topScope (layout : ChangelogLayout) (schema : Schema) : Scope :=
  ⟨[layout.documentName], placesIn [] [] [] [] schema.fields⟩

def ArrayNode.scope (layout : ChangelogLayout) (n : ArrayNode) : Scope :=
  ⟨layout.documentName :: n.indices, n.places⟩

/-- The views with typed columns, in creation order. -/
def Schema.scopes (layout : ChangelogLayout) (schema : Schema) : List Scope :=
  schema.topScope layout :: schema.arrayNodes.map (ArrayNode.scope layout)

namespace Scope

/-- The first place of the view that is at fault. -/
def FirstFault (d : Sql.Dialect) (s : Scope) : FieldPlace → Cause → List String → Prop :=
  ChangelogViews.FirstFault d (reservedLabels s.reserved) s.places

/-- No place of the view is at fault. -/
def Fine (d : Sql.Dialect) (s : Scope) : Prop := ∀ p cause suffix, ¬ s.FirstFault d p cause suffix

end Scope

/-- The first place of a schema that is at fault. The views before that of the place are fine. -/
def Schema.FirstFault (d : Sql.Dialect) (layout : ChangelogLayout) (schema : Schema) (p : FieldPlace)
    (cause : Cause) (suffix : List String) : Prop :=
  ∃ before scope after, schema.scopes layout = before ++ scope :: after ∧
    (∀ s ∈ before, s.Fine d) ∧ scope.FirstFault d p cause suffix

/-- The cause is about the names of the views, and not about a field. -/
inductive Cause.IsNaming : Cause → Prop
  | badPrefix (given : Option String) : Cause.IsNaming (.malformed (.badPrefix given))
  | badSchemaName (given : Option String) : Cause.IsNaming (.malformed (.badSchemaName given))
  | viewTwice (view : String) : Cause.IsNaming (.malformed (.viewTwice view))

theorem FirstFault.mem {d : Sql.Dialect} {taken : List TakenLabel} {places : List FieldPlace}
    {p : FieldPlace} {cause : Cause} {suffix : List String}
    (first : FirstFault d taken places p cause suffix) : p ∈ places := by
  induction first with
  | here _ => exact List.mem_cons_self
  | later _ _ ih => exact List.mem_cons_of_mem _ ih

/-- A view that was compiled is fine. -/
theorem Scope.fine_of_ok {d : Sql.Dialect} {source : String} {s : Scope} {flat : Flat}
    (passed : takeSteps (reservedLabels s.reserved) (walk d source s.places) = .ok flat) :
    s.Fine d := by
  intro p cause suffix first
  rw [takeSteps_walk_error_iff.mpr ⟨p, cause, suffix, first, rfl⟩] at passed
  cases passed

theorem dotted_ne_empty {path : List String} {name : String} (inside : name ∈ path)
    (named : name ≠ "") : dotted path ≠ "" := by
  match path with
  | [only] =>
    rw [List.mem_singleton.mp inside] at named
    rw [dotted, String.intercalate_singleton]
    exact named
  | first :: second :: rest =>
    intro empty
    have lists := congrArg String.toList empty
    rw [dotted, String.intercalate_cons_cons] at lists
    simp at lists

theorem dotted_append_dotted (anchor : List String) {path : List String} (ne : path ≠ []) :
    dotted (anchor ++ [dotted path]) = dotted (anchor ++ path) := by
  by_cases top : anchor = []
  · rw [top, List.nil_append, List.nil_append]
    exact String.intercalate_singleton
  · unfold dotted
    rw [String.intercalate_append_of_ne_nil top (List.cons_ne_nil _ _),
      String.intercalate_append_of_ne_nil top ne, String.intercalate_singleton]

/-- An error that names a field names it from the root once it is anchored. -/
private theorem anchored_field {anchor path root : List String} {cause : Cause} (ne : path ≠ [])
    (named : dotted path ≠ "") (whole : anchor ++ path = root) :
    (ChildSite.anchored anchor ⟨cause, ⟨none, none, some (dotted path)⟩⟩).context.field =
      some (dotted root) := by
  have kept : (some (dotted path)).toList.filter (· ≠ "") = [dotted path] := by
    simp [named]
  change some (dotted (anchor ++ (some (dotted path)).toList.filter (· ≠ ""))) = _
  rw [kept, dotted_append_dotted anchor ne, whole]

/-- A named field stays when the schema is added to the error. -/
private theorem addContext_field {e : ViewError} {schemaName : Option String} {path : String}
    (known : e.context.field = some path) (named : path ≠ "") :
    (e.addContext ⟨schemaName, none, none⟩).context.field = some path := by
  change Context.fill e.context.field none = some path
  rw [known, Context.fill_some named]

namespace ChildSite

/-- The columns of an array node are those of its scope. -/
theorem nodeFlat_eq (site : ChildSite) (source : String) (n : ArrayNode) :
    site.nodeFlat source n = takeSteps (reservedLabels (n.scope site.layout).reserved)
      (walk site.dialect (site.insideNode source n).source (n.scope site.layout).places) := by
  unfold nodeFlat nodeReserved
  rw [insideNode_indices]
  rfl

end ChildSite

namespace Target

/-- The columns of the top view are those of its scope. -/
theorem topFlat_eq (t : Target) (spelling : Sql.Spelling) (schema : Schema) :
    t.topFlat spelling schema = takeSteps (reservedLabels (schema.topScope t.layout).reserved)
      (walk t.dialect (spelling.quote t.layout.data) (schema.topScope t.layout).places) :=
  flatten_eq_walk t.dialect (spelling.quote t.layout.data) [] [] [t.layout.documentName] schema.fields

theorem naming_of_improper {first schemaName : Option String} {e : ViewError}
    (improper : properNames first schemaName = .error e) : e.cause.IsNaming := by
  rcases bind_error improper with stop | ⟨firstName, _, improper⟩
  · rw [requireWord_error stop]
    exact .badPrefix first
  rcases bind_error improper with stop | ⟨name, _, improper⟩
  · rw [requireWord_error stop]
    exact .badSchemaName schemaName
  · cases improper

/-- The error is about the first place at fault, and names the path to it from the root. -/
private def Anchored (t : Target) (schema : Schema) (e : ViewError) : Prop :=
  ∃ p suffix, schema.FirstFault t.dialect t.layout p e.cause suffix ∧ schema.Located p.root p.field ∧
    (p.field.name.shown ≠ "" → e.context.field = some (dotted (p.root ++ suffix)))

private theorem anchored_of_top {t : Target} {spelling : Sql.Spelling} {schema : Schema} {e : ViewError}
    (failed : t.topFlat spelling schema = .error e) : Anchored t schema e := by
  rw [topFlat_eq] at failed
  obtain ⟨p, cause, suffix, first, rfl⟩ := takeSteps_walk_error_iff.mp failed
  obtain ⟨located, path⟩ := Schema.located_of_top first.mem
  refine ⟨p, suffix, ⟨[], _, _, rfl, ?_, first⟩, located, ?_⟩
  · exact fun s inside => absurd inside List.not_mem_nil
  · intro _
    rw [path]

private theorem anchored_of_array {t : Target} {spelling : Sql.Spelling}
    {dataset first name : String} {schema : Schema} {flat : Flat} {e : ViewError}
    (top : t.topFlat spelling schema = .ok flat)
    (failed : t.arrayViews spelling dataset first name schema = .error (.views e)) :
    Anchored t schema e := by
  obtain ⟨before, n, after, nodes, made, faulty⟩ := mapM_error failed
  obtain ⟨inner, stopped, rfl⟩ := ChildSite.nodeView_error faulty
  rw [ChildSite.nodeFlat_eq] at stopped
  obtain ⟨p, cause, suffix, firstFault, rfl⟩ := takeSteps_walk_error_iff.mp stopped
  have listed : n ∈ schema.arrayNodes := by
    rw [nodes]
    exact List.mem_append_right _ List.mem_cons_self
  obtain ⟨located, own, whole⟩ :=
    Schema.located_of_node (Schema.nests_of_arrayNodes listed) firstFault.mem
  refine ⟨p, suffix, ?_, located, ?_⟩
  · refine ⟨schema.topScope t.layout :: before.map (ArrayNode.scope t.layout), n.scope t.layout,
      after.map (ArrayNode.scope t.layout), ?_, ?_, firstFault⟩
    · rw [Schema.scopes, nodes, List.map_append, List.map_cons, List.cons_append]
    · intro s earlier
      rcases List.mem_cons.mp earlier with rfl | earlier
      · rw [topFlat_eq] at top
        exact Scope.fine_of_ok top
      · obtain ⟨m, inside, rfl⟩ := List.mem_map.mp earlier
        obtain ⟨view, viewed⟩ := made m inside
        obtain ⟨⟨columns, passed⟩, _⟩ := ChildSite.nodeView_ok viewed
        rw [ChildSite.nodeFlat_eq] at passed
        exact Scope.fine_of_ok passed
  · intro named
    -- a path that holds a name is never shown as an empty text, so the anchor adds to it
    refine anchored_field ?_ (dotted_ne_empty (List.mem_append_left suffix own) named) ?_
    · exact List.ne_nil_of_mem (List.mem_append_left suffix own)
    · rw [← List.append_assoc, whole]

/-- Where a schema fails to compile for a field with a name, the error names the path to that field
from the root of the schema, and behind it the suffix of the column that clashed if one did. -/
theorem error_anchored {t : Target} {dataset : String} {first schemaName : Option String}
    {schema : Schema} {changelog : Option String} {e : ViewError}
    (failed : t.compile dataset first schemaName schema changelog = .error (.views e)) :
    e.cause.IsNaming ∨
    ∃ p suffix, schema.FirstFault t.dialect t.layout p e.cause suffix ∧
      schema.Located p.root p.field ∧
      (p.field.name.shown ≠ "" → e.context.field = some (dotted (p.root ++ suffix))) := by
  obtain ⟨inner, stopped, rfl⟩ := compile_error failed
  have faulty : inner.cause.IsNaming ∨ Anchored t schema inner := by
    generalize same : Failure.views inner = failure at stopped
    cases layOut_error stopped with
    | misnamed improper => cases same; exact .inl (naming_of_improper improper)
    | unspelled _ => cases same
    | atTop _ _ failed => cases same; exact .inr (anchored_of_top failed)
    | atArray _ _ top failed => cases same; exact .inr (anchored_of_array top failed)
    | twice => cases same; exact .inl (.viewTwice _)
  rcases faulty with naming | ⟨p, suffix, fault, located, path⟩
  · exact .inl naming
  · refine .inr ⟨p, suffix, fault, located, ?_⟩
    intro named
    obtain ⟨above, last⟩ := located.last
    have own : p.field.name.shown ∈ p.root ++ suffix := by
      rw [last]
      simp
    exact addContext_field (path named) (dotted_ne_empty own named)

/-- A field without a column in the maps of an array that is the element of an array. -/
def unresolvedInside : Schema :=
  let member : Field := ⟨.ofString "x", .other (.ofString "money"), none, none, none⟩
  let inner := { Field.ofKind (.ofString "i") .array with fields := some [member] }
  ⟨[{ Field.ofKind (.ofString "a") .array with element := some inner }]⟩

theorem unresolvedInside_anchored :
    ∃ e, compile ⟨Sql.DuckDb.dialect, "p", .standard⟩ "d" (some "f") (some "s") unresolvedInside
        none = .error (.views e) ∧
      e.context.field = some "a.a.x" ∧
      (e.cause.IsNaming ∨
      ∃ p suffix, unresolvedInside.FirstFault Sql.DuckDb.dialect .standard p e.cause suffix ∧
        unresolvedInside.Located p.root p.field ∧
        (p.field.name.shown ≠ "" → e.context.field = some (dotted (p.root ++ suffix)))) := by
  have failed : ∃ e, compile ⟨Sql.DuckDb.dialect, "p", .standard⟩ "d" (some "f") (some "s")
      unresolvedInside none = .error (.views e) ∧ e.context.field = some "a.a.x" := by
    unfold compile
    rw [layOut_eq]
    exact ⟨_, rfl, by decide⟩
  obtain ⟨e, failed, path⟩ := failed
  exact ⟨e, failed, path, error_anchored failed⟩

end Target
end ChangelogViews
