import ChangelogViews.Proofs.Views.LaidOut
import ChangelogViews.Sql.Dialects

/-!
# Descent into arrays

The elements of an array are compiled from fields that are partly made up: a bare array has text elements,
and one with fields has maps as elements. So the fields of an element need not be fewer than those around
the array. But the array nodes in them are (`DrawnFrom`), each array stands for one view, and the views of
all arrays come to an end (`arrays_run_out`).
-/

namespace ChangelogViews

@[simp]
theorem ElementContent.arraysIn_fields (content : ElementContent) :
    arraysIn content.fields = content.arrays := by
  cases content with
  | members fields => rfl
  | atRoot element => exact Nat.add_zero _

/-- The array nodes in the elements of some children. -/
def arraysInside : List ChildSchema → Nat
  | [] => 0
  | child :: rest => arraysIn child.content.fields + arraysInside rest

theorem childrenSize_eq (children : List ChildSchema) :
    childrenSize children = arraysInside children + children.length := by
  induction children with
  | nil => rfl
  | cons child rest ih =>
    simp only [childrenSize, arraysInside, ih, List.length_cons, ElementContent.arraysIn_fields]
    omega

theorem childrenSize_le_of_mem {child : ChildSchema} {children : List ChildSchema}
    (inside : child ∈ children) : child.content.arrays + 1 ≤ childrenSize children := by
  induction children with
  | nil => cases inside
  | cons first rest ih =>
    rcases List.mem_cons.mp inside with rfl | later
    · exact Nat.le_add_right _ _
    · exact Nat.le_trans (ih later) (Nat.le_add_left _ _)

/-- The array nodes in the elements of some children are among those of some fields, of which each child
takes one for itself. -/
structure DrawnFrom (fields : List Field) (children : List ChildSchema) : Prop where
  fewer : ∀ child ∈ children, arraysIn child.content.fields < arraysIn fields
  together : arraysInside children + children.length ≤ arraysIn fields

theorem DrawnFrom.of_size {fields : List Field} {children : List ChildSchema}
    (size : childrenSize children ≤ arraysIn fields) : DrawnFrom fields children := by
  refine ⟨fun child inside => ?_, by rw [← childrenSize_eq]; exact size⟩
  rw [ElementContent.arraysIn_fields]
  exact Nat.lt_of_lt_of_le (childrenSize_le_of_mem inside) size

theorem mem_of_mem_before {child other : ChildSchema} {later : List ChildSchema}
    (kept : other ∈ child.before later) : other = child ∨ other ∈ later := by
  rcases List.mem_cons.mp kept with now | behind
  · cases found : later.find? (·.key == child.key) with
    | none => exact .inl (by rw [now, found]; rfl)
    | some replacing =>
      rw [found, Option.getD_some] at now
      exact .inr (now ▸ List.mem_of_find?_eq_some found)
  · exact .inr (List.mem_filter.mp behind).1

theorem mem_of_mem_keyed {child : ChildSchema} {children : List ChildSchema}
    (kept : child ∈ keyed children) : child ∈ children := by
  induction children with
  | nil => cases kept
  | cons first rest ih =>
    rcases mem_of_mem_before kept with rfl | later
    · exact List.mem_cons_self
    · exact List.mem_cons_of_mem _ (ih later)

/-- The steps of the elements of a child. -/
def ChildSchema.steps (child : ChildSchema) (d : Sql.Dialect) (source : String) : List Step :=
  match child.content with
  | .members fields => fieldSteps d source [] [] [] fields
  | .atRoot element => element.steps d source [element.name.shown] []

theorem childrenSize_childSteps_le (child : ChildSchema) (d : Sql.Dialect) (source : String) :
    childrenSize (childrenOf (child.steps d source)) ≤ arraysIn child.content.fields := by
  obtain ⟨path, jsonPath, content⟩ := child
  cases content with
  | members fields => exact childrenSize_fieldSteps_le d source [] [] [] fields
  | atRoot element =>
    rw [ElementContent.arraysIn_fields]
    exact childrenSize_steps_le d source [element.name.shown] [] element

theorem DrawnFrom.of_takeSteps {fields : List Field} {steps : List Step} {taken : List TakenLabel}
    {flat : Flat} (size : childrenSize (childrenOf steps) ≤ arraysIn fields)
    (passed : takeSteps taken steps = .ok flat) :
    flat.children ⊆ childrenOf steps ∧ DrawnFrom fields flat.children := by
  rw [children_of_takeSteps passed]
  exact ⟨fun _ kept => mem_of_mem_keyed kept,
    .of_size (Nat.le_trans (childrenSize_keyed_le _) size)⟩

/-- The content of a child that is split off where some other content is compiled. -/
def ElementContent.Within (d : Sql.Dialect) (inner outer : ElementContent) : Prop :=
  ∃ path jsonPath source, ∃ child ∈ childrenOf (ChildSchema.steps ⟨path, jsonPath, outer⟩ d source),
    child.content = inner

theorem ElementContent.wellFounded_within (d : Sql.Dialect) : WellFounded (Within d) := by
  refine Subrelation.wf ?_ (measure ElementContent.arrays).wf
  rintro inner outer ⟨path, jsonPath, source, child, inside, rfl⟩
  have size := childrenSize_childSteps_le ⟨path, jsonPath, outer⟩ d source
  have fewer := (DrawnFrom.of_size size).fewer child inside
  rwa [arraysIn_fields, arraysIn_fields] at fewer

theorem length_views_le {site : ChildSite} {outer : Enclosing} {children : List ChildSchema}
    {views : List View} (laid : site.views outer children = .ok views) :
    views.length ≤ childrenSize children := by
  fun_induction ChildSite.views site outer children generalizing views with
  | case1 outer => cases laid; exact Nat.zero_le _
  | case2 => cases laid
  | case3 => cases laid
  | case4 outer child rest flat passed view made ihBelow ihOthers =>
    obtain ⟨below, one, laid⟩ := bind_ok laid
    obtain ⟨others, two, laid⟩ := bind_ok laid
    cases laid
    have size := childrenSize_flatten_le passed
    have first := ihBelow one
    have later := ihOthers two
    simp only [List.cons_append, List.length_cons, List.length_append, childrenSize]
    omega

theorem length_children_le {t : Target} {dataset : String} {first schemaName : Option String}
    {schema : Schema} {changelog : Option String} {views : SchemaViews}
    (done : t.compile dataset first schemaName schema changelog = .ok views) :
    views.children.length ≤ arraysIn schema.fields := by
  obtain ⟨names, spelling, flat, _, _, top, arrays, _⟩ := Target.layOut_ok (Target.compile_ok done)
  unfold Target.arrayViews at arrays
  rw [← ChildSite.views_of_schema top] at arrays
  have size := childrenSize_fieldSteps_le t.dialect (spelling.quote t.layout.data) [] [] [] schema.fields
  refine Nat.le_trans (length_views_le arrays) ?_
  rw [children_of_takeSteps top]
  exact Nat.le_trans (childrenSize_keyed_le _) size

/-- The elements of an array hold fewer array nodes than the fields around it, whatever form the array has.
Those of all arrays that a view splits off hold together, with one for each of them, no more than the fields
that the view is compiled from. So arrays inside of arrays come to an end, and there are no more views of
arrays than array nodes. -/
theorem arrays_run_out (d : Sql.Dialect) :
    (∀ f : Field, f.isArray = true → ∀ path jsonPath,
      arraysIn (childOf f path jsonPath).content.fields < f.arrays) ∧
    (∀ source path fields,
      DrawnFrom fields (childrenOf (fieldSteps d source path path [] fields)) ∧
      ∀ reserved flat, flatten d source path reserved fields = .ok flat →
        flat.children ⊆ childrenOf (fieldSteps d source path path [] fields) ∧
        DrawnFrom fields flat.children) ∧
    (∀ (outer : ChildSchema) source,
      DrawnFrom outer.content.fields (childrenOf (outer.steps d source)) ∧
      ∀ reserved flat, outer.flatten d source reserved = .ok flat →
        flat.children ⊆ childrenOf (outer.steps d source) ∧
        DrawnFrom outer.content.fields flat.children) ∧
    WellFounded (ElementContent.Within d) ∧
    ∀ project layout dataset first schemaName schema changelog views,
      Target.compile ⟨d, project, layout⟩ dataset first schemaName schema changelog = .ok views →
      views.children.length ≤ arraysIn schema.fields := by
  refine ⟨?_, ?_, ?_, ElementContent.wellFounded_within d, ?_⟩
  · intro f isArray path jsonPath
    rw [ElementContent.arraysIn_fields]
    exact childOf_arrays_lt f (Field.isArray_iff.mp isArray) path jsonPath
  · intro source path fields
    have size := childrenSize_fieldSteps_le d source path path [] fields
    exact ⟨.of_size size, fun _ _ passed => DrawnFrom.of_takeSteps size passed⟩
  · intro outer source
    have size := childrenSize_childSteps_le outer d source
    exact ⟨.of_size size, fun _ _ passed => DrawnFrom.of_takeSteps size passed⟩
  · intro project layout dataset first schemaName schema changelog views done
    exact length_children_le done

/-- Arrays of all forms: bare, with fields, and with an array as element. -/
def allForms : Schema :=
  let bare := Field.ofKind (.ofString "tags") .array
  let rows := { Field.ofKind (.ofString "rows") .array with fields := some [bare] }
  let grid := { Field.ofKind (.ofString "grid") .array with element := some bare }
  ⟨[bare, rows, grid]⟩

theorem allForms_run_out :
    ∃ views, Target.compile ⟨Sql.DuckDb.dialect, "p", .standard⟩ "d" (some "f") (some "s") allForms
        none = .ok views ∧
      views.children.length ≤ 5 := by
  have compiled : ∃ views, Target.compile ⟨Sql.DuckDb.dialect, "p", .standard⟩ "d" (some "f")
      (some "s") allForms none = .ok views := by
    unfold Target.compile
    rw [Target.layOut_eq]
    exact ⟨_, rfl⟩
  obtain ⟨views, compiled⟩ := compiled
  exact ⟨views, compiled, (arrays_run_out _).2.2.2.2 _ _ _ _ _ _ _ views compiled⟩

end ChangelogViews
