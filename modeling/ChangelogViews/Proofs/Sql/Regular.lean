import ChangelogViews.Proofs.Attempts
import ChangelogViews.Sql.Dialects
import ChangelogViews.Sql.ViewQuery

/-!
# Regular dialects

A dialect is regular if it spells names, turns arrays into rows in one of the known styles, and gives
every kind of field the columns that this kind has in any database. The shipped dialects are
(`regular_of_mem`). Regular dialects refuse the same types (`Regular.resolve_alike`), and their
queries have the same output columns (`Regular.childQuery_outputs`).
-/

namespace ChangelogViews

/-- What the columns of a kind add to the path of the field. Maps and arrays have no columns. -/
def FieldKind.suffixes : FieldKind → List (List String)
  | .geopoint => [["latitude"], ["longitude"]]
  | .map => []
  | .array => []
  | _ => [[]]

/-- The kind of field that a type names. -/
def TypeSubject.kind? : TypeSubject → Option FieldKind
  | .known kind => some kind
  | .value (.text name) => name.whole?.bind FieldKind.ofName?
  | .value _ => none

/-- What the columns of a type add to the path of its field. -/
def TypeSubject.suffixes (subject : TypeSubject) : List (List String) :=
  match subject.kind? with
  | some kind => kind.suffixes
  | none => []

/-- What is added to a path are the two axes of the globe. -/
theorem TypeSubject.axis_of_suffixes {subject : TypeSubject} {suffix : List String}
    (among : suffix ∈ subject.suffixes) {name : String} (inside : name ∈ suffix) :
    name = "latitude" ∨ name = "longitude" := by
  have axes : ∀ (kind : FieldKind), ∀ suffix ∈ kind.suffixes, ∀ name ∈ suffix,
      name = "latitude" ∨ name = "longitude" := by
    intro kind
    cases kind <;> simp [FieldKind.suffixes]
  unfold suffixes at among
  split at among
  · next kind _ => exact axes kind suffix among name inside
  · cases among

/-- The same cause in two dialects. Where a type has no column the dialect is named. -/
inductive SameCause (d d' : Sql.Dialect) : Cause → Cause → Prop
  | same (cause : Cause) : SameCause d d' cause cause
  | noRule (subject : TypeSubject) :
      SameCause d d' (.unsupported subject (.noRule d.name)) (.unsupported subject (.noRule d'.name))

/-- The same error in two dialects. -/
structure SameError (d d' : Sql.Dialect) (e e' : ViewError) : Prop where
  cause : SameCause d d' e.cause e'.cause
  context : e.context = e'.context

theorem SameError.refl (d d' : Sql.Dialect) (e : ViewError) : SameError d d' e e :=
  ⟨.same e.cause, rfl⟩

theorem SameError.addContext {d d' : Sql.Dialect} {e e' : ViewError} (same : SameError d d' e e')
    (given : Context) : SameError d d' (e.addContext given) (e'.addContext given) := by
  refine ⟨same.cause, ?_⟩
  unfold ViewError.addContext
  rw [same.context]

namespace Sql.Dialect

/-- A dialect in which every schema can be compiled that can be compiled at all. -/
structure Regular (d : Dialect) : Prop where
  spells : ∃ spelling, d.spelled = .ok spelling
  style : d.style = .crossJoin ∨ d.style = .selectList
  rules : ∀ kind : FieldKind, kind ≠ .map → kind ≠ .array →
    ∃ rules, d.rules kind = some rules ∧ rules.map ColumnRule.suffix = kind.suffixes

/-- The shipped dialects are regular. -/
theorem regular_of_mem {d : Dialect} (shipped : d ∈ dialects) : d.Regular := by
  have cases : d = BigQuery.dialect ∨ d = DuckDb.dialect := by simpa [dialects] using shipped
  rcases cases with rfl | rfl
  · refine ⟨⟨_, rfl⟩, .inl rfl, ?_⟩
    intro kind noMap noArray
    cases kind with
    | map => exact absurd rfl noMap
    | array => exact absurd rfl noArray
    | _ => exact ⟨_, rfl, rfl⟩
  · refine ⟨⟨_, rfl⟩, .inr rfl, ?_⟩
    intro kind noMap noArray
    cases kind with
    | map => exact absurd rfl noMap
    | array => exact absurd rfl noArray
    | _ => exact ⟨_, rfl, rfl⟩

namespace Regular

private theorem resolve_eq (d : Dialect) (subject : TypeSubject) :
    d.resolve subject = match subject.kind? with
      | some .map => .error (.of (.unsupported subject .flattened))
      | some .array => .error (.of (.unsupported subject .flattened))
      | some kind => match d.rules kind with
        | some rules => .ok rules
        | none => .error (.of (.unsupported subject (.noRule d.name)))
      | none => .error (.of (.unsupported subject (.noRule d.name))) := rfl

/-- Regular dialects resolve the same types, to columns with the same suffixes. -/
theorem resolve_alike {d d' : Dialect} (regular : d.Regular) (other : d'.Regular)
    (subject : TypeSubject) :
    Alike (fun e e' => SameError d d' e e' ∧ subject.suffixes = [])
      (fun rules rules' => rules.map ColumnRule.suffix = subject.suffixes ∧
        rules'.map ColumnRule.suffix = subject.suffixes)
      (d.resolve subject) (d'.resolve subject) := by
  rw [resolve_eq d, resolve_eq d', TypeSubject.suffixes]
  cases subject.kind? with
  | none => exact .error ⟨⟨.noRule subject, rfl⟩, rfl⟩
  | some kind =>
    have own := regular.rules kind
    have others := other.rules kind
    cases kind with
    | map => exact .error ⟨.refl d d' _, rfl⟩
    | array => exact .error ⟨.refl d d' _, rfl⟩
    | _ =>
      obtain ⟨rules, known, suffixes⟩ := own (by decide) (by decide)
      obtain ⟨rules', known', suffixes'⟩ := others (by decide) (by decide)
      simp only [known, known']
      exact .ok ⟨suffixes, suffixes'⟩

private theorem outputs_of_items (layout : ChangelogLayout) (levels : List UnnestLevel)
    (columns : List Column) :
    (childItems layout levels columns).map Item.name =
      layout.documentName :: levels.map UnnestLevel.index ++ columns.map Column.label := by
  simp [childItems, columnItems, Item.name, Function.comp_def]

/-- A view of array elements can be written. It puts out the name of the document, the ordinals in the arrays
from the outermost on, and its columns. -/
theorem childQuery_outputs {d : Dialect} (regular : d.Regular) (snapshot : String)
    (layout : ChangelogLayout) {levels : List UnnestLevel} (deep : levels ≠ [])
    (columns : List Column) :
    ∃ query, childQuery d snapshot layout levels columns = .ok query ∧
      query.outputs =
        layout.documentName :: levels.map UnnestLevel.index ++ columns.map Column.label := by
  obtain ⟨spelling, spelled⟩ := regular.spells
  rw [← outputs_of_items]
  cases levels with
  | nil => exact absurd rfl deep
  | cons level rest =>
    unfold childQuery
    rcases regular.style with style | style
    · simp only [spelled, style]
      exact ⟨_, rfl, rfl⟩
    · simp only [spelled, style]
      refine ⟨_, rfl, ?_⟩
      have last : ∃ inner outer, (level :: rest).reverse = inner :: outer := by
        cases reversed : (level :: rest).reverse with
        | nil => simp at reversed
        | cons inner outer => exact ⟨inner, outer, rfl⟩
      obtain ⟨inner, outer, reversed⟩ := last
      rw [reversed]
      rfl

end Regular
end Sql.Dialect
end ChangelogViews
