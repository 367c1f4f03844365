import ChangelogViews.Proofs.Views.Places

/-!
# Walks

A walk takes the steps of its places against the aliases that are in use. It ends at the first place that is
at fault (`takeSteps_walk_error_iff`); a walk that reaches its end has passed sound places only
(`sound_of_walk`), and has split off the arrays among them (`childrenOf_walk`).
-/

namespace ChangelogViews

/-- The aliases in use behind some columns. -/
def takenBehind (taken : List TakenLabel) (columns : List Column) : List TakenLabel :=
  columns.foldl (fun taken column => ⟨column.label, some column.name⟩ :: taken) taken

theorem takeSteps_append_error {taken : List TakenLabel} {a : List Step} (b : List Step)
    {e : ViewError} (stopped : takeSteps taken a = .error e) : takeSteps taken (a ++ b) = .error e := by
  induction a generalizing taken with
  | nil => cases stopped
  | cons s rest ih =>
    cases s with
    | fail other => exact stopped
    | child c =>
      cases later : takeSteps taken rest with
      | error other =>
        simp only [takeSteps, later, bind, Except.bind, Except.error.injEq] at stopped
        subst stopped
        simp only [List.cons_append, takeSteps, ih later, bind, Except.bind]
      | ok flat => simp [takeSteps, later, bind, Except.bind, pure, Except.pure] at stopped
    | column c =>
      simp only [List.cons_append, takeSteps] at stopped ⊢
      cases clashes : collision taken c with
      | some problem => simpa only [clashes] using stopped
      | none =>
        simp only [clashes] at stopped ⊢
        cases later : takeSteps (⟨c.label, some c.name⟩ :: taken) rest with
        | error other =>
          simp only [later, bind, Except.bind, Except.error.injEq] at stopped
          subst stopped
          simp only [ih later, bind, Except.bind]
        | ok flat => simp [later, bind, Except.bind, pure, Except.pure] at stopped

/-- Behind steps that were taken the next ones meet the aliases of the columns before them. -/
theorem takeSteps_append_ok {taken : List TakenLabel} {a : List Step} (b : List Step) {flat : Flat}
    (passed : takeSteps taken a = .ok flat) :
    takeSteps taken (a ++ b) =
      (takeSteps (takenBehind taken flat.columns) b).map fun later =>
        ⟨flat.columns ++ later.columns, (childrenOf a).foldr ChildSchema.before later.children⟩ := by
  induction a generalizing taken flat with
  | nil =>
    cases passed
    simp only [List.nil_append, takenBehind, List.foldl_nil, childrenOf, List.filterMap_nil,
      List.foldr_nil]
    cases takeSteps taken b <;> rfl
  | cons s rest ih =>
    cases s with
    | fail other => cases passed
    | child c =>
      cases later : takeSteps taken rest with
      | error other => simp [takeSteps, later, bind, Except.bind] at passed
      | ok inner =>
        simp only [takeSteps, later, bind, Except.bind, pure, Except.pure, Except.ok.injEq] at passed
        subst passed
        simp only [List.cons_append, takeSteps, ih later]
        cases takeSteps (takenBehind taken inner.columns) b <;> rfl
    | column c =>
      simp only [List.cons_append, takeSteps] at passed ⊢
      cases clashes : collision taken c with
      | some problem => simp [clashes] at passed
      | none =>
        simp only [clashes] at passed ⊢
        cases later : takeSteps (⟨c.label, some c.name⟩ :: taken) rest with
        | error other => simp [later, bind, Except.bind] at passed
        | ok inner =>
          simp only [later, bind, Except.bind, pure, Except.pure, Except.ok.injEq] at passed
          subst passed
          simp only [ih later]
          have same : takenBehind taken (c :: inner.columns) =
              takenBehind (⟨c.label, some c.name⟩ :: taken) inner.columns := rfl
          rw [same]
          cases takeSteps (takenBehind (⟨c.label, some c.name⟩ :: taken) inner.columns) b <;> rfl

namespace FieldPlace

/-- The field has a name of its own that can name a column. -/
def Named (p : FieldPlace) : Prop :=
  p.field.name ∉ p.earlier ∧ NameRule.identifier.accepts p.field.name.shown = true

/-- The columns that the field gives. Maps and arrays give none. -/
def rules (d : Sql.Dialect) (p : FieldPlace) : List Sql.ColumnRule :=
  match d.resolve (.ofType p.field.type) with
  | .ok rules => rules
  | .error _ => []

/-- The field is declared as its type demands. -/
structure Sound (d : Sql.Dialect) (p : FieldPlace) : Prop where
  named : p.Named
  map : p.field.type = .known .map → p.field.element = none
  array : p.field.type = .known .array → p.field.element = none ∨ p.field.fields = none
  plain : p.field.type ≠ .known .map → p.field.type ≠ .known .array →
    p.field.fields = none ∧ p.field.element = none ∧
      d.resolve (.ofType p.field.type) = .ok (p.rules d)

/-- What is wrong with the declaration of a field, in the order in which it is looked at. -/
inductive Flaw (d : Sql.Dialect) (p : FieldPlace) : Cause → Prop
  | repeated (twice : p.field.name ∈ p.earlier) :
      Flaw d p (.malformed (.duplicateField p.field.name))
  | misnamed (once : p.field.name ∉ p.earlier)
      (bad : NameRule.identifier.accepts p.field.name.shown = false) :
      Flaw d p (.malformed (.badFieldName p.field.name))
  | mapWithElement (named : p.Named) (type : p.field.type = .known .map)
      (element : p.field.element.isSome) : Flaw d p (.malformed .mapWithElement)
  | arrayWithBoth (named : p.Named) (type : p.field.type = .known .array)
      (element : p.field.element.isSome) (fields : p.field.fields.isSome) :
      Flaw d p (.malformed .arrayWithBoth)
  | nestedBelow (named : p.Named) (noMap : p.field.type ≠ .known .map)
      (noArray : p.field.type ≠ .known .array)
      (below : p.field.fields.isSome ∨ p.field.element.isSome) :
      Flaw d p (.malformed (.nestedBelow p.field.type.name))
  | unresolved (named : p.Named) (noMap : p.field.type ≠ .known .map)
      (noArray : p.field.type ≠ .known .array) (fields : p.field.fields = none)
      (element : p.field.element = none) {e : ViewError}
      (refused : d.resolve (.ofType p.field.type) = .error e) : Flaw d p e.cause

/-- The steps of a field that is neither map nor array. -/
private theorem steps_plain {d : Sql.Dialect} {p : FieldPlace} (source : String) (named : p.Named)
    (noMap : p.field.type ≠ .known .map) (noArray : p.field.type ≠ .known .array) :
    p.steps d source = plainSteps d source p.field p.path p.jsonPath := by
  have fresh : p.earlier.contains p.field.name = false := by simpa using named.1
  simp only [steps, fresh, named.2, Bool.not_true, Bool.false_eq_true, if_false]

/-- A type is refused for having no columns, and nothing else is said. -/
theorem refused_eq {d : Sql.Dialect} {subject : TypeSubject} {e : ViewError}
    (refused : d.resolve subject = .error e) : ∃ reason, e = .of (.unsupported subject reason) := by
  unfold Sql.Dialect.resolve at refused
  simp only at refused
  split at refused
  · cases refused; exact ⟨_, rfl⟩
  · cases refused; exact ⟨_, rfl⟩
  · split at refused
    · cases refused
    · cases refused; exact ⟨_, rfl⟩
  · cases refused; exact ⟨_, rfl⟩

/-- A flaw is all that a place adds to its view. -/
theorem steps_of_flaw {d : Sql.Dialect} {p : FieldPlace} {cause : Cause} (source : String)
    (flaw : p.Flaw d cause) :
    p.steps d source = [.fail ⟨cause, ⟨none, none, some (dotted p.path)⟩⟩] := by
  cases flaw with
  | repeated twice =>
    have again : p.earlier.contains p.field.name = true := by simpa using twice
    simp only [steps, again, if_true]
    rfl
  | misnamed once bad =>
    have fresh : p.earlier.contains p.field.name = false := by simpa using once
    simp only [steps, fresh, bad, Bool.not_false, Bool.false_eq_true, if_false, if_true]
    rfl
  | mapWithElement named type element =>
    have fresh : p.earlier.contains p.field.name = false := by simpa using named.1
    simp only [steps, fresh, named.2, type, element, Bool.not_true, Bool.false_eq_true, if_false,
      if_true]
    rfl
  | arrayWithBoth named type element fields =>
    have fresh : p.earlier.contains p.field.name = false := by simpa using named.1
    simp only [steps, fresh, named.2, type, element, fields, Bool.not_true, Bool.and_self,
      Bool.false_eq_true, if_false, if_true]
    rfl
  | nestedBelow named noMap noArray below =>
    rw [steps_plain source named noMap noArray, plainSteps]
    simp only [Bool.or_eq_true, below, if_true]
    rfl
  | @unresolved named noMap noArray fields element e refused =>
    rw [steps_plain source named noMap noArray, plainSteps]
    simp only [fields, element, Option.isSome_none, Bool.or_self, Bool.false_eq_true, if_false,
      refused]
    obtain ⟨reason, rfl⟩ := refused_eq refused
    rfl

def columnSteps (source : String) (p : FieldPlace) (rules : List Sql.ColumnRule) : List Step :=
  rules.map fun rule => .column (columnOf source p.path p.jsonPath rule)

/-- A sound array is split off. -/
theorem steps_of_array {d : Sql.Dialect} {p : FieldPlace} (source : String) (sound : p.Sound d)
    (isArray : p.field.type = .known .array) :
    p.steps d source = [.child (childOf p.field p.path p.jsonPath)] ∧ p.rules d = [] := by
  have fresh : p.earlier.contains p.field.name = false := by simpa using sound.named.1
  have one : (p.field.element.isSome && p.field.fields.isSome) = false := by
    rcases sound.array isArray with none | none
    · rw [none]; rfl
    · rw [none, Option.isSome_none, Bool.and_false]
  constructor
  · simp only [steps, fresh, sound.named.2, isArray, one, Bool.not_true, Bool.false_eq_true,
      if_false]
  · rw [rules, isArray]
    rfl

/-- Any other sound field adds its columns. -/
theorem steps_of_columns {d : Sql.Dialect} {p : FieldPlace} (source : String) (sound : p.Sound d)
    (noArray : p.field.type ≠ .known .array) :
    p.steps d source = p.columnSteps source (p.rules d) := by
  by_cases isMap : p.field.type = .known .map
  · have fresh : p.earlier.contains p.field.name = false := by simpa using sound.named.1
    simp only [steps, fresh, sound.named.2, isMap, sound.map isMap, Bool.not_true,
      Bool.false_eq_true, if_false, Option.isSome_none, rules]
    rfl
  · obtain ⟨fields, element, resolved⟩ := sound.plain isMap noArray
    rw [steps_plain source sound.named isMap noArray, plainSteps]
    simp only [fields, element, resolved, Option.isSome_none, Bool.or_self, Bool.false_eq_true,
      if_false]
    rfl

theorem sound_or_flaw (d : Sql.Dialect) (p : FieldPlace) : p.Sound d ∨ ∃ cause, p.Flaw d cause := by
  by_cases once : p.field.name ∈ p.earlier
  · exact .inr ⟨_, .repeated once⟩
  cases accepted : NameRule.identifier.accepts p.field.name.shown with
  | false => exact .inr ⟨_, .misnamed once accepted⟩
  | true =>
    have named : p.Named := ⟨once, accepted⟩
    by_cases isMap : p.field.type = .known .map
    · cases element : p.field.element with
      | none => exact .inl ⟨named, fun _ => element, fun other => by simp [isMap] at other,
          fun other => absurd isMap other⟩
      | some inner => exact .inr ⟨_, .mapWithElement named isMap (by simp [element])⟩
    · by_cases isArray : p.field.type = .known .array
      · cases element : p.field.element with
        | none => exact .inl ⟨named, fun _ => element, fun _ => .inl element,
            fun _ other => absurd isArray other⟩
        | some inner =>
          cases fields : p.field.fields with
          | none => exact .inl ⟨named, fun other => absurd other isMap, fun _ => .inr fields,
              fun _ other => absurd isArray other⟩
          | some members =>
            exact .inr ⟨_, .arrayWithBoth named isArray (by simp [element]) (by simp [fields])⟩
      · cases fields : p.field.fields with
        | some members => exact .inr ⟨_, .nestedBelow named isMap isArray (by simp [fields])⟩
        | none =>
          cases element : p.field.element with
          | some inner => exact .inr ⟨_, .nestedBelow named isMap isArray (by simp [element])⟩
          | none =>
            cases resolved : d.resolve (.ofType p.field.type) with
            | error e => exact .inr ⟨_, .unresolved named isMap isArray fields element resolved⟩
            | ok found => exact .inl ⟨named, fun _ => element, fun _ => .inl element,
                fun _ _ => ⟨fields, element, by rw [rules, resolved]⟩⟩

theorem not_flaw_of_sound {d : Sql.Dialect} {p : FieldPlace} {cause : Cause} (sound : p.Sound d) :
    ¬ p.Flaw d cause := by
  intro flaw
  cases flaw with
  | repeated twice => exact sound.named.1 twice
  | misnamed _ bad => simp [sound.named.2] at bad
  | mapWithElement _ type element => simp [sound.map type] at element
  | arrayWithBoth _ type element fields =>
    rcases sound.array type with none | none
    · simp [none] at element
    · simp [none] at fields
  | nestedBelow _ noMap noArray below =>
    obtain ⟨fields, element, _⟩ := sound.plain noMap noArray
    simp [fields, element] at below
  | unresolved _ noMap noArray _ _ refused =>
    obtain ⟨_, _, resolved⟩ := sound.plain noMap noArray
    simp [resolved] at refused

/-! ### Clashes -/

def labelOf (p : FieldPlace) (rule : Sql.ColumnRule) : TakenLabel :=
  ⟨joined (p.path ++ rule.suffix), some (dotted (p.path ++ rule.suffix))⟩

/-- The aliases in use behind the columns of a place. -/
def takenBehind (d : Sql.Dialect) (taken : List TakenLabel) (p : FieldPlace) : List TakenLabel :=
  (p.rules d).foldl (fun taken rule => p.labelOf rule :: taken) taken

def clash (taken : List TakenLabel) (label : String) : Option Malformation :=
  (taken.find? (·.label == label)).map fun t =>
    match t.owner with
    | some owner => .labelTaken label owner
    | none => .labelReserved label

/-- The first of some columns of a place whose alias is in use, and what its suffix is. -/
inductive FirstClash (p : FieldPlace) :
    List TakenLabel → List Sql.ColumnRule → Malformation → List String → Prop
  | here {taken : List TakenLabel} {rule : Sql.ColumnRule} {rest : List Sql.ColumnRule}
      {problem : Malformation} (inUse : clash taken (p.labelOf rule).label = some problem) :
      FirstClash p taken (rule :: rest) problem rule.suffix
  | later {taken : List TakenLabel} {rule : Sql.ColumnRule} {rest : List Sql.ColumnRule}
      {problem : Malformation} {suffix : List String}
      (free : clash taken (p.labelOf rule).label = none)
      (behind : FirstClash p (p.labelOf rule :: taken) rest problem suffix) :
      FirstClash p taken (rule :: rest) problem suffix

/-- Why the walk ends at a place where some aliases are in use: its field is not sound, or one of its columns
needs an alias that is taken. The suffix leads from the field to that column. -/
inductive Fault (d : Sql.Dialect) (taken : List TakenLabel) (p : FieldPlace) :
    Cause → List String → Prop
  | flaw {cause : Cause} (flaw : p.Flaw d cause) : Fault d taken p cause []
  | clash {problem : Malformation} {suffix : List String} (sound : p.Sound d)
      (clash : FirstClash p taken (p.rules d) problem suffix) :
      Fault d taken p (.malformed problem) suffix

private theorem takeSteps_clash {p : FieldPlace} {taken : List TakenLabel} {rule : Sql.ColumnRule}
    {problem : Malformation} (source : String) (rest : List Sql.ColumnRule)
    (inUse : clash taken (p.labelOf rule).label = some problem) :
    takeSteps taken (p.columnSteps source (rule :: rest)) =
      .error (.atField problem (dotted (p.path ++ rule.suffix))) := by
  have collides : collision taken (columnOf source p.path p.jsonPath rule) = some problem := inUse
  simp only [columnSteps, List.map_cons, takeSteps, collides]
  rfl

private theorem takeSteps_free {p : FieldPlace} {taken : List TakenLabel} {rule : Sql.ColumnRule}
    (source : String) (rest : List Sql.ColumnRule)
    (free : clash taken (p.labelOf rule).label = none) :
    takeSteps taken (p.columnSteps source (rule :: rest)) =
      (takeSteps (p.labelOf rule :: taken) (p.columnSteps source rest)).map fun flat =>
        { flat with columns := columnOf source p.path p.jsonPath rule :: flat.columns } := by
  have alone : collision taken (columnOf source p.path p.jsonPath rule) = none := free
  simp only [columnSteps, List.map_cons, takeSteps, alone]
  rfl

/-- Taking the columns of a place fails at the first that clashes, and only there. -/
theorem takeSteps_columnSteps_error_iff {source : String} {p : FieldPlace}
    {taken : List TakenLabel} {rules : List Sql.ColumnRule} {e : ViewError} :
    takeSteps taken (p.columnSteps source rules) = .error e ↔
      ∃ problem suffix, FirstClash p taken rules problem suffix ∧
        e = .atField problem (dotted (p.path ++ suffix)) := by
  induction rules generalizing taken with
  | nil =>
    constructor
    · intro stopped; cases stopped
    · rintro ⟨_, _, first, _⟩; cases first
  | cons rule rest ih =>
    cases clashes : clash taken (p.labelOf rule).label with
    | some problem =>
      rw [takeSteps_clash source rest clashes]
      constructor
      · rintro ⟨⟩
        exact ⟨problem, rule.suffix, .here clashes, rfl⟩
      · rintro ⟨other, suffix, first, rfl⟩
        cases first with
        | here inUse => rw [clashes] at inUse; cases inUse; rfl
        | later free _ => rw [clashes] at free; cases free
    | none =>
      rw [takeSteps_free source rest clashes]
      constructor
      · intro stopped
        cases later : takeSteps (p.labelOf rule :: taken) (p.columnSteps source rest) with
        | ok flat => rw [later] at stopped; cases stopped
        | error other =>
          rw [later] at stopped
          cases stopped
          obtain ⟨problem, suffix, first, same⟩ := ih.mp later
          exact ⟨problem, suffix, .later clashes first, same⟩
      · rintro ⟨problem, suffix, first, rfl⟩
        cases first with
        | here inUse => rw [clashes] at inUse; cases inUse
        | later _ next => rw [ih.mpr ⟨problem, suffix, next, rfl⟩]; rfl

/-- Columns that are taken are all there. -/
theorem columns_of_columnSteps {source : String} {p : FieldPlace} {taken : List TakenLabel}
    {rules : List Sql.ColumnRule} {flat : Flat}
    (passed : takeSteps taken (p.columnSteps source rules) = .ok flat) :
    flat.columns = rules.map (columnOf source p.path p.jsonPath) := by
  induction rules generalizing taken flat with
  | nil => cases passed; rfl
  | cons rule rest ih =>
    cases clashes : clash taken (p.labelOf rule).label with
    | some problem => rw [takeSteps_clash source rest clashes] at passed; cases passed
    | none =>
      rw [takeSteps_free source rest clashes] at passed
      cases later : takeSteps (p.labelOf rule :: taken) (p.columnSteps source rest) with
      | error other => rw [later] at passed; cases passed
      | ok inner =>
        rw [later] at passed
        cases passed
        rw [List.map_cons, ← ih later]

/-- The walk ends at a place exactly where the place is at fault, and the error leads to the field or
to its column. -/
theorem takeSteps_steps_error_iff {d : Sql.Dialect} {source : String} {p : FieldPlace}
    {taken : List TakenLabel} {e : ViewError} :
    takeSteps taken (p.steps d source) = .error e ↔
      ∃ cause suffix, p.Fault d taken cause suffix ∧
        e = ⟨cause, ⟨none, none, some (dotted (p.path ++ suffix))⟩⟩ := by
  rcases sound_or_flaw d p with sound | ⟨cause, flaw⟩
  · by_cases isArray : p.field.type = .known .array
    · obtain ⟨steps, none⟩ := steps_of_array source sound isArray
      rw [steps]
      constructor
      · intro stopped; cases stopped
      · rintro ⟨cause, suffix, fault, _⟩
        cases fault with
        | flaw flaw => exact absurd flaw (not_flaw_of_sound sound)
        | clash _ clash => rw [none] at clash; cases clash
    · rw [steps_of_columns source sound isArray, takeSteps_columnSteps_error_iff]
      constructor
      · rintro ⟨problem, suffix, clash, rfl⟩
        exact ⟨_, suffix, .clash sound clash, rfl⟩
      · rintro ⟨cause, suffix, fault, rfl⟩
        cases fault with
        | flaw flaw => exact absurd flaw (not_flaw_of_sound sound)
        | clash _ clash => exact ⟨_, _, clash, rfl⟩
  · rw [steps_of_flaw source flaw]
    constructor
    · rintro ⟨⟩
      exact ⟨cause, [], .flaw flaw, by rw [List.append_nil]⟩
    · rintro ⟨other, suffix, fault, rfl⟩
      cases fault with
      | flaw same =>
        have steps := steps_of_flaw source same
        rw [steps_of_flaw source flaw] at steps
        rw [List.append_nil]
        cases steps
        rfl
      | clash sound _ => exact absurd flaw (not_flaw_of_sound sound)

/-- Behind a place that was passed its columns are in the view and their aliases in use. -/
theorem columns_of_steps {d : Sql.Dialect} {source : String} {p : FieldPlace}
    {taken : List TakenLabel} {flat : Flat} (passed : takeSteps taken (p.steps d source) = .ok flat) :
    p.Sound d ∧ flat.columns = (p.rules d).map (columnOf source p.path p.jsonPath) := by
  rcases sound_or_flaw d p with sound | ⟨cause, flaw⟩
  · refine ⟨sound, ?_⟩
    by_cases isArray : p.field.type = .known .array
    · obtain ⟨steps, none⟩ := steps_of_array source sound isArray
      rw [steps] at passed
      cases passed
      rw [none]
      rfl
    · rw [steps_of_columns source sound isArray] at passed
      exact columns_of_columnSteps passed
  · rw [steps_of_flaw source flaw] at passed
    cases passed

end FieldPlace

/-! ### Whole walks -/

/-- The first of some places that is at fault, with the aliases in use there, why it is, and the suffix of the
column that it is about. -/
inductive FirstFault (d : Sql.Dialect) :
    List TakenLabel → List FieldPlace → FieldPlace → Cause → List String → Prop
  | here {taken : List TakenLabel} {p : FieldPlace} {rest : List FieldPlace} {cause : Cause}
      {suffix : List String} (fault : p.Fault d taken cause suffix) :
      FirstFault d taken (p :: rest) p cause suffix
  | later {taken : List TakenLabel} {p q : FieldPlace} {rest : List FieldPlace} {cause : Cause}
      {suffix : List String} (fine : ∀ cause suffix, ¬ p.Fault d taken cause suffix)
      (behind : FirstFault d (p.takenBehind d taken) rest q cause suffix) :
      FirstFault d taken (p :: rest) q cause suffix

/-- The aliases in use behind a place are those of its columns. -/
theorem takenBehind_columns {d : Sql.Dialect} {source : String} {p : FieldPlace}
    {columns : List Column} (taken : List TakenLabel)
    (all : columns = (p.rules d).map (columnOf source p.path p.jsonPath)) :
    takenBehind taken columns = p.takenBehind d taken := by
  rw [all, takenBehind, List.foldl_map]
  rfl

/-- A walk fails at the first place that is at fault, and only there. -/
theorem takeSteps_walk_error_iff {d : Sql.Dialect} {source : String} {places : List FieldPlace}
    {taken : List TakenLabel} {e : ViewError} :
    takeSteps taken (walk d source places) = .error e ↔
      ∃ p cause suffix, FirstFault d taken places p cause suffix ∧
        e = ⟨cause, ⟨none, none, some (dotted (p.path ++ suffix))⟩⟩ := by
  induction places generalizing taken with
  | nil =>
    constructor
    · intro stopped; cases stopped
    · rintro ⟨_, _, _, first, _⟩; cases first
  | cons p rest ih =>
    rw [walk, List.flatMap_cons]
    change takeSteps taken (p.steps d source ++ walk d source rest) = _ ↔ _
    cases own : takeSteps taken (p.steps d source) with
    | error other =>
      rw [takeSteps_append_error _ own]
      obtain ⟨cause, suffix, fault, same⟩ := FieldPlace.takeSteps_steps_error_iff.mp own
      constructor
      · rintro ⟨⟩
        exact ⟨p, cause, suffix, .here fault, same⟩
      · rintro ⟨q, _, _, first, rfl⟩
        cases first with
        | here again => rw [← own, FieldPlace.takeSteps_steps_error_iff.mpr ⟨_, _, again, rfl⟩]
        | later fine _ => exact absurd fault (fine cause suffix)
    | ok flat =>
      obtain ⟨_, all⟩ := FieldPlace.columns_of_steps own
      rw [takeSteps_append_ok _ own, takenBehind_columns taken all]
      have fine : ∀ cause suffix, ¬ p.Fault d taken cause suffix := by
        intro cause suffix fault
        rw [FieldPlace.takeSteps_steps_error_iff.mpr ⟨cause, suffix, fault, rfl⟩] at own
        cases own
      constructor
      · intro stopped
        cases later : takeSteps (p.takenBehind d taken) (walk d source rest) with
        | ok behind => rw [later] at stopped; cases stopped
        | error other =>
          rw [later] at stopped
          cases stopped
          obtain ⟨q, cause, suffix, first, same⟩ := ih.mp later
          exact ⟨q, cause, suffix, .later fine first, same⟩
      · rintro ⟨q, cause, suffix, first, rfl⟩
        cases first with
        | here fault => exact absurd fault (fine cause suffix)
        | later _ behind => rw [ih.mpr ⟨q, cause, suffix, behind, rfl⟩]; rfl

/-- A walk that reaches its end has passed sound places only, and their columns are in the view. -/
theorem sound_of_walk {d : Sql.Dialect} {source : String} {places : List FieldPlace}
    {taken : List TakenLabel} {flat : Flat}
    (passed : takeSteps taken (walk d source places) = .ok flat) :
    (∀ p ∈ places, p.Sound d) ∧
      flat.columns = places.flatMap fun p => (p.rules d).map (columnOf source p.path p.jsonPath) := by
  induction places generalizing taken flat with
  | nil => cases passed; exact ⟨fun p member => absurd member List.not_mem_nil, rfl⟩
  | cons p rest ih =>
    change takeSteps taken (p.steps d source ++ walk d source rest) = _ at passed
    cases own : takeSteps taken (p.steps d source) with
    | error e => rw [takeSteps_append_error _ own] at passed; cases passed
    | ok first =>
      obtain ⟨sound, all⟩ := FieldPlace.columns_of_steps own
      rw [takeSteps_append_ok _ own] at passed
      cases later : takeSteps (takenBehind taken first.columns) (walk d source rest) with
      | error e => rw [later] at passed; cases passed
      | ok behind =>
        rw [later] at passed
        cases passed
        obtain ⟨others, columns⟩ := ih later
        refine ⟨?_, ?_⟩
        · intro q member
          rcases List.mem_cons.mp member with rfl | member
          · exact sound
          · exact others q member
        · rw [List.flatMap_cons, ← all, ← columns]

/-- The children that sound places split off are the arrays among them. -/
theorem childrenOf_walk {d : Sql.Dialect} {source : String} {places : List FieldPlace}
    (sound : ∀ p ∈ places, p.Sound d) :
    childrenOf (walk d source places) =
      (places.filter (·.field.isArray)).map fun p => childOf p.field p.path p.jsonPath := by
  induction places with
  | nil => rfl
  | cons p rest ih =>
    have own := sound p List.mem_cons_self
    have others := ih fun q member => sound q (List.mem_cons_of_mem _ member)
    rw [walk, List.flatMap_cons, childrenOf_append]
    change _ ++ childrenOf (walk d source rest) = _
    rw [others, List.filter_cons]
    by_cases isArray : p.field.type = .known .array
    · have yes : p.field.isArray = true := Field.isArray_iff.mpr isArray
      rw [(FieldPlace.steps_of_array source own isArray).1, if_pos yes]
      rfl
    · have no : ¬ p.field.isArray = true := mt Field.isArray_iff.mp isArray
      rw [FieldPlace.steps_of_columns source own isArray, if_neg no]
      simp [childrenOf, FieldPlace.columnSteps]

end ChangelogViews
