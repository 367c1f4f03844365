import Mathlib.Data.List.Nodup
import ChangelogViews.Proofs.Views.Declarations
import ChangelogViews.Proofs.Views.Flattened

/-!
# Refused fields

A list of fields can be flattened exactly if it is well listed, with the lists of all maps in it, and the
aliases of its columns are free. Any other list is refused at the first place, in the order of declaration,
that is declared amiss or has a column whose alias is in use (`flatten_refuses`).
-/

namespace ChangelogViews

variable {d : Sql.Dialect} {source : String} {taken : List TakenLabel}

/-- Fields that can stand in one list of a view: their names are identifiers, no two of them are equal,
each field obeys the rules of declaration, and so it is in the list of every map among them. -/
inductive WellListed (d : Sql.Dialect) : List Field → Prop
  | intro {fields : List Field}
      (identifiers : ∀ f ∈ fields, NameRule.identifier.accepts f.name.shown = true)
      (distinct : (fields.map Field.name).Nodup) (declared : ∀ f ∈ fields, f.Obeys d)
      (maps : ∀ f ∈ fields, f.isMap = true → WellListed d f.members) : WellListed d fields

theorem WellListed.nil : WellListed d [] :=
  .intro (List.forall_mem_nil _) List.nodup_nil (List.forall_mem_nil _) (List.forall_mem_nil _)

theorem wellListed_cons {f : Field} {rest : List Field} :
    WellListed d (f :: rest) ↔
      (NameRule.identifier.accepts f.name.shown = true ∧ f.Obeys d ∧ WellListed d f.members) ∧
        (∀ g ∈ rest, g.name ≠ f.name) ∧ WellListed d rest := by
  constructor
  · rintro ⟨identifiers, distinct, declared, maps⟩
    obtain ⟨accepted, identifiers⟩ := List.forall_mem_cons.mp identifiers
    obtain ⟨own, declared⟩ := List.forall_mem_cons.mp declared
    obtain ⟨inside, maps⟩ := List.forall_mem_cons.mp maps
    obtain ⟨fresh, distinct⟩ := List.nodup_cons.mp distinct
    refine ⟨⟨accepted, own, ?_⟩, ?_, .intro identifiers distinct declared maps⟩
    · by_cases isMap : f.isMap = true
      · exact inside isMap
      · rw [Field.members_eq_nil (mt Field.isMap_iff.mpr isMap)]
        exact .nil
    · exact fun g listed same => fresh (same ▸ List.mem_map_of_mem listed)
  · rintro ⟨⟨accepted, own, inside⟩, fresh, ⟨identifiers, distinct, declared, maps⟩⟩
    refine .intro (List.forall_mem_cons.mpr ⟨accepted, identifiers⟩) (List.nodup_cons.mpr ⟨?_, distinct⟩)
      (List.forall_mem_cons.mpr ⟨own, declared⟩) (List.forall_mem_cons.mpr ⟨fun _ => inside, maps⟩)
    intro again
    obtain ⟨g, listed, same⟩ := List.mem_map.mp again
    exact fresh g listed same

theorem FieldPlace.sound_iff {p : FieldPlace} : p.Sound d ↔ p.Named ∧ p.field.Obeys d := by
  refine ⟨fun sound => ⟨sound.named, sound.obeys⟩, ?_⟩
  rintro ⟨named, obeys⟩
  refine ⟨named, obeys.map, obeys.array, fun noMap noArray => ?_⟩
  obtain ⟨fields, element, rules, resolved⟩ := obeys.plain noMap noArray
  refine ⟨fields, element, ?_⟩
  rw [FieldPlace.rules, resolved]

/-- The places of a list are sound exactly if it is well listed and repeats no earlier name. -/
theorem sound_iff_wellListed :
    (∀ (f : Field) (root path jsonPath : List String) (earlier : List LooseText),
      (∀ p ∈ f.places root path jsonPath earlier, p.Sound d) ↔
        (f.name ∉ earlier ∧ NameRule.identifier.accepts f.name.shown = true ∧ f.Obeys d) ∧
          WellListed d f.members) ∧
    ∀ (fields : List Field) (root path jsonPath : List String) (earlier : List LooseText),
      (∀ p ∈ placesIn root path jsonPath earlier fields, p.Sound d) ↔
        WellListed d fields ∧ ∀ f ∈ fields, f.name ∉ earlier := by
  apply Field.induction_members
  case node =>
    intro f members root path jsonPath earlier
    rw [Field.places_eq, List.forall_mem_cons, members, FieldPlace.sound_iff, FieldPlace.Named,
      and_assoc (a := f.name ∉ earlier)]
    exact and_congr_right fun _ => and_iff_left fun _ _ => List.not_mem_nil
  case nil =>
    intro root path jsonPath earlier
    exact ⟨fun _ => ⟨.nil, List.forall_mem_nil _⟩, fun _ => List.forall_mem_nil _⟩
  case cons =>
    intro f rest first others root path jsonPath earlier
    rw [placesIn, List.forall_mem_append, first, others, wellListed_cons, List.forall_mem_cons]
    simp only [List.mem_cons, not_or]
    constructor
    · rintro ⟨⟨⟨fresh, accepted, own⟩, inside⟩, listed, apart⟩
      exact ⟨⟨⟨accepted, own, inside⟩, fun g among => (apart g among).1, listed⟩, fresh,
        fun g among => (apart g among).2⟩
    · rintro ⟨⟨⟨accepted, own, inside⟩, apart, listed⟩, fresh, unused⟩
      exact ⟨⟨⟨fresh, accepted, own⟩, inside⟩, listed, fun g among => ⟨apart g among, unused g among⟩⟩

/-- The aliases of the columns that some fields below a path give. -/
def columnLabels (d : Sql.Dialect) (path : List String) (fields : List Field) : List String :=
  (plainOf (leavesIn path fields)).flatMap fun leaf =>
    (leaf.rules d).map fun rule => joined (leaf.path ++ rule.suffix)

theorem labelsIn_placesIn (d : Sql.Dialect) (path : List String) (fields : List Field) :
    labelsIn d (placesIn path path path [] fields) = columnLabels d path fields := by
  have whole := flatOf_leaves d "" (jsonPath_of_place.2 fields path path [])
  rw [← leaves_of_places.2 fields path path path []] at whole
  have columns : columnsAt d "" (placesIn path path path [] fields) = _ :=
    (congrArg Flat.columns whole).symm
  rw [labelsIn_eq_columnsAt d "", columns, flatOf, List.map_flatMap, columnLabels]
  simp only [List.map_map]
  rfl

theorem takenBehind_eq_append (taken : List TakenLabel) (columns : List Column) :
    takenBehind taken columns = (columns.map fun c => ⟨c.label, some c.name⟩).reverse ++ taken := by
  induction columns generalizing taken with
  | nil => rfl
  | cons c rest ih =>
    rw [takenBehind, List.foldl_cons, ← takenBehind, ih, List.map_cons, List.reverse_cons,
      List.append_assoc]
    rfl

/-- Aliases are free behind some columns exactly if they are free together with those of the columns. -/
theorem free_append_iff {columns : List Column} {labels : List String} :
    Free taken (columns.map Column.label ++ labels) ↔
      Free taken (columns.map Column.label) ∧ Free (takenBehind taken columns) labels := by
  induction columns generalizing taken with
  | nil => exact (and_iff_right .nil).symm
  | cons c rest ih =>
    rw [List.map_cons, List.cons_append, Free.cons_iff (some c.name), ih, Free.cons_iff (some c.name),
      and_assoc]
    rfl

/-- Behind columns with free aliases a further alias is in use if it is reserved, or if one of the columns has
it. -/
theorem clash_iff {reserved : List String} {used : List Column}
    (free : Free (reservedLabels reserved) (used.map Column.label)) {label : String}
    {problem : Malformation} :
    FieldPlace.clash (takenBehind (reservedLabels reserved) used) label = some problem ↔
      (label ∈ reserved ∧ problem = .labelReserved label) ∨
        ∃ owner ∈ used, owner.label = label ∧ problem = .labelTaken label owner.name := by
  have unused : ∀ owner ∈ used, owner.label ∉ reserved := by
    intro owner among
    have other := free.unused _ (List.mem_map_of_mem among)
    rwa [reservedLabels, List.map_map, Function.comp_def, List.map_id'] at other
  have found : ∀ {problem}, FieldPlace.clash (takenBehind (reservedLabels reserved) used) label =
      some problem → (label ∈ reserved ∧ problem = .labelReserved label) ∨
        ∃ owner ∈ used, owner.label = label ∧ problem = .labelTaken label owner.name := by
    intro problem clashes
    obtain ⟨t, first, rfl⟩ := Option.map_eq_some_iff.mp clashes
    have same : t.label = label := by simpa using List.find?_some first
    have inside := List.mem_of_find?_eq_some first
    rw [takenBehind_eq_append, List.mem_append, List.mem_reverse] at inside
    rcases inside with inside | inside
    · obtain ⟨owner, among, rfl⟩ := List.mem_map.mp inside
      exact .inr ⟨owner, among, same, rfl⟩
    · obtain ⟨name, among, rfl⟩ := List.mem_map.mp inside
      exact .inl ⟨same ▸ among, rfl⟩
  refine ⟨found, fun inUse => ?_⟩
  cases clashes : FieldPlace.clash (takenBehind (reservedLabels reserved) used) label with
  | none =>
    have other := List.find?_eq_none.mp (Option.map_eq_none_iff.mp clashes)
    simp only [takenBehind_eq_append, reservedLabels, List.mem_append, List.mem_reverse, List.mem_map]
      at other
    rcases inUse with ⟨among, -⟩ | ⟨owner, among, same, -⟩
    · exact absurd (beq_self_eq_true label) (other _ (.inr ⟨label, among, rfl⟩))
    · exact absurd (beq_iff_eq.mpr same) (other _ (.inl ⟨owner, among, rfl⟩))
  | some other =>
    rcases found clashes with ⟨among, rfl⟩ | ⟨owner, among, same, rfl⟩
    · rcases inUse with ⟨-, rfl⟩ | ⟨owner, inside, rfl, -⟩
      · rfl
      · exact absurd among (unused owner inside)
    · rcases inUse with ⟨inside, -⟩ | ⟨second, inside, again, rfl⟩
      · exact absurd inside (same ▸ unused owner among)
      · rw [List.inj_on_of_nodup_map free.apart among inside (same.trans again.symm)]

/-! ### The first place at fault -/

namespace FieldPlace

/-- A place is not at fault exactly if it is sound and the aliases of its columns are free. -/
theorem fine_iff {p : FieldPlace} :
    (∀ cause suffix, ¬ p.Fault d taken cause suffix) ↔ p.Sound d ∧ Free taken (labelsIn d [p]) := by
  have alone : walk d "" [p] = p.steps d "" := List.append_nil _
  have passes : (∃ flat, takeSteps taken (walk d "" [p]) = .ok flat) ↔
      (∀ q ∈ [p], q.Sound d) ∧ Free taken (labelsIn d [p]) := walk_ok_iff
  rw [alone, List.forall_mem_singleton] at passes
  rw [← passes]
  constructor
  · intro fine
    cases own : takeSteps taken (p.steps d "") with
    | ok flat => exact ⟨flat, rfl⟩
    | error e =>
      obtain ⟨cause, suffix, fault, -⟩ := takeSteps_steps_error_iff.mp own
      exact absurd fault (fine cause suffix)
  · rintro ⟨flat, own⟩ cause suffix fault
    rw [takeSteps_steps_error_iff.mpr ⟨cause, suffix, fault, rfl⟩] at own
    cases own

/-- The first clash among the columns of a place has columns with free aliases before it. -/
theorem firstClash_iff {p : FieldPlace} (source : String) {rules : List Sql.ColumnRule}
    {problem : Malformation} {suffix : List String} :
    p.FirstClash taken rules problem suffix ↔
      ∃ own rule rest, rules = own ++ rule :: rest ∧
        Free taken ((own.map (columnOf source p.path p.jsonPath)).map Column.label) ∧
        clash (ChangelogViews.takenBehind taken (own.map (columnOf source p.path p.jsonPath)))
          (p.labelOf rule).label = some problem ∧
        suffix = rule.suffix := by
  have free_of_clash {taken : List TakenLabel} {rule : Sql.ColumnRule} :
      clash taken (p.labelOf rule).label = none ↔
        (p.labelOf rule).label ∉ taken.map TakenLabel.label :=
    show collision taken (columnOf source p.path p.jsonPath rule) = none ↔ _ from collision_eq_none_iff
  constructor
  · intro first
    induction first with
    | here inUse => exact ⟨[], _, _, rfl, .nil, inUse, rfl⟩
    | later free _ ih =>
      obtain ⟨own, rule, rest, rfl, apart, inUse, rfl⟩ := ih
      exact ⟨_ :: own, rule, rest, rfl, (Free.cons_iff _).mpr ⟨free_of_clash.mp free, apart⟩, inUse, rfl⟩
  · rintro ⟨own, rule, rest, rfl, apart, inUse, rfl⟩
    induction own generalizing taken with
    | nil => exact .here inUse
    | cons before own ih =>
      obtain ⟨unused, apart⟩ := (Free.cons_iff (p.labelOf before).owner).mp apart
      exact .later (free_of_clash.mpr unused) (ih apart inUse)

end FieldPlace

/-- The first place at fault has sound places before it, with free aliases. -/
theorem firstFault_iff (source : String) {places : List FieldPlace} {p : FieldPlace} {cause : Cause}
    {suffix : List String} :
    FirstFault d taken places p cause suffix ↔
      ∃ before after, places = before ++ p :: after ∧ (∀ q ∈ before, q.Sound d) ∧
        Free taken ((columnsAt d source before).map Column.label) ∧
        p.Fault d (takenBehind taken (columnsAt d source before)) cause suffix := by
  constructor
  · intro first
    induction first with
    | here fault => exact ⟨[], _, rfl, List.forall_mem_nil _, .nil, fault⟩
    | @later taken q _ _ _ _ fine _ ih =>
      obtain ⟨before, after, rfl, sound, free, fault⟩ := ih
      obtain ⟨own, apart⟩ := FieldPlace.fine_iff.mp fine
      rw [labelsIn_eq_columnsAt d source] at apart
      have columns : columnsAt d source [q] = (q.rules d).map (columnOf source q.path q.jsonPath) :=
        List.append_nil _
      rw [← takenBehind_columns taken columns] at free fault
      refine ⟨q :: before, after, rfl, List.forall_mem_cons.mpr ⟨own, sound⟩, ?_, ?_⟩
      · rw [← List.singleton_append, columnsAt_append, List.map_append]
        exact free_append_iff.mpr ⟨apart, free⟩
      · rw [← List.singleton_append, columnsAt_append, takenBehind, List.foldl_append]
        exact fault
  · rintro ⟨before, after, rfl, sound, free, fault⟩
    induction before generalizing taken with
    | nil => exact .here fault
    | cons q before ih =>
      obtain ⟨own, sound⟩ := List.forall_mem_cons.mp sound
      rw [← List.singleton_append, columnsAt_append] at free fault
      rw [List.map_append] at free
      obtain ⟨apart, free⟩ := free_append_iff.mp free
      rw [takenBehind, List.foldl_append] at fault
      have columns : columnsAt d source [q] = (q.rules d).map (columnOf source q.path q.jsonPath) :=
        List.append_nil _
      have same := takenBehind_columns taken columns
      refine .later (FieldPlace.fine_iff.mpr ⟨own, ?_⟩) ?_
      · rw [labelsIn_eq_columnsAt d source]
        exact apart
      · rw [← same]
        exact ih sound free fault

/-- The columns that are there when a place puts the next one behind some of its own: those of the places
before it, and its own so far. -/
def columnsSoFar (d : Sql.Dialect) (source : String) (before : List FieldPlace) (p : FieldPlace)
    (own : List Sql.ColumnRule) : List Column :=
  columnsAt d source before ++ own.map (columnOf source p.path p.jsonPath)

namespace FieldPlace

/-- Why flattening stops at a place behind others, and the path that it stops at: the declaration of the field
is amiss, or else the next of its columns has an alias that is reserved or belongs to a column that is there. -/
inductive Stops (d : Sql.Dialect) (source : String) (reserved : List String)
    (before : List FieldPlace) (p : FieldPlace) : Cause → List String → Prop
  | flaw {cause : Cause} (flaw : p.Flaw d cause) : Stops d source reserved before p cause p.path
  | labelReserved {own rest : List Sql.ColumnRule} {rule : Sql.ColumnRule} (sound : p.Sound d)
      (columns : p.rules d = own ++ rule :: rest)
      (free : Free (reservedLabels reserved) ((columnsSoFar d source before p own).map Column.label))
      (inUse : joined (p.path ++ rule.suffix) ∈ reserved) :
      Stops d source reserved before p
        (.malformed (.labelReserved (joined (p.path ++ rule.suffix)))) (p.path ++ rule.suffix)
  | labelTaken {own rest : List Sql.ColumnRule} {rule : Sql.ColumnRule} {owner : Column}
      (sound : p.Sound d) (columns : p.rules d = own ++ rule :: rest)
      (free : Free (reservedLabels reserved) ((columnsSoFar d source before p own).map Column.label))
      (there : owner ∈ columnsSoFar d source before p own)
      (inUse : owner.label = joined (p.path ++ rule.suffix)) :
      Stops d source reserved before p
        (.malformed (.labelTaken (joined (p.path ++ rule.suffix)) owner.name)) (p.path ++ rule.suffix)

/-- A field that nothing is wrong with but its type, which has no columns in the dialect. -/
structure Unresolved (d : Sql.Dialect) (p : FieldPlace) : Prop where
  named : p.Named
  noMap : p.field.type ≠ .known .map
  noArray : p.field.type ≠ .known .array
  fields : p.field.fields = none
  element : p.field.element = none
  refused : ∀ rules, d.resolve (.ofType p.field.type) ≠ .ok rules

variable {reserved : List String} {before : List FieldPlace} {p : FieldPlace}

theorem stops_iff (free : Free (reservedLabels reserved) ((columnsAt d source before).map Column.label))
    {cause : Cause} {stop : List String} :
    p.Stops d source reserved before cause stop ↔
      ∃ suffix, p.Fault d (ChangelogViews.takenBehind (reservedLabels reserved)
        (columnsAt d source before)) cause suffix ∧ stop = p.path ++ suffix := by
  have together (own : List Sql.ColumnRule) :
      Free (reservedLabels reserved) ((columnsSoFar d source before p own).map Column.label) ↔
        Free (ChangelogViews.takenBehind (reservedLabels reserved) (columnsAt d source before))
          ((own.map (columnOf source p.path p.jsonPath)).map Column.label) := by
    rw [columnsSoFar, List.map_append, free_append_iff]
    exact and_iff_right free
  have behind (own : List Sql.ColumnRule) :
      ChangelogViews.takenBehind (ChangelogViews.takenBehind (reservedLabels reserved)
        (columnsAt d source before)) (own.map (columnOf source p.path p.jsonPath)) =
      ChangelogViews.takenBehind (reservedLabels reserved) (columnsSoFar d source before p own) :=
    List.foldl_append.symm
  constructor
  · intro stops
    cases stops with
    | flaw flaw => exact ⟨[], .flaw flaw, (List.append_nil _).symm⟩
    | @labelReserved own rest rule sound columns apart inUse =>
      refine ⟨rule.suffix, .clash sound ((firstClash_iff source).mpr ?_), rfl⟩
      refine ⟨own, rule, rest, columns, (together own).mp apart, ?_, rfl⟩
      rw [behind]
      exact (clash_iff apart).mpr (.inl ⟨inUse, rfl⟩)
    | @labelTaken own rest rule owner sound columns apart there inUse =>
      refine ⟨rule.suffix, .clash sound ((firstClash_iff source).mpr ?_), rfl⟩
      refine ⟨own, rule, rest, columns, (together own).mp apart, ?_, rfl⟩
      rw [behind]
      exact (clash_iff apart).mpr (.inr ⟨owner, there, inUse, rfl⟩)
  · rintro ⟨suffix, fault, rfl⟩
    cases fault with
    | flaw flaw =>
      rw [List.append_nil]
      exact .flaw flaw
    | clash sound clash =>
      obtain ⟨own, rule, rest, columns, apart, inUse, rfl⟩ := (firstClash_iff source).mp clash
      have apart := (together own).mpr apart
      rw [behind] at inUse
      rcases (clash_iff apart).mp inUse with ⟨listed, rfl⟩ | ⟨owner, there, same, rfl⟩
      · exact .labelReserved sound columns apart listed
      · exact .labelTaken sound columns apart there same

/-- Only a type without columns is unsupported. All else is a matter of structure. -/
theorem Stops.kind {cause : Cause} {stop : List String}
    (stops : p.Stops d source reserved before cause stop) :
    (p.Unresolved d ∧ ∃ reason, cause = .unsupported (.ofType p.field.type) reason) ∨
      (¬ p.Unresolved d ∧ ∃ problem, cause = .malformed problem) := by
  have resolved_of_sound (sound : p.Sound d) : ¬ p.Unresolved d := by
    rintro ⟨-, noMap, noArray, -, -, refused⟩
    exact refused _ (sound.plain noMap noArray).2.2
  cases stops with
  | flaw flaw =>
    cases flaw with
    | repeated twice => exact .inr ⟨fun other => other.named.1 twice, _, rfl⟩
    | misnamed _ bad =>
      refine .inr ⟨fun other => ?_, _, rfl⟩
      rw [other.named.2] at bad
      cases bad
    | mapWithElement _ isMap _ => exact .inr ⟨fun other => other.noMap isMap, _, rfl⟩
    | arrayWithBoth _ isArray _ _ => exact .inr ⟨fun other => other.noArray isArray, _, rfl⟩
    | nestedBelow _ _ _ below =>
      refine .inr ⟨fun other => ?_, _, rfl⟩
      rw [other.fields, other.element] at below
      simp at below
    | unresolved named noMap noArray fields element refused =>
      obtain ⟨reason, rfl⟩ := refused_eq refused
      refine .inl ⟨⟨named, noMap, noArray, fields, element, fun rules resolved => ?_⟩, reason, rfl⟩
      rw [resolved] at refused
      cases refused
  | labelReserved sound _ _ _ => exact .inr ⟨resolved_of_sound sound, _, rfl⟩
  | labelTaken sound _ _ _ _ => exact .inr ⟨resolved_of_sound sound, _, rfl⟩

end FieldPlace

/-- Flattening succeeds exactly if the fields are well listed and the aliases of their columns are distinct
and not reserved. Otherwise its error is that of the first place at fault: the places before it are sound and
the aliases of their columns free, and the error leads to the field of the place or to its column. The error
is about a type where that has no columns, and about the structure in all other cases. -/
theorem flatten_refuses (d : Sql.Dialect) (source : String) (path reserved : List String)
    (fields : List Field) :
    ((∃ flat, flatten d source path reserved fields = .ok flat) ↔
      WellListed d fields ∧ (columnLabels d path fields).Nodup ∧
        ∀ label ∈ columnLabels d path fields, label ∉ reserved) ∧
    ∀ e, flatten d source path reserved fields = .error e ↔
      ∃ before p after cause stop, placesIn path path path [] fields = before ++ p :: after ∧
        (∀ q ∈ before, q.Sound d) ∧
        Free (reservedLabels reserved) ((columnsAt d source before).map Column.label) ∧
        p.Stops d source reserved before cause stop ∧
        ((p.Unresolved d ∧ ∃ reason, cause = .unsupported (.ofType p.field.type) reason) ∨
          (¬ p.Unresolved d ∧ ∃ problem, cause = .malformed problem)) ∧
        e = ⟨cause, ⟨none, none, some (dotted stop)⟩⟩ := by
  constructor
  · rw [flatten_ok_iff, sound_iff_wellListed.2, labelsIn_placesIn]
    refine and_congr (and_iff_left fun _ _ => List.not_mem_nil) ?_
    refine ⟨fun free => ⟨free.apart, fun label among => ?_⟩, fun ⟨apart, unused⟩ => ⟨apart, ?_⟩⟩
    · have other := free.unused label among
      rwa [reservedLabels, List.map_map, Function.comp_def, List.map_id'] at other
    · rwa [reservedLabels, List.map_map, Function.comp_def, List.map_id']
  · intro e
    rw [flatten_eq_walk d source path, takeSteps_walk_error_iff]
    constructor
    · rintro ⟨p, cause, suffix, first, rfl⟩
      obtain ⟨before, after, split, sound, free, fault⟩ := (firstFault_iff source).mp first
      have stops := (FieldPlace.stops_iff free).mpr ⟨suffix, fault, rfl⟩
      exact ⟨before, p, after, cause, _, split, sound, free, stops, stops.kind, rfl⟩
    · rintro ⟨before, p, after, cause, stop, split, sound, free, stops, -, rfl⟩
      obtain ⟨suffix, fault, rfl⟩ := (FieldPlace.stops_iff free).mp stops
      exact ⟨p, cause, suffix, (firstFault_iff source).mpr ⟨before, after, split, sound, free, fault⟩,
        rfl⟩

/-- A map whose member and a field behind the map have one alias. -/
def crossing : List Field :=
  [{ Field.ofKind (.ofString "a") .map with
      fields := some [Field.ofKind (.ofString "at") .geopoint, Field.ofKind (.ofString "b") .string] },
    Field.ofKind (.ofString "a_b") .number]

example : flatten Sql.DuckDb.dialect "data" [] ["document_name"] crossing =
    .error (.atField (.labelTaken "a_b" "a.b") "a_b") := rfl

end ChangelogViews
