import ChangelogViews.Proofs.Views.Walks

/-!
# Aliases of columns

A view can be compiled exactly if its places are sound and the aliases of their columns are free: no two are
equal, and none is in use by the view itself (`walk_ok_iff`).
-/

namespace ChangelogViews

/-- Aliases that can be given to columns one after the other where some are in use. -/
structure Free (taken : List TakenLabel) (labels : List String) : Prop where
  apart : labels.Nodup
  unused : ∀ label ∈ labels, label ∉ taken.map TakenLabel.label

namespace Free

variable {taken : List TakenLabel} {labels : List String}

theorem nil : Free taken [] := ⟨List.nodup_nil, fun _ inside => absurd inside List.not_mem_nil⟩

theorem cons_iff {label : String} (owner : Option String) :
    Free taken (label :: labels) ↔
      label ∉ taken.map TakenLabel.label ∧ Free (⟨label, owner⟩ :: taken) labels := by
  constructor
  · rintro ⟨apart, unused⟩
    obtain ⟨fresh, apart⟩ := List.nodup_cons.mp apart
    refine ⟨unused label List.mem_cons_self, apart, ?_⟩
    intro other inside again
    rcases List.mem_cons.mp again with rfl | again
    · exact fresh inside
    · exact unused other (List.mem_cons_of_mem _ inside) again
  · rintro ⟨own, apart, unused⟩
    refine ⟨List.nodup_cons.mpr ⟨?_, apart⟩, ?_⟩
    · exact fun inside => unused label inside List.mem_cons_self
    · intro other inside
      rcases List.mem_cons.mp inside with rfl | inside
      · exact own
      · exact fun again => unused other inside (List.mem_cons_of_mem _ again)

theorem sublist {fewer : List String} (free : Free taken labels) (part : fewer.Sublist labels) :
    Free taken fewer :=
  ⟨part.nodup free.apart, fun label inside => free.unused label (part.subset inside)⟩

end Free

theorem collision_eq_none_iff {taken : List TakenLabel} {column : Column} :
    collision taken column = none ↔ column.label ∉ taken.map TakenLabel.label := by
  rw [collision, Option.map_eq_none_iff, List.find?_eq_none, List.mem_map]
  constructor
  · rintro other ⟨t, inside, same⟩
    exact other t inside (beq_iff_eq.mpr same)
  · intro other t inside same
    exact other ⟨t, inside, beq_iff_eq.mp same⟩

/-- The columns among some steps. -/
def columnsOf (steps : List Step) : List Column :=
  steps.filterMap fun
    | .column column => some column
    | _ => none

/-- Steps can be taken exactly if none of them fails and the aliases of their columns are free. -/
theorem takeSteps_ok_iff {taken : List TakenLabel} {steps : List Step} :
    (∃ flat, takeSteps taken steps = .ok flat) ↔
      (∀ e, .fail e ∉ steps) ∧ Free taken ((columnsOf steps).map Column.label) := by
  induction steps generalizing taken with
  | nil => exact ⟨fun _ => ⟨fun _ => List.not_mem_nil, .nil⟩, fun _ => ⟨_, rfl⟩⟩
  | cons s rest ih =>
    cases s with
    | fail e =>
      constructor
      · rintro ⟨flat, taken⟩
        cases taken
      · rintro ⟨none, _⟩
        exact absurd List.mem_cons_self (none e)
    | child c =>
      have same : (∃ flat, takeSteps taken (.child c :: rest) = .ok flat) ↔
          ∃ flat, takeSteps taken rest = .ok flat := by
        rw [takeSteps]
        cases takeSteps taken rest with
        | error e =>
          constructor
          · rintro ⟨_, ok⟩
            cases ok
          · rintro ⟨_, ok⟩
            cases ok
        | ok flat => exact ⟨fun _ => ⟨_, rfl⟩, fun _ => ⟨_, rfl⟩⟩
      rw [same, ih]
      simp [columnsOf]
    | column c =>
      have labels : (columnsOf (.column c :: rest)).map Column.label =
          c.label :: (columnsOf rest).map Column.label := rfl
      have sound : (∀ e, .fail e ∉ Step.column c :: rest) ↔ ∀ e, .fail e ∉ rest := by simp
      rw [labels, Free.cons_iff (some c.name), sound, takeSteps]
      cases clashes : collision taken c with
      | some problem =>
        have used : ¬ c.label ∉ taken.map TakenLabel.label := by
          rw [← collision_eq_none_iff, clashes]
          exact Option.some_ne_none problem
        constructor
        · rintro ⟨_, ok⟩
          cases ok
        · rintro ⟨_, unused, _⟩
          exact absurd unused used
      | none =>
        have unused := collision_eq_none_iff.mp clashes
        rw [and_left_comm, ← ih]
        cases takeSteps (⟨c.label, some c.name⟩ :: taken) rest with
        | error e =>
          constructor
          · rintro ⟨_, ok⟩
            cases ok
          · rintro ⟨_, _, ok⟩
            cases ok
        | ok flat => exact ⟨fun _ => ⟨unused, _, rfl⟩, fun _ => ⟨_, rfl⟩⟩

/-- The aliases of the columns that some places give. -/
def labelsIn (d : Sql.Dialect) (places : List FieldPlace) : List String :=
  places.flatMap fun p => (p.rules d).map fun rule => (p.labelOf rule).label

/-- The columns that some places give. -/
def columnsAt (d : Sql.Dialect) (source : String) (places : List FieldPlace) : List Column :=
  places.flatMap fun p => (p.rules d).map (columnOf source p.path p.jsonPath)

theorem columnsAt_append (d : Sql.Dialect) (source : String) (a b : List FieldPlace) :
    columnsAt d source (a ++ b) = columnsAt d source a ++ columnsAt d source b := List.flatMap_append

theorem labelsIn_eq_columnsAt (d : Sql.Dialect) (source : String) (places : List FieldPlace) :
    labelsIn d places = (columnsAt d source places).map Column.label := by
  rw [labelsIn, columnsAt, List.map_flatMap]
  simp [columnOf, FieldPlace.labelOf, Function.comp_def]

private theorem columnsOf_append (a b : List Step) : columnsOf (a ++ b) = columnsOf a ++ columnsOf b :=
  List.filterMap_append

/-- No step of a place fails exactly if the place is sound. -/
private theorem no_fail_iff {d : Sql.Dialect} {source : String} {p : FieldPlace} :
    (∀ e, .fail e ∉ p.steps d source) ↔ p.Sound d := by
  constructor
  · intro none
    rcases FieldPlace.sound_or_flaw d p with sound | ⟨cause, flaw⟩
    · exact sound
    · rw [FieldPlace.steps_of_flaw source flaw] at none
      exact absurd List.mem_cons_self (none _)
  · intro sound e inside
    by_cases isArray : p.field.type = .known .array
    · rw [(FieldPlace.steps_of_array source sound isArray).1] at inside
      cases List.mem_singleton.mp inside
    · rw [FieldPlace.steps_of_columns source sound isArray] at inside
      obtain ⟨rule, _, other⟩ := List.mem_map.mp inside
      cases other

private theorem columnsOf_steps {d : Sql.Dialect} (source : String) {p : FieldPlace}
    (sound : p.Sound d) :
    columnsOf (p.steps d source) = (p.rules d).map (columnOf source p.path p.jsonPath) := by
  by_cases isArray : p.field.type = .known .array
  · obtain ⟨steps, none⟩ := FieldPlace.steps_of_array source sound isArray
    rw [steps, none]
    rfl
  · rw [FieldPlace.steps_of_columns source sound isArray, columnsOf, FieldPlace.columnSteps,
      List.filterMap_map]
    exact congrFun (List.filterMap_eq_map (f := columnOf source p.path p.jsonPath)) _

private theorem columnsOf_walk {d : Sql.Dialect} (source : String) {places : List FieldPlace}
    (sound : ∀ p ∈ places, p.Sound d) :
    columnsOf (walk d source places) = columnsAt d source places := by
  induction places with
  | nil => rfl
  | cons p rest ih =>
    rw [walk, List.flatMap_cons, columnsOf_append, columnsAt, List.flatMap_cons,
      columnsOf_steps source (sound p List.mem_cons_self)]
    exact congrArg (_ ++ ·) (ih fun q inside => sound q (List.mem_cons_of_mem _ inside))

/-- A walk reaches its end exactly if its places are sound and the aliases of their columns are free. -/
theorem walk_ok_iff {d : Sql.Dialect} {source : String} {places : List FieldPlace}
    {taken : List TakenLabel} :
    (∃ flat, takeSteps taken (walk d source places) = .ok flat) ↔
      (∀ p ∈ places, p.Sound d) ∧ Free taken (labelsIn d places) := by
  have sound : (∀ e, .fail e ∉ walk d source places) ↔ ∀ p ∈ places, p.Sound d := by
    constructor
    · intro none p inside
      exact no_fail_iff.mp fun e failing => none e (List.mem_flatMap.mpr ⟨p, inside, failing⟩)
    · intro sound e failing
      obtain ⟨p, inside, failing⟩ := List.mem_flatMap.mp failing
      exact no_fail_iff.mpr (sound p inside) e failing
  rw [takeSteps_ok_iff, sound]
  exact and_congr_right fun sound => by
    rw [columnsOf_walk source sound, ← labelsIn_eq_columnsAt]

end ChangelogViews
