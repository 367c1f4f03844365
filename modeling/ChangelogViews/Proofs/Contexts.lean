import ChangelogViews.Sql.DuckDb
import ChangelogViews.Views.Compiled

/-!
# What becomes known of an error

An error is told on its way out where it belongs, by several callers and a part of it at a time. At each
place the first name that was told stays, whoever told it, and what went wrong does not change
(`ViewError.context_gathered`). Only a text that names nothing is lost: a caller with nothing to say about
a place takes the empty text from it (`ViewError.emptyField_forgotten`).
-/

namespace ChangelogViews

namespace Context

/-- What may be known of an error. -/
inductive Place where
  | schema
  | view
  | field
  deriving DecidableEq, Repr

/-- What a context tells of a place. -/
def told (c : Context) : Place → Option String
  | .schema => c.schema
  | .view => c.view
  | .field => c.field

/-- What stays of the things that were told of a place in turn: the first that is a text and not empty, or
the last of them if there is none. -/
def settled (values : List (Option String)) : Option String :=
  ((values.find? fun v => v ≠ none ∧ v ≠ some "").or values.getLast?).join

theorem ext_told {c d : Context} (same : ∀ place, c.told place = d.told place) : c = d := by
  cases c
  cases d
  exact congr (congr (congrArg mk (same .schema)) (same .view)) (same .field)

section
variable {name : String} {a b c : Option String}

theorem isNamed_eq (v : Option String) : isNamed v = decide (v ≠ none ∧ v ≠ some "") := by
  cases v <;> simp [isNamed]

theorem isNamed_some (named : name ≠ "") : isNamed (some name) = true := decide_eq_true named

theorem fill_some (named : name ≠ "") : fill (some name) b = some name := if_pos (isNamed_some named)

theorem fill_of_unnamed (unnamed : isNamed a = false) : fill a b = b :=
  if_neg (Bool.eq_false_iff.mp unnamed)

@[simp] theorem fill_none_left : fill none b = b := rfl

@[simp] theorem fill_self : fill a a = a := ite_self a

theorem fill_assoc : fill (fill a b) c = fill a (fill b c) := by
  cases named : isNamed a with
  | true => simp only [fill, named, if_true]
  | false => rw [fill_of_unnamed named, fill_of_unnamed named]

/-- Nothing in the place of the empty text, and all else as it is. -/
theorem fill_none_right : fill a none = if a = some "" then none else a := by
  match a with
  | none => rfl
  | some name =>
    by_cases empty : name = ""
    · subst empty
      rfl
    · rw [fill_some empty, if_neg (fun same => empty (Option.some.inj same))]

end

/-- The rule that a place is filled by is that of `settled`. -/
theorem settled_eq (values : List (Option String)) :
    settled values = ((values.find? isNamed).or values.getLast?).join := by
  rw [settled, funext isNamed_eq]

theorem settled_singleton (a : Option String) : settled [a] = a := by
  rw [settled_eq]
  cases named : isNamed a <;> simp [named]

/-- What fills a place is as good as told first. -/
theorem settled_fill (a b : Option String) (later : List (Option String)) :
    settled (fill a b :: later) = settled (a :: b :: later) := by
  rw [settled_eq, settled_eq]
  -- A name ends the search on both sides, so that what follows is not looked at, not even as the last.
  cases named : isNamed a with
  | true => simp only [fill, named, if_true, List.find?_cons_of_pos, Option.some_or]
  | false => simp only [fill_of_unnamed named, List.find?_cons, named, List.getLast?_cons_cons]

theorem foldl_fill (a : Option String) (later : List (Option String)) :
    later.foldl fill a = settled (a :: later) := by
  induction later generalizing a with
  | nil => exact (settled_singleton a).symm
  | cons b later ih => rw [List.foldl_cons, ih, settled_fill]

theorem told_add (c d : Context) (place : Place) :
    (c.add d).told place = fill (c.told place) (d.told place) := by
  cases place <;> rfl

theorem add_assoc (b c d : Context) : (b.add c).add d = b.add (c.add d) :=
  ext_told fun place => by simp only [told_add, fill_assoc]

theorem add_self (c : Context) : c.add c = c := ext_told fun place => by rw [told_add, fill_self]

end Context

namespace ViewError

open Context (settled)

/-- The error once all of some callers have added what they know, one after the other. -/
def addAll (e : ViewError) (calls : List Context) : ViewError := calls.foldl addContext e

theorem addContext_addContext (e : ViewError) (c d : Context) :
    (e.addContext c).addContext d = e.addContext (c.add d) :=
  congrArg (mk e.cause) (Context.add_assoc e.context c d)

theorem addAll_append (e : ViewError) (calls later : List Context) :
    e.addAll (calls ++ later) = (e.addAll calls).addAll later := List.foldl_append

theorem addAll_cause (e : ViewError) (calls : List Context) : (e.addAll calls).cause = e.cause := by
  induction calls generalizing e with
  | nil => rfl
  | cons c later ih => exact ih (e.addContext c)

/-- Each place is filled on its own. -/
theorem addAll_told (e : ViewError) (calls : List Context) (place : Context.Place) :
    (e.addAll calls).context.told place =
      (calls.map (·.told place)).foldl Context.fill (e.context.told place) := by
  induction calls generalizing e with
  | nil => rfl
  | cons c later ih =>
    rw [List.map_cons, List.foldl_cons, ← Context.told_add]
    exact ih (e.addContext c)

/-- Whatever callers add to an error, what went wrong stays, and at each place the first name that was told
stays, the error's own before those of the callers. A caller with nothing to say about a place leaves it
as it is, unless the empty text stands there, which gives way to nothing. To say the same again changes
nothing. -/
theorem context_gathered (e : ViewError) (calls : List Context) :
    (e.addAll calls).cause = e.cause ∧ (e.addAll calls).message = e.message ∧
    (∀ place, (e.addAll calls).context.told place =
      settled (e.context.told place :: calls.map (·.told place))) ∧
    (∀ c place, c.told place = none →
      (e.addAll (calls ++ [c])).context.told place =
        if (e.addAll calls).context.told place = some "" then none
        else (e.addAll calls).context.told place) ∧
    ∀ c later, e.addAll (calls ++ c :: c :: later) = e.addAll (calls ++ c :: later) := by
  refine ⟨addAll_cause e calls, congrArg Cause.message (addAll_cause e calls), ?_, ?_, ?_⟩
  · intro place
    rw [addAll_told, Context.foldl_fill]
  · intro c place silent
    have added : (e.addAll (calls ++ [c])).context = (e.addAll calls).context.add c := by
      rw [addAll_append]
      rfl
    rw [added, Context.told_add, silent, Context.fill_none_right]
  · intro c later
    -- Two calls in a row act as one with both contexts, and a context adds nothing to itself.
    have again : ((e.addAll calls).addContext c).addContext c = (e.addAll calls).addContext c := by
      rw [addContext_addContext, Context.add_self]
    rw [addAll_append, addAll_append]
    exact congrArg (addAll · later) again

/-- Three callers tell a rejected view of its places. -/
theorem rejection_gathered :
    let e : ViewError := ⟨.rejected (.described "m") (some "q"), ⟨none, some "", some "a.b"⟩⟩
    let calls : List Context := [⟨none, some "v", some "c"⟩, ⟨some "s", some "w", none⟩]
    let c : Context := ⟨some "t", none, none⟩
    c.told .view = none ∧
    (e.addAll (calls ++ [c])).context.told .view = (e.addAll calls).context.told .view ∧
    e.addAll (calls ++ [c, c]) = e.addAll (calls ++ [c]) ∧
    e.addAll calls = ⟨e.cause, ⟨some "s", some "v", some "a.b"⟩⟩ := by
  intro e calls c
  obtain ⟨cause, _, places, silent, twice⟩ := context_gathered e calls
  have known : (e.addAll calls).context = ⟨some "s", some "v", some "a.b"⟩ := by
    refine Context.ext_told fun place => ?_
    rw [places]
    cases place <;> decide
  refine ⟨rfl, ?_, twice c [], ?_⟩
  · rw [silent c .view rfl, known]
    decide
  · rw [← cause, ← known]

/-- A field without a name, at the top of a schema. -/
def unnamedField : Schema := ⟨[Field.ofKind (.ofString "") .string]⟩

/-- The path of a field without a name is the empty text. It is known where the field is refused, and lost
once the error learns the schema, although nothing was said about the field. -/
theorem emptyField_forgotten :
    let t : Target := ⟨Sql.DuckDb.dialect, "p", .standard⟩
    let call : Context := ⟨some "s", none, none⟩
    ∃ e, t.layOut "d" (some "f") (some "s") unnamedField none = .error (.views e) ∧
      e.context.told .field = some "" ∧
      call.told .field = none ∧
      t.compile "d" (some "f") (some "s") unnamedField none = .error (.views (e.addContext call)) ∧
      (e.addContext call).context.told .field = none := by
  intro t call
  exact ⟨.atField (.badFieldName (.ofString "")) "", rfl, rfl, rfl, rfl, rfl⟩

end ViewError
end ChangelogViews
