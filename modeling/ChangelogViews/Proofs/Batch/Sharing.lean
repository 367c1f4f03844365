import ChangelogViews.Proofs.Document.Members
import ChangelogViews.Views.Batch

/-!
# Shared view names

The schemas of a batch mention their view names one after the other, and only the first schema that
mentions a name is kept as its owner. Even so, all schemas that share a name with another are blamed,
each for a name that it shares, and nobody else is (`Sharing.faithful_of`). Which error a schema gets
depends on nothing but the mentions of its own names (`Sharing.clash_of_filter`).
-/

namespace ChangelogViews
namespace Sharing

/-- The error that a mention gives to a schema: the one that mentions the view, or its owner. -/
def told (s : Sharing) (schema view name : String) : Option ViewError :=
  match member? s.owners view with
  | none => none
  | some other =>
    if other ≠ schema ∧ (name = schema ∨ name = other) then some (clash name view other schema)
    else none

theorem told_ne_none {s : Sharing} {schema view name owner : String}
    (owns : member? s.owners view = some owner) (differs : owner ≠ schema)
    (concerned : name = schema ∨ name = owner) : s.told schema view name ≠ none := by
  simp only [told, owns, differs, concerned, ne_eq, not_false_eq_true, and_self, if_true,
    reduceCtorEq]

theorem owners_blame (s : Sharing) (schema : String) (e : ViewError) :
    (s.blame schema e).owners = s.owners := by
  unfold blame
  split
  · rfl
  · rfl

theorem owners_note (s : Sharing) (schema view name : String) :
    member? (s.note schema view).owners name =
      (member? s.owners name).or (if view = name then some schema else none) := by
  unfold note
  cases owner : member? s.owners view with
  | none => rw [member?_append, member?_singleton]
  | some other =>
    have kept : member? s.owners name =
        (member? s.owners name).or (if view = name then some schema else none) := by
      by_cases same : view = name
      · rw [← same, owner]
        rfl
      · rw [if_neg same, Option.or_none]
    by_cases own : other = schema
    · simpa only [own, if_true] using kept
    · simpa only [own, if_false, owners_blame] using kept

private theorem clashes_blame (s : Sharing) (schema name : String) (e : ViewError) :
    member? (s.blame schema e).clashes name =
      (member? s.clashes name).or (if schema = name then some e else none) := by
  unfold blame
  by_cases known : (member? s.clashes schema).isSome = true
  · rw [if_pos known]
    by_cases same : schema = name
    · obtain ⟨first, found⟩ := Option.isSome_iff_exists.mp known
      rw [← same, found]
      rfl
    · rw [if_neg same, Option.or_none]
  · rw [if_neg known, member?_append, member?_singleton]

theorem clashes_note (s : Sharing) (schema view name : String) :
    member? (s.note schema view).clashes name =
      (member? s.clashes name).or (s.told schema view name) := by
  unfold note told
  cases owner : member? s.owners view with
  | none => simp only [Option.or_none]
  | some other =>
    by_cases own : other = schema
    · simp [own]
    · simp only [own, if_false, clashes_blame, Option.or_assoc]
      congr 1
      by_cases first : other = name
      · subst first
        simp [own]
      · by_cases second : schema = name
        · subst second
          simp [own]
        · simp [first, second, Ne.symm first, Ne.symm second]

/-- What holds of the owners and the errors once some names were mentioned. -/
structure Faithful (s : Sharing) (mentions : List (String × String)) : Prop where
  owned : ∀ view owner, member? s.owners view = some owner → (owner, view) ∈ mentions
  unowned : ∀ view, member? s.owners view = none → ∀ schema, (schema, view) ∉ mentions
  shared : ∀ schema e, member? s.clashes schema = some e → ∃ view first second,
    e = clash schema view first second ∧ (schema, view) ∈ mentions ∧
      ∃ other, other ≠ schema ∧ (other, view) ∈ mentions
  complete : ∀ schema other view, other ≠ schema → (schema, view) ∈ mentions →
    (other, view) ∈ mentions → member? s.clashes schema ≠ none

theorem faithful_nil : Faithful ⟨[], []⟩ [] := by
  refine ⟨?_, ?_, ?_, ?_⟩
  · intro view owner found
    cases found
  · exact fun view _ schema inside => absurd inside List.not_mem_nil
  · intro schema e found
    cases found
  · exact fun schema other view _ inside => absurd inside List.not_mem_nil

theorem Faithful.owner_of_mem {s : Sharing} {mentions : List (String × String)}
    (known : s.Faithful mentions) {schema view : String} (inside : (schema, view) ∈ mentions) :
    ∃ owner, member? s.owners view = some owner := by
  cases owns : member? s.owners view with
  | none => exact absurd inside (known.unowned view owns schema)
  | some owner => exact ⟨owner, rfl⟩

/-- A mention keeps what is known. -/
theorem Faithful.note {s : Sharing} {mentions : List (String × String)} (known : s.Faithful mentions)
    (schema view : String) : (s.note schema view).Faithful (mentions ++ [(schema, view)]) := by
  have old : ∀ {m}, m ∈ mentions → m ∈ mentions ++ [(schema, view)] := List.mem_append_left _
  have new : (schema, view) ∈ mentions ++ [(schema, view)] :=
    List.mem_append_right _ (List.mem_singleton.mpr rfl)
  refine ⟨?_, ?_, ?_, ?_⟩
  · intro name owner found
    rw [owners_note] at found
    cases before : member? s.owners name with
    | some first =>
      rw [before] at found
      cases found
      exact old (known.owned name owner before)
    | none =>
      rw [before, Option.none_or] at found
      split at found
      · next same => cases found; rw [← same]; exact new
      · cases found
  · intro name free other inside
    rw [owners_note] at free
    obtain ⟨before, others⟩ := Option.or_eq_none_iff.mp free
    rcases List.mem_append.mp inside with inside | inside
    · exact known.unowned name before other inside
    · cases List.mem_singleton.mp inside
      rw [if_pos rfl] at others
      cases others
  · intro name e found
    rw [clashes_note] at found
    cases before : member? s.clashes name with
    | some first =>
      rw [before] at found
      cases found
      obtain ⟨shared, one, two, same, inside, other, differs, among⟩ := known.shared name e before
      exact ⟨shared, one, two, same, old inside, other, differs, old among⟩
    | none =>
      rw [before, Option.none_or, told] at found
      split at found
      · cases found
      · next other owner =>
        split at found
        · next clashes =>
          cases found
          obtain ⟨differs, mine | theirs⟩ := clashes
          · subst mine
            exact ⟨view, other, name, rfl, new, other, differs, old (known.owned view other owner)⟩
          · subst theirs
            exact ⟨view, name, schema, rfl, old (known.owned view name owner), schema,
              differs.symm, new⟩
        · cases found
  · intro name other shared differs inside among quiet
    rw [clashes_note] at quiet
    obtain ⟨before, silent⟩ := Option.or_eq_none_iff.mp quiet
    rcases List.mem_append.mp inside with inside | inside
    · rcases List.mem_append.mp among with among | among
      · exact known.complete name other shared differs inside among before
      · cases List.mem_singleton.mp among
        obtain ⟨owner, owns⟩ := known.owner_of_mem inside
        by_cases own : owner = name
        · subst own
          exact told_ne_none owns differs.symm (.inr rfl) silent
        · exact known.complete name owner view own inside (known.owned view owner owns) before
    · cases List.mem_singleton.mp inside
      rcases List.mem_append.mp among with earlier | now
      · obtain ⟨owner, owns⟩ := known.owner_of_mem earlier
        by_cases own : owner = schema
        · subst own
          exact known.complete owner other view differs (known.owned view owner owns) earlier before
        · exact told_ne_none owns own (.inl rfl) silent
      · cases List.mem_singleton.mp now
        exact differs rfl

/-- Notes some mentions in order. -/
def noteAll (s : Sharing) (mentions : List (String × String)) : Sharing :=
  mentions.foldl (fun s m => s.note m.1 m.2) s

theorem Faithful.noteAll {s : Sharing} {before : List (String × String)} (known : s.Faithful before)
    (mentions : List (String × String)) : (s.noteAll mentions).Faithful (before ++ mentions) := by
  induction mentions generalizing s before with
  | nil =>
    rw [List.append_nil]
    exact known
  | cons m rest ih =>
    have later := ih (known.note m.1 m.2)
    rw [List.append_assoc, List.singleton_append] at later
    exact later

def mentions (schemas : List (String × SchemaViews)) : List (String × String) :=
  schemas.flatMap fun entry => entry.2.all.map fun view => (entry.1, view.name)

theorem of_eq_noteAll (schemas : List (String × SchemaViews)) :
    Sharing.of schemas = noteAll ⟨[], []⟩ (mentions schemas) := by
  unfold Sharing.of noteAll mentions
  rw [List.foldl_flatMap]
  simp only [List.foldl_map]

/-- Who shares a name with another is blamed for it, and nobody else. -/
theorem faithful_of (schemas : List (String × SchemaViews)) :
    (Sharing.of schemas).Faithful (mentions schemas) := by
  rw [of_eq_noteAll]
  exact faithful_nil.noteAll (mentions schemas)

/-- Two states look the same to a schema that mentions some views: these have the same owners, the
schema owns no other view, and it has the same error. -/
private structure SameTo (name : String) (views : String → Prop) (s t : Sharing) : Prop where
  owners : ∀ view, views view → member? s.owners view = member? t.owners view
  clash : member? s.clashes name = member? t.clashes name
  ownLeft : ∀ view, member? s.owners view = some name → views view
  ownRight : ∀ view, member? t.owners view = some name → views view

section
variable {name : String} {views : String → Prop} {s t : Sharing} {schema view : String}

private theorem SameTo.symm (same : SameTo name views s t) : SameTo name views t s :=
  ⟨fun view own => (same.owners view own).symm, same.clash.symm, same.ownRight, same.ownLeft⟩

private theorem owns_note {other : String} (owns : member? (s.note schema view).owners other = some name) :
    member? s.owners other = some name ∨ view = other ∧ schema = name := by
  rw [owners_note] at owns
  cases before : member? s.owners other with
  | some first =>
    rw [before] at owns
    exact .inl owns
  | none =>
    rw [before, Option.none_or] at owns
    split at owns
    · next same => exact .inr ⟨same, Option.some.inj owns⟩
    · cases owns

/-- What another schema says of a view that the schema does not mention does not concern it. -/
private theorem SameTo.skip (same : SameTo name views s t) (foreign : ¬ views view)
    (other : schema ≠ name) : SameTo name views (s.note schema view) t := by
  refine ⟨?_, ?_, ?_, same.ownRight⟩
  · intro own inside
    have differs : view ≠ own := fun equal => foreign (equal ▸ inside)
    rw [owners_note, if_neg differs, Option.or_none]
    exact same.owners own inside
  · have silent : s.told schema view name = none := by
      unfold told
      split
      · rfl
      · next owner owns =>
        rw [if_neg]
        rintro ⟨_, mine | mine⟩
        · exact other mine.symm
        · exact foreign (same.ownLeft view (mine ▸ owns))
    rw [clashes_note, silent, Option.or_none]
    exact same.clash
  · intro own owns
    rcases owns_note owns with before | ⟨_, mine⟩
    · exact same.ownLeft own before
    · exact absurd mine other

/-- What is said of a view that the schema mentions concerns it in both alike. -/
private theorem SameTo.note (same : SameTo name views s t) (own : views view) :
    SameTo name views (s.note schema view) (t.note schema view) := by
  refine ⟨?_, ?_, ?_, ?_⟩
  · intro other inside
    rw [owners_note, owners_note, same.owners other inside]
  · rw [clashes_note, clashes_note, same.clash, told, told, same.owners view own]
  · intro other owns
    rcases owns_note owns with before | ⟨equal, _⟩
    · exact same.ownLeft other before
    · exact equal ▸ own
  · intro other owns
    rcases owns_note owns with before | ⟨equal, _⟩
    · exact same.ownRight other before
    · exact equal ▸ own

end

private theorem SameTo.filter {name : String} {views : String → Prop} {s t : Sharing}
    (same : SameTo name views s t) {keep : String × String → Bool} {mentions : List (String × String)}
    (own : ∀ m ∈ mentions, m.1 = name → views m.2)
    (kept : ∀ m ∈ mentions, views m.2 → keep m = true) :
    SameTo name views (s.noteAll mentions) (t.noteAll (mentions.filter keep)) := by
  induction mentions generalizing s t with
  | nil => exact same
  | cons m rest ih =>
    have later := fun {s t} same => ih (s := s) (t := t) same
      (fun other inside => own other (List.mem_cons_of_mem _ inside))
      (fun other inside => kept other (List.mem_cons_of_mem _ inside))
    by_cases concerned : views m.2
    · rw [List.filter_cons_of_pos (kept m List.mem_cons_self concerned)]
      exact later (same.note concerned)
    · have other : m.1 ≠ name := fun mine => concerned (own m List.mem_cons_self mine)
      have left := same.skip concerned other
      cases keeps : keep m with
      | true =>
        rw [List.filter_cons_of_pos keeps]
        exact later (left.symm.skip concerned other).symm
      | false =>
        rw [List.filter_cons_of_neg (by simp [keeps])]
        exact later left

/-- A schema has the same error in a batch from which some mentions are gone, so long as none is gone
of a view that the schema mentions. -/
theorem clash_of_filter {name : String} {mentions : List (String × String)}
    {keep : String × String → Bool}
    (kept : ∀ m ∈ mentions, (name, m.2) ∈ mentions → keep m = true) :
    member? (noteAll ⟨[], []⟩ mentions).clashes name =
      member? (noteAll ⟨[], []⟩ (mentions.filter keep)).clashes name := by
  have start : SameTo name (fun view => (name, view) ∈ mentions) ⟨[], []⟩ ⟨[], []⟩ := by
    refine ⟨fun _ _ => rfl, rfl, ?_, ?_⟩
    · intro view owns
      cases owns
    · intro view owns
      cases owns
  refine (start.filter ?_ kept).clash
  rintro ⟨schema, view⟩ inside rfl
  exact inside

end Sharing
end ChangelogViews
