import Mathlib.Data.List.Induction
import ChangelogViews.Files.View

/-!
# Places that paths lead to

A path is followed name by name. It leads to a place where something stands, which is the place that the
path names, and the names of that place go straight down to it (`reach_ok`). So the resolved path of
a file resolves to itself and leads back to the file (`resolved_of_isFile`), however the file was asked
for.
-/

namespace ChangelogViews
namespace FileTree

variable {t : FileTree} {place : Place}

/-- The names of a place go straight down to it: through directories alone, and none of them leads out or
holds what no name does. -/
structure Straight (t : FileTree) (place : Place) : Prop where
  plain : ∀ name ∈ place, name ≠ ".." ∧ Path.hasNull name = false
  down : ∀ above name below, place = above ++ name :: below → t.isDirectory above = true

theorem Straight.top (t : FileTree) : t.Straight [] :=
  ⟨fun _ inside => absurd inside List.not_mem_nil, fun above _ _ split => by simp at split⟩

theorem isDirectory_base (t : FileTree) {above below : Place} (split : t.base = above ++ below) :
    t.isDirectory above = true := by
  have inside : above.isPrefixOf t.base = true :=
    List.isPrefixOf_iff_prefix.mpr ⟨below, split.symm⟩
  unfold isDirectory entry?
  rw [if_pos inside]
  rfl

theorem Straight.base (t : FileTree) : t.Straight t.base :=
  ⟨fun name inside => by simpa [Path.leadsIn] using List.all_eq_true.mp t.straight name inside,
    fun _ _ _ split => t.isDirectory_base split⟩

theorem Straight.concat (straight : t.Straight place) (directory : t.isDirectory place = true)
    {name : String} (plain : name ≠ ".." ∧ Path.hasNull name = false) : t.Straight (place ++ [name]) := by
  refine ⟨?_, ?_⟩
  · intro other inside
    rcases List.mem_append.mp inside with inside | last
    · exact straight.plain other inside
    · rw [List.mem_singleton.mp last]
      exact plain
  · intro above other below split
    cases below using List.reverseRecOn with
    | nil => rw [← (List.append_inj' split rfl).1]; exact directory
    | append_singleton below last =>
      rw [← List.cons_append, ← List.append_assoc] at split
      exact straight.down above other below (List.append_inj' split rfl).1

theorem Straight.dropLast (straight : t.Straight place) : t.Straight place.dropLast := by
  refine ⟨fun name inside => straight.plain name (List.dropLast_subset place inside), ?_⟩
  intro above name below split
  cases place using List.reverseRecOn with
  | nil => simp at split
  | append_singleton front last =>
    rw [List.dropLast_concat] at split
    exact straight.down above name (below ++ [last]) (by rw [split]; simp)

theorem stands_of_directory (directory : t.isDirectory place = true) : (t.entry? place).isSome := by
  unfold isDirectory at directory
  rw [eq_of_beq directory]
  rfl

theorem walk_straight {names : List String} (plain : ∀ name ∈ names, name ≠ "..") (place : Place) :
    walk place names = place ++ names := by
  induction names generalizing place with
  | nil => exact (List.append_nil place).symm
  | cons name rest ih =>
    obtain ⟨noUp, others⟩ := List.forall_mem_cons.mp plain
    rw [walk, List.foldl_cons, if_neg noUp, ← walk, ih others, List.append_assoc]
    rfl

/-- Names lead to the place that they name, and something stands there. -/
theorem follow_found {names : List String} {found : Place}
    (noNull : ∀ name ∈ names, Path.hasNull name = false) (straight : t.Straight place)
    (stands : (t.entry? place).isSome) (leads : t.follow place names = .found found) :
    found = walk place names ∧ t.Straight found ∧ (t.entry? found).isSome := by
  induction names generalizing place with
  | nil => cases leads; exact ⟨rfl, straight, stands⟩
  | cons name rest ih =>
    obtain ⟨own, others⟩ := List.forall_mem_cons.mp noNull
    rw [walk, List.foldl_cons]
    unfold follow at leads
    split at leads
    · cases leads
    next directory =>
    split at leads
    · cases leads
    split at leads
    · next up =>
      rw [if_pos up]
      refine ih others straight.dropLast ?_ leads
      cases place using List.reverseRecOn with
      | nil => exact stands
      | append_singleton front last =>
        rw [List.dropLast_concat]
        exact stands_of_directory (straight.down front last [] rfl)
    · next noUp =>
      rw [if_neg noUp]
      split at leads
      · next there => exact ih others (straight.concat (by simpa using directory) ⟨noUp, own⟩) there leads
      · cases leads

/-- Names that go straight down lead there, unless one of them is too long. -/
theorem follow_straight {names : List String} (straight : t.Straight (place ++ names))
    (stands : (t.entry? (place ++ names)).isSome) :
    t.follow place names = .found (place ++ names) ∨ t.follow place names = .tooLong := by
  induction names generalizing place with
  | nil => exact .inl (by rw [List.append_nil]; rfl)
  | cons name rest ih =>
    have directory := straight.down place name rest rfl
    have noUp := (straight.plain name (by simp)).1
    have there : (t.entry? (place ++ [name])).isSome := by
      cases rest with
      | nil => exact stands
      | cons next more => exact stands_of_directory (straight.down _ next more (by simp))
    have split : place ++ name :: rest = place ++ [name] ++ rest := by simp
    rw [split] at straight stands ⊢
    unfold follow
    by_cases long : Path.isLongName name = true
    · simp [directory, long]
    · simp only [directory, long, noUp, there, Bool.not_true, Bool.false_eq_true, if_false, if_true]
      exact ih straight stands

/-- A path leads to the place that it resolves to, and the names of the place go straight down to it. -/
theorem reach_ok {p : Path} (reached : t.reach p = .ok place) :
    t.resolve p = pathOf place ∧ t.Straight place ∧ (t.entry? place).isSome := by
  have start : t.Straight (t.startOf p) ∧ (t.entry? (t.startOf p)).isSome := by
    unfold startOf
    split
    · exact ⟨.base t, stands_of_directory (t.isDirectory_base (List.append_nil _).symm)⟩
    · exact ⟨.top t, stands_of_directory (t.isDirectory_base (List.nil_append _).symm)⟩
  unfold reach at reached
  split at reached
  · cases reached
  next noNull =>
  split at reached <;> cases reached
  next leads =>
  unfold locate at leads
  split at leads
  · cases leads
  · obtain ⟨rfl, straight, stands⟩ := follow_found (by simpa using noNull) start.1 start.2 leads
    exact ⟨rfl, straight, stands⟩

/-- The whole path of a place leads to it, unless it is too long to follow. -/
theorem reach_pathOf (straight : t.Straight place) (stands : (t.entry? place).isSome) :
    t.reach (pathOf place) = .ok place ∨
      t.reach (pathOf place) = .error (.tooLong (pathOf place).text) := by
  have noNull : ¬ (pathOf place).parts.any Path.hasNull = true := by
    simp only [pathOf, List.any_eq_true, not_exists, not_and]
    intro name inside
    simp [(straight.plain name inside).2]
  unfold reach locate
  rw [if_neg noNull]
  by_cases long : (pathOf place).isLong = true
  · rw [if_pos long]
    exact .inr rfl
  · rw [if_neg long]
    have follows : t.follow [] place = .found place ∨ t.follow [] place = .tooLong :=
      follow_straight straight stands
    rcases follows with found | tooLong
    · exact .inl (by rw [show t.follow (t.startOf (pathOf place)) (pathOf place).parts = _ from found])
    · exact .inr (by rw [show t.follow (t.startOf (pathOf place)) (pathOf place).parts = _ from tooLong])

theorem resolve_pathOf (straight : t.Straight place) : t.resolve (pathOf place) = pathOf place := by
  have named : walk (t.startOf (pathOf place)) place = place :=
    walk_straight (fun name inside => (straight.plain name inside).1) []
  exact congrArg pathOf named

/-- A file resolves to the path of its place, which leads to it unless it is too long to follow. -/
theorem resolved_of_isFile {p : Path} (isFile : t.view.isFile p = .ok true) :
    ∃ place, t.resolve p = pathOf place ∧ t.Straight place ∧ t.isFile place = true ∧
      (t.reach (pathOf place) = .ok place ∨
        t.reach (pathOf place) = .error (.tooLong (pathOf place).text)) := by
  simp only [view, holdsAt] at isFile
  split at isFile
  · next place reached =>
    obtain ⟨resolved, straight, stands⟩ := reach_ok reached
    exact ⟨place, resolved, straight, Except.ok.inj isFile, reach_pathOf straight stands⟩
  · cases isFile
  · cases isFile

end FileTree

theorem FileTree.view_resolvesFiles (t : FileTree) : t.view.ResolvesFiles := by
  rintro file path isFile ⟨⟩
  obtain ⟨place, resolved, straight, there, reached⟩ := resolved_of_isFile isFile
  rw [resolved]
  refine ⟨congrArg Except.ok (resolve_pathOf straight), ?_⟩
  simp only [view, holdsAt]
  rcases reached with found | long
  · simp [found, there]
  · simp [long]

end ChangelogViews
