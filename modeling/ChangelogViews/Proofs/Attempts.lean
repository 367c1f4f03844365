/-!
# Lists of attempts

Attempts that are made one after the other until one fails: what is known of their results where all
succeed, and which one failed where not all do.
-/

namespace ChangelogViews

variable {ε α β γ : Type}

theorem bind_ok {x : Except ε α} {f : α → Except ε β} {b : β} (ok : x >>= f = .ok b) :
    ∃ a, x = .ok a ∧ f a = .ok b := by
  cases x with
  | error e => cases ok
  | ok a => exact ⟨a, rfl, ok⟩

theorem bind_error {x : Except ε α} {f : α → Except ε β} {e : ε} (failed : x >>= f = .error e) :
    x = .error e ∨ ∃ a, x = .ok a ∧ f a = .error e := by
  cases x with
  | error other => cases failed; exact .inl rfl
  | ok a => exact .inr ⟨a, rfl, failed⟩

theorem mapM_cons_ok {f : α → Except ε β} {x : α} {xs : List α} {ys : List β}
    (all : (x :: xs).mapM f = .ok ys) :
    ∃ y rest, f x = .ok y ∧ xs.mapM f = .ok rest ∧ ys = y :: rest := by
  rw [List.mapM_cons] at all
  cases first : f x with
  | error e => rw [first] at all; cases all
  | ok y =>
    cases later : xs.mapM f with
    | error e => rw [first, later] at all; cases all
    | ok rest =>
      rw [first, later] at all
      cases all
      exact ⟨y, rest, rfl, rfl, rfl⟩

theorem mapM_of_ok {f : α → Except ε β} {g : α → β} (each : ∀ x, f x = .ok (g x)) (xs : List α) :
    xs.mapM f = .ok (xs.map g) := by
  induction xs with
  | nil => rfl
  | cons x rest ih =>
    rw [List.mapM_cons, each, ih]
    rfl

theorem mapM_ok_of_forall {f : α → Except ε β} {xs : List α}
    (each : ∀ x ∈ xs, ∃ y, f x = .ok y) : ∃ ys, xs.mapM f = .ok ys := by
  induction xs with
  | nil => exact ⟨[], rfl⟩
  | cons x rest ih =>
    obtain ⟨y, first⟩ := each x List.mem_cons_self
    obtain ⟨ys, later⟩ := ih fun z inside => each z (List.mem_cons_of_mem _ inside)
    refine ⟨y :: ys, ?_⟩
    rw [List.mapM_cons, first, later]
    rfl

theorem mapM_append_ok {f : α → Except ε β} {xs xs' : List α} {ys : List β}
    (all : (xs ++ xs').mapM f = .ok ys) :
    ∃ first later, xs.mapM f = .ok first ∧ xs'.mapM f = .ok later ∧ ys = first ++ later := by
  rw [List.mapM_append] at all
  obtain ⟨first, front, all⟩ := bind_ok all
  obtain ⟨later, behind, all⟩ := bind_ok all
  cases all
  exact ⟨first, later, front, behind, rfl⟩

theorem mapM_append_of_ok {f : α → Except ε β} {xs xs' : List α} {ys ys' : List β}
    (front : xs.mapM f = .ok ys) (behind : xs'.mapM f = .ok ys') :
    (xs ++ xs').mapM f = .ok (ys ++ ys') := by
  rw [List.mapM_append, front, behind]
  rfl

/-- Attempts succeed without some of them, and the other results are the same. -/
theorem mapM_without {f : α → Except ε β} {xs gone xs' : List α} {ys : List β}
    (all : (xs ++ gone ++ xs').mapM f = .ok ys) :
    ∃ first removed later, gone.mapM f = .ok removed ∧
      (xs ++ xs').mapM f = .ok (first ++ later) ∧ ys = first ++ removed ++ later := by
  obtain ⟨front, later, start, behind, rfl⟩ := mapM_append_ok all
  obtain ⟨first, removed, ahead, middle, rfl⟩ := mapM_append_ok start
  exact ⟨first, removed, later, middle, mapM_append_of_ok ahead behind, rfl⟩

/-- Where each result shows a part of what it was made of, all results show these parts in order. -/
theorem map_of_mapM_ok {f : α → Except ε β} {part : α → γ} {shown : β → γ} {xs : List α}
    {ys : List β} (each : ∀ x ∈ xs, ∀ y, f x = .ok y → shown y = part x)
    (all : xs.mapM f = .ok ys) : ys.map shown = xs.map part := by
  induction xs generalizing ys with
  | nil => cases all; rfl
  | cons x rest ih =>
    obtain ⟨y, later, first, others, rfl⟩ := mapM_cons_ok all
    rw [List.map_cons, List.map_cons, each x List.mem_cons_self y first,
      ih (fun z inside => each z (List.mem_cons_of_mem _ inside)) others]

theorem mem_of_mapM_ok {f : α → Except ε β} {xs : List α} {ys : List β}
    (all : xs.mapM f = .ok ys) {y : β} (member : y ∈ ys) : ∃ x ∈ xs, f x = .ok y := by
  induction xs generalizing ys with
  | nil => cases all; cases member
  | cons x rest ih =>
    obtain ⟨z, later, first, others, rfl⟩ := mapM_cons_ok all
    rcases List.mem_cons.mp member with rfl | member
    · exact ⟨x, List.mem_cons_self, first⟩
    · obtain ⟨w, inside, made⟩ := ih others member
      exact ⟨w, List.mem_cons_of_mem _ inside, made⟩

theorem forall_of_mapM_ok {f : α → Except ε β} {xs : List α} {ys : List β}
    (all : xs.mapM f = .ok ys) : ∀ x ∈ xs, ∃ y ∈ ys, f x = .ok y := by
  induction xs generalizing ys with
  | nil => exact fun x inside => absurd inside List.not_mem_nil
  | cons x rest ih =>
    obtain ⟨y, later, first, others, rfl⟩ := mapM_cons_ok all
    intro z inside
    rcases List.mem_cons.mp inside with rfl | inside
    · exact ⟨y, List.mem_cons_self, first⟩
    · obtain ⟨w, among, made⟩ := ih others z inside
      exact ⟨w, List.mem_cons_of_mem _ among, made⟩

/-- The attempt that failed comes behind some that succeeded. -/
theorem mapM_error {f : α → Except ε β} {xs : List α} {e : ε} (stopped : xs.mapM f = .error e) :
    ∃ before x after, xs = before ++ x :: after ∧ (∀ y ∈ before, ∃ made, f y = .ok made) ∧
      f x = .error e := by
  induction xs with
  | nil => cases stopped
  | cons x rest ih =>
    rw [List.mapM_cons] at stopped
    cases first : f x with
    | error other =>
      rw [first] at stopped
      cases stopped
      exact ⟨[], x, rest, rfl, fun _ inside => absurd inside List.not_mem_nil, first⟩
    | ok y =>
      cases later : rest.mapM f with
      | ok ys => rw [first, later] at stopped; cases stopped
      | error other =>
        rw [first, later] at stopped
        cases stopped
        obtain ⟨before, z, after, rfl, made, failed⟩ := ih later
        refine ⟨x :: before, z, after, rfl, ?_, failed⟩
        intro w inside
        rcases List.mem_cons.mp inside with rfl | inside
        · exact ⟨y, first⟩
        · exact made w inside

/-- Two attempts end alike: both give results that are related, or both fail with related errors. -/
inductive Alike {ε ε' α α' : Type} (faults : ε → ε' → Prop) (results : α → α' → Prop) :
    Except ε α → Except ε' α' → Prop
  | ok {a : α} {b : α'} (related : results a b) : Alike faults results (.ok a) (.ok b)
  | error {e : ε} {e' : ε'} (related : faults e e') : Alike faults results (.error e) (.error e')

namespace Alike

/-- An attempt ends as it does itself. -/
theorem refl (x : Except ε α) : Alike Eq Eq x x := by
  cases x with
  | ok a => exact .ok rfl
  | error e => exact .error rfl

variable {ε' α' β' : Type} {faults : ε → ε' → Prop}

theorem imp {results further : α → α' → Prop} {x : Except ε α} {y : Except ε' α'}
    (weaker : ∀ a b, results a b → further a b) (alike : Alike faults results x y) :
    Alike faults further x y := by
  cases alike with
  | ok related => exact .ok (weaker _ _ related)
  | error related => exact .error related

theorem bind {results : α → α' → Prop} {further : β → β' → Prop} {x : Except ε α} {y : Except ε' α'}
    {f : α → Except ε β} {g : α' → Except ε' β'} (first : Alike faults results x y)
    (later : ∀ a b, results a b → Alike faults further (f a) (g b)) :
    Alike faults further (x >>= f) (y >>= g) := by
  cases first with
  | ok related => exact later _ _ related
  | error related => exact .error related

/-- Attempts that end alike one by one do so as a list, and the results show what each was made of. -/
theorem mapM {f : α → Except ε β} {g : α → Except ε' β'} {part : α → γ} {shown : β → γ}
    {shown' : β' → γ} {xs : List α}
    (each : ∀ x ∈ xs, Alike faults (fun a b => shown a = part x ∧ shown' b = part x) (f x) (g x)) :
    Alike faults (fun as bs => as.map shown = xs.map part ∧ bs.map shown' = xs.map part)
      (xs.mapM f) (xs.mapM g) := by
  induction xs with
  | nil => exact .ok ⟨rfl, rfl⟩
  | cons x rest ih =>
    rw [List.mapM_cons, List.mapM_cons]
    refine (each x List.mem_cons_self).bind ?_
    rintro a b ⟨own, own'⟩
    refine (ih fun z inside => each z (List.mem_cons_of_mem _ inside)).bind ?_
    rintro as bs ⟨others, others'⟩
    refine .ok ⟨?_, ?_⟩
    · rw [List.map_cons, List.map_cons, own, others]
    · rw [List.map_cons, List.map_cons, own', others']

end Alike
end ChangelogViews
