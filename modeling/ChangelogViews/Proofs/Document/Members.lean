import ChangelogViews.Document.Value

/-!
# Members by name

What is found under a name behind each way of writing a list of members, and which names there are. A
member that is set again keeps its place and gets the new value (`names_setMember`, `member?_setMember`).
-/

namespace ChangelogViews

variable {α : Type}

theorem member?_cons (name other : String) (v : α) (rest : List (String × α)) :
    member? ((other, v) :: rest) name = if other = name then some v else member? rest name := by
  by_cases same : other = name
  · simp [member?, same]
  · simp [member?, same]

theorem member?_append (members others : List (String × α)) (name : String) :
    member? (members ++ others) name = (member? members name).or (member? others name) := by
  unfold member?
  rw [List.find?_append]
  cases members.find? (·.1 == name) with
  | none => rfl
  | some found => rfl

theorem member?_singleton (key : String) (value : α) (name : String) :
    member? [(key, value)] name = if key = name then some value else none :=
  member?_cons name key value []

theorem isSome_member? {members : List (String × α)} {name : String} :
    (member? members name).isSome = true ↔ name ∈ members.map Prod.fst := by
  simp [member?, List.find?_isSome, List.mem_map]

theorem names_setMember (members : List (String × α)) (name : String) (v : α) :
    (setMember members name v).map Prod.fst =
      if name ∈ members.map Prod.fst then members.map Prod.fst
      else members.map Prod.fst ++ [name] := by
  induction members with
  | nil => rfl
  | cons member rest ih =>
    obtain ⟨own, w⟩ := member
    unfold setMember
    by_cases same : own = name
    · simp [same]
    · have other : ¬ name = own := fun swapped => same swapped.symm
      simp only [same, if_false, List.map_cons, ih, List.mem_cons, other, false_or]
      split <;> rfl

theorem member?_setMember (members : List (String × α)) (name other : String) (v : α) :
    member? (setMember members name v) other =
      if name = other then some v else member? members other := by
  induction members with
  | nil => exact member?_singleton name v other
  | cons member rest ih =>
    obtain ⟨own, w⟩ := member
    unfold setMember
    by_cases same : own = name
    · subst same
      simp only [if_true, member?_cons]
      split <;> rfl
    · simp only [same, if_false, member?_cons, ih]
      by_cases asked : own = other
      · have differs : ¬ name = other := fun again => same (asked.trans again.symm)
        simp only [asked, if_true, differs, if_false]
      · simp only [asked, if_false]

/-- The members of other names do not show what was set. -/
theorem filter_setMember (members : List (String × α)) (name : String) (v : α) :
    (setMember members name v).filter (·.1 != name) = members.filter (·.1 != name) := by
  induction members with
  | nil => simp [setMember]
  | cons member rest ih =>
    obtain ⟨own, w⟩ := member
    unfold setMember
    by_cases same : own = name
    · simp [same]
    · simp only [same, if_false, List.filter_cons, ih]

/-- Setting a member goes on among those of other names than some third one. -/
theorem filter_setMember_other {name other : String} (differs : name ≠ other)
    (members : List (String × α)) (v : α) :
    (setMember members name v).filter (·.1 != other) =
      setMember (members.filter (·.1 != other)) name v := by
  induction members with
  | nil => simp [setMember, differs]
  | cons member rest ih =>
    obtain ⟨own, w⟩ := member
    rw [setMember]
    by_cases same : own = name
    · simp [same, differs, setMember]
    · by_cases gone : own = other
      · simp [gone, differs.symm, ih]
      · simp [same, gone, ih, setMember]

end ChangelogViews
