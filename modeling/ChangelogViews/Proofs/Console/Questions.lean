import ChangelogViews.Console.Question
import ChangelogViews.Proofs.Config.Settings
import ChangelogViews.Proofs.Views.Keys

/-!
# Answers to questions

A question is answered by the first line whose answer is accepted (`Question.Answered`). What is typed is
cut at both ends and so follows its rule to the end once it is accepted, but the fallback is taken as it
is: it may end in a line feed, which the rule passes over (`Question.Answered.exactly_or_feed`).
-/

namespace ChangelogViews

/-- The last character is a line feed. -/
def EndsInFeed (name : String) : Prop := name.toList.getLast? = some '\n'

instance : DecidablePred EndsInFeed := fun _ => inferInstanceAs (Decidable (_ = _))

namespace NameRule

/-- Without a line feed at the end there is nothing that a rule could pass over. -/
theorem exactly_of_accepts {rule : NameRule} {name : String} (accepted : rule.accepts name = true)
    (plain : ¬ EndsInFeed name) : rule.acceptsExactly name = true := by
  rw [accepts, Bool.or_eq_true] at accepted
  rcases accepted with whole | before
  · exact whole
  · rcases beforeFeed_cases name.toList with same | fed
    · rwa [same] at before
    · refine absurd ?_ plain
      rw [EndsInFeed, fed, List.getLast?_concat]

/-- A line feed is allowed in a segment, so it is no matter whether one is passed over. -/
theorem segment_exactly_of_accepts {name : String} (accepted : segment.accepts name = true) :
    segment.acceptsExactly name = true := by
  rw [accepts, Bool.or_eq_true] at accepted
  rcases accepted with whole | before
  · exact whole
  · rcases beforeFeed_cases name.toList with same | fed
    · rwa [same] at before
    · simp only [holds, Bool.and_eq_true, List.all_eq_true] at before
      rw [acceptsExactly, fed]
      simp only [holds, Bool.and_eq_true, List.all_eq_true]
      refine ⟨by simp, fun c inside => ?_⟩
      rcases List.mem_append.mp inside with inside | inside
      · exact before.2 c inside
      · rw [List.mem_singleton.mp inside]
        decide

theorem not_endsInFeed_of_project {name : String} (follows : project.acceptsExactly name = true) :
    ¬ EndsInFeed name := fun fed =>
  absurd (isProjectChar_of_project follows (List.mem_of_getLast? fed)) (by decide)

end NameRule

theorem not_endsInFeed_trim (line : String) : ¬ EndsInFeed (Text.trim line) := by
  intro fed
  simp only [EndsInFeed, Text.trim, String.toList_ofList, Text.trimEnd, List.getLast?_reverse] at fed
  have plain := List.head?_dropWhile_not Text.isBlank (line.toList.dropWhile Text.isBlank).reverse
  rw [fed] at plain
  exact absurd plain (by decide)

namespace Question

variable {q : Question} {rule : NameRule} {replies rest rest' : List Reply} {answer answer' : String}

/-- Only a fallback can end in a line feed. -/
theorem fallback_of_feed {line : String} (fed : EndsInFeed (q.answer line)) :
    q.fallback = some (q.answer line) := by
  unfold Question.answer at *
  by_cases blank : Text.trim line = ""
  · simp only [blank, if_true] at fed ⊢
    cases given : q.fallback with
    | none => rw [given] at fed; cases fed
    | some fallback => rfl
  · simp only [blank, if_false] at fed
    exact absurd fed (not_endsInFeed_trim line)

theorem accepts_of_objection? (ruled : q.rule = some rule) (fine : q.objection? answer = none) :
    rule.accepts answer = true := by
  rw [objection?, ruled, Option.bind_some, NameRule.objection?] at fine
  split at fine
  · cases fine
  · split at fine
    · assumption
    · cases fine

/-- A question gets an answer from the front of some replies: that of the first line to which nothing is to
be objected. -/
inductive Answered (q : Question) : List Reply → String → List Reply → Prop
  | accepted {line : String} {rest : List Reply} (fine : q.objection? (q.answer line) = none) :
      Answered q (.line line :: rest) (q.answer line) rest
  | again {line answer : String} {later rest : List Reply} {objection : Objection}
      (objected : q.objection? (q.answer line) = some objection) (further : Answered q later answer rest) :
      Answered q (.line line :: later) answer rest

theorem askFrom_ok_iff {said : List Shown} :
    (∃ shown, q.askFrom said replies = (.ok answer, ⟨shown, rest⟩)) ↔
      q.Answered replies answer rest := by
  induction replies generalizing said with
  | nil =>
    constructor
    · rintro ⟨shown, ⟨⟩⟩
    · nofun
  | cons reply later ih =>
    cases reply with
    | interrupt =>
      constructor
      · rintro ⟨shown, ⟨⟩⟩
      · nofun
    | line line =>
      unfold askFrom
      cases objected : q.objection? (q.answer line) with
      | none =>
        constructor
        · rintro ⟨shown, ⟨⟩⟩
          exact .accepted objected
        · intro answered
          cases answered with
          | accepted fine => exact ⟨_, rfl⟩
          | again other further => rw [objected] at other; cases other
      | some objection =>
        constructor
        · exact fun done => .again objected (ih.mp done)
        · intro answered
          cases answered with
          | accepted fine => rw [objected] at fine; cases fine
          | again other further => exact ih.mpr further

namespace Answered

/-- The answer is that of a line. -/
theorem line (answered : q.Answered replies answer rest) :
    ∃ line, q.answer line = answer ∧ q.objection? answer = none := by
  induction answered with
  | accepted fine => exact ⟨_, rfl, fine⟩
  | again objected further ih => exact ih

/-- A blank line takes the fallback if nothing is to be objected to it. -/
theorem eq_of_accepted {line : String} {later : List Reply}
    (answered : q.Answered (.line line :: later) answer rest)
    (fine : q.objection? (q.answer line) = none) : answer = q.answer line ∧ rest = later := by
  cases answered with
  | accepted _ => exact ⟨rfl, rfl⟩
  | again objected _ => rw [fine] at objected; cases objected

theorem unique (answered : q.Answered replies answer rest) (other : q.Answered replies answer' rest') :
    answer' = answer ∧ rest' = rest := by
  induction answered with
  | accepted fine => exact other.eq_of_accepted fine
  | again objected further ih =>
    cases other with
    | accepted fine => rw [objected] at fine; cases fine
    | again _ further => exact ih further

theorem accepts (answered : q.Answered replies answer rest) (ruled : q.rule = some rule) :
    rule.accepts answer = true := by
  obtain ⟨_, _, fine⟩ := answered.line
  exact accepts_of_objection? ruled fine

/-- The answer follows the rule to its end, or it is the fallback and ends in a line feed. -/
theorem exactly_or_feed (answered : q.Answered replies answer rest) (ruled : q.rule = some rule) :
    rule.acceptsExactly answer = true ∨ EndsInFeed answer ∧ q.fallback = some answer := by
  by_cases fed : EndsInFeed answer
  · obtain ⟨line, rfl, _⟩ := answered.line
    exact .inr ⟨fed, fallback_of_feed fed⟩
  · exact .inl (NameRule.exactly_of_accepts (answered.accepts ruled) fed)

/-- Where the fallback follows the rule to its end, so does the answer. -/
theorem exactly (answered : q.Answered replies answer rest) (ruled : q.rule = some rule)
    (fits : rule.Fits q.fallback) : rule.acceptsExactly answer = true := by
  rcases answered.exactly_or_feed ruled with follows | ⟨_, fallback⟩
  · exact follows
  · exact fits answer fallback

end Answered
end Question

theorem Question.ask_ok_iff {q : Question} (console : Console) {answer : String} {rest : List Reply} :
    (∃ shown, q.ask.run console = (.ok answer, ⟨shown, rest⟩)) ↔
      q.Answered console.replies answer rest :=
  askFrom_ok_iff

theorem Asking.bind_ok_iff {α β : Type} {x : Asking α} {f : α → Asking β} {b : β}
    {console last : Console} :
    (x >>= f).run console = (.ok b, last) ↔
      ∃ a next, x.run console = (.ok a, next) ∧ (f a).run next = (.ok b, last) := by
  have run_bind : (x >>= f).run console = match x.run console with
      | (.ok a, next) => (f a).run next
      | (.error silence, next) => (.error silence, next) := by
    change (ExceptT.bindCont f (x.run console).1) (x.run console).2 = _
    rcases x.run console with ⟨_ | a, next⟩ <;> rfl
  rw [run_bind]
  rcases x.run console with ⟨silence | a, next⟩
  · constructor
    · nofun
    · rintro ⟨_, _, ⟨⟩, _⟩
  · constructor
    · exact fun done => ⟨a, next, rfl, done⟩
    · rintro ⟨_, _, ⟨⟩, done⟩
      exact done

end ChangelogViews
