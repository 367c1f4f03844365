import ChangelogViews.Proofs.Batch.Submissions
import ChangelogViews.Store.BigQuery
import ChangelogViews.Store.DuckDb

/-!
# What is written to a database

A manager writes an entry for a view to its database or nothing, and the entry if it creates the view.
What it writes for a schema are therefore the entries of the views in order, up to the first view that
fails (`ViewManager.install_writes`). In DuckDB these are statements, in BigQuery ids and queries.
-/

namespace ChangelogViews

namespace ViewManager

variable {σ β : Type} {m : ViewManager σ} {dataset : String} {written : σ → List β}
  {entry : (view query : String) → β}

/-- For a view of a dataset the manager writes one entry or nothing, and the entry if it creates the
view. -/
def Writes (m : ViewManager σ) (dataset : String) (written : σ → List β)
    (entry : (view query : String) → β) : Prop :=
  ∀ state view query, ∃ more,
    written (m.create state dataset view query).state = written state ++ more ∧
      more <+: [entry view query] ∧
      ((m.create state dataset view query).result = .ok () → more = [entry view query])

theorem installEach_writes (writes : m.Writes dataset written entry) (result : SchemaResult) (state : σ)
    (stages : List (View × Stage)) :
    ∃ more, written (m.installEach dataset result state stages).state = written state ++ more ∧
      more <+: stages.map (fun s => entry s.1.name s.1.sql) ∧
      ((m.installEach dataset result state stages).result.2 = none →
        more = stages.map fun s => entry s.1.name s.1.sql) := by
  induction stages generalizing result state with
  | nil => exact ⟨[], (List.append_nil _).symm, List.nil_prefix, fun _ => rfl⟩
  | cons first rest ih =>
    obtain ⟨view, stage⟩ := first
    obtain ⟨more, kept, least, all⟩ := writes state view.name view.sql
    simp only [installEach, submit]
    cases replied : (m.create state dataset view.name view.sql).result with
    | error failure =>
      have shorter : more <+: entry view.name view.sql :: rest.map fun s => entry s.1.name s.1.sql :=
        least.trans (List.prefix_append [_] _)
      cases failure <;> exact ⟨more, kept, shorter, fun ended => absurd ended (Option.some_ne_none _)⟩
    | ok done =>
      obtain rfl := all replied
      obtain ⟨later, kept', least', all'⟩ := ih (result.advance view.name stage)
        (m.create state dataset view.name view.sql).state
      refine ⟨entry view.name view.sql :: later, ?_, ?_, ?_⟩
      · rw [kept, List.append_assoc] at kept'
        exact kept'
      · exact (List.prefix_cons_inj _).mpr least'
      · exact fun ended => congrArg _ (all' ended)

theorem install_writes (writes : m.Writes dataset written entry) (views : SchemaViews) (state : σ) :
    ∃ more, written (m.install dataset views state).state = written state ++ more ∧
      more <+: views.all.map (fun view => entry view.name view.sql) ∧
      ((m.install dataset views state).result.2 = none →
        more = views.all.map fun view => entry view.name view.sql) := by
  obtain ⟨more, kept, least, all⟩ :=
    installEach_writes writes (.start views.schema) state views.stages
  have entries : (views.stages.map fun s => entry s.1.name s.1.sql) =
      views.all.map fun view => entry view.name view.sql := by
    rw [← views.views_of_stages, List.map_map]
    rfl
  rw [entries] at least all
  unfold install
  generalize m.installEach dataset (.start views.schema) state views.stages = run at kept all
  obtain ⟨state', logs, result, stop⟩ := run
  cases stop with
  | none => exact ⟨more, kept, least, all⟩
  | some failure => exact ⟨more, kept, least, fun ended => absurd ended (Option.some_ne_none _)⟩

end ViewManager

namespace DuckDb

variable {σ : Type}

theorem manager_writes (connection : Connection σ) (dataset : String) :
    (manager connection).Writes dataset Session.events
      fun view query => .executed (createStatement dataset view query) := by
  intro session view query
  refine ⟨[.executed (createStatement dataset view query)], ?_, List.prefix_rfl, fun _ => rfl⟩
  simp only [manager]
  cases (connection.execute session.database (createStatement dataset view query)).1 with
  | ok done => rfl
  | error refusal => cases refusal <;> rfl

end DuckDb

namespace BigQuery

variable {σ α β : Type}

/-- The id and the query of a view that a request writes. -/
def Request.write? : Request → Option (String × String)
  | .create id query => some (id, query)
  | .update id query => some (id, query)
  | _ => none

/-- The views that were written in a session. -/
def Session.writes (session : Session σ) : List (String × String) :=
  session.sent.filterMap Request.write?

namespace Dialog

private theorem bind_apply (x : StateM (Session σ) α) (f : α → StateM (Session σ) β)
    (session : Session σ) : (x >>= f) session = f (x session).1 (x session).2 := rfl

theorem run_bind (d : Dialog σ α) (f : α → Dialog σ β) (session : Session σ) :
    (d >>= f).run session = match d.run session with
      | (.ok a, next) => (f a).run next
      | (.error refusal, next) => (.error refusal, next) := by
  rw [ExceptT.run_bind, bind_apply]
  rcases d.run session with ⟨reply, next⟩
  cases reply <;> rfl

theorem run_tryCatch (d : Dialog σ α) (f : Refusal → Dialog σ α) (session : Session σ) :
    (tryCatch d f).run session = match d.run session with
      | (.ok a, next) => (.ok a, next)
      | (.error refusal, next) => (f refusal).run next := by
  rw [ExceptT.run_tryCatch, bind_apply]
  rcases d.run session with ⟨reply, next⟩
  cases reply <;> rfl

theorem writes_send (request : Request) (answer : σ → Except Refusal α × σ) (session : Session σ) :
    ((send request answer).run session).2.writes = session.writes ++ request.write?.toList := by
  change (session.sent ++ [request]).filterMap Request.write? = _
  rw [List.filterMap_append]
  cases request <;> rfl

/-- Nothing is written. -/
def Quiet (d : Dialog σ α) : Prop := ∀ session, (d.run session).2.writes = session.writes

theorem Quiet.bind {d : Dialog σ α} {f : α → Dialog σ β} (quiet : d.Quiet)
    (later : ∀ a, (f a).Quiet) : Quiet (d >>= f) := by
  intro session
  rw [run_bind]
  have first := quiet session
  generalize d.run session = reply at first
  obtain ⟨refusal | a, next⟩ := reply
  · exact first
  · exact (later a next).trans first

theorem Quiet.tryCatch {d : Dialog σ α} {f : Refusal → Dialog σ α} (quiet : d.Quiet)
    (later : ∀ refusal, (f refusal).Quiet) : Quiet (tryCatch d f) := by
  intro session
  rw [run_tryCatch]
  have first := quiet session
  generalize d.run session = reply at first
  obtain ⟨refusal | a, next⟩ := reply
  · exact (later refusal next).trans first
  · exact first

theorem Quiet.send {request : Request} (silent : request.write? = none)
    (answer : σ → Except Refusal α × σ) : Quiet (send request answer) := by
  intro session
  rw [writes_send, silent]
  exact List.append_nil _

theorem connect_quiet (remote : Remote σ) (project : String) : Quiet (connect remote project) := by
  refine Quiet.bind (fun _ => rfl) fun session => ?_
  cases session.connected with
  | true => exact fun _ => rfl
  | false => exact (Quiet.send rfl _).bind fun _ _ => rfl

theorem lookUp_quiet (remote : Remote σ) (project id : String) : Quiet (lookUp remote project id) := by
  refine Quiet.tryCatch ?_ fun refusal => ?_
  · exact (connect_quiet remote project).bind fun _ => (Quiet.send rfl _).bind fun _ _ => rfl
  · cases refusal with
    | status code message =>
      simp only
      split
      · exact fun _ => rfl
      · exact fun _ => rfl
    | credentials message => exact fun _ => rfl
    | foreign failure => exact fun _ => rfl

/-- Every result has the property. -/
def Gives (d : Dialog σ α) (p : α → Prop) : Prop := ∀ session a, (d.run session).1 = .ok a → p a

theorem Gives.bind {d : Dialog σ α} {f : α → Dialog σ β} {p : β → Prop}
    (later : ∀ a, (f a).Gives p) : Gives (d >>= f) p := by
  intro session b given
  rw [run_bind] at given
  generalize d.run session = reply at given
  obtain ⟨refusal | a, next⟩ := reply
  · cases given
  · exact later a next b given

theorem Gives.map {d : Dialog σ α} {p : α → Prop} {q : β → Prop} {f : α → β} (gives : d.Gives p)
    (keeps : ∀ a, p a → q (f a)) : Gives (do return f (← d)) q := by
  intro session b given
  rw [run_bind] at given
  have first := gives session
  generalize d.run session = reply at given first
  obtain ⟨refusal | a, next⟩ := reply
  · cases given
  · cases given
    exact keeps a (first a rfl)

theorem Gives.tryCatch {d : Dialog σ α} {f : Refusal → Dialog σ α} {p : α → Prop} (gives : d.Gives p)
    (later : ∀ refusal, (f refusal).Gives p) : Gives (tryCatch d f) p := by
  intro session a given
  rw [run_tryCatch] at given
  have first := gives session
  generalize d.run session = reply at given first
  obtain ⟨refusal | b, next⟩ := reply
  · exact later refusal next a given
  · exact first a given

/-- A look-up gives the table of the id or none. -/
theorem lookUp_gives {remote : Remote σ} (finds : remote.FindsAsked) (project id : String) :
    (lookUp remote project id).Gives fun found => ∀ table ∈ found, table.id = id := by
  refine Gives.tryCatch ?_ fun refusal => ?_
  · refine Gives.bind fun _ => ?_
    have got : (send (.get id) (remote.getTable · id)).Gives fun table => table.id = id :=
      fun session table given => finds session.remote id table given
    refine got.map fun table same => ?_
    rintro _ ⟨⟩
    exact same
  · cases refusal with
    | status code message =>
      simp only
      split
      · rintro session found ⟨⟩
        exact nofun
      · exact nofun
    | credentials message => exact nofun
    | foreign failure => exact nofun

/-- One view is written or nothing, and the view if the result is one of those that tell so. -/
def Writes (d : Dialog σ α) (entry : String × String) (tells : α → Prop) : Prop :=
  ∀ session, ∃ more, (d.run session).2.writes = session.writes ++ more ∧ more <+: [entry] ∧
    ∀ a, (d.run session).1 = .ok a → tells a → more = [entry]

theorem Quiet.bind_writes {d : Dialog σ α} {f : α → Dialog σ β} {entry : String × String}
    {p : α → Prop} {tells : β → Prop} (quiet : d.Quiet) (gives : d.Gives p)
    (later : ∀ a, p a → (f a).Writes entry tells) : Writes (d >>= f) entry tells := by
  intro session
  rw [run_bind]
  have first := quiet session
  have given := gives session
  generalize d.run session = reply at first given
  obtain ⟨refusal | a, next⟩ := reply
  · exact ⟨[], first.trans (List.append_nil _).symm, List.nil_prefix, nofun⟩
  · obtain ⟨more, kept, least, all⟩ := later a (given a rfl) next
    exact ⟨more, kept.trans (congrArg (· ++ more) first), least, all⟩

theorem writes_of_silence {d : Dialog σ α} {entry : String × String} {tells : α → Prop}
    (quiet : d.Quiet) (silent : d.Gives fun a => ¬ tells a) : Writes d entry tells :=
  fun session => ⟨[], (quiet session).trans (List.append_nil _).symm, List.nil_prefix,
    fun a given told => absurd told (silent session a given)⟩

theorem writes_of_send {request : Request} {entry : String × String}
    (written : request.write? = some entry) (answer : σ → Except Refusal Unit × σ) (b : β)
    (tells : β → Prop) :
    Writes (do send request answer; return b) entry tells := by
  intro session
  have kept := writes_send request answer session
  rw [written] at kept
  refine ⟨[entry], ?_, List.prefix_rfl, fun _ _ _ => rfl⟩
  rw [run_bind, ← Option.toList_some, ← kept]
  rcases (send request answer).run session with ⟨refusal | a, next⟩ <;> rfl

end Dialog

/-- The view was created or updated. -/
def Change.Wrote (change : Change) : Prop := change = .created ∨ change = .updated

/-- One request over a connection. -/
theorem Dialog.writes_of_request (remote : Remote σ) (project : String) {request : Request}
    {entry : String × String} (written : request.write? = some entry)
    (answer : σ → Except Refusal Unit × σ) (change : Change) :
    (do connect remote project; send request answer; return change : Dialog σ Change).Writes entry
      Change.Wrote :=
  (connect_quiet remote project).bind_writes (fun _ _ _ => trivial) fun _ _ =>
    writes_of_send written answer change Change.Wrote

theorem createOrReplace_writes {remote : Remote σ} (finds : remote.FindsAsked)
    (project id query : String) :
    (createOrReplace remote project id query).Writes (id, query) Change.Wrote := by
  refine (Dialog.lookUp_quiet remote project id).bind_writes
    (Dialog.lookUp_gives finds project id) fun found asked => ?_
  cases found with
  | none =>
    cases made : remote.newTable id with
    | error failure =>
      simp only
      exact Dialog.writes_of_silence (fun _ => rfl) nofun
    | ok done =>
      simp only
      exact Dialog.writes_of_request remote project rfl _ .created
  | some table =>
    obtain rfl := asked table rfl
    by_cases view : table.type = "VIEW"
    · simp only [view, ne_eq, not_true, if_false]
      exact Dialog.writes_of_request remote project rfl _ .updated
    · simp only [ne_eq, view, not_false_eq_true, if_true]
      refine Dialog.writes_of_silence (fun _ => rfl) ?_
      rintro session change ⟨⟩ (created | updated)
      · cases created
      · cases updated

theorem manager_writes {remote : Remote σ} (finds : remote.FindsAsked) (project dataset : String) :
    (manager remote project).Writes dataset Session.writes
      fun view query => (viewId project dataset view, query) := by
  intro session view query
  obtain ⟨more, kept, least, all⟩ :=
    createOrReplace_writes finds project (viewId project dataset view) query session
  simp only [manager]
  generalize (createOrReplace remote project (viewId project dataset view) query).run session = reply
    at kept all
  refine ⟨more, ?_, least, ?_⟩
  · rcases reply with ⟨_ | _ | _ | _, next⟩ <;> exact kept
  · rcases reply with ⟨_ | _ | _ | _, next⟩
    · exact nofun
    · exact fun _ => all _ rfl (.inl rfl)
    · exact fun _ => all _ rfl (.inr rfl)
    · exact nofun

end BigQuery
end ChangelogViews
