import ChangelogViews.Proofs.Store.Written

/-!
# Exchanges with BigQuery

What a session asks is answered by the other side, request by request. The exchanges about one view
take a course that is fixed but for the answers: the connection unless there is one, the look-up of the
view (`LookedUp`), and one request that writes it where the look-up allows for one (`Placed`). This is
all that is ever asked about a view, if a get brings the table that was asked for
(`createOrReplace_goes`).
-/

namespace ChangelogViews.BigQuery

variable {σ α : Type}

/-- The request is about a table. -/
def Request.isOfTable : Request → Bool
  | .connect _ => false
  | _ => true

/-- What a request is answered. -/
inductive Answer where
  | accepted
  | found (table : TableInfo)
  | refused (refusal : Refusal)
  deriving DecidableEq, Repr

/-- The answer in a reply that brings a value if it is no refusal. -/
def Answer.of (brought : α → Answer) : Except Refusal α → Answer
  | .ok a => brought a
  | .error refusal => .refused refusal

/-- The answer in a reply that brings nothing. -/
def Answer.ofUnit (reply : Except Refusal Unit) : Answer := .of (fun _ => .accepted) reply

/-- A request and its answer. -/
structure Exchange where
  request : Request
  answer : Answer
  deriving DecidableEq, Repr

/-- What the other side answers in some state, and its next state. -/
def Remote.answer (remote : Remote σ) (state : σ) : Request → Answer × σ
  | .connect project => (remote.connect state project).map Answer.ofUnit id
  | .get name => (remote.getTable state name).map (Answer.of .found) id
  | .create name query => (remote.createTable state name query).map Answer.ofUnit id
  | .update name query => (remote.updateTable state name query).map Answer.ofUnit id

/-- The other side answers some requests in order, and they lead it from one state to another. -/
inductive Remote.Answers (remote : Remote σ) : σ → List Exchange → σ → Prop
  | nil (state : σ) : Answers remote state [] state
  | cons {state last : σ} (request : Request) {later : List Exchange}
      (behind : Answers remote (remote.answer state request).2 later last) :
      Answers remote state (⟨request, (remote.answer state request).1⟩ :: later) last

theorem Remote.Answers.append {remote : Remote σ} {state next last : σ} {asked later : List Exchange}
    (first : remote.Answers state asked next) (behind : remote.Answers next later last) :
    remote.Answers state (asked ++ later) last := by
  induction first with
  | nil => exact behind
  | cons request _ ih => exact .cons request (ih behind)

/-- The refusal of the look-up of a table that is not there. -/
def Refusal.isMissing : Refusal → Bool
  | .status code _ => code = notFound
  | _ => false

theorem Refusal.isMissing_iff {refusal : Refusal} :
    refusal.isMissing = true ↔ ∃ message, refusal = .status notFound message := by
  constructor
  · intro missing
    cases refusal with
    | status code message => exact ⟨message, congrArg (Refusal.status · message) (of_decide_eq_true missing)⟩
    | credentials message => cases missing
    | foreign failure => cases missing
  · rintro ⟨message, rfl⟩
    rfl

/-- A connection never fails the way that a missing table does. -/
def Remote.ConnectsPlainly (remote : Remote σ) : Prop :=
  ∀ state project refusal, (remote.connect state project).1 = .error refusal →
    refusal.isMissing = false

/-- What a session asked since it was another one, and was answered. -/
structure Session.AskedSince (remote : Remote σ) (session before : Session σ) (asked : List Exchange) :
    Prop where
  sent : session.sent = before.sent ++ asked.map Exchange.request
  answered : remote.Answers before.remote asked session.remote

theorem Session.AskedSince.nothing (remote : Remote σ) (session : Session σ) :
    session.AskedSince remote session [] := ⟨(List.append_nil _).symm, .nil _⟩

theorem Session.AskedSince.trans {remote : Remote σ} {session middle before : Session σ}
    {asked later : List Exchange} (behind : session.AskedSince remote middle later)
    (first : middle.AskedSince remote before asked) : session.AskedSince remote before (asked ++ later) := by
  refine ⟨?_, first.answered.append behind.answered⟩
  rw [behind.sent, first.sent, List.map_append, List.append_assoc]

/-- One more request behind others. -/
theorem Session.AskedSince.concat {remote : Remote σ} {session before : Session σ}
    {asked : List Exchange} (so_far : session.AskedSince remote before asked) (request : Request)
    {answer : Answer} (answered : (remote.answer session.remote request).1 = answer)
    (connected : Bool) :
    AskedSince remote
      ⟨connected, session.sent ++ [request], (remote.answer session.remote request).2⟩ before
      (asked ++ [⟨request, answer⟩]) := by
  subst answered
  refine ⟨?_, so_far.answered.append (.cons request (.nil _))⟩
  rw [so_far.sent, List.append_assoc, List.map_append]
  rfl

/-- A course that exchanges may take: whether there is a connection before, what is asked and answered,
whether there is a connection behind, and the result. -/
abbrev Course (α : Type) := Bool → List Exchange → Bool → Except Refusal α → Prop

/-- Whatever the session, what a dialog asks and is answered takes the course. -/
def Dialog.Goes (remote : Remote σ) (d : Dialog σ α) (course : Course α) : Prop :=
  ∀ session, ∃ asked, (d.run session).2.AskedSince remote session asked ∧
    course session.connected asked (d.run session).2.connected (d.run session).1

theorem Dialog.run_send (request : Request) (reply : σ → Except Refusal α × σ) (session : Session σ) :
    (send request reply).run session = ((reply session.remote).1,
      { session with sent := session.sent ++ [request], remote := (reply session.remote).2 }) := rfl

/-- What is asked before the first request about a table. -/
inductive Opening (project : String) : Bool → List Exchange → Prop
  | already : Opening project true []
  | now : Opening project false [⟨.connect project, .accepted⟩]

/-- Making sure of a connection. -/
inductive Connected (project : String) : Course Unit
  | opened {connected : Bool} {opening : List Exchange} (opens : Opening project connected opening) :
      Connected project connected opening true (.ok ())
  | refused {refusal : Refusal} (plain : refusal.isMissing = false) :
      Connected project false [⟨.connect project, .refused refusal⟩] false (.error refusal)

theorem Dialog.run_connect (remote : Remote σ) (project : String) (sent : List Request) (state : σ) :
    (connect remote project).run ⟨false, sent, state⟩ =
      match remote.connect state project with
      | (.ok (), next) => (.ok (), ⟨true, sent ++ [.connect project], next⟩)
      | (.error refusal, next) => (.error refusal, ⟨false, sent ++ [.connect project], next⟩) := by
  have run : (connect remote project).run ⟨false, sent, state⟩ =
      (do send (.connect project) (remote.connect · project)
          modify ({ · with connected := true }) : Dialog σ Unit).run ⟨false, sent, state⟩ := rfl
  rw [run, run_bind, run_send]
  rcases remote.connect state project with ⟨_ | _, next⟩
  · rfl
  · rfl

theorem connect_goes {remote : Remote σ} (plainly : remote.ConnectsPlainly) (project : String) :
    (Dialog.connect remote project).Goes remote (Connected project) := by
  rintro ⟨connected, sent, state⟩
  have start := Session.AskedSince.nothing remote ⟨connected, sent, state⟩
  cases connected with
  | true => exact ⟨[], start, .opened .already⟩
  | false =>
    rw [Dialog.run_connect]
    have asks := start.concat (.connect project) rfl
    simp only [Remote.answer, Prod.map_fst, Prod.map_snd, id_eq] at asks
    cases replied : remote.connect state project with
    | mk reply next =>
    rw [replied] at asks
    cases reply with
    | ok done => exact ⟨_, asks true, .opened .now⟩
    | error refusal =>
      exact ⟨_, asks false, .refused (plainly state project refusal (congrArg Prod.fst replied))⟩

/-- Looking for a view: the table of its id, or none where it is missing. -/
inductive LookedUp (project id : String) : Course (Option TableInfo)
  | unconnected {refusal : Refusal} (plain : refusal.isMissing = false) :
      LookedUp project id false [⟨.connect project, .refused refusal⟩] false (.error refusal)
  | refused {connected : Bool} {opening : List Exchange} {refusal : Refusal}
      (opens : Opening project connected opening) (plain : refusal.isMissing = false) :
      LookedUp project id connected (opening ++ [⟨.get id, .refused refusal⟩]) true (.error refusal)
  | missing {connected : Bool} {opening : List Exchange} (opens : Opening project connected opening)
      (message : String) :
      LookedUp project id connected (opening ++ [⟨.get id, .refused (.status notFound message)⟩]) true
        (.ok none)
  | found {connected : Bool} {opening : List Exchange} (opens : Opening project connected opening)
      (type : String) :
      LookedUp project id connected (opening ++ [⟨.get id, .found ⟨id, type⟩⟩]) true
        (.ok (some ⟨id, type⟩))

/-- What a refusal means for a look-up. -/
def Refusal.excused (refusal : Refusal) : Except Refusal (Option TableInfo) :=
  if refusal.isMissing then .ok none else .error refusal

theorem Refusal.excused_plain {refusal : Refusal} (plain : refusal.isMissing = false) :
    refusal.excused = .error refusal := if_neg (Bool.eq_false_iff.mp plain)

theorem Dialog.run_lookUp (remote : Remote σ) (project id : String) (session : Session σ) :
    (lookUp remote project id).run session =
      match (connect remote project).run session with
      | (.ok (), next) =>
        let last := { next with
          sent := next.sent ++ [.get id], remote := (remote.getTable next.remote id).2 }
        match (remote.getTable next.remote id).1 with
        | .ok table => (.ok (some table), last)
        | .error refusal => (refusal.excused, last)
      | (.error refusal, next) => (refusal.excused, next) := by
  have excuses : ∀ (refusal : Refusal) (next : Session σ),
      ((match refusal with
        | .status code message => if code = notFound then return none else throw (.status code message)
        | other => throw other) : Dialog σ (Option TableInfo)).run next = (refusal.excused, next) := by
    rintro (⟨code, message⟩ | _ | _) next
    · by_cases missing : code = notFound
      · subst missing
        rfl
      · have plain : (Refusal.status code message).isMissing = false := decide_eq_false missing
        rw [Refusal.excused_plain plain]
        simp only [missing, if_false]
        rfl
    · rfl
    · rfl
  unfold lookUp
  rw [run_tryCatch, run_bind]
  rcases (connect remote project).run session with ⟨refusal | done, next⟩
  · exact excuses refusal next
  · simp only [run_bind, run_send]
    cases (remote.getTable next.remote id).1 with
    | ok table => rfl
    | error refusal => exact excuses refusal _

theorem lookUp_goes {remote : Remote σ} (plainly : remote.ConnectsPlainly)
    (finds : remote.FindsAsked) (project id : String) :
    (Dialog.lookUp remote project id).Goes remote (LookedUp project id) := by
  rintro ⟨connected, sent, state⟩
  obtain ⟨opening, opened, went⟩ := connect_goes plainly project ⟨connected, sent, state⟩
  rw [Dialog.run_lookUp]
  generalize (Dialog.connect remote project).run ⟨connected, sent, state⟩ = run at opened went
  obtain ⟨reply, connected', sent', state'⟩ := run
  cases went with
  | refused plain =>
    simp only [Refusal.excused_plain plain]
    exact ⟨_, opened, .unconnected plain⟩
  | opened opens =>
    have asks := opened.concat (.get id) rfl true
    simp only [Remote.answer, Prod.map_fst, Prod.map_snd, id_eq] at asks
    cases found : (remote.getTable state' id).1 with
    | ok table =>
      obtain ⟨name, type⟩ := table
      obtain rfl : name = id := finds state' id _ found
      simp only [found] at asks ⊢
      exact ⟨_, asks, .found opens type⟩
    | error refusal =>
      simp only [found] at asks ⊢
      refine ⟨_, asks, ?_⟩
      cases missing : refusal.isMissing with
      | true =>
        obtain ⟨message, rfl⟩ := Refusal.isMissing_iff.mp missing
        exact .missing opens message
      | false =>
        rw [Refusal.excused_plain missing]
        exact .refused opens missing

/-- What is asked about a view: the look-up, and one request that writes the view if it is missing or a
view is there. A missing view is not asked for if the library refuses to make a new table. -/
inductive Placed (newTable : String → Except Foreign Unit) (project id query : String) : Course Change
  | stopped {connected connected' : Bool} {asked : List Exchange} {refusal : Refusal}
      (looked : LookedUp project id connected asked connected' (.error refusal)) :
      Placed newTable project id query connected asked connected' (.error refusal)
  | unnamed {connected : Bool} {asked : List Exchange} {failure : Foreign}
      (looked : LookedUp project id connected asked true (.ok none)) (made : newTable id = .error failure) :
      Placed newTable project id query connected asked true (.error (.foreign failure))
  | create {connected : Bool} {asked : List Exchange}
      (looked : LookedUp project id connected asked true (.ok none)) (made : newTable id = .ok ())
      (reply : Except Refusal Unit) :
      Placed newTable project id query connected (asked ++ [⟨.create id query, .ofUnit reply⟩]) true
        (reply.map fun _ => .created)
  | occupied {connected : Bool} {asked : List Exchange} {type : String}
      (looked : LookedUp project id connected asked true (.ok (some ⟨id, type⟩))) (other : type ≠ "VIEW") :
      Placed newTable project id query connected asked true (.ok (.occupied type))
  | update {connected : Bool} {asked : List Exchange}
      (looked : LookedUp project id connected asked true (.ok (some ⟨id, "VIEW"⟩)))
      (reply : Except Refusal Unit) :
      Placed newTable project id query connected (asked ++ [⟨.update id query, .ofUnit reply⟩]) true
        (reply.map fun _ => .updated)

/-- One request over a connection that is there. -/
theorem Dialog.run_write (remote : Remote σ) (project : String) (request : Request)
    (reply : σ → Except Refusal Unit × σ) (change : Change) (sent : List Request) (state : σ) :
    (do connect remote project; send request reply; return change : Dialog σ Change).run
      ⟨true, sent, state⟩ =
        ((reply state).1.map fun _ => change, ⟨true, sent ++ [request], (reply state).2⟩) := by
  have open_already : (connect remote project).run ⟨true, sent, state⟩ = (.ok (), ⟨true, sent, state⟩) :=
    rfl
  rw [run_bind, open_already]
  simp only [run_bind, run_send]
  cases (reply state).1 with
  | ok done => rfl
  | error refusal => rfl

theorem createOrReplace_goes {remote : Remote σ} (plainly : remote.ConnectsPlainly)
    (finds : remote.FindsAsked) (project id query : String) :
    (createOrReplace remote project id query).Goes remote
      (Placed remote.newTable project id query) := by
  rintro ⟨connected, sent, state⟩
  obtain ⟨asked, looked, went⟩ := lookUp_goes plainly finds project id ⟨connected, sent, state⟩
  unfold createOrReplace
  rw [Dialog.run_bind]
  generalize (Dialog.lookUp remote project id).run ⟨connected, sent, state⟩ = run at looked went
  obtain ⟨refusal | found, connected', sent', state'⟩ := run
  · exact ⟨asked, looked, .stopped went⟩
  obtain rfl : connected' = true := by cases went <;> rfl
  cases found with
  | none =>
    cases made : remote.newTable id with
    | error failure =>
      simp only
      exact ⟨asked, looked, .unnamed went made⟩
    | ok done =>
      simp only
      rw [Dialog.run_write]
      exact ⟨_, looked.concat (.create id query) rfl true, .create went made _⟩
  | some table =>
    obtain ⟨name, type⟩ := table
    obtain rfl : name = id := by
      cases went
      rfl
    by_cases view : type = "VIEW"
    · subst view
      simp only [ne_eq, not_true, if_false]
      rw [Dialog.run_write]
      exact ⟨_, looked.concat (.update name query) rfl true, .update went _⟩
    · simp only [ne_eq, view, not_false_eq_true, if_true]
      exact ⟨asked, looked, .occupied went view⟩

/-- The result of a call for what became of its view. -/
def report (id view query : String) : Except Refusal Change → Except Failure Unit
  | .ok (.occupied type) => .error (rejection view query (.notAView id type))
  | .ok _ => .ok ()
  | .error refusal => .error (refusal.failure id view query)

theorem manager_create (remote : Remote σ) (project : String) (session : Session σ)
    (dataset view query : String) :
    let run := (createOrReplace remote project (viewId project dataset view) query).run session
    let reply := (manager remote project).create session dataset view query
    reply.state = run.2 ∧ reply.result = report (viewId project dataset view) view query run.1 := by
  simp only [manager]
  rcases (createOrReplace remote project (viewId project dataset view) query).run session
    with ⟨_ | _ | _ | _, next⟩ <;> exact ⟨rfl, rfl⟩

end ChangelogViews.BigQuery
