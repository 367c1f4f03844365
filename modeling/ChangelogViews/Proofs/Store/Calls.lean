import ChangelogViews.Proofs.Store.Exchanges

/-!
# Calls for views in BigQuery

A manager may be called for views as often as one likes, and the other side may answer as it likes. Each
call looks for its view before anything else about a table, writes it where the look-up allows for that,
and asks nothing behind any other refusal; its last exchange decides its result (`Call.Handled`). One
connection serves all calls from the first that makes one (`calls_handled`).
-/

namespace ChangelogViews

variable {σ : Type}

/-- A view of a dataset that a manager is called for. -/
structure Call where
  dataset : String
  view : String
  query : String
  deriving DecidableEq, Repr

/-- Calls one after the other, whatever becomes of each: the state behind them, and their results. -/
def ViewManager.callAll (m : ViewManager σ) (state : σ) : List Call → σ × List (Except Failure Unit)
  | [] => (state, [])
  | call :: rest =>
    let reply := m.create state call.dataset call.view call.query
    let later := m.callAll reply.state rest
    (later.1, reply.result :: later.2)

namespace BigQuery

/-- Each exchange follows the rule behind those before it. -/
def Each (rule : List Exchange → Exchange → Prop) (asked : List Exchange) : Prop :=
  ∀ before exchange after, asked = before ++ exchange :: after → rule before exchange

section
variable {rule : List Exchange → Exchange → Prop}

theorem each_nil : Each rule [] := by
  intro before exchange after split
  cases before <;> cases split

theorem each_cons {exchange : Exchange} {rest : List Exchange} :
    Each rule (exchange :: rest) ↔
      rule [] exchange ∧ Each (fun before => rule (exchange :: before)) rest := by
  constructor
  · intro each
    refine ⟨each [] exchange rest rfl, ?_⟩
    intro before other after split
    exact each (exchange :: before) other after (congrArg _ split)
  · rintro ⟨first, later⟩ before other after split
    cases before with
    | nil =>
      cases split
      exact first
    | cons earlier before =>
      cases split
      exact later before other after rfl

theorem each_append {asked later : List Exchange} :
    Each rule (asked ++ later) ↔ Each rule asked ∧ Each (fun before => rule (asked ++ before)) later := by
  induction asked generalizing rule with
  | nil => exact ⟨fun each => ⟨each_nil, each⟩, And.right⟩
  | cons exchange rest ih =>
    rw [List.cons_append, each_cons, each_cons, ih, and_assoc]
    rfl

end

end BigQuery

namespace Call
open BigQuery

/-- The id of the view that a call is for. -/
def id (project : String) (call : Call) : String := viewId project call.dataset call.view

/-- What a call may ask behind what it asked already: a connection to begin with, the look-up of its view
before any other request about a table, and a creation or an update of that view with its query right
behind a look-up that found none or found a view. -/
def MayAsk (project : String) (call : Call) (before : List Exchange) : Request → Prop
  | .connect other => other = project ∧ before = []
  | .get id => id = call.id project ∧ ∀ exchange ∈ before, exchange.request.isOfTable = false
  | .create id query => id = call.id project ∧ query = call.query ∧
      ∃ message, before.getLast? = some ⟨.get id, .refused (.status notFound message)⟩
  | .update id query => id = call.id project ∧ query = call.query ∧
      before.getLast? = some ⟨.get id, .found ⟨id, "VIEW"⟩⟩

/-- A call goes on behind an exchange: it was not refused, or was the look-up of a missing view. -/
def GoesOn (project : String) (call : Call) (exchange : Exchange) : Prop :=
  ∀ refusal, exchange.answer = .refused refusal →
    exchange.request = .get (call.id project) ∧ refusal.isMissing = true

/-- The exchanges of a call are allowed if each may be asked and the call went on behind those before. -/
abbrev Allowed (project : String) (call : Call) : List Exchange → Prop :=
  Each fun before exchange => call.MayAsk project before exchange.request ∧
    ∀ earlier ∈ before, call.GoesOn project earlier

/-- Some request wrote the view of a call, and was accepted. -/
abbrev Accepted (project : String) (call : Call) (asked : List Exchange) : Prop :=
  ∃ exchange ∈ asked,
    exchange.request.write? = some (call.id project, call.query) ∧ exchange.answer = .accepted

/-- The error of a view that was not created. It names the view and holds the statement. -/
def failed (call : Call) (problem : Rejection) : Failure :=
  .views ⟨.rejected problem (some call.query), ⟨none, some call.view, none⟩⟩

/-- How the last exchange decides the result of a call. Behind the look-up of a missing view the library may
refuse to make a new table. -/
inductive Ends (newTable : String → Except Foreign Unit) (project : String) (call : Call) :
    Exchange → Except Failure Unit → Prop
  | written {request : Request} (writes : request.write? = some (call.id project, call.query)) :
      Ends newTable project call ⟨request, .accepted⟩ (.ok ())
  | status {request : Request} {code : Option Nat} {message : String}
      (plain : ¬ call.GoesOn project ⟨request, .refused (.status code message)⟩) :
      Ends newTable project call ⟨request, .refused (.status code message)⟩
        (.error (call.failed (.byBigQuery (call.id project) (statusText code message))))
  | credentials {request : Request} {message : String} :
      Ends newTable project call ⟨request, .refused (.credentials message)⟩
        (.error (call.failed (.byBigQuery (call.id project) message)))
  | foreign {request : Request} {failure : Foreign} :
      Ends newTable project call ⟨request, .refused (.foreign failure)⟩ (.error (.foreign failure))
  | occupied {type : String} (other : type ≠ "VIEW") :
      Ends newTable project call ⟨.get (call.id project), .found ⟨call.id project, type⟩⟩
        (.error (call.failed (.notAView (call.id project) type)))
  | unnamed {message : String} {failure : Foreign} (made : newTable (call.id project) = .error failure) :
      Ends newTable project call ⟨.get (call.id project), .refused (.status notFound message)⟩
        (.error (.foreign failure))

/-- What may be asked and answered for a call, and the result that it has then: no request stands behind a
refusal but that of the look-up, and the call returns if and only if its view was written. -/
structure Handled (newTable : String → Except Foreign Unit) (project : String) (call : Call)
    (asked : List Exchange) (result : Except Failure Unit) : Prop where
  allowed : call.Allowed project asked
  looksFirst : ∀ exchange ∈ asked.find? (·.request.isOfTable),
    exchange.request = .get (call.id project)
  writesOnce : asked.filterMap (·.request.write?) <+: [(call.id project, call.query)]
  ends : ∃ before last, asked = before ++ [last] ∧ call.Ends newTable project last result
  returns : result = .ok () ↔ call.Accepted project asked

end Call

namespace BigQuery

/-! ### One call -/

section
variable {newTable : String → Except Foreign Unit} {project : String} {call : Call}
  {connected connected' : Bool} {asked : List Exchange} {result : Except Refusal Change}

theorem allowed_of_lookedUp {found : Except Refusal (Option TableInfo)}
    (looked : LookedUp project (call.id project) connected asked connected' found) :
    call.Allowed project asked := by
  cases looked with
  | unconnected plain => simp [each_cons, each_nil, Call.MayAsk]
  | refused opens plain =>
    cases opens <;> simp [each_cons, each_nil, Call.MayAsk, Call.GoesOn, Request.isOfTable]
  | missing opens message =>
    cases opens <;> simp [each_cons, each_nil, Call.MayAsk, Call.GoesOn, Request.isOfTable]
  | found opens type =>
    cases opens <;> simp [each_cons, each_nil, Call.MayAsk, Call.GoesOn, Request.isOfTable]

theorem allowed_of_placed
    (placed : Placed newTable project (call.id project) call.query connected asked connected' result) :
    call.Allowed project asked := by
  cases placed with
  | stopped looked => exact allowed_of_lookedUp looked
  | unnamed looked made => exact allowed_of_lookedUp looked
  | occupied looked other => exact allowed_of_lookedUp looked
  | create looked made reply =>
    refine each_append.mpr ⟨allowed_of_lookedUp looked, ?_⟩
    cases looked with
    | missing opens message =>
      cases opens <;> simp [each_cons, each_nil, Call.MayAsk, Call.GoesOn, Refusal.isMissing]
  | update looked reply =>
    refine each_append.mpr ⟨allowed_of_lookedUp looked, ?_⟩
    cases looked with
    | found opens type =>
      cases opens <;> simp [each_cons, each_nil, Call.MayAsk, Call.GoesOn]

theorem looksFirst_of_lookedUp {found : Except Refusal (Option TableInfo)}
    (looked : LookedUp project (call.id project) connected asked connected' found)
    (later : List Exchange) (went : found.isOk = false → later = []) :
    ∀ exchange ∈ (asked ++ later).find? (·.request.isOfTable),
      exchange.request = .get (call.id project) := by
  cases looked with
  | unconnected plain => simp [went rfl, Request.isOfTable]
  | refused opens plain => cases opens <;> simp [Request.isOfTable]
  | missing opens message => cases opens <;> simp [Request.isOfTable]
  | found opens type => cases opens <;> simp [Request.isOfTable]

theorem looksFirst_of_placed
    (placed : Placed newTable project (call.id project) call.query connected asked connected' result) :
    ∀ exchange ∈ asked.find? (·.request.isOfTable), exchange.request = .get (call.id project) := by
  rw [← List.append_nil asked]
  cases placed with
  | stopped looked => exact looksFirst_of_lookedUp looked [] fun _ => rfl
  | unnamed looked made => exact looksFirst_of_lookedUp looked [] fun _ => rfl
  | occupied looked other => exact looksFirst_of_lookedUp looked [] fun _ => rfl
  | create looked made reply =>
    rw [List.append_nil]
    exact looksFirst_of_lookedUp looked _ nofun
  | update looked reply =>
    rw [List.append_nil]
    exact looksFirst_of_lookedUp looked _ nofun

theorem ends_of_refused {request : Request} {refusal : Refusal}
    (plain : ¬ call.GoesOn project ⟨request, .refused refusal⟩) :
    call.Ends newTable project ⟨request, .refused refusal⟩
      (.error (refusal.failure (call.id project) call.view call.query)) := by
  cases refusal with
  | status code message => exact .status plain
  | credentials message => exact .credentials
  | foreign failure => exact .foreign

theorem ends_of_reply {request : Request} (reply : Except Refusal Unit) (change : Change)
    (writes : request.write? = some (call.id project, call.query)) (wrote : change.Wrote) :
    call.Ends newTable project ⟨request, .ofUnit reply⟩
      (report (call.id project) call.view call.query (reply.map fun _ => change)) := by
  cases reply with
  | ok done =>
    obtain rfl | rfl := wrote
    · exact .written writes
    · exact .written writes
  | error refusal =>
    refine ends_of_refused fun goes => ?_
    obtain ⟨got, -⟩ := goes refusal rfl
    subst got
    cases writes

theorem ends_of_placed
    (placed : Placed newTable project (call.id project) call.query connected asked connected' result) :
    ∃ before last, asked = before ++ [last] ∧
      call.Ends newTable project last (report (call.id project) call.view call.query result) := by
  cases placed with
  | stopped looked =>
    cases looked with
    | unconnected plain =>
      exact ⟨[], _, rfl, ends_of_refused fun goes => Request.noConfusion (goes _ rfl).1⟩
    | refused opens plain =>
      refine ⟨_, _, rfl, ends_of_refused fun goes => ?_⟩
      rw [(goes _ rfl).2] at plain
      cases plain
  | unnamed looked made =>
    cases looked with
    | missing opens message => exact ⟨_, _, rfl, .unnamed made⟩
  | create looked made reply => exact ⟨_, _, rfl, ends_of_reply reply .created rfl (.inl rfl)⟩
  | occupied looked other =>
    cases looked with
    | found opens type => exact ⟨_, _, rfl, .occupied other⟩
  | update looked reply => exact ⟨_, _, rfl, ends_of_reply reply .updated rfl (.inr rfl)⟩

theorem unwritten_of_lookedUp {id : String} {found : Except Refusal (Option TableInfo)}
    (looked : LookedUp project id connected asked connected' found) :
    ∀ exchange ∈ asked, exchange.request.write? = none := by
  cases looked with
  | unconnected plain => simp [Request.write?]
  | refused opens plain => cases opens <;> simp [Request.write?]
  | missing opens message => cases opens <;> simp [Request.write?]
  | found opens type => cases opens <;> simp [Request.write?]

theorem silent_of_lookedUp {id : String} {found : Except Refusal (Option TableInfo)}
    (looked : LookedUp project id connected asked connected' found) :
    asked.filterMap (·.request.write?) = [] :=
  List.filterMap_eq_nil_iff.mpr (unwritten_of_lookedUp looked)

theorem writesOnce_of_placed
    (placed : Placed newTable project (call.id project) call.query connected asked connected' result) :
    asked.filterMap (·.request.write?) <+: [(call.id project, call.query)] := by
  cases placed with
  | stopped looked => exact silent_of_lookedUp looked ▸ List.nil_prefix
  | unnamed looked made => exact silent_of_lookedUp looked ▸ List.nil_prefix
  | occupied looked other => exact silent_of_lookedUp looked ▸ List.nil_prefix
  | create looked made reply =>
    rw [List.filterMap_append, silent_of_lookedUp looked]
    exact List.prefix_rfl
  | update looked reply =>
    rw [List.filterMap_append, silent_of_lookedUp looked]
    exact List.prefix_rfl

theorem not_accepted_of_lookedUp {found : Except Refusal (Option TableInfo)}
    (looked : LookedUp project (call.id project) connected asked connected' found) :
    ¬ call.Accepted project asked := by
  rintro ⟨exchange, mem, wrote, -⟩
  rw [unwritten_of_lookedUp looked exchange mem] at wrote
  cases wrote

theorem report_reply {id view query : String} {change : Change} (wrote : change.Wrote)
    (reply : Except Refusal Unit) :
    report id view query (reply.map fun _ => change) = .ok () ↔ reply = .ok () := by
  cases reply with
  | ok done => obtain rfl | rfl := wrote <;> exact iff_of_true rfl rfl
  | error refusal => exact iff_of_false nofun nofun

theorem accepted_of_reply {found : Except Refusal (Option TableInfo)}
    (looked : LookedUp project (call.id project) connected asked connected' found) {request : Request}
    (writes : request.write? = some (call.id project, call.query)) (reply : Except Refusal Unit) :
    call.Accepted project (asked ++ [⟨request, .ofUnit reply⟩]) ↔ reply = .ok () := by
  constructor
  · rintro ⟨exchange, mem, wrote, accepted⟩
    rcases List.mem_append.mp mem with earlier | last
    · exact absurd ⟨exchange, earlier, wrote, accepted⟩ (not_accepted_of_lookedUp looked)
    · obtain rfl := List.mem_singleton.mp last
      cases reply with
      | ok done => rfl
      | error refusal => cases accepted
  · rintro rfl
    exact ⟨_, List.mem_append_right _ (List.mem_singleton_self _), writes, rfl⟩

theorem returns_of_placed
    (placed : Placed newTable project (call.id project) call.query connected asked connected' result) :
    report (call.id project) call.view call.query result = .ok () ↔ call.Accepted project asked := by
  cases placed with
  | stopped looked => exact iff_of_false nofun (not_accepted_of_lookedUp looked)
  | unnamed looked made => exact iff_of_false nofun (not_accepted_of_lookedUp looked)
  | occupied looked other => exact iff_of_false nofun (not_accepted_of_lookedUp looked)
  | create looked made reply =>
    exact (report_reply (.inl rfl) reply).trans (accepted_of_reply looked rfl reply).symm
  | update looked reply =>
    exact (report_reply (.inr rfl) reply).trans (accepted_of_reply looked rfl reply).symm

theorem handled_of_placed
    (placed : Placed newTable project (call.id project) call.query connected asked connected' result) :
    call.Handled newTable project asked (report (call.id project) call.view call.query result) :=
  ⟨allowed_of_placed placed, looksFirst_of_placed placed, writesOnce_of_placed placed,
    ends_of_placed placed, returns_of_placed placed⟩

end

/-- There is a connection behind some exchanges: there was one before, or one was made. -/
def HasConnection (project : String) (connected : Bool) (before : List Exchange) : Prop :=
  connected = true ∨ ⟨.connect project, .accepted⟩ ∈ before

/-- A connection is made for the next request if and only if there is none. -/
def ConnectsOnce (project : String) (connected : Bool) : List Exchange → Prop :=
  Each fun before exchange =>
    exchange.request = .connect project ↔ ¬ HasConnection project connected before

theorem hasConnection_append {project : String} {connected : Bool} {asked later : List Exchange} :
    HasConnection project connected (asked ++ later) ↔
      HasConnection project connected asked ∨ ⟨.connect project, .accepted⟩ ∈ later := by
  simp only [HasConnection, List.mem_append, or_assoc]

theorem ConnectsOnce.append {project : String} {connected connected' : Bool} {asked later : List Exchange}
    (first : ConnectsOnce project connected asked)
    (behind : connected' = true ↔ HasConnection project connected asked)
    (rest : ConnectsOnce project connected' later) : ConnectsOnce project connected (asked ++ later) := by
  refine each_append.mpr ⟨first, fun before exchange after split => ?_⟩
  simp only [hasConnection_append, ← behind]
  exact rest before exchange after split

/-- An exchange about a table over a connection. -/
theorem connectsOnce_concat {project : String} {connected : Bool} {asked : List Exchange}
    (first : ConnectsOnce project connected asked ∧ (true = true ↔ HasConnection project connected asked))
    {exchange : Exchange} (other : exchange.request ≠ .connect project) :
    ConnectsOnce project connected (asked ++ [exchange]) ∧
      (true = true ↔ HasConnection project connected (asked ++ [exchange])) := by
  refine ⟨first.1.append first.2 ?_, iff_of_true rfl (hasConnection_append.mpr (.inl (first.2.mp rfl)))⟩
  exact each_cons.mpr ⟨iff_of_false other fun none => none (.inl rfl), each_nil⟩

theorem connectsOnce_of_lookedUp {project id : String} {connected connected' : Bool}
    {asked : List Exchange} {found : Except Refusal (Option TableInfo)}
    (looked : LookedUp project id connected asked connected' found) :
    ConnectsOnce project connected asked ∧ (connected' = true ↔ HasConnection project connected asked) := by
  cases looked with
  | unconnected plain => simp [ConnectsOnce, each_cons, each_nil, HasConnection]
  | refused opens plain =>
    cases opens <;> simp [ConnectsOnce, each_cons, each_nil, HasConnection]
  | missing opens message =>
    cases opens <;> simp [ConnectsOnce, each_cons, each_nil, HasConnection]
  | found opens type =>
    cases opens <;> simp [ConnectsOnce, each_cons, each_nil, HasConnection]

theorem connectsOnce_of_placed {newTable : String → Except Foreign Unit} {project id query : String}
    {connected connected' : Bool} {asked : List Exchange} {result : Except Refusal Change}
    (placed : Placed newTable project id query connected asked connected' result) :
    ConnectsOnce project connected asked ∧ (connected' = true ↔ HasConnection project connected asked) := by
  cases placed with
  | stopped looked => exact connectsOnce_of_lookedUp looked
  | unnamed looked made => exact connectsOnce_of_lookedUp looked
  | occupied looked other => exact connectsOnce_of_lookedUp looked
  | create looked made reply => exact connectsOnce_concat (connectsOnce_of_lookedUp looked) nofun
  | update looked reply => exact connectsOnce_concat (connectsOnce_of_lookedUp looked) nofun

/-! ### All calls -/

/-- A call that was handled: what was asked and answered for it, and its result. -/
structure Served where
  call : Call
  asked : List Exchange
  result : Except Failure Unit

/-- What is asked for one call, and whether there is a connection behind it. -/
theorem call_handled {remote : Remote σ} (plainly : remote.ConnectsPlainly)
    (finds : remote.FindsAsked) (project : String) (session : Session σ) (call : Call) :
    let reply := (manager remote project).create session call.dataset call.view call.query
    ∃ asked, reply.state.AskedSince remote session asked ∧
      call.Handled remote.newTable project asked reply.result ∧ ConnectsOnce project session.connected asked ∧
      (reply.state.connected = true ↔ HasConnection project session.connected asked) := by
  intro reply
  obtain ⟨state, result⟩ :=
    manager_create remote project session call.dataset call.view call.query
  obtain ⟨asked, since, placed⟩ :=
    createOrReplace_goes plainly finds project (call.id project) call.query session
  rw [state, result]
  exact ⟨asked, since, handled_of_placed placed, connectsOnce_of_placed placed⟩

/-- Whatever the other side answers, as long as a get brings the table that was asked for: all that is
asked belongs to the calls in order, each call is handled as it should be, and one connection serves them
all. -/
theorem calls_handled {remote : Remote σ} (plainly : remote.ConnectsPlainly)
    (finds : remote.FindsAsked) (project : String) (session : Session σ) (calls : List Call) :
    ∃ log : List Served, log.map Served.call = calls ∧
      ((manager remote project).callAll session calls).2 = log.map Served.result ∧
      ((manager remote project).callAll session calls).1.AskedSince remote session
        (log.flatMap Served.asked) ∧
      (∀ served ∈ log, served.call.Handled remote.newTable project served.asked served.result) ∧
      ConnectsOnce project session.connected (log.flatMap Served.asked) := by
  induction calls generalizing session with
  | nil => exact ⟨[], rfl, rfl, .nothing remote session, List.forall_mem_nil _, each_nil⟩
  | cons call rest ih =>
    obtain ⟨asked, since, handled, once, connected⟩ := call_handled plainly finds project session call
    obtain ⟨log, calls, results, later, handledLater, onceLater⟩ :=
      ih ((manager remote project).create session call.dataset call.view call.query).state
    exact ⟨⟨call, asked, _⟩ :: log, congrArg _ calls, congrArg _ results, later.trans since,
      List.forall_mem_cons.mpr ⟨handled, handledLater⟩, once.append connected onceLater⟩

/-- Another side that counts its requests and answers by their number. Its third request is the first that
finds nothing, and its fourth is refused as a missing table is. -/
def counting : Remote Nat where
  connect n _ := (if n = 0 then .error (.credentials "none") else .ok (), n + 1)
  getTable n id := (if n = 2 then .error (.status notFound "no view") else .ok ⟨id, "VIEW"⟩, n + 1)
  newTable _ := .ok ()
  createTable n _ _ := (if n = 3 then .error (.status notFound "no dataset") else .ok (), n + 1)
  updateTable n _ _ := (.ok (), n + 1)

theorem counting_connectsPlainly : counting.ConnectsPlainly := by
  intro n project refusal refused
  by_cases first : n = 0
  · subst first
    cases refused
    rfl
  · rw [show (counting.connect n project).1 = .ok () from if_neg first] at refused
    cases refused

theorem counting_findsAsked : counting.FindsAsked := by
  intro n id table found
  by_cases third : n = 2
  · subst third
    cases found
  · rw [show (counting.getTable n id).1 = .ok ⟨id, "VIEW"⟩ from if_neg third] at found
    cases found
    rfl

theorem counting_calls_handled :
    counting.ConnectsPlainly ∧ counting.FindsAsked ∧
      let calls := [⟨"sales", "orders", "SELECT 1"⟩, ⟨"sales", "orders", "SELECT 1"⟩,
        ⟨"sales", "orders", "SELECT 2"⟩]
      ∃ log : List Served, log.map Served.call = calls ∧
        ((manager counting "shop").callAll ⟨false, [], 0⟩ calls).2 = log.map Served.result ∧
        ((manager counting "shop").callAll ⟨false, [], 0⟩ calls).1.AskedSince counting ⟨false, [], 0⟩
          (log.flatMap Served.asked) ∧
        (∀ served ∈ log, served.call.Handled counting.newTable "shop" served.asked served.result) ∧
        ConnectsOnce "shop" false (log.flatMap Served.asked) :=
  ⟨counting_connectsPlainly, counting_findsAsked,
    calls_handled counting_connectsPlainly counting_findsAsked "shop" ⟨false, [], 0⟩ _⟩

end BigQuery
end ChangelogViews
