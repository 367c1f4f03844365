import ChangelogViews.Views.Installed

/-!
# Views in BigQuery

A view that is missing is created, and one that exists is updated in place; anything else under its
name stays as it is. The client is made by the first request that needs it. A client that cannot be
made is tried again by the next request.
-/

namespace ChangelogViews.BigQuery

/-- How a request fails: as a `GoogleAPICallError`, whose code may be absent, as a `GoogleAuthError`, or
in a way that is none of the two. -/
inductive Refusal where
  | status (code : Option Nat) (message : String)
  | credentials (message : String)
  | foreign (failure : Foreign)
  deriving DecidableEq, Repr

def notFound : Option Nat := some 404

/-- What a get brings of a table: its full id and its `table_type`. -/
structure TableInfo where
  id : String
  type : String
  deriving DecidableEq, Repr

/-- What is sent. An update replaces the query of a view and nothing else. -/
inductive Request where
  | connect (project : String)
  | get (id : String)
  | create (id query : String)
  | update (id query : String)
  deriving DecidableEq, Repr

/-- The client library and what is behind it. A new table is made from its id before anything is sent,
and the library refuses an id that it cannot read. -/
structure Remote (σ : Type) where
  connect : σ → (project : String) → Except Refusal Unit × σ
  getTable : σ → (id : String) → Except Refusal TableInfo × σ
  newTable : (id : String) → Except Foreign Unit
  createTable : σ → (id query : String) → Except Refusal Unit × σ
  updateTable : σ → (id query : String) → Except Refusal Unit × σ

/-- A get brings the table that was asked for. -/
def Remote.FindsAsked {σ : Type} (remote : Remote σ) : Prop :=
  ∀ state id table, (remote.getTable state id).1 = .ok table → table.id = id

/-- A session: whether it is connected, what was sent so far, and the state of the other side. -/
structure Session (σ : Type) where
  connected : Bool
  sent : List Request
  remote : σ

/-- Some requests of a session. A refusal ends them but keeps what was sent. -/
abbrev Dialog (σ α : Type) := ExceptT Refusal (StateM (Session σ)) α

namespace Dialog

variable {σ α : Type}

/-- Sends one request, whose answer is `answer`. -/
def send (request : Request) (answer : σ → Except Refusal α × σ) : Dialog σ α := fun session =>
  let (reply, remote) := answer session.remote
  (reply, { session with sent := session.sent ++ [request], remote := remote })

/-- Connects unless the session is connected. -/
def connect (remote : Remote σ) (project : String) : Dialog σ Unit := do
  if (← get).connected then return
  send (.connect project) (remote.connect · project)
  modify ({ · with connected := true })

/-- The table of an id, `none` where there is no table. -/
def lookUp (remote : Remote σ) (project id : String) : Dialog σ (Option TableInfo) :=
  tryCatch
    (do connect remote project; return some (← send (.get id) (remote.getTable · id)))
    fun
    | .status code message => if code = notFound then return none else throw (.status code message)
    | refusal => throw refusal

end Dialog

inductive Change where
  | created
  | updated
  | occupied (type : String)
  deriving DecidableEq, Repr

/-- The requests of `create_or_replace_view` for one view. What is updated is the table that was found. -/
def createOrReplace {σ : Type} (remote : Remote σ) (project id query : String) :
    Dialog σ Change := do
  match ← Dialog.lookUp remote project id with
  | none =>
    match remote.newTable id with
    | .error failure => throw (.foreign failure)
    | .ok () =>
      Dialog.connect remote project
      Dialog.send (.create id query) (remote.createTable · id query)
      return .created
  | some table =>
    if table.type ≠ "VIEW" then return .occupied table.type
    Dialog.connect remote project
    Dialog.send (.update table.id query) (remote.updateTable · table.id query)
    return .updated

def viewId (project dataset view : String) : String := s!"{project}.{dataset}.{view}"

def rejection (view query : String) (problem : Rejection) : Failure :=
  .views ⟨.rejected problem (some query), ⟨none, some view, none⟩⟩

/-- The text of a `GoogleAPICallError`. -/
def statusText (code : Option Nat) (message : String) : String :=
  match code with
  | some code => s!"{code} {message}"
  | none => s!"None {message}"

def Refusal.failure (id view query : String) : Refusal → Failure
  | .status code message => rejection view query (.byBigQuery id (statusText code message))
  | .credentials message => rejection view query (.byBigQuery id message)
  | .foreign failure => .foreign failure

/-- `BigQueryViewManager`. -/
def manager {σ : Type} (remote : Remote σ) (project : String) : ViewManager (Session σ) where
  create session dataset view query :=
    let id := viewId project dataset view
    let (reply, session) := (createOrReplace remote project id query).run session
    match reply with
    | .ok .created => ⟨session, [.ofBigQuery .info s!"Created view {id}"], .ok ()⟩
    | .ok .updated => ⟨session, [.ofBigQuery .info s!"Updated view {id}"], .ok ()⟩
    | .ok (.occupied type) => ⟨session, [], .error (rejection view query (.notAView id type))⟩
    | .error refusal => ⟨session, [], .error (refusal.failure id view query)⟩

end ChangelogViews.BigQuery
