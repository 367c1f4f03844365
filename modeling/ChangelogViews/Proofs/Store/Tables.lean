import ChangelogViews.Proofs.Batch.Acceptance
import ChangelogViews.Proofs.Contexts
import ChangelogViews.Proofs.Store.Exchanges
import ChangelogViews.Proofs.Views.LaidOut
import ChangelogViews.Sql.BigQuery

/-!
# Tables behind BigQuery

The other side of a session may hold tables, on which requests act. Installing the views of a schema then
leaves exactly these views behind, and installing them again changes nothing; a table under the id of a
view ends the work before anything is done to it (`install_exact`). Each request about a view becomes a
step on the tables (`Filed`), and what becomes of many views follows from these steps alone (`Laid`).
-/

namespace ChangelogViews.BigQuery

variable {σ : Type}

/-- What is kept under the id of a table. -/
structure Table where
  type : String
  query : String
  deriving DecidableEq, Repr

/-- A view of a query. -/
def Table.view (query : String) : Table := ⟨"VIEW", query⟩

/-- The tables of a project under their full ids. -/
abbrev Tables := String → Option Table

namespace Tables

/-- The tables with one written over. -/
def write (tables : Tables) (id : String) (table : Table) : Tables :=
  fun other => if other = id then some table else tables other

theorem write_self (tables : Tables) (id : String) (table : Table) :
    tables.write id table id = some table := if_pos rfl

theorem write_other (tables : Tables) {id other : String} (table : Table) (apart : other ≠ id) :
    tables.write id table other = tables other := if_neg apart

/-- The tables with the query of one replaced. -/
def requery (tables : Tables) (id query : String) : Tables :=
  fun other => if other = id then (tables id).map ({ · with query := query }) else tables other

theorem requery_eq {tables : Tables} {id : String} {table : Table} (there : tables id = some table)
    (query : String) : tables.requery id query = tables.write id { table with query := query } := by
  unfold requery
  rw [there]
  rfl

theorem write_eq {tables : Tables} {id : String} {table : Table} (there : tables id = some table) :
    tables.write id table = tables := by
  funext other
  by_cases same : other = id
  · rw [same, write_self, there]
  · exact write_other tables table same

/-- Something that is no view has the id. -/
def Occupied (tables : Tables) (id : String) : Prop :=
  ∃ table, tables id = some table ∧ table.type ≠ "VIEW"

/-- A view that is written occupies nothing. -/
theorem not_occupied_write {tables : Tables} {id other query : String}
    (free : ¬ tables.Occupied other) : ¬ (tables.write id (.view query)).Occupied other := by
  rintro ⟨table, there, type⟩
  by_cases same : other = id
  · subst same
    rw [tables.write_self] at there
    cases there
    exact type rfl
  · rw [tables.write_other _ same] at there
    exact free ⟨table, there, type⟩

end Tables

/-- What a request does to the tables if it is answered so. An update replaces the query of a table and
nothing else. -/
inductive Acts : Tables → Exchange → Tables → Prop
  | connect (tables : Tables) (project : String) : Acts tables ⟨.connect project, .accepted⟩ tables
  | found {tables : Tables} {id : String} {table : Table} (there : tables id = some table) :
      Acts tables ⟨.get id, .found ⟨id, table.type⟩⟩ tables
  | missing {tables : Tables} {id : String} (absent : tables id = none) (message : String) :
      Acts tables ⟨.get id, .refused (.status notFound message)⟩ tables
  | create (tables : Tables) (id query : String) :
      Acts tables ⟨.create id query, .accepted⟩ (tables.write id (.view query))
  | update (tables : Tables) (id query : String) :
      Acts tables ⟨.update id query, .accepted⟩ (tables.requery id query)

/-- What requests in order do to the tables. -/
inductive Acted : Tables → List Exchange → Tables → Prop
  | nil (tables : Tables) : Acted tables [] tables
  | cons {tables next last : Tables} {exchange : Exchange} {later : List Exchange}
      (acts : Acts tables exchange next) (behind : Acted next later last) :
      Acted tables (exchange :: later) last

/-- A request did not fail: it was not refused, or looked for a table that is missing. -/
def Exchange.Smooth (exchange : Exchange) : Prop :=
  ∀ refusal, exchange.answer = .refused refusal →
    (∃ id, exchange.request = .get id) ∧ refusal.isMissing = true

/-- No request failed in a session since it was another one. -/
def Session.Smooth (remote : Remote σ) (session before : Session σ) : Prop :=
  ∀ asked, session.AskedSince remote before asked → ∀ exchange ∈ asked, exchange.Smooth

/-- The other side holds tables, and a request that does not fail acts on them. A connection never fails
the way that a missing table does. -/
structure Remote.Holds (remote : Remote σ) (tables : σ → Tables) : Prop where
  plainly : remote.ConnectsPlainly
  acts : ∀ state request, Exchange.Smooth ⟨request, (remote.answer state request).1⟩ →
    Acts (tables state) ⟨request, (remote.answer state request).1⟩
      (tables (remote.answer state request).2)

theorem Remote.Holds.finds {remote : Remote σ} {tables : σ → Tables} (holds : remote.Holds tables) :
    remote.FindsAsked := by
  intro state id table found
  have answer : (remote.answer state (.get id)).1 = .found table := by
    simp only [Remote.answer, Prod.map_fst, found, Answer.of]
  have smooth : Exchange.Smooth ⟨.get id, (remote.answer state (.get id)).1⟩ := by
    intro refusal refused
    rw [answer] at refused
    cases refused
  have acts := holds.acts state (.get id) smooth
  rw [answer] at acts
  generalize tables (remote.answer state (.get id)).2 = next at acts
  cases acts
  rfl

theorem Remote.Holds.acted {remote : Remote σ} {tables : σ → Tables} (holds : remote.Holds tables)
    {state last : σ} {asked : List Exchange} (answered : remote.Answers state asked last)
    (smooth : ∀ exchange ∈ asked, exchange.Smooth) : Acted (tables state) asked (tables last) := by
  induction answered with
  | nil state => exact .nil _
  | cons request _ ih =>
    obtain ⟨first, later⟩ := List.forall_mem_cons.mp smooth
    exact .cons (holds.acts _ request first) (ih later)

/-! ### One view -/

/-- What becomes of one view, by what has its id: the requests about tables, the tables then, and the
result. -/
inductive Filed (tables : Tables) (id view query : String) :
    List Request → Tables → Except Failure Unit → Prop
  | created (absent : tables id = none) :
      Filed tables id view query [.get id, .create id query] (tables.write id (.view query)) (.ok ())
  | updated {old : String} (there : tables id = some (.view old)) :
      Filed tables id view query [.get id, .update id query] (tables.write id (.view query)) (.ok ())
  | occupied {table : Table} (there : tables id = some table) (other : table.type ≠ "VIEW") :
      Filed tables id view query [.get id] tables (.error (rejection view query (.notAView id table.type)))

theorem Filed.error_of_views {tables next : Tables} {id view query : String} {asked : List Request}
    {failure : Failure} (filed : Filed tables id view query asked next (.error failure)) :
    ∃ e, failure = .views e := by
  cases filed with
  | occupied there other => exact ⟨_, rfl⟩

/-- A view whose id nothing else has is written. -/
theorem Filed.written {tables next : Tables} {id view query : String} {asked : List Request}
    {result : Except Failure Unit} (filed : Filed tables id view query asked next result)
    (free : ¬ tables.Occupied id) : result = .ok () ∧ next = tables.write id (.view query) := by
  cases filed with
  | created absent => exact ⟨rfl, rfl⟩
  | updated there => exact ⟨rfl, rfl⟩
  | occupied there other => exact absurd ⟨_, there, other⟩ free

/-- The requests about tables. -/
def ofTables (asked : List Exchange) : List Request :=
  (asked.map Exchange.request).filter Request.isOfTable

theorem ofTables_append (asked later : List Exchange) :
    ofTables (asked ++ later) = ofTables asked ++ ofTables later := by
  simp only [ofTables, List.map_append, List.filter_append]

theorem acted_append {tables last : Tables} {asked later : List Exchange}
    (acted : Acted tables (asked ++ later) last) :
    ∃ next, Acted tables asked next ∧ Acted next later last := by
  induction asked generalizing tables with
  | nil => exact ⟨tables, .nil _, acted⟩
  | cons exchange rest ih =>
    cases acted with
    | cons acts behind =>
      obtain ⟨next, first, then_⟩ := ih behind
      exact ⟨next, .cons acts first, then_⟩

theorem acted_singleton {tables last : Tables} {exchange : Exchange}
    (acted : Acted tables [exchange] last) : Acts tables exchange last := by
  cases acted with
  | cons acts behind =>
    cases behind
    exact acts

theorem opening_acted {project : String} {connected : Bool} {opening : List Exchange}
    {tables next : Tables} (opens : Opening project connected opening)
    (acted : Acted tables opening next) : next = tables ∧ ofTables opening = [] := by
  cases opens with
  | already =>
    cases acted
    exact ⟨rfl, rfl⟩
  | now =>
    cases acted_singleton acted
    exact ⟨rfl, rfl⟩

/-- A look-up finds the table of the id. -/
theorem lookedUp_acted {project id : String} {connected connected' : Bool} {asked : List Exchange}
    {found : Except Refusal (Option TableInfo)} {tables next : Tables}
    (looked : LookedUp project id connected asked connected' found)
    (acted : Acted tables asked next) :
    next = tables ∧ ofTables asked = [.get id] ∧
      found = .ok ((tables id).map fun table => ⟨id, table.type⟩) := by
  cases looked with
  | unconnected plain => cases acted_singleton acted
  | refused opens plain =>
    obtain ⟨middle, opened, got⟩ := acted_append acted
    cases acted_singleton got with
    | missing absent message => cases plain
  | missing opens message =>
    obtain ⟨middle, opened, got⟩ := acted_append acted
    obtain ⟨rfl, silent⟩ := opening_acted opens opened
    cases acted_singleton got with
    | missing absent message => exact ⟨rfl, by rw [ofTables_append, silent]; rfl, by rw [absent]; rfl⟩
  | found opens type =>
    obtain ⟨middle, opened, got⟩ := acted_append acted
    obtain ⟨rfl, silent⟩ := opening_acted opens opened
    cases acted_singleton got with
    | found there => exact ⟨rfl, by rw [ofTables_append, silent]; rfl, by rw [there]; rfl⟩

theorem filed_of_placed {newTable : String → Except Foreign Unit} {project id view query : String}
    {connected connected' : Bool} {asked : List Exchange} {result : Except Refusal Change}
    {tables next : Tables}
    (placed : Placed newTable project id query connected asked connected' result)
    (acted : Acted tables asked next) (made : newTable id = .ok ()) :
    Filed tables id view query (ofTables asked) next (report id view query result) := by
  cases placed with
  | stopped looked =>
    obtain ⟨-, -, none⟩ := lookedUp_acted looked acted
    cases none
  | unnamed looked refused =>
    rw [made] at refused
    cases refused
  | create looked _ reply =>
    obtain ⟨middle, got, wrote⟩ := acted_append acted
    obtain ⟨rfl, asks, found⟩ := lookedUp_acted looked got
    rw [ofTables_append, asks]
    cases reply with
    | error refusal => cases acted_singleton wrote
    | ok done =>
      cases acted_singleton wrote with
      | create => exact .created (Option.map_eq_none_iff.mp (Except.ok.inj found).symm)
  | occupied looked other =>
    obtain ⟨rfl, asks, found⟩ := lookedUp_acted looked acted
    rw [asks]
    obtain ⟨table, there, same⟩ := Option.map_eq_some_iff.mp (Except.ok.inj found).symm
    cases same
    exact .occupied there other
  | update looked reply =>
    obtain ⟨middle, got, wrote⟩ := acted_append acted
    obtain ⟨rfl, asks, found⟩ := lookedUp_acted looked got
    rw [ofTables_append, asks]
    obtain ⟨⟨type, old⟩, there, same⟩ := Option.map_eq_some_iff.mp (Except.ok.inj found).symm
    cases same
    cases reply with
    | error refusal => cases acted_singleton wrote
    | ok done =>
      cases acted_singleton wrote with
      | update =>
        rw [Tables.requery_eq there]
        exact .updated there

theorem create_filed {remote : Remote σ} {tables : σ → Tables} (holds : remote.Holds tables)
    (project : String) (session : Session σ) {dataset view : String} (query : String)
    (made : remote.newTable (viewId project dataset view) = .ok ()) :
    let reply := (manager remote project).create session dataset view query
    ∃ asked, reply.state.AskedSince remote session asked ∧
      ((∀ exchange ∈ asked, exchange.Smooth) →
        Filed (tables session.remote) (viewId project dataset view) view query (ofTables asked)
          (tables reply.state.remote) reply.result) := by
  intro reply
  obtain ⟨state, result⟩ := manager_create remote project session dataset view query
  obtain ⟨asked, since, placed⟩ :=
    createOrReplace_goes holds.plainly holds.finds project (viewId project dataset view) query session
  rw [state, result]
  exact ⟨asked, since, fun smooth => filed_of_placed placed (holds.acted since.answered smooth) made⟩

/-- What becomes of views in order: the requests about tables, the tables then, and the failure that ended
the work if one did. -/
inductive Laid (project dataset schema : String) :
    Tables → List View → List Request → Tables → Option Failure → Prop
  | nil (tables : Tables) : Laid project dataset schema tables [] [] tables none
  | cons {tables next last : Tables} {view : View} {rest : List View} {asked later : List Request}
      {stop : Option Failure}
      (filed : Filed tables (viewId project dataset view.name) view.name view.sql asked next (.ok ()))
      (behind : Laid project dataset schema next rest later last stop) :
      Laid project dataset schema tables (view :: rest) (asked ++ later) last stop
  | stop {tables next : Tables} {view : View} {asked : List Request} {e : ViewError}
      (filed : Filed tables (viewId project dataset view.name) view.name view.sql asked next
        (.error (.views e))) (rest : List View) :
      Laid project dataset schema tables (view :: rest) asked next
        (some (.views (e.addContext ⟨some schema, some view.name, none⟩)))

theorem installEach_laid {remote : Remote σ} {tables : σ → Tables} (holds : remote.Holds tables)
    (project dataset : String) (result : SchemaResult) (session : Session σ)
    (stages : List (View × Stage))
    (made : ∀ view ∈ stages.map Prod.fst, remote.newTable (viewId project dataset view.name) = .ok ()) :
    let run := (manager remote project).installEach dataset result session stages
    ∃ asked, run.state.AskedSince remote session asked ∧
      ((∀ exchange ∈ asked, exchange.Smooth) →
        Laid project dataset result.schema (tables session.remote) (stages.map Prod.fst)
          (ofTables asked) (tables run.state.remote) run.result.2) := by
  induction stages generalizing result session with
  | nil => exact ⟨[], .nothing remote session, fun _ => .nil _⟩
  | cons first rest ih =>
    obtain ⟨view, stage⟩ := first
    obtain ⟨madeFirst, madeRest⟩ := List.forall_mem_cons.mp made
    obtain ⟨asked, since, filed⟩ := create_filed holds project session view.sql madeFirst
    simp only [ViewManager.installEach, ViewManager.submit]
    generalize (manager remote project).create session dataset view.name view.sql = reply
      at since filed ⊢
    obtain ⟨next, logs, reply⟩ := reply
    cases reply with
    | error failure =>
      cases failure with
      | views e => exact ⟨asked, since, fun smooth => .stop (filed smooth) _⟩
      | sql fault =>
        refine ⟨asked, since, fun smooth => ?_⟩
        obtain ⟨e, same⟩ := (filed smooth).error_of_views
        cases same
      | foreign failure =>
        refine ⟨asked, since, fun smooth => ?_⟩
        obtain ⟨e, same⟩ := (filed smooth).error_of_views
        cases same
    | ok done =>
      obtain ⟨later, sinceThen, laid⟩ := ih (result.advance view.name stage) next madeRest
      refine ⟨asked ++ later, sinceThen.trans since, fun smooth => ?_⟩
      obtain ⟨smoothFirst, smoothRest⟩ := List.forall_mem_append.mp smooth
      rw [ofTables_append]
      exact .cons (filed smoothFirst) (laid smoothRest)

/-! ### What is left behind -/

theorem viewId_injective {project dataset view other : String}
    (same : viewId project dataset view = viewId project dataset other) : view = other :=
  (String.append_right_inj _).mp same

section
variable {project dataset schema : String}

/-- The tables with some views written over. -/
def Tables.place (tables : Tables) (project dataset : String) (views : List View) : Tables :=
  views.foldl (fun tables view => tables.write (viewId project dataset view.name) (.view view.sql)) tables

theorem place_other {tables : Tables} {views : List View} {id : String}
    (apart : ∀ view ∈ views, id ≠ viewId project dataset view.name) :
    tables.place project dataset views id = tables id := by
  induction views generalizing tables with
  | nil => rfl
  | cons view rest ih =>
    obtain ⟨first, later⟩ := List.forall_mem_cons.mp apart
    exact (ih later).trans (tables.write_other _ first)

/-- The id of a view is none of those of other views. -/
theorem apart_of_nodup {view : View} {rest : List View}
    (nodup : ((view :: rest).map View.name).Nodup) :
    ∀ other ∈ rest, viewId project dataset view.name ≠ viewId project dataset other.name := by
  intro other mem same
  exact (List.nodup_cons.mp nodup).1 (viewId_injective same ▸ List.mem_map_of_mem mem)

theorem place_mem {tables : Tables} {views : List View} (nodup : (views.map View.name).Nodup) :
    ∀ view ∈ views,
      tables.place project dataset views (viewId project dataset view.name) = some (.view view.sql) := by
  induction views generalizing tables with
  | nil => exact nofun
  | cons view rest ih =>
    refine List.forall_mem_cons.mpr ⟨?_, ih (List.nodup_cons.mp nodup).2⟩
    exact (place_other (apart_of_nodup nodup)).trans (tables.write_self _ _)

/-- Views whose ids nothing else has are all written. -/
theorem Laid.through {before rest : List View} {tables last : Tables} {asked : List Request}
    {stop : Option Failure}
    (laid : Laid project dataset schema tables (before ++ rest) asked last stop)
    (free : ∀ view ∈ before, ¬ tables.Occupied (viewId project dataset view.name)) :
    ∃ later, Laid project dataset schema (tables.place project dataset before) rest later last stop := by
  induction before generalizing tables asked with
  | nil => exact ⟨asked, laid⟩
  | cons view before ih =>
    obtain ⟨freeFirst, freeRest⟩ := List.forall_mem_cons.mp free
    cases laid with
    | stop filed => cases (filed.written freeFirst).1
    | cons filed behind =>
      obtain ⟨-, rfl⟩ := filed.written freeFirst
      exact ih behind fun other mem => Tables.not_occupied_write (freeRest other mem)

/-- Views that are all there are updated, which changes nothing. -/
theorem Laid.again {views : List View} {tables last : Tables} {asked : List Request}
    {stop : Option Failure} (laid : Laid project dataset schema tables views asked last stop)
    (there : ∀ view ∈ views,
      tables (viewId project dataset view.name) = some (.view view.sql)) :
    asked = views.flatMap (fun view =>
        [.get (viewId project dataset view.name), .update (viewId project dataset view.name) view.sql]) ∧
      last = tables ∧ stop = none := by
  induction laid with
  | nil => exact ⟨rfl, rfl, rfl⟩
  | cons filed behind ih =>
    obtain ⟨first, rest⟩ := List.forall_mem_cons.mp there
    cases filed with
    | created absent =>
      rw [first] at absent
      cases absent
    | updated found =>
      rw [Tables.write_eq first] at ih
      obtain ⟨rfl, same, none⟩ := ih rest
      exact ⟨rfl, same, none⟩
  | stop filed rest =>
    cases filed with
    | occupied found other =>
      rw [there _ List.mem_cons_self] at found
      cases found
      exact absurd rfl other

/-- The error for a view learns the schema, and keeps the view. -/
theorem rejection_context (schema view query : String) (problem : Rejection) :
    ViewError.addContext ⟨.rejected problem (some query), ⟨none, some view, none⟩⟩
        ⟨some schema, some view, none⟩ =
      ⟨.rejected problem (some query), ⟨some schema, some view, none⟩⟩ := by
  simp only [ViewError.addContext, Context.add, Context.fill_none_left, Context.fill_self]

/-- Views whose ids nothing else has, and no more. -/
theorem Laid.whole {views : List View} {tables last : Tables} {asked : List Request}
    {stop : Option Failure} (laid : Laid project dataset schema tables views asked last stop)
    (free : ∀ view ∈ views, ¬ tables.Occupied (viewId project dataset view.name)) :
    stop = none ∧ last = tables.place project dataset views := by
  rw [← List.append_nil views] at laid
  obtain ⟨later, done⟩ := laid.through free
  cases done
  exact ⟨rfl, rfl⟩

/-- Views up to the first whose id something else has. -/
theorem Laid.ended {before rest : List View} {view : View} {tables last : Tables}
    {asked : List Request} {stop : Option Failure}
    (laid : Laid project dataset schema tables (before ++ view :: rest) asked last stop)
    (free : ∀ other ∈ before, ¬ tables.Occupied (viewId project dataset other.name))
    (nodup : ((before ++ view :: rest).map View.name).Nodup) {table : Table}
    (there : tables (viewId project dataset view.name) = some table) (other : table.type ≠ "VIEW") :
    stop = some (.views ⟨.rejected (.notAView (viewId project dataset view.name) table.type)
        (some view.sql), ⟨some schema, some view.name, none⟩⟩) ∧
      last = tables.place project dataset before ∧
      last (viewId project dataset view.name) = some table := by
  rw [List.map_append, List.nodup_append] at nodup
  obtain ⟨-, -, apart⟩ := nodup
  have kept : tables.place project dataset before (viewId project dataset view.name) = some table := by
    refine (place_other fun earlier mem same => ?_).trans there
    exact apart _ (List.mem_map_of_mem mem) _ List.mem_cons_self (viewId_injective same).symm
  obtain ⟨later, done⟩ := laid.through free
  cases done with
  | cons filed behind =>
    cases filed with
    | created absent =>
      rw [kept] at absent
      cases absent
    | updated found =>
      rw [kept] at found
      cases found
      exact absurd rfl other
  | stop filed =>
    cases filed with
    | occupied found _ =>
      rw [kept] at found
      cases found
      exact ⟨congrArg some (congrArg Failure.views (rejection_context _ _ _ _)), rfl, kept⟩

end

theorem install_laid {remote : Remote σ} {tables : σ → Tables} (holds : remote.Holds tables)
    {project dataset : String} {views : SchemaViews}
    (made : ∀ view ∈ views.all, remote.newTable (viewId project dataset view.name) = .ok ())
    (session : Session σ) :
    let run := (manager remote project).install dataset views session
    run.state.Smooth remote session →
      ∃ asked, run.state.AskedSince remote session asked ∧
        Laid project dataset views.schema (tables session.remote) views.all (ofTables asked)
          (tables run.state.remote) run.result.2 := by
  have stages : views.stages.map Prod.fst = views.all := views.views_of_stages
  obtain ⟨asked, since, laid⟩ :=
    installEach_laid holds project dataset (.start views.schema) session views.stages (stages ▸ made)
  rw [stages] at laid
  simp only [ViewManager.install]
  generalize (manager remote project).installEach dataset (.start views.schema) session views.stages = run
    at since laid ⊢
  obtain ⟨next, logs, result, stop⟩ := run
  cases stop with
  | none => exact fun smooth => ⟨asked, since, laid (smooth asked since)⟩
  | some failure => exact fun smooth => ⟨asked, since, laid (smooth asked since)⟩

theorem sent_ofTables {remote : Remote σ} {session before : Session σ} {asked : List Exchange}
    (since : session.AskedSince remote before asked) :
    session.sent.filter Request.isOfTable = before.sent.filter Request.isOfTable ++ ofTables asked := by
  rw [since.sent, List.filter_append, ofTables]

/-- Where nothing else has the ids of its views, installing a schema leaves behind each view and all other
tables as they were, and installing it again sends updates of the views and changes no table. Where
something else has one of the ids, the first such id in order ends the work, and only views before it are
written. New tables can be made under the ids of the views. -/
theorem install_exact {remote : Remote σ} {tables : σ → Tables} (holds : remote.Holds tables)
    {t : Target} {dataset : String} {first schemaName : Option String} {schema : Schema}
    {changelog : Option String} {views : SchemaViews}
    (compiled : t.compile dataset first schemaName schema changelog = .ok views) (project : String)
    (made : ∀ view ∈ views.all, remote.newTable (viewId project dataset view.name) = .ok ())
    (session : Session σ)
    (smooth : ((manager remote project).install dataset views session).state.Smooth remote session) :
    let id (view : View) := viewId project dataset view.name
    let run := (manager remote project).install dataset views session
    let before := tables session.remote
    let after := tables run.state.remote
    ((∀ view ∈ views.all, ¬ before.Occupied (id view)) →
      run.result.2 = none ∧
      (∀ view ∈ views.all, after (id view) = some (.view view.sql)) ∧
      (∀ other, (∀ view ∈ views.all, other ≠ id view) → after other = before other) ∧
      ∀ later : Session σ, tables later.remote = after →
        let again := (manager remote project).install dataset views later
        again.state.Smooth remote later →
          again.result.2 = none ∧ tables again.state.remote = after ∧
          again.state.sent.filter Request.isOfTable = later.sent.filter Request.isOfTable ++
            views.all.flatMap fun view => [.get (id view), .update (id view) view.sql]) ∧
    ∀ earlier view rest, views.all = earlier ++ view :: rest →
      (∀ other ∈ earlier, ¬ before.Occupied (id other)) →
      ∀ table, before (id view) = some table → table.type ≠ "VIEW" →
        run.result.2 = some (.views ⟨.rejected (.notAView (id view) table.type) (some view.sql),
          ⟨some views.schema, some view.name, none⟩⟩) ∧
        after (id view) = some table ∧
        ∀ other, (∀ written ∈ earlier, other ≠ id written) → after other = before other := by
  intro id run before after
  have nodup := Target.nodup_of_compile compiled
  obtain ⟨asked, since, laid⟩ := install_laid holds made session smooth
  constructor
  · intro free
    obtain ⟨whole, placed⟩ := laid.whole free
    have written : ∀ view ∈ views.all, after (id view) = some (.view view.sql) := by
      intro view mem
      rw [show after = _ from placed]
      exact place_mem nodup view mem
    refine ⟨whole, written, fun other apart => ?_, ?_⟩
    · rw [show after = _ from placed]
      exact place_other apart
    · intro later same again smoothAgain
      obtain ⟨askedAgain, sinceLater, laidAgain⟩ := install_laid holds made later smoothAgain
      rw [same] at laidAgain
      obtain ⟨asks, kept, ended⟩ := laidAgain.again written
      exact ⟨ended, kept, asks ▸ sent_ofTables sinceLater⟩
  · intro earlier view rest split free table there other
    rw [split] at laid nodup
    obtain ⟨ended, placed, kept⟩ := laid.ended free nodup there other
    refine ⟨ended, kept, fun unwritten apart => ?_⟩
    rw [show after = _ from placed]
    exact place_other apart

/-- Another side that is nothing but its tables. -/
def kept : Remote Tables where
  connect tables _ := (.ok (), tables)
  getTable tables id :=
    (match tables id with
      | some table => .ok ⟨id, table.type⟩
      | none => .error (.status notFound s!"Not found: {id}"), tables)
  newTable _ := .ok ()
  createTable tables id query := (.ok (), tables.write id (.view query))
  updateTable tables id query := (.ok (), tables.requery id query)

theorem kept_acts (tables : Tables) (request : Request) :
    Acts tables ⟨request, (kept.answer tables request).1⟩ (kept.answer tables request).2 := by
  cases request with
  | connect project => exact .connect tables project
  | get id =>
    cases found : tables id with
    | none =>
      simp only [Remote.answer, kept, found]
      exact .missing found _
    | some table =>
      simp only [Remote.answer, kept, found]
      exact .found found
  | create id query => exact .create tables id query
  | update id query => exact .update tables id query

theorem kept_holds : kept.Holds fun tables => tables :=
  ⟨fun _ _ _ => nofun, fun tables request _ => kept_acts tables request⟩

theorem Acts.smooth {tables next : Tables} {exchange : Exchange} (acts : Acts tables exchange next) :
    exchange.Smooth := by
  rintro refusal refused
  cases acts <;> cases refused
  exact ⟨⟨_, rfl⟩, rfl⟩

/-- No request fails there. -/
theorem kept_smooth (session before : Session Tables) : session.Smooth kept before := by
  rintro asked ⟨-, answered⟩
  generalize before.remote = first, session.remote = last at answered
  induction answered with
  | nil => exact nofun
  | cons request _ ih => exact List.forall_mem_cons.mpr ⟨(kept_acts _ request).smooth, ih⟩

/-- It accepts views whose ids nothing else has. -/
theorem kept_accepts {project dataset : String} {views : List View} (session : Session Tables)
    (free : ∀ view ∈ views, ¬ session.remote.Occupied (viewId project dataset view.name)) :
    (manager kept project).Accepts dataset session views := by
  induction views generalizing session with
  | nil => trivial
  | cons view rest ih =>
    obtain ⟨freeFirst, freeRest⟩ := List.forall_mem_cons.mp free
    have made : kept.newTable (viewId project dataset view.name) = .ok () := rfl
    obtain ⟨asked, since, filed⟩ := create_filed kept_holds project session view.sql made
    obtain ⟨created, written⟩ := (filed (kept_smooth _ _ asked since)).written freeFirst
    refine ⟨created, ih _ fun other mem => ?_⟩
    rw [written]
    exact Tables.not_occupied_write (freeRest other mem)

/-- A schema with an array. -/
def orders : Schema := ⟨[Field.ofKind (.ofString "total") .number, Field.ofKind (.ofString "tags") .array]⟩

/-- Its views are installed where there is nothing, and again, and where there is a table. -/
theorem orders_installed :
    kept.Holds (fun tables => tables) ∧ ∃ views,
      Target.compile ⟨Sql.BigQuery.dialect, "shop", .standard⟩ "sales" (some "f") (some "s") orders none =
        .ok views ∧
      views.all.map View.name = ["f_schema_s_latest_snapshot", "f_schema_s_latest",
        "f_schema_s_latest_tags"] ∧
      (∀ view ∈ views.all, kept.newTable (viewId "shop" "sales" view.name) = .ok ()) ∧
      let nothing : Tables := fun _ => none
      let run := (manager kept "shop").install "sales" views ⟨false, [], nothing⟩
      let taken := nothing.write "shop.sales.f_schema_s_latest" ⟨"TABLE", ""⟩
      let stopped := (manager kept "shop").install "sales" views ⟨false, [], taken⟩
      run.state.Smooth kept ⟨false, [], nothing⟩ ∧ stopped.state.Smooth kept ⟨false, [], taken⟩ ∧
      run.result.2 = none ∧
      (∀ view ∈ views.all, run.state.remote (viewId "shop" "sales" view.name) = some (.view view.sql)) ∧
      ((manager kept "shop").install "sales" views run.state).state.remote = run.state.remote ∧
      stopped.state.remote (viewId "shop" "sales" views.top.name) = some ⟨"TABLE", ""⟩ ∧
      stopped.result.2 = some (.views ⟨.rejected (.notAView (viewId "shop" "sales" views.top.name) "TABLE")
        (some views.top.sql), ⟨some views.schema, some views.top.name, none⟩⟩) := by
  have compiled : ∃ views, Target.compile ⟨Sql.BigQuery.dialect, "shop", .standard⟩ "sales" (some "f")
      (some "s") orders none = .ok views ∧ views.all.map View.name = ["f_schema_s_latest_snapshot",
        "f_schema_s_latest", "f_schema_s_latest_tags"] := by
    unfold Target.compile
    rw [Target.layOut_eq]
    exact ⟨_, rfl, by decide⟩
  obtain ⟨views, done, names⟩ := compiled
  have made : ∀ view ∈ views.all, kept.newTable (viewId "shop" "sales" view.name) = .ok () :=
    fun _ _ => rfl
  have first : views.snapshot.name = "f_schema_s_latest_snapshot" := (List.cons.inj names).1
  have second : views.top.name = "f_schema_s_latest" := (List.cons.inj (List.cons.inj names).2).1
  refine ⟨kept_holds, views, done, names, made, ?_⟩
  intro nothing run taken stopped
  obtain ⟨installs, -⟩ := install_exact kept_holds done "shop" made ⟨false, [], nothing⟩ (kept_smooth _ _)
  obtain ⟨ended, written, -, again⟩ := installs fun _ _ ⟨_, there, _⟩ => nomatch there
  obtain ⟨-, stops⟩ := install_exact kept_holds done "shop" made ⟨false, [], taken⟩ (kept_smooth _ _)
  have free : ¬ taken.Occupied (viewId "shop" "sales" views.snapshot.name) := by
    rw [first]
    exact fun ⟨_, there, _⟩ => nomatch there
  have table : taken (viewId "shop" "sales" views.top.name) = some ⟨"TABLE", ""⟩ := by
    rw [second]
    rfl
  obtain ⟨stop, untouched, -⟩ := stops [views.snapshot] views.top views.children rfl
    (List.forall_mem_singleton.mpr free) _ table (by decide)
  exact ⟨kept_smooth _ _, kept_smooth _ _, ended, written, (again run.state rfl (kept_smooth _ _)).2.1,
    untouched, stop⟩

end ChangelogViews.BigQuery
