import ChangelogViews.Proofs.Batch.Settled

/-!
# Isolation in a batch

The schemas of a batch do not meet but in the names of their views. Whoever shares such a name is not
started, and any other schema fares as it would alone, in every order of the batch and whatever becomes
of the rest (`batch_isolated`).
-/

namespace ChangelogViews
namespace Target

section
variable {t : Target} {dataset : String} {first : Option String} {schemas : List (String × Schema)}
  {entry : String × Schema} {view : String}

/-- The schema names the view, and so does another of the batch. -/
def Shares (t : Target) (dataset : String) (first : Option String) (schemas : List (String × Schema))
    (entry : String × Schema) (view : String) : Prop :=
  view ∈ t.viewNames dataset first entry ∧
    ∃ other ∈ schemas, other.1 ≠ entry.1 ∧ view ∈ t.viewNames dataset first other

theorem mem_mentions {name : String} : (name, view) ∈ t.mentions dataset first schemas ↔
    ∃ entry ∈ schemas, entry.1 = name ∧ view ∈ t.viewNames dataset first entry := by
  unfold mentions
  rw [List.mem_flatMap]
  constructor
  · rintro ⟨entry, inside, mentioned⟩
    obtain ⟨own, named, same⟩ := List.mem_map.mp mentioned
    cases same
    exact ⟨entry, inside, rfl, named⟩
  · rintro ⟨entry, inside, rfl, named⟩
    exact ⟨entry, inside, List.mem_map.mpr ⟨view, named, rfl⟩⟩

theorem eq_of_name (mapping : (schemas.map Prod.fst).Nodup) {a b : String × Schema}
    (inA : a ∈ schemas) (inB : b ∈ schemas) (same : a.1 = b.1) : a = b := by
  induction schemas with
  | nil => cases inA
  | cons s rest ih =>
    rw [List.map_cons, List.nodup_cons] at mapping
    rcases List.mem_cons.mp inA with rfl | laterA
    · rcases List.mem_cons.mp inB with rfl | laterB
      · rfl
      · exact absurd (List.mem_map.mpr ⟨b, laterB, same.symm⟩) mapping.1
    · rcases List.mem_cons.mp inB with rfl | laterB
      · exact absurd (List.mem_map.mpr ⟨a, laterA, same⟩) mapping.1
      · exact ih mapping.2 laterA laterB

private theorem mentioned_iff (mapping : (schemas.map Prod.fst).Nodup) (inside : entry ∈ schemas) :
    (entry.1, view) ∈ t.mentions dataset first schemas ↔ view ∈ t.viewNames dataset first entry := by
  rw [mem_mentions]
  constructor
  · rintro ⟨other, among, same, named⟩
    rw [← eq_of_name mapping among inside same]
    exact named
  · exact fun named => ⟨entry, inside, rfl, named⟩

private theorem clashes_faithful (t : Target) (dataset : String) (first : Option String)
    (schemas : List (String × Schema)) :
    (Sharing.noteAll ⟨[], []⟩ (t.mentions dataset first schemas)).Faithful
      (t.mentions dataset first schemas) :=
  Sharing.faithful_nil.noteAll _

/-- A schema that is blamed is told a name that it shares. -/
private theorem shares_of_clash (mapping : (schemas.map Prod.fst).Nodup) (inside : entry ∈ schemas)
    {e : ViewError} (blamed : member? (t.clashes dataset first schemas) entry.1 = some e) :
    ∃ view one two, e = Sharing.clash entry.1 view one two ∧ t.Shares dataset first schemas entry view := by
  obtain ⟨view, one, two, same, own, other, differs, among⟩ :=
    (clashes_faithful t dataset first schemas).shared entry.1 e blamed
  obtain ⟨sharer, listed, rfl, named⟩ := mem_mentions.mp among
  exact ⟨view, one, two, same, (mentioned_iff mapping inside).mp own, sharer, listed, differs, named⟩

/-- A schema that shares a name is blamed. -/
theorem clash_of_shares (inside : entry ∈ schemas)
    (shares : t.Shares dataset first schemas entry view) :
    member? (t.clashes dataset first schemas) entry.1 ≠ none := by
  obtain ⟨own, other, listed, differs, named⟩ := shares
  exact (clashes_faithful t dataset first schemas).complete entry.1 other.1 view differs
    (mem_mentions.mpr ⟨entry, inside, rfl, own⟩) (mem_mentions.mpr ⟨other, listed, rfl, named⟩)

theorem clash_eq_none_iff (mapping : (schemas.map Prod.fst).Nodup) (inside : entry ∈ schemas) :
    member? (t.clashes dataset first schemas) entry.1 = none ↔
      ¬ ∃ view, t.Shares dataset first schemas entry view := by
  constructor
  · rintro quiet ⟨view, shares⟩
    exact clash_of_shares inside shares quiet
  · intro apart
    cases blamed : member? (t.clashes dataset first schemas) entry.1 with
    | none => rfl
    | some e =>
      obtain ⟨view, _, _, _, shares⟩ := shares_of_clash mapping inside blamed
      exact absurd ⟨view, shares⟩ apart

theorem shares_of_perm {others : List (String × Schema)} (order : others.Perm schemas) :
    t.Shares dataset first others entry view ↔ t.Shares dataset first schemas entry view := by
  unfold Shares
  simp only [order.mem_iff]

/-- Nobody shares a name in a batch of one. -/
theorem clash_alone (t : Target) (dataset : String) (first : Option String)
    (entry : String × Schema) : member? (t.clashes dataset first [entry]) entry.1 = none := by
  rw [clash_eq_none_iff (by simp) List.mem_cons_self]
  rintro ⟨view, _, other, listed, differs, _⟩
  rw [List.mem_singleton.mp listed] at differs
  exact differs rfl

private theorem mentions_without (t : Target) (dataset : String) (first : Option String)
    (schemas : List (String × Schema)) (gone : String) :
    t.mentions dataset first (schemas.filter (·.1 ≠ gone)) =
      (t.mentions dataset first schemas).filter (·.1 ≠ gone) := by
  unfold mentions
  induction schemas with
  | nil => rfl
  | cons entry rest ih =>
    rw [List.flatMap_cons, List.filter_append, ← ih]
    by_cases same : entry.1 = gone
    · have dropped : ((t.viewNames dataset first entry).map fun view => (entry.1, view)).filter
          (·.1 ≠ gone) = [] := by
        simp [same]
      rw [dropped, List.filter_cons_of_neg (by simpa using same), List.nil_append]
    · have kept : ((t.viewNames dataset first entry).map fun view => (entry.1, view)).filter
          (·.1 ≠ gone) = (t.viewNames dataset first entry).map fun view => (entry.1, view) := by
        simp [same]
      rw [kept, List.filter_cons_of_pos (by simpa using same), List.flatMap_cons]

/-- The error of a schema does not change when another goes with which it shares no name. -/
private theorem clash_without (mapping : (schemas.map Prod.fst).Nodup) (inside : entry ∈ schemas)
    {gone : String × Schema} (among : gone ∈ schemas)
    (apart : ∀ view ∈ t.viewNames dataset first gone, view ∉ t.viewNames dataset first entry) :
    member? (t.clashes dataset first (schemas.filter (·.1 ≠ gone.1))) entry.1 =
      member? (t.clashes dataset first schemas) entry.1 := by
  unfold clashes
  rw [mentions_without]
  refine (Sharing.clash_of_filter ?_).symm
  rintro ⟨name, view⟩ mentioned own
  rw [mentioned_iff mapping inside] at own
  rw [decide_eq_true_eq]
  rintro rfl
  exact apart view ((mentioned_iff mapping among).mp mentioned) own

/-- The schemas of a batch that succeed: those that would alone, and share no name. -/
private theorem succeeds_iff (mapping : (schemas.map Prod.fst).Nodup) (verdicts : Option Verdicts)
    (name : String) :
    (∃ result ∈ schemas.map (t.settle verdicts dataset first schemas),
        result.schema = name ∧ result.ok = true) ↔
      ∃ entry ∈ schemas, entry.1 = name ∧ (¬ ∃ view, t.Shares dataset first schemas entry view) ∧
        (SchemaResult.ofDraft verdicts dataset (t.draft dataset first entry)).ok = true := by
  have one : ∀ entry ∈ schemas, (t.settle verdicts dataset first schemas entry).ok = true ↔
      (¬ ∃ view, t.Shares dataset first schemas entry view) ∧
        (SchemaResult.ofDraft verdicts dataset (t.draft dataset first entry)).ok = true := by
    intro entry inside
    rw [← clash_eq_none_iff mapping inside]
    unfold settle
    cases member? (t.clashes dataset first schemas) entry.1 with
    | some e => simp [SchemaResult.ok, SchemaResult.start]
    | none => simp
  constructor
  · rintro ⟨result, listed, own, succeeds⟩
    obtain ⟨entry, inside, rfl⟩ := List.mem_map.mp listed
    rw [settle_schema] at own
    exact ⟨entry, inside, own, (one entry inside).mp succeeds⟩
  · rintro ⟨entry, inside, own, succeeds⟩
    refine ⟨_, List.mem_map.mpr ⟨entry, inside, rfl⟩, ?_, (one entry inside).mpr succeeds⟩
    rw [settle_schema]
    exact own

/-- The results by the names of their schemas. -/
private theorem eq_settle (mapping : (schemas.map Prod.fst).Nodup) (inside : entry ∈ schemas)
    {verdicts : Option Verdicts} {result : SchemaResult}
    (listed : result ∈ schemas.map (t.settle verdicts dataset first schemas))
    (own : result.schema = entry.1) : result = t.settle verdicts dataset first schemas entry := by
  obtain ⟨other, among, rfl⟩ := List.mem_map.mp listed
  rw [settle_schema] at own
  rw [eq_of_name mapping among inside own]

end

/-- What is known of the results of a batch. -/
structure Isolated {σ : Type} (t : Target) (m : Option (ViewManager σ)) (dataset : String)
    (first : Option String) (schemas : List (String × Schema)) (results : List SchemaResult) : Prop where
  /-- There is one result for each schema, in order. -/
  inOrder : results.map SchemaResult.schema = schemas.map Prod.fst
  /-- A schema that shares a view name is not started, and is told a name that it shares. -/
  shared : ∀ entry ∈ schemas, ∀ result ∈ results, result.schema = entry.1 →
    (∃ view, t.Shares dataset first schemas entry view) →
      result.stage = .notStarted ∧ result.created = [] ∧
        ∃ view one two, t.Shares dataset first schemas entry view ∧ result.error =
          some ⟨.malformed (.viewShared view one two), ⟨some entry.1, some view, none⟩⟩
  /-- Any other schema has the result that it has alone. -/
  alone : ∀ entry ∈ schemas, ∀ result ∈ results, result.schema = entry.1 →
    (¬ ∃ view, t.Shares dataset first schemas entry view) →
      ∀ state, (t.deployAll m dataset first [entry] state).result = .ok [result]
  /-- The same schemas succeed in any other order. -/
  reordered : ∀ others, others.Perm schemas → ∀ state, ∃ results',
    (t.deployAll m dataset first others state).result = .ok results' ∧
      ∀ name, (∃ result ∈ results, result.schema = name ∧ result.ok = true) ↔
        ∃ result ∈ results', result.schema = name ∧ result.ok = true
  /-- A schema has the same result without another that shares no name with it, whether that one
  succeeds or fails. -/
  removed : ∀ gone ∈ schemas, ∀ entry ∈ schemas, entry.1 ≠ gone.1 →
    (∀ view ∈ t.viewNames dataset first gone, view ∉ t.viewNames dataset first entry) →
      ∀ result ∈ results, result.schema = entry.1 → ∀ state, ∃ results',
        (t.deployAll m dataset first (schemas.filter (·.1 ≠ gone.1)) state).result = .ok results' ∧
          result ∈ results'

/-- In a shipped dialect and under a steady view manager a batch ends with results, and its schemas do
not meet but in the names of their views. -/
theorem batch_isolated {σ : Type} {t : Target} (shipped : t.dialect ∈ Sql.dialects)
    {m : Option (ViewManager σ)} {verdicts : Verdicts}
    (steady : ∀ manager ∈ m, manager.Steady verdicts) (dataset : String) (first : Option String)
    {schemas : List (String × Schema)} (mapping : (schemas.map Prod.fst).Nodup)
    (nonempty : schemas ≠ []) (state : σ) :
    ∃ results, (t.deployAll m dataset first schemas state).result = .ok results ∧
      t.Isolated m dataset first schemas results := by
  have regular := Sql.Dialect.regular_of_mem shipped
  refine ⟨_, deployAll_eq regular steady dataset first nonempty state, ?_, ?_, ?_, ?_, ?_⟩
  · rw [List.map_map]
    exact List.map_congr_left fun entry _ => settle_schema t _ dataset first schemas entry
  · intro entry inside result listed own shares
    obtain rfl := eq_settle mapping inside listed own
    obtain ⟨view, sharing⟩ := shares
    cases blamed : member? (t.clashes dataset first schemas) entry.1 with
    | none => exact absurd blamed (clash_of_shares inside sharing)
    | some e =>
      obtain ⟨told, one, two, rfl, really⟩ := shares_of_clash mapping inside blamed
      simp only [settle, blamed]
      exact ⟨rfl, rfl, told, one, two, really, rfl⟩
  · intro entry inside result listed own apart state
    obtain rfl := eq_settle mapping inside listed own
    rw [deployAll_eq regular steady dataset first (List.cons_ne_nil _ _) state]
    have quiet := (clash_eq_none_iff mapping inside).mpr apart
    simp only [List.map_cons, List.map_nil, settle, clash_alone, quiet]
  · intro others order state
    have mapping' : (others.map Prod.fst).Nodup := (order.map Prod.fst).nodup_iff.mpr mapping
    have nonempty' : others ≠ [] := by
      rintro rfl
      exact nonempty order.symm.eq_nil
    refine ⟨_, deployAll_eq regular steady dataset first nonempty' state, ?_⟩
    intro name
    rw [succeeds_iff mapping, succeeds_iff mapping']
    simp only [order.mem_iff, shares_of_perm order]
  · intro gone among entry inside differs apart result listed own state
    obtain rfl := eq_settle mapping inside listed own
    have kept : entry ∈ schemas.filter (·.1 ≠ gone.1) :=
      List.mem_filter.mpr ⟨inside, by simpa using differs⟩
    refine ⟨_, deployAll_eq regular steady dataset first (List.ne_nil_of_mem kept) state, ?_⟩
    refine List.mem_map.mpr ⟨entry, kept, ?_⟩
    unfold settle
    rw [clash_without mapping inside among apart]

/-- Does not create one of the views. -/
def picky : ViewManager Unit where
  create state _ view _ :=
    ⟨state, [], orStop (if view = "f_schema_c_latest"
      then .error (.of (.rejected (.described "no") none)) else .ok ())⟩

/-- Two schemas that share a view name, and two that do not. -/
def crowded : List (String × Schema) :=
  [("a", ⟨[.ofKind (.ofString "b_latest") .array]⟩), ("a_latest_b", ⟨[]⟩), ("c", ⟨[]⟩), ("d", ⟨[]⟩)]

theorem crowded_isolated :
    ∃ results, (deployAll ⟨Sql.DuckDb.dialect, "p", .standard⟩ (some picky) "d" (some "f") crowded
        ()).result = .ok results ∧
      Isolated ⟨Sql.DuckDb.dialect, "p", .standard⟩ (some picky) "d" (some "f") crowded results ∧
      results.map SchemaResult.stage = [.notStarted, .notStarted, .latestViewCreated, .done] := by
  have steady : ∀ manager ∈ some picky, manager.Steady fun _ view _ =>
      if view = "f_schema_c_latest" then .error (.of (.rejected (.described "no") none)) else .ok () := by
    rintro manager ⟨⟩
    exact fun _ _ _ _ => rfl
  have mapping : (crowded.map Prod.fst).Nodup := by decide
  have nonempty : crowded ≠ [] := by simp [crowded]
  obtain ⟨results, ended, isolated⟩ := batch_isolated (t := ⟨Sql.DuckDb.dialect, "p", .standard⟩)
    (by simp [Sql.dialects]) steady "d" (some "f") mapping nonempty ()
  refine ⟨results, ended, isolated, ?_⟩
  have run : (deployAll ⟨Sql.DuckDb.dialect, "p", .standard⟩ (some picky) "d" (some "f") crowded
      ()).result.map (·.map SchemaResult.stage) =
        .ok [.notStarted, .notStarted, .latestViewCreated, .done] := by
    simp only [crowded, deployAll, drafts, compile, layOut_eq]
    rfl
  rw [ended] at run
  exact Except.ok.inj run

end Target
end ChangelogViews
