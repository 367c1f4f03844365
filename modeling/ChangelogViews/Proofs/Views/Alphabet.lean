import ChangelogViews.Proofs.Views.Legality
import ChangelogViews.Proofs.Views.Origins

/-!
# The alphabet of generated names

Every name that is generated for a view is put together from names that were accepted. An accepted name is
made of letters, digits and underscores but for one line feed that may stand at its end, and line feeds are
all that generated names can hold beyond these (`names_in_alphabet`, `feed_in_names`).
-/

namespace ChangelogViews

/-- Which characters of a name are looked at: all of them, or all but line feeds. -/
def looksAt (feeds : Bool) (c : Char) : Bool := feeds || c != '\n'

/-- The name follows the rule to its end. Line feeds are passed over unless they are looked at. -/
def NameRule.Followed (feeds : Bool) (rule : NameRule) (name : String) : Prop :=
  rule.holds (name.toList.filter (looksAt feeds)) = true

/-- No character of the text but for line feeds that are passed over is beyond those of words. -/
def Wordy (feeds : Bool) (text : String) : Prop :=
  ∀ c ∈ text.toList, looksAt feeds c = true → NameRule.isWordChar c = true

namespace NameRule

variable {feeds : Bool}

theorem word_holds_iff {cs : List Char} :
    word.holds cs = true ↔ cs ≠ [] ∧ ∀ c ∈ cs, isWordChar c = true := by
  simp [holds]

theorem identifier_holds_iff {cs : List Char} :
    identifier.holds cs = true ↔ word.holds cs = true ∧ ∀ c ∈ cs.head?, c.isDigit = false := by
  cases cs with
  | nil => simp [holds]
  | cons c rest =>
    simp only [holds, List.all_cons, Bool.and_eq_true, List.isEmpty_cons, Bool.not_false, true_and,
      List.head?_cons, Option.mem_some_iff, forall_eq', Bool.not_eq_true']
    exact and_right_comm

/-- A feed is no character of a word, so every one of these is looked at. -/
theorem looksAt_of_isWordChar {c : Char} (word : isWordChar c = true) : looksAt feeds c = true := by
  have other : c ≠ '\n' := by
    rintro rfl
    exact absurd word (by decide)
  simp [looksAt, other]

theorem followed_all {rule : NameRule} {name : String} :
    rule.Followed true name ↔ rule.acceptsExactly name = true := by
  have all : name.toList.filter (looksAt true) = name.toList :=
    List.filter_eq_self.mpr fun _ _ => rfl
  rw [Followed, all, acceptsExactly]

theorem followed_of_exactly {rule : NameRule} {name : String} (wordy : Wordy true name)
    (exactly : rule.acceptsExactly name = true) : rule.Followed feeds name := by
  have all : name.toList.filter (looksAt feeds) = name.toList :=
    List.filter_eq_self.mpr fun c inside => looksAt_of_isWordChar (wordy c inside rfl)
  rw [Followed, all]
  exact exactly

/-- What was accepted follows its rule, once the line feed at its end is passed over or if it has none. -/
theorem followed_of_accepts {rule : NameRule} {name : String}
    (wordRule : ∀ {cs}, rule.holds cs = true → word.holds cs = true) (accepted : rule.accepts name = true)
    (clean : feeds = true → '\n' ∉ name.toList) : rule.Followed feeds name := by
  have kept {cs : List Char} (followed : rule.holds cs = true) : cs.filter (looksAt feeds) = cs :=
    List.filter_eq_self.mpr fun c inside =>
      looksAt_of_isWordChar ((word_holds_iff.mp (wordRule followed)).2 c inside)
  rw [accepts, Bool.or_eq_true] at accepted
  unfold Followed
  rcases accepted with whole | before
  · rw [kept whole]
    exact whole
  · rcases beforeFeed_cases name.toList with same | fed
    · rw [same] at before
      rw [kept before]
      exact before
    · cases feeds with
      | true =>
        refine absurd ?_ (clean rfl)
        rw [fed]
        exact List.mem_append_right _ (List.mem_singleton.mpr rfl)
      | false =>
        rw [fed, List.filter_append, kept before]
        exact (congrArg rule.holds (List.append_nil _)).trans before

theorem word_of_identifier {cs : List Char} (followed : identifier.holds cs = true) :
    word.holds cs = true :=
  (identifier_holds_iff.mp followed).1

namespace Followed

theorem wordy_of_word {name : String} (followed : word.Followed feeds name) : Wordy feeds name :=
  fun c inside looked => (word_holds_iff.mp followed).2 c (List.mem_filter.mpr ⟨inside, looked⟩)

theorem toWord {name : String} (followed : identifier.Followed feeds name) :
    word.Followed feeds name :=
  word_of_identifier followed

theorem wordy {name : String} (followed : identifier.Followed feeds name) : Wordy feeds name :=
  followed.toWord.wordy_of_word

theorem append_word {a b : String} (followed : word.Followed feeds a) (wordy : Wordy feeds b) :
    word.Followed feeds (a ++ b) := by
  obtain ⟨some, own⟩ := word_holds_iff.mp followed
  rw [Followed, String.toList_append, List.filter_append, word_holds_iff]
  refine ⟨List.append_ne_nil_of_left_ne_nil some _, fun c inside => ?_⟩
  rcases List.mem_append.mp inside with inside | inside
  · exact own c inside
  · obtain ⟨inside, looked⟩ := List.mem_filter.mp inside
    exact wordy c inside looked

theorem append {a b : String} (followed : identifier.Followed feeds a) (wordy : Wordy feeds b) :
    identifier.Followed feeds (a ++ b) := by
  obtain ⟨some, first⟩ := identifier_holds_iff.mp followed
  refine identifier_holds_iff.mpr ⟨followed.toWord.append_word wordy, ?_⟩
  rw [String.toList_append, List.filter_append, List.head?_append_of_ne_nil _ (word_holds_iff.mp some).1]
  exact first

end Followed
end NameRule

namespace Wordy

variable {feeds : Bool}

theorem of_all {text : String} (all : text.toList.all NameRule.isWordChar = true) :
    Wordy feeds text :=
  fun c inside _ => List.all_eq_true.mp all c inside

end Wordy

/-- Identifiers with underscores between them are an identifier. -/
theorem followed_joined {feeds : Bool} {path : List String} (ne : path ≠ [])
    (each : ∀ name ∈ path, NameRule.identifier.Followed feeds name) :
    NameRule.identifier.Followed feeds (joined path) := by
  refine joined_induction (fun first later => ?_) ne each
  exact (first.append (.of_all (by decide))).append later.wordy

/-- The column goes by an identifier, and a template of the dialect takes it from a path of identifiers
in the text `source`. -/
structure Column.Spelled (d : Sql.Dialect) (feeds : Bool) (source : String) (column : Column) : Prop where
  label : NameRule.identifier.Followed feeds column.label
  path : ∃ parts, (∃ kind rules, d.rules kind = some rules ∧ ∃ rule ∈ rules,
      column.expression = rule.template.render source (Sql.jsonPath parts)) ∧
    ∀ part ∈ parts, NameRule.identifier.Followed feeds part

/-- The members and the ordinals of the level go by identifiers, and its array lies at a path of identifiers. -/
structure UnnestLevel.Spelled (feeds : Bool) (level : UnnestLevel) : Prop where
  member : NameRule.identifier.Followed feeds level.member
  index : NameRule.identifier.Followed feeds level.index
  path : ∃ parts, level.jsonPath = Sql.jsonPath parts ∧
    ∀ part ∈ parts, NameRule.identifier.Followed feeds part

section
variable {feeds : Bool}

private theorem rules_of_place {d : Sql.Dialect} {p : FieldPlace} {rule : Sql.ColumnRule}
    (given : rule ∈ p.rules d) : ∃ kind rules, d.rules kind = some rules ∧ rule ∈ rules := by
  unfold FieldPlace.rules at given
  split at given
  · next rules resolved =>
    unfold Sql.Dialect.resolve at resolved
    simp only at resolved
    split at resolved
    · cases resolved
    · cases resolved
    · next kind _ _ _ =>
      split at resolved
      · next found =>
        cases resolved
        exact ⟨kind, _, found, given⟩
      · cases resolved
    · cases resolved
  · cases given

private theorem suffix_of_place {d : Sql.Dialect} (regular : d.Regular) {p : FieldPlace}
    {rule : Sql.ColumnRule} (given : rule ∈ p.rules d) :
    ∀ name ∈ rule.suffix, NameRule.identifier.Followed feeds name := by
  have among : rule.suffix ∈ (TypeSubject.ofType p.field.type).suffixes := by
    rw [← FieldPlace.rules_suffixes regular]
    exact List.mem_map_of_mem given
  intro name inside
  rcases TypeSubject.axis_of_suffixes among inside with rfl | rfl
  · exact NameRule.followed_of_exactly (.of_all (by decide)) (by decide)
  · exact NameRule.followed_of_exactly (.of_all (by decide)) (by decide)

/-- The columns of places are spelled as the names that lead to these are. -/
theorem spelled_of_columnsAt {d : Sql.Dialect} (regular : d.Regular) {source : String}
    {places : List FieldPlace} (names : ∀ p ∈ places, p.Names (NameRule.identifier.Followed feeds)) :
    ∀ column ∈ columnsAt d source places, column.Spelled d feeds source := by
  intro column among
  obtain ⟨p, inside, among⟩ := List.mem_flatMap.mp among
  obtain ⟨rule, given, rfl⟩ := List.mem_map.mp among
  obtain ⟨named, path, jsonPath⟩ := names p inside
  obtain ⟨kind, rules, found, listed⟩ := rules_of_place given
  refine ⟨followed_joined (List.append_ne_nil_of_left_ne_nil named _) ?_,
    p.jsonPath, ⟨kind, rules, found, rule, listed, rfl⟩, jsonPath⟩
  intro name inside
  rcases List.mem_append.mp inside with inside | inside
  · exact path name inside
  · exact suffix_of_place regular given name inside

/-- So are the levels of arrays. -/
theorem spelled_of_chained {quote : String → String} {data : String} {arrays : List ArraySite}
    {levels : List UnnestLevel} (chained : Chained quote data arrays levels)
    (names : ∀ a ∈ arrays, a.Names (NameRule.identifier.Followed feeds)) :
    ∀ level ∈ levels, level.Spelled feeds := by
  intro level among
  have labels : (level.member, level.index) ∈ arrays.map fun a => (a.member, a.index) :=
    chained.labels ▸ List.mem_map_of_mem among
  have paths : level.jsonPath ∈ arrays.map fun a => Sql.jsonPath a.jsonPath :=
    chained.paths ▸ List.mem_map_of_mem among
  obtain ⟨a, inside, same⟩ := List.mem_map.mp labels
  obtain ⟨b, within, path⟩ := List.mem_map.mp paths
  obtain ⟨member, index⟩ := Prod.mk.inj same
  have key := followed_joined (names a inside).ne_nil (names a inside).keyPath
  refine ⟨?_, ?_, b.jsonPath, path.symm, (names b within).jsonPath⟩
  · rw [← member]
    exact key.append (.of_all (by decide))
  · rw [← index]
    exact key.append (.of_all (by decide))

end

namespace Target

/-- How the views of a schema are named and written. Their names and that of the raw changelog are words;
the columns of the top view, the levels of the views of arrays, and the columns of these, which are taken
from the members of the last level, are put together from identifiers. -/
structure Spelled (t : Target) (spelling : Sql.Spelling) (dataset : String) (first : Option String)
    (feeds : Bool) (views : SchemaViews) : Prop where
  raw : NameRule.word.Followed feeds (Names.rawChangelog first)
  names : ∀ view ∈ views.all, NameRule.word.Followed feeds view.name
  top : ∃ columns,
    views.top.query =
      Sql.typedQuery (spelling.tableRef t.project dataset views.snapshot.name) t.layout columns ∧
    views.top.sql = views.top.query.render spelling.quote ∧
    ∀ column ∈ columns, column.Spelled t.dialect feeds (spelling.quote t.layout.data)
  arrays : ∀ view ∈ views.children, ∃ levels columns, ∃ last ∈ levels.getLast?,
    Sql.childQuery t.dialect (spelling.tableRef t.project dataset views.snapshot.name) t.layout levels
      columns = .ok view.query ∧
    view.sql = view.query.render spelling.quote ∧
    (∀ level ∈ levels, level.Spelled feeds) ∧
    ∀ column ∈ columns, column.Spelled t.dialect feeds (spelling.quote last.member)

/-- No line feed stands in the given names, nor in those of the fields that have a place. -/
structure Feedless (layout : ChangelogLayout) (first schemaName : Option String) (schema : Schema) :
    Prop where
  first : ∀ name ∈ first, '\n' ∉ name.toList
  schemaName : ∀ name ∈ schemaName, '\n' ∉ name.toList
  fields : ∀ s ∈ schema.scopes layout, ∀ p ∈ s.places, '\n' ∉ p.field.name.shown.toList

variable {t : Target} {dataset : String} {first schemaName : Option String} {schema : Schema}
  {changelog : Option String} {views : SchemaViews} {feeds : Bool}

/-- The names of the views begin with the given names, and go on with key paths where they have to. -/
private theorem names_spelled (regular : t.dialect.Regular) {names : String × String}
    (firstWord : NameRule.word.Followed feeds names.1) (word : NameRule.word.Followed feeds names.2)
    (arrays : ∀ n ∈ schema.arrayNodes, ∀ a ∈ n.around ++ [n.site],
      a.Names (NameRule.identifier.Followed feeds))
    (done : t.compile dataset (some names.1) (some names.2) schema changelog = .ok views) :
    ∀ view ∈ views.all, NameRule.word.Followed feeds view.name := by
  have top : NameRule.word.Followed feeds (Names.top (some names.1) (some names.2)) :=
    ((firstWord.append_word (.of_all (by decide))).append_word word.wordy_of_word).append_word
      (.of_all (by decide))
  intro view among
  rcases name_of_compile regular done among with same | same | ⟨n, listed, same⟩
  · rw [same]
    exact top.append_word (.of_all (by decide))
  · rw [same]
    exact top
  · rw [same]
    have key := arrays n listed n.site (List.mem_append_right _ (List.mem_singleton.mpr rfl))
    exact (top.append_word (.of_all (by decide))).append_word
      (followed_joined key.ne_nil key.keyPath).wordy

/-- A compiled schema is spelled as the names that were accepted for it are. -/
private theorem spelled_of_compile (regular : t.dialect.Regular) {spelling : Sql.Spelling}
    (spelled : t.dialect.spelled = .ok spelling)
    (clean : feeds = true → Feedless t.layout first schemaName schema)
    (done : t.compile dataset first schemaName schema changelog = .ok views) :
    t.Spelled spelling dataset first feeds views := by
  obtain ⟨_, fits, _⟩ := (compile_ok_iff regular dataset first schemaName schema changelog).mp ⟨_, done⟩
  have fields : ∀ s ∈ schema.scopes t.layout, ∀ p ∈ s.places,
      NameRule.identifier.Followed feeds p.field.name.shown := fun s among p inside =>
    NameRule.followed_of_accepts NameRule.word_of_identifier ((fits s among).sound p inside).named.2
      fun looked => (clean looked).fields s among p inside
  obtain ⟨places, arrays⟩ := names_of_scopes fields
  obtain ⟨names, spelling', flat, proper, spelled', passed, made, laid, _⟩ := layOut_ok (compile_ok done)
  obtain rfl : spelling = spelling' := Except.ok.inj (spelled.symm.trans spelled')
  obtain ⟨rfl, rfl⟩ := properNames_ok proper
  obtain ⟨firstAccepted, accepted⟩ := accepts_of_properNames proper
  have firstWord := NameRule.followed_of_accepts (fun followed => followed) firstAccepted
    fun looked => (clean looked).first _ rfl
  have word := NameRule.followed_of_accepts (fun followed => followed) accepted
    fun looked => (clean looked).schemaName _ rfl
  rw [topFlat_eq] at passed
  have columns := (sound_of_walk passed).2
  refine ⟨firstWord.append_word (.of_all (by decide)), names_spelled regular firstWord word arrays done,
    ?_, ?_⟩
  · refine ⟨flat.columns, ?_, ?_, ?_⟩
    · rw [laid]
      rfl
    · rw [laid]
      rfl
    · rw [columns]
      exact spelled_of_columnsAt regular (places _ List.mem_cons_self)
  · intro view among
    obtain ⟨n, listed, own⟩ := mem_of_mapM_ok made among
    obtain ⟨last, ends, query, sql⟩ := ChildSite.unnests_of_nodeView own
    refine ⟨_, columnsAt t.dialect (spelling.quote last.member) n.places, last, ends, ?_, sql, ?_,
      spelled_of_columnsAt regular ?_⟩
    · rw [laid]
      exact query
    · exact spelled_of_chained (ChildSite.enclosing_chained _ _ (growing_of_arrayNodes n listed).2)
        (arrays n listed)
    · exact places _ (List.mem_cons_of_mem _ (List.mem_map_of_mem listed))

/-- All names in the views of a schema that a shipped dialect compiled are words and identifiers once
line feeds are passed over, and so they are to their ends where no line feed was given. -/
theorem names_in_alphabet (shipped : t.dialect ∈ Sql.dialects)
    (done : t.compile dataset first schemaName schema changelog = .ok views) :
    ∃ spelling, t.dialect.spelled = .ok spelling ∧
      t.Spelled spelling dataset first false views ∧
      (Feedless t.layout first schemaName schema → t.Spelled spelling dataset first true views) := by
  have regular := Sql.Dialect.regular_of_mem shipped
  obtain ⟨spelling, spelled⟩ := regular.spells
  refine ⟨spelling, spelled, ?_, fun clean => ?_⟩
  · exact spelled_of_compile regular spelled (fun looked => absurd looked Bool.false_ne_true) done
  · exact spelled_of_compile regular spelled (fun _ => clean) done

theorem deepArrays_in_alphabet :
    Sql.BigQuery.dialect ∈ Sql.dialects ∧
    ∃ views, compile ⟨Sql.BigQuery.dialect, "p", .standard⟩ "d" (some "f") (some "s") deepArrays none =
        .ok views ∧
      Feedless .standard (some "f") (some "s") deepArrays ∧
      ∃ spelling, Sql.BigQuery.dialect.spelled = .ok spelling ∧
        Spelled ⟨Sql.BigQuery.dialect, "p", .standard⟩ spelling "d" (some "f") true views ∧
        ∀ view ∈ views.all, NameRule.word.acceptsExactly view.name = true := by
  have shipped : Sql.BigQuery.dialect ∈ Sql.dialects := by simp [Sql.dialects]
  have compiled : ∃ views, compile ⟨Sql.BigQuery.dialect, "p", .standard⟩ "d" (some "f") (some "s")
      deepArrays none = .ok views := by
    unfold compile
    rw [layOut_eq]
    exact ⟨_, rfl⟩
  have clean : Feedless .standard (some "f") (some "s") deepArrays :=
    ⟨by decide, by decide, by decide⟩
  obtain ⟨views, done⟩ := compiled
  obtain ⟨spelling, spelled, _, exactly⟩ := names_in_alphabet shipped done
  exact ⟨shipped, views, done, clean, spelling, spelled, exactly clean,
    fun view among => NameRule.followed_all.mp ((exactly clean).names view among)⟩

/-- A schema with a field whose name ends in a line feed. -/
def feedField : Schema := ⟨[Field.ofKind (.ofString "x\n") .string]⟩

/-- Names that end in a line feed are accepted, and the feed is in the names of views and columns. -/
theorem feed_in_names :
    ∃ views, compile ⟨Sql.DuckDb.dialect, "p", .standard⟩ "d" (some "f\n") (some "s") feedField none =
        .ok views ∧
      views.top.name = "f\n_schema_s_latest" ∧
      NameRule.word.acceptsExactly views.top.name = false ∧
      views.top.query.outputs = ["document_name", "x\n"] ∧
      NameRule.identifier.acceptsExactly "x\n" = false := by
  unfold compile
  rw [layOut_eq]
  exact ⟨_, rfl, by decide, by decide, by decide, by decide⟩

end Target
end ChangelogViews
