import ChangelogViews.Proofs.Views.Declarations
import ChangelogViews.Proofs.Views.Evolution
import ChangelogViews.Proofs.Views.Outputs

/-!
# Legal schemas

A schema is legal if each list of fields in it names its fields apart and each node is declared as its type
demands. Where the aliases of every view and the names of the views are clear as well, nothing is left that
a shipped dialect could refuse, so the schema compiles (`compile_of_legal`).
-/

namespace ChangelogViews

/-- All places of the view are sound and the aliases of their columns are free. -/
structure Scope.Fits (d : Sql.Dialect) (s : Scope) : Prop where
  sound : ∀ p ∈ s.places, p.Sound d
  free : Free (reservedLabels s.reserved) (labelsOf s.places)

/-- A view can be compiled exactly if it fits. -/
theorem Scope.fits_iff {d : Sql.Dialect} (regular : d.Regular) (source : String) (s : Scope) :
    (∃ flat, takeSteps (reservedLabels s.reserved) (walk d source s.places) = .ok flat) ↔
      s.Fits d := by
  rw [walk_ok_iff, labelsIn_eq regular]
  exact ⟨fun ⟨sound, free⟩ => ⟨sound, free⟩, fun fits => ⟨fits.sound, fits.free⟩⟩

theorem Schema.fits_of_scopes {d : Sql.Dialect} {layout : ChangelogLayout} {schema : Schema}
    (fits : ∀ s ∈ schema.scopes layout, s.Fits d) {n : ArrayNode} (listed : n ∈ schema.arrayNodes) :
    (n.scope layout).Fits d :=
  fits _ (List.mem_cons_of_mem _ (List.mem_map_of_mem listed))

namespace Target

variable {t : Target} {dataset : String} {first schemaName : Option String} {schema : Schema}
  {changelog : Option String}

private theorem arrayViews_of_fits (regular : t.dialect.Regular) (spelling : Sql.Spelling)
    (dataset first name : String) (fits : ∀ s ∈ schema.scopes t.layout, s.Fits t.dialect) :
    ∃ children, t.arrayViews spelling dataset first name schema = .ok children := by
  refine mapM_ok_of_forall fun n listed => ?_
  obtain ⟨flat, passed⟩ := ((n.scope t.layout).fits_iff regular _).mpr
    (Schema.fits_of_scopes fits listed)
  have own : (t.childSite spelling dataset first name).nodeFlat (spelling.quote t.layout.data) n =
      .ok flat := by
    rw [ChildSite.nodeFlat_eq]
    exact passed
  have siteRegular : (t.childSite spelling dataset first name).dialect.Regular := regular
  obtain ⟨view, written, _⟩ := ChildSite.nodeQuery_outline siteRegular (spelling.quote t.layout.data) n
    (names_of_walk regular passed)
  refine ⟨view, ?_⟩
  unfold ChildSite.nodeView
  rw [own]
  simp only [written, orSqlStop]

/-- In a regular dialect a schema compiles exactly if it is given proper names, its views fit, and no
two of them have one name. -/
theorem compile_ok_iff (regular : t.dialect.Regular) (dataset : String)
    (first schemaName : Option String) (schema : Schema) (changelog : Option String) :
    (∃ views, t.compile dataset first schemaName schema changelog = .ok views) ↔
      (∃ names, properNames first schemaName = .ok names) ∧
      (∀ s ∈ schema.scopes t.layout, s.Fits t.dialect) ∧
      ((schema.outlines t.layout first schemaName).map Outline.name).Nodup := by
  constructor
  · rintro ⟨views, done⟩
    have outlines := outlines_of_compile regular done
    obtain ⟨names, spelling, flat, proper, _, top, arrays, _, apart⟩ := layOut_ok (compile_ok done)
    refine ⟨⟨names, proper⟩, ?_, ?_⟩
    · intro s among
      rcases List.mem_cons.mp among with rfl | among
      · rw [topFlat_eq] at top
        exact (Scope.fits_iff regular _ _).mp ⟨flat, top⟩
      · obtain ⟨n, listed, rfl⟩ := List.mem_map.mp among
        obtain ⟨view, _, made⟩ := forall_of_mapM_ok arrays n listed
        obtain ⟨passed, _⟩ := ChildSite.nodeView_ok made
        rw [ChildSite.nodeFlat_eq] at passed
        exact (Scope.fits_iff regular _ _).mp passed
    · rw [← outlines, List.map_map]
      exact apart
  · rintro ⟨⟨names, proper⟩, fits, apart⟩
    obtain ⟨spelling, spelled⟩ := regular.spells
    obtain ⟨flat, top⟩ := ((schema.topScope t.layout).fits_iff regular
      (spelling.quote t.layout.data)).mpr (fits _ List.mem_cons_self)
    rw [← topFlat_eq] at top
    obtain ⟨children, arrays⟩ := arrayViews_of_fits regular spelling dataset names.1 names.2 fits
    obtain ⟨rfl, rfl⟩ := properNames_ok proper
    refine ⟨_, compile_of_views proper spelled top arrays ?_⟩
    have inner := ChildSite.names_of_views arrays
    rw [Schema.outlines, List.map_cons, List.map_cons, List.map_map] at apart
    rw [SchemaViews.all, List.map_cons, List.map_cons]
    change (_ :: _ :: children.map View.name).Nodup
    rw [inner]
    exact apart

end Target

theorem NameRule.accepts_of_exactly {rule : NameRule} {name : String}
    (exactly : rule.acceptsExactly name = true) : rule.accepts name = true := by
  unfold acceptsExactly at exactly
  rw [accepts, exactly, Bool.true_or]

/-- Fields that can stand in one list: their names are identifiers, and no two of them are equal. -/
structure Siblings (fields : List Field) : Prop where
  identifiers : ∀ f ∈ fields, NameRule.identifier.acceptsExactly f.name.shown = true
  distinct : (fields.map Field.name).Nodup

/-- A field that is declared as its type demands, with all below it. Its own name is left to the list
that it stands in, so that the element of an array may have any name. -/
inductive Field.Legal : Field → Prop
  | map {name : LooseText} {description : Option LooseText} {fields : Option (List Field)}
      (siblings : Siblings (fields.getD [])) (members : ∀ f ∈ fields.getD [], f.Legal) :
      Field.Legal ⟨name, .known .map, description, fields, none⟩
  | array {name : LooseText} {description : Option LooseText} {fields : Option (List Field)}
      (siblings : Siblings (fields.getD [])) (members : ∀ f ∈ fields.getD [], f.Legal) :
      Field.Legal ⟨name, .known .array, description, fields, none⟩
  | arrayOf {name : LooseText} {description : Option LooseText} {element : Field}
      (inside : element.Legal) :
      Field.Legal ⟨name, .known .array, description, none, some element⟩
  | plain {name : LooseText} {kind : FieldKind} {description : Option LooseText}
      (noMap : kind ≠ .map) (noArray : kind ≠ .array) :
      Field.Legal ⟨name, .known kind, description, none, none⟩

/-- Fields that can stand in one list, each of them legal. -/
structure LegalFields (fields : List Field) : Prop where
  siblings : Siblings fields
  each : ∀ f ∈ fields, f.Legal

/-- A schema without a fault in any declaration. -/
def Schema.Legal (schema : Schema) : Prop := LegalFields schema.fields

theorem LegalFields.nil : LegalFields [] :=
  ⟨⟨fun _ inside => absurd inside List.not_mem_nil, List.nodup_nil⟩,
    fun _ inside => absurd inside List.not_mem_nil⟩

theorem LegalFields.tail {f : Field} {rest : List Field} (legal : LegalFields (f :: rest)) :
    LegalFields rest :=
  ⟨⟨fun g inside => legal.siblings.identifiers g (List.mem_cons_of_mem _ inside),
    (List.nodup_cons.mp legal.siblings.distinct).2⟩,
    fun g inside => legal.each g (List.mem_cons_of_mem _ inside)⟩

/-- The names of listed fields are accepted. -/
theorem LegalFields.accepts {fields : List Field} (legal : LegalFields fields) {f : Field}
    (declared : f ∈ fields) : NameRule.identifier.accepts f.name.shown = true :=
  NameRule.accepts_of_exactly (legal.siblings.identifiers f declared)

namespace Field.Legal

variable {f : Field}

theorem members (legal : f.Legal) : LegalFields f.members := by
  cases legal with
  | map siblings members => exact ⟨siblings, members⟩
  | array _ _ => exact .nil
  | arrayOf _ => exact .nil
  | plain noMap noArray =>
    rw [Field.members_eq_nil fun isMap => noMap (FieldType.known.inj isMap)]
    exact .nil

/-- The element that a legal field has or stands for is legal. -/
theorem arrayElement (legal : f.Legal) : f.arrayElement.Legal := by
  have text (name : LooseText) : (Field.ofKind name .string).Legal :=
    .plain FieldKind.noConfusion FieldKind.noConfusion
  cases legal with
  | @map _ _ fields siblings members =>
    cases fields with
    | none => exact text _
    | some fields => exact .map siblings members
  | @array _ _ fields siblings members =>
    cases fields with
    | none => exact text _
    | some fields => exact .map siblings members
  | arrayOf inside => exact inside
  | plain _ _ => exact text _

theorem withName (legal : f.Legal) (name : LooseText) : ({ f with name := name } : Field).Legal := by
  cases legal with
  | map siblings members => exact .map siblings members
  | array siblings members => exact .array siblings members
  | arrayOf inside => exact .arrayOf inside
  | plain noMap noArray => exact .plain noMap noArray

/-- A legal field is sound where its name is. -/
theorem sound {d : Sql.Dialect} (regular : d.Regular) {p : FieldPlace} (legal : p.field.Legal)
    (named : p.Named) : p.Sound d := by
  obtain ⟨root, path, jsonPath, earlier, f⟩ := p
  cases legal with
  | map _ _ => exact ⟨named, fun _ => rfl, fun _ => .inl rfl, fun noMap => absurd rfl noMap⟩
  | array _ _ =>
    exact ⟨named, fun _ => rfl, fun _ => .inl rfl, fun _ noArray => absurd rfl noArray⟩
  | arrayOf _ =>
    exact ⟨named, fun isMap => (nomatch isMap), fun _ => .inr rfl, fun _ noArray => absurd rfl noArray⟩
  | @plain name kind description noMap noArray =>
    obtain ⟨rules, known, _⟩ := regular.rules kind noMap noArray
    refine ⟨named, fun _ => rfl, fun _ => .inl rfl, fun _ _ => ⟨rfl, rfl, ?_⟩⟩
    have resolved : d.resolve (.ofType (.known kind)) = .ok rules := by
      cases kind with
      | map => exact absurd rfl noMap
      | array => exact absurd rfl noArray
      | _ => simp only [Sql.Dialect.resolve, TypeSubject.ofType, known]
    rw [FieldPlace.rules]
    simp only [resolved]

end Field.Legal

/-- The places of legal fields are sound where none of their names was given before. -/
theorem sound_of_legal {d : Sql.Dialect} (regular : d.Regular) :
    (∀ (f : Field), f.Legal → NameRule.identifier.accepts f.name.shown = true →
      ∀ (root path jsonPath : List String) (earlier : List LooseText), f.name ∉ earlier →
        ∀ p ∈ f.places root path jsonPath earlier, p.Sound d) ∧
    ∀ (fields : List Field), LegalFields fields →
      ∀ (root path jsonPath : List String) (earlier : List LooseText),
        (∀ f ∈ fields, f.name ∉ earlier) →
          ∀ p ∈ placesIn root path jsonPath earlier fields, p.Sound d := by
  apply Field.induction_members
  case node =>
    intro f members legal accepted root path jsonPath earlier fresh p inside
    rw [Field.places_eq] at inside
    rcases List.mem_cons.mp inside with rfl | inside
    · exact legal.sound regular ⟨fresh, accepted⟩
    · exact members legal.members root path jsonPath [] (fun _ _ => List.not_mem_nil) p inside
  case nil => exact fun _ _ _ _ _ _ p inside => absurd inside List.not_mem_nil
  case cons =>
    intro f rest first others legal root path jsonPath earlier fresh p inside
    rw [placesIn] at inside
    rcases List.mem_append.mp inside with inside | inside
    · exact first (legal.each f List.mem_cons_self) (legal.accepts List.mem_cons_self) _ _ _ earlier
        (fresh f List.mem_cons_self) p inside
    · refine others legal.tail root path jsonPath _ ?_ p inside
      intro g declared again
      rcases List.mem_cons.mp again with same | again
      · have apart := (List.nodup_cons.mp legal.siblings.distinct).1
        exact apart (same ▸ List.mem_map_of_mem declared)
      · exact fresh g (List.mem_cons_of_mem _ declared) again

/-- What legal fields hold through maps is legal, under accepted names. -/
theorem Reaches.legal {fields : List Field} (legal : LegalFields fields) {names : List String}
    {f : Field} (reaches : Reaches fields names f) :
    f.Legal ∧ NameRule.identifier.accepts f.name.shown = true := by
  induction reaches with
  | listed declared => exact ⟨legal.each _ declared, legal.accepts declared⟩
  | member _ declared ih => exact ⟨ih.1.members.each _ declared, ih.1.members.accepts declared⟩

/-- The arrays of a legal schema are legal, at any depth, and go by accepted names. -/
theorem Schema.Legal.arrays {schema : Schema} (legal : schema.Legal) :
    ∀ n ∈ schema.arrayNodes,
      n.field.Legal ∧ NameRule.identifier.accepts n.field.name.shown = true := by
  apply Schema.arrayNodes_induction
  · intro n held
    cases held with
    | reached reaches => exact reaches.legal legal
  · intro m _ ⟨own, accepted⟩ n held
    cases held with
    | member reaches => exact reaches.legal own.arrayElement.members
    | element _ => exact ⟨own.arrayElement.withName _, accepted⟩

/-- All places of a legal schema are sound, in the top view and in the view of every array. -/
theorem Schema.Legal.sound {d : Sql.Dialect} (regular : d.Regular) {schema : Schema}
    (legal : schema.Legal) {layout : ChangelogLayout} :
    ∀ s ∈ schema.scopes layout, ∀ p ∈ s.places, p.Sound d := by
  intro s among p inside
  rcases List.mem_cons.mp among with rfl | among
  · exact (sound_of_legal regular).2 _ legal _ _ _ _ (fun _ _ => List.not_mem_nil) p inside
  obtain ⟨n, listed, rfl⟩ := List.mem_map.mp among
  obtain ⟨own, accepted⟩ := legal.arrays n listed
  change p ∈ n.places at inside
  unfold ArrayNode.places Field.elementPlaces at inside
  split at inside
  · exact (sound_of_legal regular).2 _ own.arrayElement.members _ _ _ _
      (fun _ _ => List.not_mem_nil) p inside
  · obtain rfl := List.mem_singleton.mp inside
    exact (own.arrayElement.withName _).sound regular ⟨List.not_mem_nil, accepted⟩

/-- The aliases of the columns differ, from each other and from those that the view uses itself. -/
structure Scope.Clear (s : Scope) : Prop where
  apart : (labelsOf s.places).Nodup
  unused : ∀ label ∈ labelsOf s.places, label ∉ s.reserved

theorem Scope.Clear.free {s : Scope} (clear : s.Clear) :
    Free (reservedLabels s.reserved) (labelsOf s.places) := by
  refine ⟨clear.apart, fun label inside => ?_⟩
  rw [reservedLabels, List.map_map, Function.comp_def, List.map_id']
  exact clear.unused label inside

namespace Target

private theorem properNames_of_words {first name : String}
    (firstWord : NameRule.word.acceptsExactly first = true)
    (word : NameRule.word.acceptsExactly name = true) :
    properNames (some first) (some name) = .ok (first, name) := by
  unfold properNames requireWord
  simp only [NameRule.accepts_of_exactly firstWord, NameRule.accepts_of_exactly word, if_true]
  rfl

/-- A shipped dialect compiles every legal schema, provided that the aliases in each of its views are clear
and its views have names of their own. The views are those that the schema outlines. -/
theorem compile_of_legal {t : Target} (shipped : t.dialect ∈ Sql.dialects)
    (dataset first name : String) {schema : Schema} (changelog : Option String)
    (firstWord : NameRule.word.acceptsExactly first = true)
    (word : NameRule.word.acceptsExactly name = true) (legal : schema.Legal)
    (clear : ∀ s ∈ schema.scopes t.layout, s.Clear)
    (apart : ((schema.outlines t.layout (some first) (some name)).map Outline.name).Nodup) :
    ∃ views, t.compile dataset (some first) (some name) schema changelog = .ok views ∧
      views.all.map View.outline = schema.outlines t.layout (some first) (some name) := by
  have regular := Sql.Dialect.regular_of_mem shipped
  have fits : ∀ s ∈ schema.scopes t.layout, s.Fits t.dialect :=
    fun s among => ⟨legal.sound regular s among, (clear s among).free⟩
  obtain ⟨views, done⟩ := (compile_ok_iff regular dataset (some first) (some name) schema
    changelog).mpr ⟨⟨_, properNames_of_words firstWord word⟩, fits, apart⟩
  exact ⟨views, done, outlines_of_compile regular done⟩

/-- An array of arrays of maps, among them a map and an array with an element, beside a geopoint. -/
def deliveries : Schema :=
  let size := { Field.ofKind (.ofString "size") .map with
    fields := some [Field.ofKind (.ofString "w") .number] }
  let tags := { Field.ofKind (.ofString "tags") .array with
    element := some (Field.ofKind (.ofString "") .string) }
  let parcel := { Field.ofKind (.ofString "0") .map with fields := some [size, tags] }
  let tour := { Field.ofKind (.ofString "") .array with element := some parcel }
  ⟨[{ Field.ofKind (.ofString "tours") .array with element := some tour },
    Field.ofKind (.ofString "depot") .geopoint]⟩

theorem deliveries_legal : deliveries.Legal := by
  have plain (name : LooseText) {kind : FieldKind} (noMap : kind ≠ .map) (noArray : kind ≠ .array) :
      (Field.ofKind name kind).Legal := .plain noMap noArray
  have size : LegalFields [Field.ofKind (.ofString "w") .number] :=
    ⟨⟨by decide, by decide⟩, by simpa using plain _ (by decide) (by decide)⟩
  refine ⟨⟨by decide, by decide⟩, ?_⟩
  simp only [deliveries, List.forall_mem_cons, List.not_mem_nil, false_imp_iff, implies_true, and_true]
  refine ⟨.arrayOf (.arrayOf (.map ⟨by decide, by decide⟩ ?_)), plain _ (by decide) (by decide)⟩
  simp only [Option.getD_some, List.forall_mem_cons, List.not_mem_nil, false_imp_iff, implies_true,
    and_true]
  exact ⟨.map size.siblings size.each, .arrayOf (plain _ (by decide) (by decide))⟩

theorem deliveries_compile :
    Sql.DuckDb.dialect ∈ Sql.dialects ∧ deliveries.Legal ∧
    ∃ views, compile ⟨Sql.DuckDb.dialect, "p", .standard⟩ "d" (some "f") (some "s") deliveries none =
        .ok views ∧
      views.all.map View.name = ["f_schema_s_latest_snapshot", "f_schema_s_latest",
        "f_schema_s_latest_tours", "f_schema_s_latest_tours_tours",
        "f_schema_s_latest_tours_tours_tags"] := by
  have shipped : Sql.DuckDb.dialect ∈ Sql.dialects := by simp [Sql.dialects]
  have clear : ∀ s ∈ deliveries.scopes .standard, s.Clear := by
    have each : ∀ s ∈ deliveries.scopes .standard, (labelsOf s.places).Nodup ∧
        ∀ label ∈ labelsOf s.places, label ∉ s.reserved := by decide
    exact fun s among => ⟨(each s among).1, (each s among).2⟩
  obtain ⟨views, done, outlines⟩ := compile_of_legal (t := ⟨Sql.DuckDb.dialect, "p", .standard⟩)
    shipped "d" "f" "s" none (by decide) (by decide) deliveries_legal clear (by decide)
  refine ⟨shipped, deliveries_legal, views, done, ?_⟩
  have names := congrArg (List.map Outline.name) outlines
  rw [List.map_map] at names
  exact names.trans (by decide)

end Target
end ChangelogViews
