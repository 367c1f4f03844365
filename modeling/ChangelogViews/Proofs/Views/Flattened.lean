import ChangelogViews.Proofs.Sql.Filling
import ChangelogViews.Proofs.Views.Deletion

/-!
# What flattening gives

The fields that a view takes its columns from are those of the list and of the maps in it, however deep
(`leavesIn`). Where flattening succeeds its columns are those of these fields in order, and its children
are the arrays among them, each once (`flatten_ok`). The view of a map is therefore that of its members,
and the view of two lists behind each other is put together from theirs (`flatten_map`, `flatten_append`).
-/

namespace ChangelogViews

/-- A field that is no map, and the path that leads to it. -/
structure Leaf where
  path : List String
  field : Field

mutual

/-- The fields that are reached from a field at a path through maps, itself if it is no map. -/
def Field.leaves (path : List String) : Field → List Leaf
  | ⟨name, type, description, fields, element⟩ =>
    match type, fields with
    | .known .map, some fields => leavesIn path fields
    | .known .map, none => []
    | type, fields => [⟨path, ⟨name, type, description, fields, element⟩⟩]

/-- The fields that are reached from a list of fields below a path. -/
def leavesIn (path : List String) : List Field → List Leaf
  | [] => []
  | f :: rest => f.leaves (path ++ [f.name.shown]) ++ leavesIn path rest

end

theorem Field.leaves_map {f : Field} (isMap : f.isMap = true) (path : List String) :
    f.leaves path = leavesIn path f.members := by
  obtain ⟨name, type, description, fields, element⟩ := f
  obtain rfl := Field.isMap_iff.mp isMap
  cases fields with
  | none => rfl
  | some fields => rfl

theorem Field.leaves_other {f : Field} (noMap : f.isMap = false) (path : List String) :
    f.leaves path = [⟨path, f⟩] := by
  obtain ⟨name, type, description, fields, element⟩ := f
  cases type with
  | other _ => rfl
  | known kind =>
    cases kind with
    | map => cases noMap
    | _ => rfl

theorem leavesIn_append (path : List String) (a b : List Field) :
    leavesIn path (a ++ b) = leavesIn path a ++ leavesIn path b := by
  induction a with
  | nil => rfl
  | cons f rest ih => rw [List.cons_append, leavesIn, leavesIn, ih, List.append_assoc]

/-- The columns of the type of a leaf, none for a type that has none. -/
def Leaf.rules (d : Sql.Dialect) (leaf : Leaf) : List Sql.ColumnRule :=
  match d.resolve (.ofType leaf.field.type) with
  | .ok rules => rules
  | .error _ => []

/-- The column that a rule gives for a leaf. -/
def Leaf.column (source : String) (leaf : Leaf) (rule : Sql.ColumnRule) : Column :=
  ⟨dotted (leaf.path ++ rule.suffix), joined (leaf.path ++ rule.suffix),
    rule.template.render source (Sql.jsonPath leaf.path), rule.sqlType⟩

theorem Leaf.column_eq (source : String) (leaf : Leaf) :
    leaf.column source = fun rule =>
      ⟨dotted (leaf.path ++ rule.suffix), joined (leaf.path ++ rule.suffix),
        Sql.filled source ("$" ++ String.join (leaf.path.map ("." ++ ·))) rule.template.written,
        rule.sqlType⟩ := by
  funext rule
  rw [Leaf.column, Sql.render_eq_filled, Sql.jsonPath]

def arraysOf (leaves : List Leaf) : List Leaf := leaves.filter (·.field.isArray)

def plainOf (leaves : List Leaf) : List Leaf := leaves.filter (!·.field.isArray)

/-- A place that the view takes something from. -/
def FieldPlace.leaf (p : FieldPlace) : Leaf := ⟨p.path, p.field⟩

theorem leaves_of_places :
    (∀ (f : Field) (root path jsonPath : List String) (earlier : List LooseText),
      f.leaves path = ((f.places root path jsonPath earlier).filter (!·.field.isMap)).map FieldPlace.leaf) ∧
    ∀ (fields : List Field) (root path jsonPath : List String) (earlier : List LooseText),
      leavesIn path fields =
        ((placesIn root path jsonPath earlier fields).filter (!·.field.isMap)).map FieldPlace.leaf := by
  apply Field.induction_members
  case node =>
    intro f members root path jsonPath earlier
    rw [Field.places_eq]
    cases isMap : f.isMap with
    | true =>
      rw [Field.leaves_map isMap, List.filter_cons_of_neg (by simp [isMap])]
      exact members root path jsonPath []
    | false =>
      have noMembers : f.members = [] := by simp [Field.members, isMap]
      rw [Field.leaves_other isMap, noMembers, List.filter_cons_of_pos (by simp [isMap])]
      rfl
  case nil => exact fun _ _ _ _ => rfl
  case cons =>
    intro f rest first others root path jsonPath earlier
    rw [leavesIn, placesIn, List.filter_append, List.map_append, ← first, ← others]

/-- Below one path for the names and for the text, both lead to a place. -/
theorem jsonPath_of_place :
    (∀ (f : Field) (root path : List String) (earlier : List LooseText),
      ∀ p ∈ f.places root path path earlier, p.jsonPath = p.path) ∧
    ∀ (fields : List Field) (root path : List String) (earlier : List LooseText),
      ∀ p ∈ placesIn root path path earlier fields, p.jsonPath = p.path := by
  apply Field.induction_members
  case node =>
    intro f members root path earlier
    rw [Field.places_eq]
    exact List.forall_mem_cons.mpr ⟨rfl, members root path []⟩
  case nil => exact fun _ _ _ => List.forall_mem_nil _
  case cons =>
    intro f rest first others root path earlier
    rw [placesIn]
    exact List.forall_mem_append.mpr ⟨first _ _ _, others _ _ _⟩

theorem childOf_path (f : Field) (path jsonPath : List String) :
    (childOf f path jsonPath).path = path ∧ (childOf f path jsonPath).jsonPath = jsonPath := by
  unfold childOf
  simp only
  split
  · exact ⟨rfl, rfl⟩
  · exact ⟨rfl, rfl⟩

/-- The view of some leaves. -/
def flatOf (d : Sql.Dialect) (source : String) (leaves : List Leaf) : Flat :=
  ⟨(plainOf leaves).flatMap fun leaf => (leaf.rules d).map (leaf.column source),
    (arraysOf leaves).map fun leaf => childOf leaf.field leaf.path leaf.path⟩

theorem flatOf_append (d : Sql.Dialect) (source : String) (a b : List Leaf) :
    flatOf d source (a ++ b) = ⟨(flatOf d source a).columns ++ (flatOf d source b).columns,
      (flatOf d source a).children ++ (flatOf d source b).children⟩ := by
  simp only [flatOf, plainOf, arraysOf, List.filter_append, List.flatMap_append, List.map_append]

theorem flatOf_cons (d : Sql.Dialect) (source : String) (leaf : Leaf) (rest : List Leaf) :
    flatOf d source (leaf :: rest) = ⟨(flatOf d source [leaf]).columns ++ (flatOf d source rest).columns,
      (flatOf d source [leaf]).children ++ (flatOf d source rest).children⟩ :=
  flatOf_append d source [leaf] rest

/-- What the places of a list give is what their leaves give. Maps give neither columns nor children, and
arrays give no columns. -/
theorem flatOf_leaves (d : Sql.Dialect) (source : String) {places : List FieldPlace}
    (same : ∀ p ∈ places, p.jsonPath = p.path) :
    flatOf d source ((places.filter (!·.field.isMap)).map FieldPlace.leaf) =
      ⟨columnsAt d source places,
        (places.filter (·.field.isArray)).map fun p => childOf p.field p.path p.jsonPath⟩ := by
  induction places with
  | nil => rfl
  | cons p rest ih =>
    obtain ⟨own, others⟩ := List.forall_mem_cons.mp same
    have later := ih others
    rw [columnsAt, List.flatMap_cons, ← columnsAt, own]
    by_cases isMap : p.field.type = .known .map
    · have none : p.rules d = [] := by
        rw [FieldPlace.rules, isMap]
        rfl
      rw [List.filter_cons_of_neg (by simp [Field.isMap, isMap]),
        List.filter_cons_of_neg (by simp [Field.isArray, isMap]), later, none]
      rfl
    · rw [List.filter_cons_of_pos (by simp [Field.isMap, isMap]), List.map_cons, flatOf_cons, later]
      by_cases isArray : p.field.type = .known .array
      · have none : p.rules d = [] := by
          rw [FieldPlace.rules, isArray]
          rfl
        have array : p.field.isArray = true := Field.isArray_iff.mpr isArray
        rw [List.filter_cons_of_pos (by simp [array]), none]
        simp [flatOf, plainOf, arraysOf, FieldPlace.leaf, array, own]
      · have plain : p.field.isArray = false := by simpa [Field.isArray] using isArray
        rw [List.filter_cons_of_neg (by simp [plain])]
        simp [flatOf, plainOf, arraysOf, FieldPlace.leaf, plain]
        rfl

theorem flatten_ok {d : Sql.Dialect} {source : String} {path reserved : List String}
    {fields : List Field} {flat : Flat} (done : flatten d source path reserved fields = .ok flat) :
    flat = flatOf d source (leavesIn path fields) := by
  rw [flatten_eq_walk d source path] at done
  rw [leaves_of_places.2 fields path path path [],
    flatOf_leaves d source (jsonPath_of_place.2 fields path path [])]
  obtain ⟨columns, children⟩ := flat
  exact congr (congrArg Flat.mk (sound_of_walk done).2) (children_of_placesIn done)

/-- Each leaf that is no array has a type with columns. -/
theorem resolved_of_flatten {d : Sql.Dialect} {source : String} {path reserved : List String}
    {fields : List Field} {flat : Flat} (done : flatten d source path reserved fields = .ok flat) :
    ∀ leaf ∈ plainOf (leavesIn path fields),
      d.resolve (.ofType leaf.field.type) = .ok (leaf.rules d) := by
  intro leaf listed
  rw [flatten_eq_walk d source path] at done
  obtain ⟨among, plain⟩ := List.mem_filter.mp listed
  rw [leaves_of_places.2 fields path path path []] at among
  obtain ⟨p, inside, rfl⟩ := List.mem_map.mp among
  obtain ⟨placed, noMap⟩ := List.mem_filter.mp inside
  have other : ¬ p.field.isMap = true := by simpa using noMap
  have noArray : ¬ p.field.isArray = true := by simpa [FieldPlace.leaf] using plain
  exact (((sound_of_walk done).1 p placed).plain (mt Field.isMap_iff.mpr other)
    (mt Field.isArray_iff.mpr noArray)).2.2

/-- No two children have one key. -/
theorem nodup_keys {d : Sql.Dialect} {source : String} {path reserved : List String}
    {fields : List Field} {flat : Flat} (done : flatten d source path reserved fields = .ok flat) :
    (flat.children.map ChildSchema.key).Nodup := by
  rw [flatten_eq_walk d source path] at done
  have keys := nodup_dotted fun p inside => ((sound_of_walk done).1 p inside).named
  rw [children_of_placesIn done, List.map_map]
  have same : (ChildSchema.key ∘ fun p : FieldPlace => childOf p.field p.path p.jsonPath) =
      fun p => dotted p.path :=
    funext fun p => congrArg dotted (childOf_path p.field p.path p.jsonPath).1
  rw [same]
  exact (List.filter_sublist.map _).nodup keys

/-- A map that can be flattened adds the steps of its members. -/
theorem steps_of_map {d : Sql.Dialect} {source : String} {path jsonPath : List String} {m : Field}
    {taken : List TakenLabel} {flat : Flat} (isMap : m.isMap = true)
    (passed : takeSteps taken (m.steps d source path jsonPath) = .ok flat) :
    m.steps d source path jsonPath = fieldSteps d source path jsonPath [] m.members := by
  obtain ⟨name, type, description, fields, element⟩ := m
  obtain rfl := Field.isMap_iff.mp isMap
  unfold Field.steps at passed ⊢
  cases named : NameRule.identifier.accepts name.shown with
  | false =>
    rw [named] at passed
    cases passed
  | true =>
    cases element with
    | some inner =>
      rw [named] at passed
      cases passed
    | none => cases fields <;> rfl

/-- The view of a map is that of its members below its path. -/
theorem flatten_map {d : Sql.Dialect} {source : String} {path reserved : List String} {m : Field}
    {flat : Flat} (isMap : m.isMap = true)
    (done : flatten d source path reserved [m] = .ok flat) :
    flatten d source (path ++ [m.name.shown]) reserved m.members = .ok flat := by
  unfold flatten at done ⊢
  simp only [fieldSteps, List.contains_nil, Bool.false_eq_true, if_false, List.append_nil] at done
  rw [← steps_of_map isMap done]
  exact done

theorem placesIn_append (root path jsonPath : List String) (earlier : List LooseText)
    (a b : List Field) :
    ∃ before, placesIn root path jsonPath earlier (a ++ b) =
      placesIn root path jsonPath earlier a ++ placesIn root path jsonPath before b := by
  induction a generalizing earlier with
  | nil => exact ⟨earlier, rfl⟩
  | cons f rest ih =>
    obtain ⟨before, later⟩ := ih (f.name :: earlier)
    refine ⟨before, ?_⟩
    rw [List.cons_append, placesIn, placesIn, later, List.append_assoc]

theorem labelsIn_append (d : Sql.Dialect) (a b : List FieldPlace) :
    labelsIn d (a ++ b) = labelsIn d a ++ labelsIn d b := List.flatMap_append

theorem flatten_ok_iff {d : Sql.Dialect} {source : String} {path reserved : List String}
    {fields : List Field} :
    (∃ flat, flatten d source path reserved fields = .ok flat) ↔
      (∀ p ∈ placesIn path path path [] fields, p.Sound d) ∧
        Free (reservedLabels reserved) (labelsIn d (placesIn path path path [] fields)) := by
  simp only [flatten_eq_walk d source path]
  exact walk_ok_iff

/-- Lists that can be flattened behind each other can be flattened alone, and their views are put
together. -/
theorem flatten_append {d : Sql.Dialect} {source : String} {path reserved : List String}
    {a b : List Field} {flat : Flat} (done : flatten d source path reserved (a ++ b) = .ok flat) :
    ∃ first later, flatten d source path reserved a = .ok first ∧
      flatten d source path reserved b = .ok later ∧
      flat = ⟨first.columns ++ later.columns, first.children ++ later.children⟩ := by
  obtain ⟨sound, free⟩ := flatten_ok_iff.mp ⟨flat, done⟩
  obtain ⟨before, places⟩ := placesIn_append path path path [] a b
  rw [places] at sound free
  obtain ⟨soundA, soundB⟩ := List.forall_mem_append.mp sound
  have fewer := placesIn_fewer (List.nil_subset before) path path path b
  have labels : labelsIn d (placesIn path path path [] b) =
      labelsIn d (placesIn path path path before b) := by
    rw [labelsIn_eq_columnsAt d source, labelsIn_eq_columnsAt d source, columnsAt_kept d source fewer]
  rw [labelsIn_append] at free
  obtain ⟨first, doneA⟩ := flatten_ok_iff.mpr
    ⟨soundA, free.sublist (List.sublist_append_left _ _)⟩
  obtain ⟨later, doneB⟩ := flatten_ok_iff.mpr
    ⟨sound_kept fewer soundB, labels ▸ free.sublist (List.sublist_append_right _ _)⟩
  refine ⟨first, later, doneA, doneB, ?_⟩
  rw [flatten_ok done, flatten_ok doneA, flatten_ok doneB, leavesIn_append, flatOf_append]

/-- Where flattening succeeds, each field that is reached through maps and is neither map nor array gives
one column for each column of its type, in order. The names of the columns lead there from the path of
the view, and their expressions are the texts of the templates with source and place put in. Each array
that is reached gives one child, in order and under a key of its own. A map gives what its members give
below its path, and two lists behind each other give what each gives alone. -/
theorem flatten_exact {d : Sql.Dialect} {source : String} {path reserved : List String}
    {fields : List Field} {flat : Flat} (done : flatten d source path reserved fields = .ok flat) :
    let leaves := leavesIn path fields
    (∀ leaf ∈ plainOf leaves, d.resolve (.ofType leaf.field.type) = .ok (leaf.rules d)) ∧
    flat.columns = (plainOf leaves).flatMap (fun leaf => (leaf.rules d).map fun rule =>
      ⟨dotted (leaf.path ++ rule.suffix), joined (leaf.path ++ rule.suffix),
        Sql.filled source ("$" ++ String.join (leaf.path.map ("." ++ ·))) rule.template.written,
        rule.sqlType⟩) ∧
    flat.children = (arraysOf leaves).map (fun leaf => childOf leaf.field leaf.path leaf.path) ∧
    flat.children.map ChildSchema.path = (arraysOf leaves).map Leaf.path ∧
    flat.children.map ChildSchema.jsonPath = (arraysOf leaves).map Leaf.path ∧
    (flat.children.map ChildSchema.key).Nodup ∧
    (∀ m, fields = [m] → m.isMap = true →
      flatten d source (path ++ [m.name.shown]) reserved m.members = .ok flat) ∧
    ∀ a b, fields = a ++ b → ∃ first later, flatten d source path reserved a = .ok first ∧
      flatten d source path reserved b = .ok later ∧
      flat = ⟨first.columns ++ later.columns, first.children ++ later.children⟩ := by
  have whole := flatten_ok done
  refine ⟨resolved_of_flatten done, ?_, congrArg Flat.children whole, ?_, ?_, nodup_keys done, ?_, ?_⟩
  · rw [congrArg Flat.columns whole]
    simp only [flatOf, Leaf.column_eq]
  · rw [whole, flatOf, List.map_map]
    exact List.map_congr_left fun leaf _ => (childOf_path _ _ _).1
  · rw [whole, flatOf, List.map_map]
    exact List.map_congr_left fun leaf _ => (childOf_path _ _ _).2
  · rintro m rfl isMap
    exact flatten_map isMap done
  · rintro a b rfl
    exact flatten_append done

/-- An address with a geopoint, with tags and with a city. -/
def address : Field :=
  { Field.ofKind (.ofString "address") .map with
    fields := some [Field.ofKind (.ofString "at") .geopoint, Field.ofKind (.ofString "tags") .array,
      Field.ofKind (.ofString "city") .string] }

theorem address_flattened :
    ∃ flat, flatten Sql.BigQuery.dialect "data" ["user"] ["document_name"] [address] = .ok flat ∧
      flatten Sql.BigQuery.dialect "data" ["user", "address"] ["document_name"] address.members = .ok flat ∧
      flat.columns.map Column.name = ["user.address.at.latitude", "user.address.at.longitude",
        "user.address.city"] ∧
      flat.children.map ChildSchema.path = [["user", "address", "tags"]] ∧
      flat.columns.map Column.expression = (plainOf (leavesIn ["user"] [address])).flatMap fun leaf =>
        (leaf.rules Sql.BigQuery.dialect).map fun rule =>
          Sql.filled "data" (Sql.jsonPath leaf.path) rule.template.pattern := by
  obtain ⟨flat, done⟩ :
      ∃ flat, flatten Sql.BigQuery.dialect "data" ["user"] ["document_name"] [address] = .ok flat :=
    ⟨_, rfl⟩
  obtain ⟨resolved, columns, -, paths, -, -, ofMap, -⟩ := flatten_exact done
  refine ⟨flat, done, ofMap address rfl rfl, ?_, paths, ?_⟩
  · rw [columns]
    decide
  · rw [columns, List.map_flatMap]
    refine List.flatMap_congr fun leaf listed => ?_
    have written := Sql.written_of_resolved (.head _) (resolved leaf listed)
    rw [List.map_map]
    exact List.map_congr_left fun rule inside => by rw [← written rule inside]; rfl

end ChangelogViews
