import ChangelogViews.Proofs.Views.Legality
import ChangelogViews.Proofs.Views.Origins
import Mathlib.Data.List.Nodup

/-!
# Spellings

A database may pass over the case of ASCII letters where it compares names. The names of views and columns
are put together from words, with underscores between them, so two names that differ in nothing but letter
case differ so in a word. Where no word is spelled in two ways no two names do
(`OneSpelling.eq_of_caseless`), and which words there are can be told from the names that were given
(`Scope.outputs_composed`, `Target.viewName_composed`).
-/

namespace ChangelogViews

/-- A name as it is compared where letter case is passed over: each ASCII capital counts as its small
letter. -/
def caseless (name : String) : List Char := name.toList.map Char.toLower

theorem caseless_append (a b : String) : caseless (a ++ b) = caseless a ++ caseless b := by
  rw [caseless, String.toList_append, List.map_append]
  rfl

/-- The words of a name, between its underscores. -/
def wordsOf (name : String) : List (List Char) := name.toList.splitOn '_'

theorem wordsOf_low (a b : String) : wordsOf (a ++ "_" ++ b) = wordsOf a ++ wordsOf b := by
  have text : (a ++ "_" ++ b).toList = a.toList ++ '_' :: b.toList := by
    rw [String.toList_append, String.toList_append, List.append_assoc]
    rfl
  rw [wordsOf, text]
  exact List.splitOnP_append_cons _ _ (beq_self_eq_true '_')

/-- A name can be told from its words. -/
theorem eq_of_wordsOf {a b : String} (same : wordsOf a = wordsOf b) : a = b := by
  have text := congrArg (['_'].intercalate ·) same
  simp only [wordsOf, List.intercalate_splitOn] at text
  exact String.toList_inj.mp text

/-- Letter case keeps underscores apart from letters. -/
private theorem toLower_eq_low_iff (c : Char) : c.toLower = '_' ↔ c = '_' := by
  unfold Char.toLower
  split
  · next capital =>
    constructor
    · intro same
      have low : 'A'.val.toNat ≤ c.val.toNat := capital.1
      have high : c.val.toNat ≤ 'Z'.val.toNat := capital.2
      have shifted := congrArg (fun c : Char => c.val.toNat) same
      change (c.val.toNat + 32) % 4294967296 = 95 at shifted
      change 65 ≤ _ at low
      change _ ≤ 90 at high
      omega
    · rintro rfl
      exact absurd capital (by decide)
  · exact Iff.rfl

private theorem splitOnP_map {α β : Type} (f : α → β) (p : β → Bool) (xs : List α) :
    (xs.map f).splitOnP p = (xs.splitOnP (p ∘ f)).map (List.map f) := by
  induction xs with
  | nil => rfl
  | cons x rest ih =>
    rw [List.map_cons, List.splitOnP_cons_eq_if_modifyHead, List.splitOnP_cons_eq_if_modifyHead, ih]
    by_cases stop : p (f x) = true
    · simp [stop]
    · obtain ⟨first, others, parts⟩ :=
        List.exists_cons_of_ne_nil (List.splitOnP_ne_nil (p ∘ f) rest)
      simp [stop, parts]

/-- Letter case is passed over word by word. -/
theorem splitOn_caseless (name : String) :
    (caseless name).splitOn '_' = (wordsOf name).map (List.map Char.toLower) := by
  have low : ((· == '_') ∘ Char.toLower) = (· == '_') := by
    funext c
    rw [Function.comp_apply, Bool.eq_iff_iff, beq_iff_eq, beq_iff_eq]
    exact toLower_eq_low_iff c
  rw [caseless, List.splitOn, splitOnP_map, low]
  rfl

/-- No two words of these names differ in letter case alone. -/
def OneSpelling (names : List String) : Prop :=
  ∀ a ∈ names, ∀ b ∈ names, ∀ u ∈ wordsOf a, ∀ v ∈ wordsOf b,
    u.map Char.toLower = v.map Char.toLower → u = v

instance (names : List String) : Decidable (OneSpelling names) :=
  inferInstanceAs (Decidable (∀ a ∈ names, ∀ b ∈ names, ∀ u ∈ wordsOf a, ∀ v ∈ wordsOf b,
    u.map Char.toLower = v.map Char.toLower → u = v))

/-- All words of the text are words of these names. -/
def ComposedOf (names : List String) (text : String) : Prop :=
  ∀ word ∈ wordsOf text, ∃ name ∈ names, word ∈ wordsOf name

namespace ComposedOf

variable {names : List String}

theorem of_mem {name : String} (inside : name ∈ names) : ComposedOf names name :=
  fun _ among => ⟨name, inside, among⟩

theorem low {a b : String} (first : ComposedOf names a) (later : ComposedOf names b) :
    ComposedOf names (a ++ "_" ++ b) := by
  intro word among
  rw [wordsOf_low] at among
  exact (List.mem_append.mp among).elim (first word) (later word)

theorem joined {path : List String} (ne : path ≠ []) (each : ∀ name ∈ path, ComposedOf names name) :
    ComposedOf names (joined path) := by
  refine joined_induction (fun first later => ?_) ne each
  exact first.low later

end ComposedOf

private theorem eq_of_map_eq {α β : Type} {f : α → β} {xs ys : List α}
    (apart : ∀ x ∈ xs, ∀ y ∈ ys, f x = f y → x = y) (same : xs.map f = ys.map f) : xs = ys := by
  induction xs generalizing ys with
  | nil => exact (List.map_eq_nil_iff.mp same.symm).symm
  | cons x rest ih =>
    cases ys with
    | nil => cases same
    | cons y others =>
      obtain ⟨first, later⟩ := List.cons.inj same
      rw [apart x List.mem_cons_self y List.mem_cons_self first,
        ih (fun u inU v inV => apart u (List.mem_cons_of_mem _ inU) v (List.mem_cons_of_mem _ inV)) later]

/-- Where each word is spelled in one way, what is put together from these words is equal if it is so
up to letter case. -/
theorem OneSpelling.eq_of_caseless {names : List String} (once : OneSpelling names) {a b : String}
    (first : ComposedOf names a) (second : ComposedOf names b) (same : caseless a = caseless b) :
    a = b := by
  have words := congrArg (List.splitOn '_') same
  rw [splitOn_caseless, splitOn_caseless] at words
  refine eq_of_wordsOf (eq_of_map_eq (fun u inA v inB => ?_) words)
  obtain ⟨x, inX, ownX⟩ := first u inA
  obtain ⟨y, inY, ownY⟩ := second v inB
  exact once x inX y inY u ownX v ownY

/-- Names that differ are not equal up to letter case either. -/
theorem OneSpelling.nodup_caseless {names : List String} (once : OneSpelling names)
    {texts : List String} (composed : ∀ text ∈ texts, ComposedOf names text) (apart : texts.Nodup) :
    (texts.map caseless).Nodup :=
  List.Nodup.map_on (fun a inA b inB => once.eq_of_caseless (composed a inA) (composed b inB)) apart

/-- The names of the fields of a schema, as far as they have a place. -/
def Schema.fieldNames (layout : ChangelogLayout) (schema : Schema) : List String :=
  (schema.scopes layout).flatMap fun s => s.places.map (·.field.name.shown)

/-- What the columns of the typed views are named from. -/
def Schema.columnParts (layout : ChangelogLayout) (schema : Schema) : List String :=
  layout.documentName :: "index" :: "latitude" :: "longitude" :: schema.fieldNames layout

/-- What the views of some schemas are named from, behind the part that they have in common: the names of
the schemas, and the names that lead to an array. -/
def viewParts (schemas : List (String × Schema)) : List String :=
  "latest" :: "snapshot" :: schemas.flatMap fun entry =>
    entry.1 :: entry.2.arrayNodes.flatMap (·.site.keyPath)

section
variable {layout : ChangelogLayout} {schema : Schema}

/-- The aliases in the views of a schema are put together from the names of its fields. -/
theorem Scope.outputs_composed {s : Scope} (among : s ∈ schema.scopes layout) :
    ∀ label ∈ s.reserved ++ labelsOf s.places, ComposedOf (schema.columnParts layout) label := by
  have known {name : String} (inside : name ∈ [layout.documentName, "index", "latitude", "longitude"]) :
      ComposedOf (schema.columnParts layout) name :=
    .of_mem (List.mem_append_left (schema.fieldNames layout) inside)
  have given : schema.fieldNames layout ⊆ schema.columnParts layout :=
    List.subset_append_right [layout.documentName, "index", "latitude", "longitude"] _
  obtain ⟨places, arrays⟩ := names_of_scopes fun s among _ inside =>
    ComposedOf.of_mem (given (List.mem_flatMap.mpr ⟨s, among, List.mem_map_of_mem inside⟩))
  intro label inside
  rcases List.mem_append.mp inside with inside | inside
  · rcases List.mem_cons.mp among with rfl | array
    · rw [List.mem_singleton.mp inside]
      exact known List.mem_cons_self
    · obtain ⟨n, listed, rfl⟩ := List.mem_map.mp array
      rcases List.mem_cons.mp inside with rfl | position
      · exact known List.mem_cons_self
      · obtain ⟨a, around, rfl⟩ := List.mem_map.mp position
        have key := arrays n listed a around
        have parts : a.index = joined a.keyPath ++ "_" ++ "index" := by
          rw [String.append_assoc]
          rfl
        rw [parts]
        exact (ComposedOf.joined key.ne_nil key.keyPath).low (known (by simp))
  · obtain ⟨p, here, suffix, own, rfl⟩ := mem_labelsOf.mp inside
    have path := places s among p here
    refine ComposedOf.joined (List.append_ne_nil_of_left_ne_nil path.ne_nil _) fun name inside => ?_
    rcases List.mem_append.mp inside with inside | inside
    · exact path.path name inside
    · rcases TypeSubject.axis_of_suffixes own inside with rfl | rfl
      · exact known (by simp)
      · exact known (by simp)

end

namespace Target

variable {t : Target} {dataset : String} {first : Option String} {name : String} {schema : Schema}
  {changelog : Option String} {views : SchemaViews}

/-- What a compiled schema names its views behind the common first part is put together from its name
and the key paths of its arrays. -/
theorem viewName_composed (regular : t.dialect.Regular)
    (done : t.compile dataset first (some name) schema changelog = .ok views)
    {schemas : List (String × Schema)} (inside : (name, schema) ∈ schemas) :
    ∀ view ∈ views.all, ∃ rest, view.name = Names.part first ++ "_schema_" ++ rest ∧
      ComposedOf (viewParts schemas) rest := by
  have given : name :: schema.arrayNodes.flatMap (·.site.keyPath) ⊆ viewParts schemas := fun part own =>
    List.mem_append_right ["latest", "snapshot"] (List.mem_flatMap.mpr ⟨_, inside, own⟩)
  have top : ComposedOf (viewParts schemas) (name ++ "_" ++ "latest") :=
    (ComposedOf.of_mem (given List.mem_cons_self)).low (.of_mem List.mem_cons_self)
  have topName : Names.top first (some name) =
      Names.part first ++ "_schema_" ++ (name ++ "_" ++ "latest") := by
    change Names.part first ++ "_schema_" ++ name ++ ("_" ++ "latest") = _
    simp only [String.append_assoc]
  have behind (text : String) : Names.top first (some name) ++ "_" ++ text =
      Names.part first ++ "_schema_" ++ (name ++ "_" ++ "latest" ++ "_" ++ text) := by
    rw [topName]
    simp only [String.append_assoc]
  intro view among
  rcases name_of_compile regular done among with same | same | ⟨n, node, same⟩
  · have snapshot : view.name = Names.top first (some name) ++ "_" ++ "snapshot" := by
      rw [same, String.append_assoc]
      rfl
    exact ⟨_, snapshot.trans (behind "snapshot"),
      top.low (.of_mem (List.mem_cons_of_mem _ List.mem_cons_self))⟩
  · exact ⟨_, same.trans topName, top⟩
  · have key : ∀ part ∈ n.site.keyPath, ComposedOf (viewParts schemas) part := fun part own =>
      .of_mem (given (List.mem_cons_of_mem _ (List.mem_flatMap.mpr ⟨n, node, own⟩)))
    exact ⟨_, same.trans (behind (joined n.site.keyPath)),
      top.low (.joined (growing_of_arrayNodes n node).1 key)⟩

/-- The typed views of a compiled schema put out the aliases that they use themselves, and those of their
places. -/
theorem outputs_of_compile {schemaName : Option String} (regular : t.dialect.Regular)
    (done : t.compile dataset first schemaName schema changelog = .ok views) :
    views.snapshot.query.outputs = t.layout.snapshotColumns ∧
      (views.top :: views.children).map (·.query.outputs) =
        (schema.scopes t.layout).map fun s => s.reserved ++ labelsOf s.places := by
  have outlines := congrArg (List.map Outline.outputs) (outlines_of_compile regular done)
  rw [List.map_map] at outlines
  obtain ⟨snapshot, typed⟩ := List.cons.inj outlines
  refine ⟨snapshot, typed.trans ?_⟩
  rw [Schema.scopes, List.map_cons, List.map_cons, List.map_map, List.map_map]
  rfl

/-- Aliases of a compiled schema differ unless the layout lets them be equal, and up to letter case too where
no word of its field names is spelled in two ways. -/
theorem outputs_apart {schemaName : Option String} (regular : t.dialect.Regular)
    (done : t.compile dataset first schemaName schema changelog = .ok views)
    (columns : (t.layout.snapshotColumns.map caseless).Nodup)
    (positions : ∀ n ∈ schema.arrayNodes, t.layout.documentName ∉ n.indices) :
    ∀ view ∈ views.all, view.query.outputs.Nodup ∧
      (OneSpelling (schema.columnParts t.layout) → (view.query.outputs.map caseless).Nodup) := by
  obtain ⟨snapshot, typed⟩ := outputs_of_compile regular done
  obtain ⟨_, fits, _⟩ := (compile_ok_iff regular dataset first schemaName schema changelog).mp ⟨_, done⟩
  intro view among
  rcases List.mem_cons.mp among with rfl | among
  · rw [snapshot]
    exact ⟨columns.of_map, fun _ => columns⟩
  · have shown := List.mem_map_of_mem (f := fun view : View => view.query.outputs) among
    rw [typed] at shown
    obtain ⟨s, listed, same⟩ := List.mem_map.mp shown
    have reserved : s.reserved.Nodup := by
      rcases List.mem_cons.mp listed with rfl | array
      · exact List.pairwise_singleton _ _
      · obtain ⟨n, node, rfl⟩ := List.mem_map.mp array
        exact List.nodup_cons.mpr ⟨positions n node, nodup_indices node⟩
    have apart := (fits s listed).free.behind_reserved reserved
    rw [← same]
    exact ⟨apart, fun once => once.nodup_caseless (Scope.outputs_composed listed) apart⟩

end Target
end ChangelogViews
