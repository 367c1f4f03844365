import Mathlib.Data.List.Chain
import Mathlib.Data.List.Forall2
import ChangelogViews.Proofs.Views.Labels
import ChangelogViews.Proofs.Views.LaidOut
import ChangelogViews.Proofs.Views.Nesting
import ChangelogViews.Sql.Dialects

/-!
# Unnesting

The view of an array is cut into rows along one level for each array from the outermost on. The first level
takes its array from the data of the document and each later one from the members of the level before it,
and the columns are taken from the members of the last (`unnesting_scoped`). No two of the aliases that
members and ordinals go by are equal, since key paths grow from level to level.
-/

namespace ChangelogViews

theorem joined_append_length {path : List String} (ne : path ≠ []) {more : List String}
    (longer : more ≠ []) : (joined path).length < (joined (path ++ more)).length := by
  unfold joined
  rw [String.intercalate_append_of_ne_nil ne longer, String.length_append, String.length_append]
  have one : "_".length = 1 := rfl
  omega

/-- The `member_alias` of an array. -/
def ArraySite.member (a : ArraySite) : String := s!"{joined a.keyPath}_member"

/-- The joined key paths grow from the outermost array on. -/
def Growing (arrays : List ArraySite) : Prop :=
  arrays.Pairwise fun a b => (joined a.keyPath).length < (joined b.keyPath).length

private theorem Growing.concat {arrays : List ArraySite} {a b : ArraySite}
    (growing : Growing (arrays ++ [a]))
    (longer : (joined a.keyPath).length < (joined b.keyPath).length) :
    Growing (arrays ++ [a] ++ [b]) := by
  refine List.pairwise_append.mpr ⟨growing, List.pairwise_singleton _ _, ?_⟩
  intro c inside d last
  rw [List.mem_singleton.mp last]
  rcases List.mem_append.mp inside with inside | inside
  · have before := (List.pairwise_append.mp growing).2.2 c inside a (List.mem_singleton.mpr rfl)
    exact Nat.lt_trans before longer
  · rw [List.mem_singleton.mp inside]
    exact longer

/-- Around every array key paths grow. -/
theorem growing_of_arrayNodes {schema : Schema} :
    ∀ n ∈ schema.arrayNodes, n.site.keyPath ≠ [] ∧ Growing (n.around ++ [n.site]) := by
  apply Schema.arrayNodes_induction
  case document =>
    rintro _ ⟨reaches⟩
    exact ⟨reaches.ne_nil, List.pairwise_singleton _ _⟩
  case inside =>
    rintro m _ ⟨named, growing⟩ _ held
    cases held with
    | member reaches =>
      exact ⟨List.append_ne_nil_of_left_ne_nil named _,
        growing.concat (joined_append_length named reaches.ne_nil)⟩
    | element _ =>
      exact ⟨List.append_ne_nil_of_left_ne_nil named _,
        growing.concat (joined_append_length named (List.cons_ne_nil _ _))⟩

private theorem member_inj {a b : ArraySite} (same : a.member = b.member) :
    joined a.keyPath = joined b.keyPath :=
  (String.append_left_inj _).mp same

private theorem index_inj {a b : ArraySite} (same : a.index = b.index) :
    joined a.keyPath = joined b.keyPath :=
  (String.append_left_inj _).mp same

private theorem member_ne_index (a b : ArraySite) : a.member ≠ b.index := by
  intro same
  have member : a.member.toList.getLast? = some 'r' := by
    have text : a.member.toList = (joined a.keyPath).toList ++ "_member".toList := String.toList_append
    rw [text, List.getLast?_append]
    rfl
  have index : b.index.toList.getLast? = some 'x' := by
    have text : b.index.toList = (joined b.keyPath).toList ++ "_index".toList := String.toList_append
    rw [text, List.getLast?_append]
    rfl
  rw [same, index] at member
  cases member

/-- Where key paths grow, the members and the ordinals of all arrays go by aliases of their own. -/
theorem Growing.apart {arrays : List ArraySite} (growing : Growing arrays) :
    (arrays.map ArraySite.member ++ arrays.map ArraySite.index).Nodup := by
  have differ : ∀ label : ArraySite → String,
      (∀ {a b}, label a = label b → joined a.keyPath = joined b.keyPath) →
        (arrays.map label).Nodup := by
    intro label known
    rw [List.Nodup, List.pairwise_map]
    refine growing.imp ?_
    intro a b longer same
    rw [known same] at longer
    exact Nat.lt_irrefl _ longer
  refine List.nodup_append.mpr ⟨differ _ member_inj, differ _ index_inj, ?_⟩
  intro member among index inside same
  obtain ⟨a, _, rfl⟩ := List.mem_map.mp among
  obtain ⟨b, _, rfl⟩ := List.mem_map.mp inside
  exact member_ne_index a b same

/-- Levels along some arrays, given from the outermost on: each stands for its array, the first reads `data`,
each other one reads the members of the one before it, and no two aliases are equal. -/
structure Chained (quote : String → String) (data : String) (arrays : List ArraySite)
    (levels : List UnnestLevel) : Prop where
  labels : levels.map (fun level => (level.member, level.index)) =
    arrays.map fun a => (a.member, a.index)
  paths : levels.map UnnestLevel.jsonPath = arrays.map fun a => Sql.jsonPath a.jsonPath
  outermost : ∀ level ∈ levels.head?, level.source = data
  inside : levels.IsChain fun outer level => level.source = quote outer.member
  apart : (levels.map UnnestLevel.member ++ levels.map UnnestLevel.index).Nodup

/-- The levels of an array node: in the documents there is its own level only, and inside another array
it comes behind the levels of that array. -/
inductive Nested (schema : Schema) (levels : ArrayNode → List UnnestLevel) (n : ArrayNode) : Prop
  | document {own : UnnestLevel} (held : schema.Holds n) (alone : levels n = [own]) :
      Nested schema levels n
  | inside {m : ArrayNode} {own : UnnestLevel} (outer : m ∈ schema.arrayNodes) (held : m.Holds n)
      (behind : levels n = levels m ++ [own]) : Nested schema levels n

def ArraySite.level (source : String) (a : ArraySite) : UnnestLevel :=
  ⟨source, Sql.jsonPath a.jsonPath, a.member, a.index⟩

namespace ChildSite

variable (site : ChildSite) (source : String)

theorem enclosing_concat (arrays : List ArraySite) (a : ArraySite) :
    site.enclosing source (arrays ++ [a]) = site.enter (site.enclosing source arrays) a :=
  List.foldl_append

/-- Each level shows what is known of its array. -/
private theorem enclosing_shown {γ : Type} {shown : UnnestLevel → γ} {part : ArraySite → γ}
    (each : ∀ source a, shown (a.level source) = part a)
    (arrays : List ArraySite) :
    (site.enclosing source arrays).levels.map shown = arrays.map part := by
  induction arrays using List.reverseRecOn with
  | nil => rfl
  | append_singleton arrays a ih =>
    rw [enclosing_concat, enter, List.map_append, List.map_append, ih]
    exact congrArg (_ ++ [·]) (each _ a)

/-- What lies inside some arrays is read from the members of the last level. -/
theorem enclosing_source (arrays : List ArraySite) :
    (site.enclosing source arrays).source =
      ((site.enclosing source arrays).levels.getLast?.map
        fun last => site.spelling.quote last.member).getD source := by
  induction arrays using List.reverseRecOn with
  | nil => rfl
  | append_singleton arrays a _ =>
    rw [enclosing_concat, enter, List.getLast?_concat]
    rfl

private theorem enclosing_outermost (arrays : List ArraySite) :
    ∀ level ∈ (site.enclosing source arrays).levels.head?, level.source = source := by
  induction arrays using List.reverseRecOn with
  | nil => exact fun level first => absurd first (Option.not_mem_none level)
  | append_singleton arrays a ih =>
    have read := site.enclosing_source source arrays
    rw [enclosing_concat, enter, List.head?_append]
    cases outermost : (site.enclosing source arrays).levels.head? with
    | some first =>
      rw [outermost] at ih
      exact ih
    | none =>
      rw [List.head?_eq_none_iff.mp outermost] at read
      intro level only
      cases only
      exact read

private theorem enclosing_inside (arrays : List ArraySite) :
    (site.enclosing source arrays).levels.IsChain
      fun outer level => level.source = site.spelling.quote outer.member := by
  induction arrays using List.reverseRecOn with
  | nil => exact .nil
  | append_singleton arrays a ih =>
    rw [enclosing_concat, enter, List.isChain_append]
    refine ⟨ih, .singleton _, ?_⟩
    intro outer last level only
    cases only
    have read := site.enclosing_source source arrays
    rw [last] at read
    exact read

private theorem insideNode_levels (n : ArrayNode) :
    (site.insideNode source n).levels = (site.enclosing source n.around).levels ++
      [n.site.level (site.enclosing source n.around).source] := by
  rw [insideNode_eq]
  rfl

private theorem insideNode_last (n : ArrayNode) :
    n.site.level (site.enclosing source n.around).source ∈
      (site.insideNode source n).levels.getLast? := by
  rw [insideNode_levels, List.getLast?_concat]
  exact Option.mem_some_self _

theorem insideNode_source (n : ArrayNode) :
    (site.insideNode source n).source = site.spelling.quote n.site.member := by
  rw [insideNode_eq]
  rfl

/-- What lies around the arrays inside some arrays whose key paths grow is read along a chain. -/
theorem enclosing_chained {arrays : List ArraySite} (growing : Growing arrays) :
    Chained site.spelling.quote source arrays (site.enclosing source arrays).levels where
  labels := site.enclosing_shown source (fun _ _ => rfl) arrays
  paths := site.enclosing_shown source (fun _ _ => rfl) arrays
  outermost := site.enclosing_outermost source arrays
  inside := site.enclosing_inside source arrays
  apart := by
    have members : (site.enclosing source arrays).levels.map UnnestLevel.member =
        arrays.map ArraySite.member := site.enclosing_shown source (fun _ _ => rfl) arrays
    rw [members, enclosing_indices]
    exact growing.apart

end ChildSite

/-- Where each result is related to what it was made of, all results are, in order. -/
theorem forall₂_of_mapM_ok {ε α β : Type} {f : α → Except ε β} {related : α → β → Prop} {xs : List α}
    {ys : List β} (each : ∀ x ∈ xs, ∀ y, f x = .ok y → related x y) (all : xs.mapM f = .ok ys) :
    List.Forall₂ related xs ys := by
  induction xs generalizing ys with
  | nil => cases all; exact .nil
  | cons x rest ih =>
    obtain ⟨y, later, first, others, rfl⟩ := mapM_cons_ok all
    exact .cons (each x List.mem_cons_self y first)
      (ih (fun z inside => each z (List.mem_cons_of_mem _ inside)) others)

/-- The view is cut along the levels, and its columns are those of the places, each taken from the
members of the last level. -/
def View.Unnests (d : Sql.Dialect) (spelling : Sql.Spelling) (layout : ChangelogLayout)
    (snapshot : String) (levels : List UnnestLevel) (places : List FieldPlace) (view : View) : Prop :=
  ∃ last ∈ levels.getLast?,
    Sql.childQuery d snapshot layout levels (columnsAt d (spelling.quote last.member) places) =
      .ok view.query ∧
    view.sql = view.query.render spelling.quote

namespace ChildSite

theorem unnests_of_nodeView {site : ChildSite} {source : String} {n : ArrayNode} {view : View}
    (made : site.nodeView source n = .ok view) :
    view.Unnests site.dialect site.spelling site.layout site.snapshotRef
      (site.insideNode source n).levels n.places := by
  unfold nodeView at made
  split at made
  · cases made
  · next flat passed =>
    have columns : flat.columns = columnsAt _ _ n.places := (sound_of_walk passed).2
    unfold nodeQuery at made
    cases written : Sql.childQuery site.dialect site.snapshotRef site.layout
        (site.insideNode source n).levels flat.columns with
    | error fault => rw [written] at made; cases made
    | ok query =>
      rw [written] at made
      cases made
      rw [columns, insideNode_source] at written
      exact ⟨_, site.insideNode_last source n, written, rfl⟩

/-- The levels of an array are its own behind those of the array around it. -/
private theorem nested_of_arrayNodes (site : ChildSite) (source : String) {schema : Schema} :
    ∀ n ∈ schema.arrayNodes, Nested schema (fun n => (site.insideNode source n).levels) n := by
  apply Schema.arrayNodes_induction
  case document =>
    intro n held
    have alone : (site.insideNode source n).levels = [n.site.level source] := by
      rw [insideNode_levels]
      cases held with
      | reached _ => rfl
    exact .document held alone
  case inside =>
    intro m outer _ n held
    have around : n.around = m.around ++ [m.site] := by
      cases held with
      | member _ => rfl
      | element _ => rfl
    have behind : (site.insideNode source n).levels = (site.insideNode source m).levels ++
        [n.site.level (site.enclosing source n.around).source] := by
      rw [insideNode_levels, around]
      rfl
    exact .inside outer held behind

end ChildSite

namespace Target

/-- The views of the arrays of a compiled schema are cut along chains of levels, one level for each
array from the outermost on, and the chain of an array extends that of the array around it. -/
theorem unnesting_scoped {t : Target} {dataset : String} {first schemaName : Option String}
    {schema : Schema} {changelog : Option String} {views : SchemaViews}
    (done : t.compile dataset first schemaName schema changelog = .ok views) :
    ∃ spelling levels, t.dialect.spelled = .ok spelling ∧
      List.Forall₂ (fun n view => View.Unnests t.dialect spelling t.layout
          (spelling.tableRef t.project dataset views.snapshot.name) (levels n) n.places view)
        schema.arrayNodes views.children ∧
      ∀ n ∈ schema.arrayNodes,
        Chained spelling.quote (spelling.quote t.layout.data) (n.around ++ [n.site]) (levels n) ∧
          Nested schema levels n := by
  obtain ⟨names, spelling, flat, _, spelled, _, arrays, laid, _⟩ := layOut_ok (compile_ok done)
  let site := t.childSite spelling dataset names.1 names.2
  refine ⟨spelling, fun n => (site.insideNode (spelling.quote t.layout.data) n).levels, spelled, ?_, ?_⟩
  · rw [laid]
    exact forall₂_of_mapM_ok (fun n _ view made => site.unnests_of_nodeView made) arrays
  · intro n listed
    exact ⟨site.enclosing_chained _ (growing_of_arrayNodes n listed).2,
      site.nested_of_arrayNodes _ n listed⟩

/-- An array of arrays of maps, where a map in these holds an array of maps that hold a number. -/
def deepArrays : Schema :=
  let innermost := { Field.ofKind (.ofString "z") .array with
    fields := some [Field.ofKind (.ofString "v") .number] }
  let member := { Field.ofKind (.ofString "y") .map with fields := some [innermost] }
  let middle := { Field.ofKind (.ofString "x") .array with fields := some [member] }
  ⟨[{ Field.ofKind (.ofString "a") .array with element := some middle }]⟩

theorem deepArrays_unnested :
    ∃ views, compile ⟨Sql.DuckDb.dialect, "p", .standard⟩ "d" (some "f") (some "s") deepArrays none =
        .ok views ∧
      ∃ spelling levels, Sql.DuckDb.dialect.spelled = .ok spelling ∧
        List.Forall₂ (fun n view => View.Unnests Sql.DuckDb.dialect spelling .standard
            (spelling.tableRef "p" "d" views.snapshot.name) (levels n) n.places view)
          deepArrays.arrayNodes views.children ∧
        ∀ n ∈ deepArrays.arrayNodes,
          Chained spelling.quote (spelling.quote "data") (n.around ++ [n.site]) (levels n) ∧
            Nested deepArrays levels n ∧
            (levels n).map UnnestLevel.jsonPath ∈ [["$.a"], ["$.a", "$"], ["$.a", "$", "$.y.z"]] := by
  have compiled : ∃ views, compile ⟨Sql.DuckDb.dialect, "p", .standard⟩ "d" (some "f") (some "s")
      deepArrays none = .ok views := by
    unfold compile
    rw [layOut_eq]
    exact ⟨_, rfl⟩
  obtain ⟨views, done⟩ := compiled
  have paths : ∀ n ∈ deepArrays.arrayNodes, (n.around ++ [n.site]).map
      (fun a => Sql.jsonPath a.jsonPath) ∈ [["$.a"], ["$.a", "$"], ["$.a", "$", "$.y.z"]] := by decide
  obtain ⟨spelling, levels, spelled, unnests, chains⟩ := unnesting_scoped done
  refine ⟨views, done, spelling, levels, spelled, unnests, fun n listed => ?_⟩
  obtain ⟨chained, nested⟩ := chains n listed
  exact ⟨chained, nested, chained.paths ▸ paths n listed⟩

end Target
end ChangelogViews
