import ChangelogViews.Proofs.Views.Anchoring
import ChangelogViews.Proofs.Views.Parity

/-!
# Declarations

The nodes of a schema are its fields and all that is declared below them. A schema that compiles obeys
the rules of declaration at every node but for one kind: the element of a map is not looked at where
the map is itself the element of an array (`declarations_checked`, `strayElement_compiles`).
-/

namespace ChangelogViews

/-- A field that a schema declares somewhere. A map with an element is stray where it is itself the
element of an array, and so is all that belongs to its element. -/
structure DeclaredNode where
  field : Field
  stray : Bool

/-- The node, as one that belongs to the element of a stray map. -/
def DeclaredNode.astray (n : DeclaredNode) : DeclaredNode := { n with stray := true }

mutual

/-- The field and all below it: the fields that it lists, its element, and what is below those. The
field may be the element of an array. -/
def Field.nodes (ofArray : Bool) : Field → List DeclaredNode
  | ⟨name, type, description, fields, element⟩ =>
    let field : Field := ⟨name, type, description, fields, element⟩
    let listed := match fields with
      | some fields => nodesIn fields
      | none => []
    let inside := match element with
      | some element => element.nodes field.isArray
      | none => []
    if ofArray && field.isMap then
      ⟨field, element.isSome⟩ :: (listed ++ inside.map DeclaredNode.astray)
    else
      ⟨field, false⟩ :: (listed ++ inside)

/-- Some listed fields and all below them. -/
def nodesIn : List Field → List DeclaredNode
  | [] => []
  | f :: rest => f.nodes false ++ nodesIn rest

end

/-- All that a schema declares, at any depth. -/
def Schema.nodes (schema : Schema) : List DeclaredNode := nodesIn schema.fields

/-- The nodes at a map that is the element of an array. -/
theorem Field.mem_nodes_mapElement {f : Field} (isMap : f.type = .known .map) {n : DeclaredNode} :
    n ∈ f.nodes true ↔ n = ⟨f, f.element.isSome⟩ ∨ n ∈ nodesIn (f.fields.getD []) ∨
      ∃ inner, f.element = some inner ∧ n ∈ (inner.nodes f.isArray).map DeclaredNode.astray := by
  have map : f.isMap = true := Field.isMap_iff.mpr isMap
  obtain ⟨name, type, description, fields, element⟩ := f
  cases fields with
  | none => cases element <;> simp [Field.nodes, nodesIn, map]
  | some fields => cases element <;> simp [Field.nodes, map]

/-- The nodes at any other field. -/
theorem Field.mem_nodes {f : Field} {ofArray : Bool} (other : (ofArray && f.isMap) = false)
    {n : DeclaredNode} :
    n ∈ f.nodes ofArray ↔ n = ⟨f, false⟩ ∨ n ∈ nodesIn (f.fields.getD []) ∨
      ∃ inner, f.element = some inner ∧ n ∈ inner.nodes f.isArray := by
  obtain ⟨name, type, description, fields, element⟩ := f
  cases fields with
  | none => cases element <;> simp [Field.nodes, nodesIn, other]
  | some fields => cases element <;> simp [Field.nodes, other]

/-- The rules of declaration: a map has no element, an array does not both have an element and list
fields, and any other field does neither and is of a type that has columns. -/
structure Field.Obeys (d : Sql.Dialect) (f : Field) : Prop where
  map : f.type = .known .map → f.element = none
  array : f.type = .known .array → f.element = none ∨ f.fields = none
  plain : f.type ≠ .known .map → f.type ≠ .known .array →
    f.fields = none ∧ f.element = none ∧ ∃ rules, d.resolve (.ofType f.type) = .ok rules

/-- Some nodes obey the rules, strays apart. -/
def Obey (d : Sql.Dialect) (nodes : List DeclaredNode) : Prop :=
  ∀ n ∈ nodes, n.stray = false → n.field.Obeys d

theorem FieldPlace.Sound.obeys {d : Sql.Dialect} {p : FieldPlace} (sound : p.Sound d) :
    p.field.Obeys d := by
  refine ⟨sound.map, sound.array, ?_⟩
  intro noMap noArray
  obtain ⟨fields, element, resolved⟩ := sound.plain noMap noArray
  exact ⟨fields, element, _, resolved⟩

/-- The rules do not concern the name. -/
private theorem Field.Obeys.of_withName {d : Sql.Dialect} {f : Field} {name : LooseText}
    (obeys : ({ f with name := name } : Field).Obeys d) : f.Obeys d :=
  ⟨obeys.map, obeys.array, obeys.plain⟩

/-- The fields at some places obey the rules, and so do those in the views of some arrays. -/
private structure Visited (d : Sql.Dialect) (places : List FieldPlace) (arrays : List ArrayNode) :
    Prop where
  own : ∀ p ∈ places, p.field.Obeys d
  inner : ∀ n ∈ arrays, ∀ p ∈ n.places, p.field.Obeys d

/-- The fields of some list obey the rules with all below them wherever they were visited. -/
private def Members (d : Sql.Dialect) (fields : List Field) : Prop :=
  ∀ root path jsonPath earlier around keyPath inner,
    Visited d (placesIn root path jsonPath earlier fields) (arrayNodesIn around keyPath inner fields) →
      Obey d (nodesIn fields)

private theorem members_nil (d : Sql.Dialect) : Members d [] :=
  fun _ _ _ _ _ _ _ _ _ none => absurd none List.not_mem_nil

private theorem Visited.head {d : Sql.Dialect} {f : Field} {root path jsonPath : List String}
    {earlier : List LooseText} {arrays : List ArrayNode}
    (visited : Visited d (f.places root path jsonPath earlier) arrays) : f.Obeys d := by
  refine visited.own ⟨root, path, jsonPath, earlier, f⟩ ?_
  rw [Field.places_eq]
  exact List.mem_cons_self

/-- A map among some listed fields is looked at with its members. -/
private theorem obey_of_map {d : Sql.Dialect} {f : Field} (isMap : f.type = .known .map)
    (members : Members d (f.fields.getD [])) {root path jsonPath : List String}
    {earlier : List LooseText} {around : List ArraySite} {name : LooseText}
    {keyPath inner : List String}
    (visited : Visited d (f.places root path jsonPath earlier)
      (f.arrayNodes around name keyPath inner)) : Obey d (f.nodes false) := by
  have listed : f.members = f.fields.getD [] := if_pos (Field.isMap_iff.mpr isMap)
  have obeys := visited.head
  have below : Obey d (nodesIn (f.fields.getD [])) := by
    refine members root path jsonPath [] around keyPath inner ⟨?_, ?_⟩
    · intro p inside
      refine visited.own p ?_
      rw [Field.places_eq, listed]
      exact List.mem_cons_of_mem _ inside
    · rw [Field.arrayNodes_map _ _ _ _ isMap, listed] at visited
      exact visited.inner
  intro n among found
  rcases (Field.mem_nodes rfl).mp among with rfl | among | ⟨e, element, _⟩
  · exact obeys
  · exact below n among found
  · rw [obeys.map isMap] at element
    cases element

/-- Of a map that is the element of an array the members are looked at, and nothing else. -/
private theorem obey_of_mapElement {d : Sql.Dialect} {f : Field} (isMap : f.type = .known .map)
    (members : Obey d (nodesIn (f.fields.getD []))) : Obey d (f.nodes true) := by
  intro n among found
  rcases (Field.mem_nodes_mapElement isMap).mp among with rfl | among | ⟨inner, _, among⟩
  · have element : f.element = none :=
      Option.isNone_iff_eq_none.mp (Option.isSome_eq_false_iff.mp found)
    exact ⟨fun _ => element, fun _ => .inl element, fun noMap _ => absurd isMap noMap⟩
  · exact members n among found
  · obtain ⟨lost, _, rfl⟩ := List.mem_map.mp among
    cases found

/-- An array that obeys the rules is looked at, and so is what is inside its elements. -/
private theorem obey_of_array {d : Sql.Dialect} {f : Field} (isArray : f.type = .known .array)
    (members : Members d (f.fields.getD []))
    (element : ∀ e, f.element = some e → (e.type ≠ .known .map →
        ∀ root path jsonPath earlier around name keyPath inner,
          Visited d (e.places root path jsonPath earlier) (e.arrayNodes around name keyPath inner) →
            Obey d (e.nodes true)) ∧ Members d (e.fields.getD []))
    {root path jsonPath : List String}
    {earlier : List LooseText} {around : List ArraySite} {name : LooseText}
    {keyPath inner : List String} {ofArray : Bool}
    (visited : Visited d (f.places root path jsonPath earlier)
      (f.arrayNodes around name keyPath inner)) : Obey d (f.nodes ofArray) := by
  have obeys := visited.head
  have deep := visited.inner
  rw [Field.arrayNodes_array _ _ _ _ isArray] at deep
  have own := deep _ List.mem_cons_self
  have below := fun n inside => deep n (List.mem_cons_of_mem _ inside)
  simp only [ArrayNode.places, Field.elementPlaces, Field.arrayElement] at own
  simp only [Field.innerNodes] at below
  have noMap : f.isMap = false := by
    rw [← Bool.not_eq_true, Field.isMap_iff, isArray]
    intro same
    cases same
  intro n among found
  rcases (Field.mem_nodes (by rw [noMap, Bool.and_false])).mp among with
    rfl | among | ⟨e, declared, among⟩
  · exact obeys
  · cases listed : f.fields with
    | none =>
      rw [listed] at among
      cases among
    | some fields =>
      have none : f.element = none := by
        rcases obeys.array isArray with none | none
        · exact none
        · rw [listed] at none
          cases none
      rw [listed, Option.getD_some] at members among
      simp only [none, listed] at own below
      exact members _ _ _ _ _ _ _ ⟨own, below⟩ n among found
  · simp only [declared] at own below
    rw [Field.isArray_iff.mpr isArray] at among
    obtain ⟨ofField, ofMembers⟩ := element e declared
    by_cases isMap : e.type = .known .map
    · have listed : e.members = e.fields.getD [] := if_pos (Field.isMap_iff.mpr isMap)
      rw [if_pos (Field.isMap_iff.mpr isMap), listed] at own
      rw [Field.arrayNodes_map _ _ _ _ isMap, listed] at below
      exact obey_of_mapElement isMap (ofMembers _ _ _ _ _ _ _ ⟨own, below⟩) n among found
    · rw [if_neg (mt Field.isMap_iff.mp isMap)] at own
      have alone : ∀ p ∈ e.places [] [] [] [], p.field.Obeys d := by
        intro p inside
        rw [Field.places_eq, Field.members_eq_nil isMap, placesIn] at inside
        rw [List.mem_singleton.mp inside]
        exact (own _ List.mem_cons_self).of_withName
      exact ofField isMap _ _ _ _ _ _ _ _ ⟨alone, below⟩ n among found

/-- A field that was visited obeys the rules with all below it. A map that is the element of an array
has no place of its own, so what is known of its members is kept beside. -/
private theorem obey_of_visited (d : Sql.Dialect) :
    (∀ f : Field, (∀ ofArray, ¬ (ofArray = true ∧ f.type = .known .map) →
        ∀ root path jsonPath earlier around name keyPath inner,
          Visited d (f.places root path jsonPath earlier) (f.arrayNodes around name keyPath inner) →
            Obey d (f.nodes ofArray)) ∧ Members d (f.fields.getD [])) ∧
    ∀ fields : List Field, Members d fields := by
  apply Field.induction
  case node =>
    intro own type description fields element below inside
    generalize same : (⟨own, type, description, fields, element⟩ : Field) = f
    have members : Members d (f.fields.getD []) := by
      rw [← same]
      cases fields with
      | none => exact members_nil d
      | some fields => exact below fields rfl
    refine ⟨?_, members⟩
    intro ofArray placed root path jsonPath earlier around name keyPath innerPath visited
    by_cases isMap : f.type = .known .map
    · obtain rfl : ofArray = false := Bool.eq_false_iff.mpr fun yes => placed ⟨yes, isMap⟩
      exact obey_of_map isMap members visited
    by_cases isArray : f.type = .known .array
    · refine obey_of_array isArray members ?_ visited
      intro e declared
      rw [← same] at declared
      obtain ⟨ofField, ofMembers⟩ := inside e declared
      exact ⟨fun noMap => ofField true fun both => noMap both.2, ofMembers⟩
    · obtain ⟨none, alone, _⟩ := visited.head.plain isMap isArray
      have noMap : f.isMap = false := Bool.eq_false_iff.mpr (mt Field.isMap_iff.mp isMap)
      intro n among found
      rcases (Field.mem_nodes (by rw [noMap, Bool.and_false])).mp among with
        rfl | among | ⟨e, declared, _⟩
      · exact visited.head
      · rw [none] at among
        cases among
      · rw [alone] at declared
        cases declared
  case nil => exact members_nil d
  case cons =>
    intro f rest first others root path jsonPath earlier around keyPath inner visited
    rw [placesIn, arrayNodesIn] at visited
    have head := first.1 false (fun both => Bool.false_ne_true both.1) _ _ _ _ _ _ _ _
      ⟨fun p inside => visited.own p (List.mem_append_left _ inside),
        fun n inside => visited.inner n (List.mem_append_left _ inside)⟩
    have tail := others _ _ _ _ _ _ _ ⟨fun p inside => visited.own p (List.mem_append_right _ inside),
      fun n inside => visited.inner n (List.mem_append_right _ inside)⟩
    intro n among found
    rw [nodesIn] at among
    rcases List.mem_append.mp among with among | among
    · exact head n among found
    · exact tail n among found

/-! ### Causes -/

/-- The schema is to blame: it is malformed, or a type in it has no columns. -/
inductive Cause.IsOfSchema : Cause → Prop
  | malformed (problem : Malformation) : Cause.IsOfSchema (.malformed problem)
  | unsupported (subject : TypeSubject) (reason : NoColumn) :
      Cause.IsOfSchema (.unsupported subject reason)

theorem Cause.IsNaming.isOfSchema {cause : Cause} (naming : cause.IsNaming) : cause.IsOfSchema := by
  cases naming with
  | badPrefix _ => exact .malformed _
  | badSchemaName _ => exact .malformed _
  | viewTwice _ => exact .malformed _

private theorem FieldPlace.Flaw.isOfSchema {d : Sql.Dialect} {p : FieldPlace} {cause : Cause}
    (flaw : p.Flaw d cause) : cause.IsOfSchema := by
  cases flaw with
  | unresolved _ _ _ _ _ refused =>
    obtain ⟨reason, rfl⟩ := FieldPlace.refused_eq refused
    exact .unsupported _ reason
  | _ => exact .malformed _

private theorem FirstFault.isOfSchema {d : Sql.Dialect} {taken : List TakenLabel}
    {places : List FieldPlace} {p : FieldPlace} {cause : Cause} {suffix : List String}
    (first : FirstFault d taken places p cause suffix) : cause.IsOfSchema := by
  induction first with
  | here fault =>
    cases fault with
    | flaw flaw => exact flaw.isOfSchema
    | clash _ _ => exact .malformed _
  | later _ _ ih => exact ih

private theorem isOfSchema_of_walk {d : Sql.Dialect} {source : String} {places : List FieldPlace}
    {taken : List TakenLabel} {e : ViewError}
    (failed : takeSteps taken (walk d source places) = .error e) : e.cause.IsOfSchema := by
  obtain ⟨_, _, _, first, rfl⟩ := takeSteps_walk_error_iff.mp failed
  exact first.isOfSchema

namespace Target

variable {t : Target} {dataset : String} {first schemaName : Option String} {schema : Schema}
  {changelog : Option String}

/-- The places of a schema that compiles are sound, in the top view and in the view of every array. -/
theorem sound_of_compile {views : SchemaViews}
    (done : t.compile dataset first schemaName schema changelog = .ok views) :
    (∀ p ∈ placesIn [] [] [] [] schema.fields, p.Sound t.dialect) ∧
      ∀ n ∈ schema.arrayNodes, ∀ p ∈ n.places, p.Sound t.dialect := by
  obtain ⟨_, _, _, _, _, top, arrays, _, _⟩ := layOut_ok (compile_ok done)
  refine ⟨?_, ?_⟩
  · unfold topFlat at top
    rw [flatten_eq_walk _ _ []] at top
    exact (sound_of_walk top).1
  · intro n listed
    obtain ⟨view, _, made⟩ := forall_of_mapM_ok arrays n listed
    obtain ⟨⟨_, passed⟩, _⟩ := ChildSite.nodeView_ok made
    exact (sound_of_walk passed).1

theorem obey_of_compile {views : SchemaViews}
    (done : t.compile dataset first schemaName schema changelog = .ok views) :
    Obey t.dialect schema.nodes := by
  obtain ⟨top, arrays⟩ := sound_of_compile done
  exact (obey_of_visited t.dialect).2 schema.fields _ _ _ _ _ _ _
    ⟨fun p inside => (top p inside).obeys, fun n listed p inside => (arrays n listed p inside).obeys⟩

/-- Where a schema does not compile for an error of the family, the schema is to blame. -/
theorem isOfSchema_of_compile {e : ViewError}
    (failed : t.compile dataset first schemaName schema changelog = .error (.views e)) :
    e.cause.IsOfSchema := by
  obtain ⟨inner, stopped, rfl⟩ := compile_error failed
  change inner.cause.IsOfSchema
  generalize same : Failure.views inner = failure at stopped
  cases layOut_error stopped with
  | misnamed improper => cases same; exact (naming_of_improper improper).isOfSchema
  | unspelled _ => cases same
  | atTop _ _ failed =>
    cases same
    rw [topFlat_eq] at failed
    exact isOfSchema_of_walk failed
  | atArray _ _ _ failed =>
    cases same
    obtain ⟨_, n, _, _, _, faulty⟩ := mapM_error failed
    obtain ⟨own, unlaid, rfl⟩ := ChildSite.nodeView_error faulty
    change own.cause.IsOfSchema
    exact isOfSchema_of_walk unlaid
  | twice => cases same; exact .malformed _

/-- In a shipped dialect a schema either compiles, and then obeys the rules of declaration at every
node, strays apart; or it is refused for an error of its own. -/
theorem declarations_checked (shipped : t.dialect ∈ Sql.dialects) (dataset : String)
    (first schemaName : Option String) (schema : Schema) (changelog : Option String) :
    (∃ views, t.compile dataset first schemaName schema changelog = .ok views ∧
      ∀ n ∈ schema.nodes, n.stray = false → n.field.Obeys t.dialect) ∨
    ∃ e, t.compile dataset first schemaName schema changelog = .error (.views e) ∧
      e.cause.IsOfSchema := by
  cases compiled : t.compile dataset first schemaName schema changelog with
  | ok views => exact .inl ⟨views, rfl, obey_of_compile compiled⟩
  | error failure =>
    obtain ⟨e, rfl⟩ := compile_failure (Sql.Dialect.regular_of_mem shipped) compiled
    exact .inr ⟨e, rfl, isOfSchema_of_compile compiled⟩

/-- An array of arrays of maps that hold an array. -/
def layeredArrays : Schema :=
  let deepest := { Field.ofKind (.ofString "z") .array with fields := some [] }
  let map := { Field.ofKind (.ofString "") .map with
    fields := some [deepest, Field.ofKind (.ofString "g") .geopoint] }
  let middle := { Field.ofKind (.ofString "") .array with element := some map }
  ⟨[{ Field.ofKind (.ofString "a") .array with element := some middle }]⟩

theorem layeredArrays_checked :
    Sql.BigQuery.dialect ∈ Sql.dialects ∧
    ∃ views, compile ⟨Sql.BigQuery.dialect, "p", .standard⟩ "d" (some "f") (some "s") layeredArrays
        none = .ok views ∧
      ∀ n ∈ layeredArrays.nodes, n.field.Obeys Sql.BigQuery.dialect := by
  have shipped : Sql.BigQuery.dialect ∈ Sql.dialects := by simp [Sql.dialects]
  have compiled : ∃ views, compile ⟨Sql.BigQuery.dialect, "p", .standard⟩ "d" (some "f") (some "s")
      layeredArrays none = .ok views := by
    unfold compile
    rw [layOut_eq]
    exact ⟨_, rfl⟩
  have found : layeredArrays.nodes.map DeclaredNode.stray = [false, false, false, false, false] := rfl
  obtain ⟨views, done⟩ := compiled
  refine ⟨shipped, views, done, ?_⟩
  rcases declarations_checked (t := ⟨Sql.BigQuery.dialect, "p", .standard⟩) shipped "d" (some "f")
    (some "s") layeredArrays none with ⟨_, _, obey⟩ | ⟨e, failed, _⟩
  · intro n among
    have stray : n.stray ∈ layeredArrays.nodes.map DeclaredNode.stray := List.mem_map_of_mem among
    rw [found] at stray
    exact obey n among (by simpa using stray)
  · rw [done] at failed
    cases failed

/-- An array of maps, where the map has an element of its own. -/
def strayElement : Schema :=
  let member := Field.ofKind (.ofString "x") .string
  let map := { Field.ofKind (.ofString "") .map with
    fields := some [member], element := some (Field.ofKind (.ofString "") .string) }
  ⟨[{ Field.ofKind (.ofString "a") .array with element := some map }]⟩

/-- A map with an element compiles where it is the element of an array. -/
theorem strayElement_compiles :
    ∃ views, compile ⟨Sql.DuckDb.dialect, "p", .standard⟩ "d" (some "f") (some "s") strayElement
        none = .ok views ∧ ∃ n ∈ strayElement.nodes, ¬ n.field.Obeys Sql.DuckDb.dialect := by
  have compiled : ∃ views, compile ⟨Sql.DuckDb.dialect, "p", .standard⟩ "d" (some "f") (some "s")
      strayElement none = .ok views := by
    unfold compile
    rw [layOut_eq]
    exact ⟨_, rfl⟩
  obtain ⟨views, done⟩ := compiled
  have stray : ∃ n ∈ strayElement.nodes, n.field.type = .known .map ∧ n.field.element.isSome = true :=
    ⟨_, List.mem_cons_of_mem _ List.mem_cons_self, rfl, rfl⟩
  obtain ⟨n, among, isMap, element⟩ := stray
  refine ⟨views, done, n, among, ?_⟩
  intro obeys
  rw [obeys.map isMap] at element
  cases element

end Target
end ChangelogViews
