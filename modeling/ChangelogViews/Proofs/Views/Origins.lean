import ChangelogViews.Proofs.Views.Anchoring
import ChangelogViews.Proofs.Views.Unnesting

/-!
# Origins of names

The names that lead to a place, to an array, or into the text of an element are those of fields that
have places themselves. What holds of the names at all places of a schema therefore holds of every
name that its views are put together from (`names_of_scopes`).
-/

namespace ChangelogViews

private theorem place_of_member :
    (∀ (f : Field) (root path jsonPath : List String) (earlier : List LooseText),
      ∀ q ∈ f.places root path jsonPath earlier, ∀ g ∈ q.field.members,
        ∃ p ∈ f.places root path jsonPath earlier, p.field = g) ∧
    ∀ (fields : List Field) (root path jsonPath : List String) (earlier : List LooseText),
      (∀ f ∈ fields, ∃ p ∈ placesIn root path jsonPath earlier fields, p.field = f) ∧
      ∀ q ∈ placesIn root path jsonPath earlier fields, ∀ g ∈ q.field.members,
        ∃ p ∈ placesIn root path jsonPath earlier fields, p.field = g := by
  apply Field.induction_members
  case node =>
    intro f members root path jsonPath earlier q inside g declared
    rw [Field.places_eq] at inside ⊢
    obtain ⟨listed, deeper⟩ := members root path jsonPath []
    rcases List.mem_cons.mp inside with rfl | inside
    · obtain ⟨p, below, same⟩ := listed g declared
      exact ⟨p, List.mem_cons_of_mem _ below, same⟩
    · obtain ⟨p, below, same⟩ := deeper q inside g declared
      exact ⟨p, List.mem_cons_of_mem _ below, same⟩
  case nil =>
    exact fun _ _ _ _ => ⟨fun f inside => absurd inside List.not_mem_nil,
      fun q inside => absurd inside List.not_mem_nil⟩
  case cons =>
    intro f rest first others root path jsonPath earlier
    obtain ⟨listed, deeper⟩ := others root path jsonPath (f.name :: earlier)
    rw [placesIn]
    constructor
    · intro g inside
      rcases List.mem_cons.mp inside with rfl | inside
      · exact ⟨⟨_, _, _, _, g⟩, List.mem_append_left _ (head_of_places _ _ _ earlier g), rfl⟩
      · obtain ⟨p, later, same⟩ := listed g inside
        exact ⟨p, List.mem_append_right _ later, same⟩
    · intro q inside g declared
      rcases List.mem_append.mp inside with inside | inside
      · obtain ⟨p, own, same⟩ := first _ _ _ earlier q inside g declared
        exact ⟨p, List.mem_append_left _ own, same⟩
      · obtain ⟨p, later, same⟩ := deeper q inside g declared
        exact ⟨p, List.mem_append_right _ later, same⟩

/-- What fields hold through maps has a place in their view. -/
theorem place_of_reaches {fields : List Field} {names : List String} {f : Field}
    (reaches : Reaches fields names f) (root path jsonPath : List String) (earlier : List LooseText) :
    ∃ p ∈ placesIn root path jsonPath earlier fields, p.field = f := by
  obtain ⟨listed, deeper⟩ := place_of_member.2 fields root path jsonPath earlier
  induction reaches with
  | listed declared => exact listed _ declared
  | member _ declared ih =>
    obtain ⟨q, inside, same⟩ := ih
    exact deeper q inside _ (same ▸ declared)

/-- What holds of some names, and of two texts with an underscore between them, holds of the names with
underscores between them. -/
theorem joined_induction {good : String → Prop}
    (low : ∀ {a b}, good a → good b → good (a ++ "_" ++ b)) {path : List String} (ne : path ≠ [])
    (each : ∀ name ∈ path, good name) : good (joined path) := by
  match path with
  | [name] =>
    rw [joined, String.intercalate_singleton]
    exact each name (List.mem_singleton.mpr rfl)
  | name :: next :: rest =>
    have later := joined_induction low (List.cons_ne_nil next rest)
      fun other inside => each other (List.mem_cons_of_mem _ inside)
    rw [joined, String.intercalate_cons_cons]
    exact low (each name List.mem_cons_self) later

section
variable {good : String → Prop}

theorem Reaches.names {fields : List Field} {names : List String} {f : Field}
    (each : ∀ {names f}, Reaches fields names f → good f.name.shown)
    (reaches : Reaches fields names f) : ∀ name ∈ names, good name := by
  induction reaches with
  | listed declared =>
    intro name inside
    rw [List.mem_singleton.mp inside]
    exact each (.listed declared)
  | member above declared ih =>
    intro name inside
    rcases List.mem_append.mp inside with inside | inside
    · exact ih name inside
    · rw [List.mem_singleton.mp inside]
      exact each (.member above declared)

/-- The names that lead to a place, from the top of its view and inside the text of the view. -/
structure FieldPlace.Names (good : String → Prop) (p : FieldPlace) : Prop where
  ne_nil : p.path ≠ []
  path : ∀ name ∈ p.path, good name
  jsonPath : ∀ name ∈ p.jsonPath, good name

/-- The names that lead to an array, from the root of the schema and inside the text around it. -/
structure ArraySite.Names (good : String → Prop) (a : ArraySite) : Prop where
  ne_nil : a.keyPath ≠ []
  keyPath : ∀ name ∈ a.keyPath, good name
  jsonPath : ∀ name ∈ a.jsonPath, good name

/-- The names at the places of some fields lead to all of these places. -/
private theorem names_of_placesIn {root : List String} {fields : List Field}
    (each : ∀ p ∈ placesIn root [] [] [] fields, good p.field.name.shown) :
    (∀ {names f}, Reaches fields names f → good f.name.shown) ∧
      ∀ p ∈ placesIn root [] [] [] fields, p.Names good := by
  have reached : ∀ {names f}, Reaches fields names f → good f.name.shown := by
    intro names f reaches
    obtain ⟨p, inside, rfl⟩ := place_of_reaches reaches root [] [] []
    exact each p inside
  refine ⟨reached, fun p inside => ?_⟩
  obtain ⟨names, reaches, path, jsonPath⟩ := reaches_of_placesIn inside
  rw [List.nil_append] at path jsonPath
  refine ⟨?_, ?_, ?_⟩
  · rw [path]
    exact reaches.ne_nil
  · rw [path]
    exact reaches.names reached
  · rw [jsonPath]
    exact reaches.names reached

private theorem reached_of_elementPlaces {n : ArrayNode}
    (each : ∀ p ∈ n.places, good p.field.name.shown) :
    ∀ {names f}, Reaches n.field.arrayElement.members names f → good f.name.shown := by
  intro names f reaches
  unfold ArrayNode.places Field.elementPlaces at each
  by_cases isMap : n.field.arrayElement.isMap = true
  · rw [if_pos isMap] at each
    exact (names_of_placesIn each).1 reaches
  · -- only a map has members to reach
    have none := Field.members_eq_nil (mt Field.isMap_iff.mpr isMap)
    rw [none] at reaches
    obtain ⟨p, inside, _⟩ := place_of_reaches reaches [] [] [] []
    cases inside

private theorem names_of_elementPlaces {n : ArrayNode} (own : good n.field.name.shown)
    (each : ∀ p ∈ n.places, good p.field.name.shown) : ∀ p ∈ n.places, p.Names good := by
  intro p inside
  unfold ArrayNode.places Field.elementPlaces at each inside
  by_cases isMap : n.field.arrayElement.isMap = true
  · rw [if_pos isMap] at each inside
    exact (names_of_placesIn each).2 p inside
  · rw [if_neg isMap] at inside
    obtain rfl := List.mem_singleton.mp inside
    refine ⟨List.cons_ne_nil _ _, ?_, fun name inside => absurd inside List.not_mem_nil⟩
    intro name inside
    rw [List.mem_singleton.mp inside]
    exact own

/-- What holds of the names at all places of a schema holds of the names that lead to its arrays. -/
private theorem names_of_arrayNodes {schema : Schema}
    (top : ∀ {names f}, Reaches schema.fields names f → good f.name.shown)
    (inner : ∀ n ∈ schema.arrayNodes, ∀ p ∈ n.places, good p.field.name.shown) :
    ∀ n ∈ schema.arrayNodes,
      (∀ a ∈ n.around ++ [n.site], a.Names good) ∧ good n.field.name.shown := by
  apply Schema.arrayNodes_induction
  case document =>
    intro n held
    cases held with
    | reached reaches =>
      refine ⟨fun a inside => ?_, top reaches⟩
      rw [List.mem_singleton.mp inside]
      exact ⟨reaches.ne_nil, reaches.names top, reaches.names top⟩
  case inside =>
    intro m listed ⟨around, own⟩ n held
    have behind (a : ArraySite) (names : a.Names good) :
        ∀ b ∈ m.around ++ [m.site] ++ [a], b.Names good := by
      intro b inside
      rcases List.mem_append.mp inside with inside | inside
      · exact around b inside
      · rw [List.mem_singleton.mp inside]
        exact names
    have site := around m.site (List.mem_append_right _ (List.mem_singleton.mpr rfl))
    cases held with
    | member reaches =>
      have reached : ∀ {names f}, Reaches m.field.arrayElement.members names f → good f.name.shown :=
        reached_of_elementPlaces (inner m listed)
      refine ⟨behind _ ⟨List.append_ne_nil_of_left_ne_nil site.ne_nil _, ?_, ?_⟩, reached reaches⟩
      · intro name inside
        rcases List.mem_append.mp inside with inside | inside
        · exact site.keyPath name inside
        · exact reaches.names reached name inside
      · exact reaches.names reached
    | element _ =>
      refine ⟨behind _ ⟨List.append_ne_nil_of_left_ne_nil site.ne_nil _, ?_, ?_⟩, own⟩
      · intro name inside
        rcases List.mem_append.mp inside with inside | inside
        · exact site.keyPath name inside
        · rw [List.mem_singleton.mp inside]
          exact own
      · exact fun name inside => absurd inside List.not_mem_nil

/-- What holds of the names at all places of a schema holds of all names that its views are put
together from: those that lead to a place, and those that lead to an array. -/
theorem names_of_scopes {layout : ChangelogLayout} {schema : Schema}
    (each : ∀ s ∈ schema.scopes layout, ∀ p ∈ s.places, good p.field.name.shown) :
    (∀ s ∈ schema.scopes layout, ∀ p ∈ s.places, p.Names good) ∧
      ∀ n ∈ schema.arrayNodes, ∀ a ∈ n.around ++ [n.site], a.Names good := by
  have top := names_of_placesIn (each _ List.mem_cons_self)
  have inner : ∀ n ∈ schema.arrayNodes, ∀ p ∈ n.places, good p.field.name.shown :=
    fun n listed => each _ (List.mem_cons_of_mem _ (List.mem_map_of_mem listed))
  have arrays := names_of_arrayNodes top.1 inner
  refine ⟨fun s among => ?_, fun n listed => (arrays n listed).1⟩
  rcases List.mem_cons.mp among with rfl | among
  · exact top.2
  · obtain ⟨n, listed, rfl⟩ := List.mem_map.mp among
    exact names_of_elementPlaces (arrays n listed).2 (inner n listed)

end
end ChangelogViews
