import ChangelogViews.Proofs.Views.ArrayViews

/-!
# Locations

Where a field lies in its schema, told by the tree alone: `Schema.Declares` for the fields of lists,
`Schema.Nests` for arrays by their key paths, and `Schema.Located` for all that an error can be about.
The array nodes of a schema and the places of its views lie where these relations say
(`nests_of_arrayNodes`, `located_of_node`).
-/

namespace ChangelogViews

mutual

/-- A field of some list, with its path from the root of the schema. -/
inductive Schema.Declares (schema : Schema) : List String → Field → Prop
  | top {f : Field} (declared : f ∈ schema.fields) : Schema.Declares schema [f.name.shown] f
  | member {path : List String} {map f : Field} (above : Schema.Declares schema path map)
      (declared : f ∈ map.members) : Schema.Declares schema (path ++ [f.name.shown]) f
  | elementMember {keyPath : List String} {array f : Field} (above : Schema.Nests schema keyPath array)
      (declared : f ∈ array.arrayElement.members) :
      Schema.Declares schema (keyPath ++ [f.name.shown]) f

/-- An array with its key path. The array that is the element of another repeats its last name. -/
inductive Schema.Nests (schema : Schema) : List String → Field → Prop
  | field {path : List String} {array : Field} (declared : Schema.Declares schema path array)
      (isArray : array.type = .known .array) : Schema.Nests schema path array
  | element {keyPath : List String} {array : Field} (above : Schema.Nests schema keyPath array)
      (isArray : array.arrayElement.type = .known .array) :
      Schema.Nests schema (keyPath ++ [array.name.shown])
        { array.arrayElement with name := array.name }

end

/-- A declared field at its path, or an element that is no map at the key path of its array. -/
inductive Schema.Located (schema : Schema) : List String → Field → Prop
  | field {path : List String} {f : Field} (declared : schema.Declares path f) :
      Schema.Located schema path f
  | element {keyPath : List String} {array : Field} (above : schema.Nests keyPath array)
      (noMap : array.arrayElement.isMap = false) :
      Schema.Located schema keyPath { array.arrayElement with name := array.name }

namespace Schema

variable {schema : Schema} {path keyPath : List String} {f array : Field}

theorem Declares.last (declared : schema.Declares path f) : ∃ above, path = above ++ [f.name.shown] := by
  cases declared with
  | top _ => exact ⟨[], rfl⟩
  | member _ _ => exact ⟨_, rfl⟩
  | elementMember _ _ => exact ⟨_, rfl⟩

theorem Nests.last (nests : schema.Nests keyPath array) :
    ∃ above, keyPath = above ++ [array.name.shown] := by
  cases nests with
  | field declared _ => exact declared.last
  | element _ _ => exact ⟨_, rfl⟩

theorem Located.last (located : schema.Located path f) : ∃ above, path = above ++ [f.name.shown] := by
  cases located with
  | field declared => exact declared.last
  | element above _ => exact above.last

/-- What is known where the arrays in a field are listed that goes by `name` at a key path. -/
private structure Entered (schema : Schema) (keyPath : List String) (name : LooseText) (f : Field) :
    Prop where
  array : f.type = .known .array → schema.Nests keyPath { f with name := name }
  members : ∀ g ∈ f.members, schema.Declares (keyPath ++ [g.name.shown]) g

private theorem entered_of_declared (declared : schema.Declares path f) :
    Entered schema path f.name f :=
  ⟨fun isArray => by cases f; exact .field declared isArray, fun _ inside => .member declared inside⟩

private theorem entered_of_element (nests : schema.Nests keyPath array) :
    Entered schema (if array.arrayElement.isArray then keyPath ++ [array.name.shown] else keyPath)
      array.name array.arrayElement := by
  by_cases isArray : array.arrayElement.type = .known .array
  · have yes : array.arrayElement.isArray = true := Field.isArray_iff.mpr isArray
    have none : array.arrayElement.members = [] := Field.members_eq_nil (by simp [isArray])
    rw [if_pos yes]
    refine ⟨fun _ => .element nests isArray, ?_⟩
    intro g inside
    rw [none] at inside
    cases inside
  · have no : ¬ array.arrayElement.isArray = true := mt Field.isArray_iff.mp isArray
    rw [if_neg no]
    exact ⟨fun other => absurd other isArray, fun g inside => .elementMember nests inside⟩

private theorem nests_of_listed (schema : Schema) :
    (∀ (f : Field) (around : List ArraySite) (name : LooseText) (keyPath jsonPath : List String),
      Entered schema keyPath name f →
      ∀ n ∈ f.arrayNodes around name keyPath jsonPath, schema.Nests n.site.keyPath n.field) ∧
    ∀ (fields : List Field) (around : List ArraySite) (keyPath jsonPath : List String),
      (∀ f ∈ fields, schema.Declares (keyPath ++ [f.name.shown]) f) →
      ∀ n ∈ arrayNodesIn around keyPath jsonPath fields, schema.Nests n.site.keyPath n.field := by
  apply Field.induction
  case node =>
    intro own type description fields element below inside around name keyPath jsonPath entered n listed
    by_cases isMap : type = .known .map
    · rw [Field.arrayNodes_map _ _ _ _ isMap] at listed
      have members := entered.members
      unfold Field.members at members listed
      cases fields with
      | none => simp [arrayNodesIn] at listed
      | some members' =>
        simp only [Field.isMap, isMap, decide_true, if_true, Option.getD_some] at members listed
        exact below members' rfl around keyPath jsonPath members n listed
    by_cases isArray : type = .known .array
    · have nests := entered.array isArray
      rw [Field.arrayNodes_array _ _ _ _ isArray] at listed
      rcases List.mem_cons.mp listed with rfl | listed
      · exact nests
      · unfold Field.innerNodes at listed
        cases element with
        | some e => exact inside e rfl _ name _ _ (entered_of_element nests) n listed
        | none =>
          cases fields with
          | none => cases listed
          | some members =>
            refine below members rfl _ keyPath [] ?_ n listed
            intro g member
            exact .elementMember nests member
    · rw [Field.arrayNodes_plain _ _ _ _ isMap isArray] at listed
      cases listed
  case nil => exact fun _ _ _ _ n listed => absurd listed List.not_mem_nil
  case cons =>
    intro f rest first others around keyPath jsonPath declared n listed
    rw [arrayNodesIn] at listed
    rcases List.mem_append.mp listed with listed | listed
    · exact first around f.name _ _ (entered_of_declared (declared f List.mem_cons_self)) n listed
    · exact others around keyPath jsonPath
        (fun g inside => declared g (List.mem_cons_of_mem _ inside)) n listed

/-- The array nodes of a schema are its arrays, with their key paths. -/
theorem nests_of_arrayNodes {n : ArrayNode} (listed : n ∈ schema.arrayNodes) :
    schema.Nests n.site.keyPath n.field :=
  (nests_of_listed schema).2 schema.fields [] [] [] (fun _ inside => .top inside) n listed

private theorem declares_of_places (schema : Schema) :
    (∀ (f : Field) (root path jsonPath : List String) (earlier : List LooseText),
      schema.Declares (root ++ [f.name.shown]) f →
      ∀ p ∈ f.places (root ++ [f.name.shown]) (path ++ [f.name.shown]) jsonPath earlier,
        schema.Declares p.root p.field ∧ ∃ above, p.root = root ++ above ++ [p.field.name.shown] ∧
          p.path = path ++ above ++ [p.field.name.shown]) ∧
    ∀ (fields : List Field) (root path jsonPath : List String) (earlier : List LooseText),
      (∀ f ∈ fields, schema.Declares (root ++ [f.name.shown]) f) →
      ∀ p ∈ placesIn root path jsonPath earlier fields,
        schema.Declares p.root p.field ∧ ∃ above, p.root = root ++ above ++ [p.field.name.shown] ∧
          p.path = path ++ above ++ [p.field.name.shown] := by
  apply Field.induction_members
  case node =>
    intro f members root path jsonPath earlier declared p inside
    rw [Field.places_eq] at inside
    rcases List.mem_cons.mp inside with rfl | inside
    · refine ⟨declared, [], ?_, ?_⟩
      · rw [List.append_nil]
      · rw [List.append_nil]
    · obtain ⟨own, above, fromRoot, fromPath⟩ :=
        members _ _ jsonPath [] (fun g member => .member declared member) p inside
      refine ⟨own, f.name.shown :: above, ?_, ?_⟩
      · rw [fromRoot, List.append_assoc root, List.singleton_append]
      · rw [fromPath, List.append_assoc path, List.singleton_append]
  case nil => exact fun _ _ _ _ _ p inside => absurd inside List.not_mem_nil
  case cons =>
    intro f rest first others root path jsonPath earlier declared p inside
    rw [placesIn] at inside
    rcases List.mem_append.mp inside with inside | inside
    · exact first root path _ earlier (declared f List.mem_cons_self) p inside
    · exact others root path jsonPath _
        (fun g member => declared g (List.mem_cons_of_mem _ member)) p inside

/-- The places of the top view are the declared fields that no array holds, at their paths. -/
theorem located_of_top {p : FieldPlace} (inside : p ∈ placesIn [] [] [] [] schema.fields) :
    schema.Located p.root p.field ∧ p.path = p.root := by
  obtain ⟨declared, above, fromRoot, fromPath⟩ :=
    (declares_of_places schema).2 schema.fields [] [] [] [] (fun _ member => .top member) p inside
  exact ⟨.field declared, by rw [fromRoot, fromPath]⟩

/-- The places of an array's view are what its elements hold. Behind the anchor of the array their paths
are those from the root of the schema. -/
theorem located_of_node {n : ArrayNode} (nests : schema.Nests n.site.keyPath n.field) {p : FieldPlace}
    (inside : p ∈ n.places) :
    schema.Located p.root p.field ∧ p.field.name.shown ∈ p.path ∧ n.anchor ++ p.path = p.root := by
  unfold ArrayNode.places Field.elementPlaces at inside
  unfold ArrayNode.anchor
  by_cases isMap : n.field.arrayElement.isMap = true
  · rw [if_pos isMap] at inside ⊢
    obtain ⟨declared, above, fromRoot, fromPath⟩ :=
      (declares_of_places schema).2 _ n.site.keyPath [] [] []
        (fun _ member => .elementMember nests member) p inside
    rw [List.nil_append] at fromPath
    refine ⟨.field declared, ?_, ?_⟩
    · rw [fromPath]
      exact List.mem_append_right above (List.mem_singleton.mpr rfl)
    · rw [fromRoot, fromPath, List.append_assoc]
  · rw [if_neg isMap] at inside ⊢
    obtain rfl := List.mem_singleton.mp inside
    obtain ⟨above, last⟩ := nests.last
    refine ⟨.element nests (by simpa using isMap), List.mem_singleton.mpr rfl, ?_⟩
    rw [last, List.dropLast_concat]

end Schema
end ChangelogViews
