import Mathlib.Data.List.Forall2
import ChangelogViews.Proofs.Views.ArrayViews
import ChangelogViews.Proofs.Views.Labels

/-!
# Fields that are deleted

One field is deleted from one of the lists in a tree, wherever it is (`DropsIn`). The places of a
single view lose those of the field and its members, and the arrays of the tree lose those at the field
and below. Everything else is kept in order (`lessIn_of_dropsIn`).
-/

namespace ChangelogViews

/-- Where a field or a list of fields lies: the arrays around it from the outermost on, the names that
lead there from the root of the schema, and those inside its view. -/
structure Spot where
  around : List ArraySite
  keyPath : List String
  path : List String

namespace Spot

/-- The fields of the documents. -/
def top : Spot := ⟨[], [], []⟩

/-- A field of a list. -/
def entry (s : Spot) (name : LooseText) : Spot :=
  ⟨s.around, s.keyPath ++ [name.shown], s.path ++ [name.shown]⟩

/-- The elements of an array. -/
def elements (s : Spot) : Spot := ⟨s.around ++ [⟨s.keyPath, s.path⟩], s.keyPath, []⟩

end Spot

/-- Where the fields lie that a field lists. A map lists its members, and an array without an element
those of the maps that it holds. No view reads what another field lists. -/
def Field.listSpot (f : Field) (s : Spot) : Option Spot :=
  if f.isMap then some s
  else if f.isArray && f.element.isNone then some s.elements
  else none

/-- Where the element of an array lies that is known as `known`. Another array there repeats its name.
No view reads the element of another field. -/
def Field.elementSpot (f : Field) (known : LooseText) (inner : Field) (s : Spot) : Option Spot :=
  if f.isArray then
    some { s.elements with
      keyPath := if inner.isArray then s.keyPath ++ [known.shown] else s.keyPath }
  else none

mutual

/-- A field at a spot, known under a name, and the same field without `g`, which was in one of the
lists below it. That list lies at the spot `target`, if any view reads it. -/
inductive DropsBelow (g : Field) (target : Option Spot) :
    Option Spot → LooseText → Field → Field → Prop
  | fields {spot : Option Spot} {known : LooseText} {f : Field} {members members' : List Field}
      (lists : f.fields = some members)
      (below : DropsIn g target (spot.bind f.listSpot) members members') :
      DropsBelow g target spot known f { f with fields := some members' }
  | element {spot : Option Spot} {known : LooseText} {f inner inner' : Field}
      (holds : f.element = some inner)
      (inside : DropsBelow g target (spot.bind (f.elementSpot known inner)) known inner inner') :
      DropsBelow g target spot known f { f with element := some inner' }

/-- A list of fields at a spot, and the same list without `g`. -/
inductive DropsIn (g : Field) (target : Option Spot) :
    Option Spot → List Field → List Field → Prop
  | here (rest : List Field) : DropsIn g target target (g :: rest) rest
  | head {spot : Option Spot} {f f' : Field} (rest : List Field)
      (own : DropsBelow g target (spot.map (·.entry f.name)) f.name f f') :
      DropsIn g target spot (f :: rest) (f' :: rest)
  | tail {spot : Option Spot} (f : Field) {rest rest' : List Field}
      (later : DropsIn g target spot rest rest') :
      DropsIn g target spot (f :: rest) (f :: rest')

end

/-- Behind a field that no view reads a deletion takes place where no view reads it. -/
private theorem target_unread {g : Field} {target : Option Spot} :
    (∀ (f f' : Field) (known : LooseText), DropsBelow g target none known f f' → target = none) ∧
    ∀ fields fields' : List Field, DropsIn g target none fields fields' → target = none := by
  apply Field.induction
  case node =>
    rintro name type description fields element members inner f' known drops
    cases drops with
    | fields lists below => exact members _ lists _ below
    | element holds inside => exact inner _ holds _ _ inside
  case nil =>
    intro fields' drops
    cases drops
  case cons =>
    intro f rest first others fields' drops
    cases drops with
    | here _ => rfl
    | head _ own => exact first _ _ own
    | tail _ later => exact others _ later

/-- A place and the same place in a tree that holds less: the field is declared alike, but may hold
less itself and come behind fewer names. -/
structure FieldPlace.Kept (p p' : FieldPlace) : Prop where
  path : p'.path = p.path
  jsonPath : p'.jsonPath = p.jsonPath
  earlier : p'.earlier ⊆ p.earlier
  name : p'.field.name = p.field.name
  type : p'.field.type = p.field.type
  fields : p'.field.fields.isSome = p.field.fields.isSome
  element : p'.field.element.isSome = p.field.element.isSome

namespace FieldPlace.Kept

variable {p p' : FieldPlace}

theorem refl (p : FieldPlace) : p.Kept p := ⟨rfl, rfl, List.Subset.refl _, rfl, rfl, rfl, rfl⟩

theorem rules (kept : p.Kept p') (d : Sql.Dialect) : p'.rules d = p.rules d := by
  rw [FieldPlace.rules, kept.type, FieldPlace.rules]

theorem sound (kept : p.Kept p') {d : Sql.Dialect} (sound : p.Sound d) : p'.Sound d := by
  have noFields : p.field.fields = none → p'.field.fields = none := by
    intro none
    have same := kept.fields
    rw [none] at same
    simpa using same
  have noElement : p.field.element = none → p'.field.element = none := by
    intro none
    have same := kept.element
    rw [none] at same
    simpa using same
  refine ⟨⟨?_, ?_⟩, ?_, ?_, ?_⟩
  · intro again
    rw [kept.name] at again
    exact sound.named.1 (kept.earlier again)
  · rw [kept.name]
    exact sound.named.2
  · rw [kept.type]
    exact fun isMap => noElement (sound.map isMap)
  · rw [kept.type]
    exact fun isArray => (sound.array isArray).imp noElement noFields
  · rw [kept.type, kept.rules]
    intro noMap noArray
    obtain ⟨fields, element, resolved⟩ := sound.plain noMap noArray
    exact ⟨noFields fields, noElement element, resolved⟩

end FieldPlace.Kept

private theorem kept_refl (places : List FieldPlace) : List.Forall₂ FieldPlace.Kept places places :=
  List.forall₂_same.mpr fun p _ => .refl p

theorem columnsAt_kept (d : Sql.Dialect) (source : String) {places places' : List FieldPlace}
    (kept : List.Forall₂ FieldPlace.Kept places places') :
    columnsAt d source places' = columnsAt d source places := by
  induction kept with
  | nil => rfl
  | cons own _ ih =>
    unfold columnsAt at ih ⊢
    rw [List.flatMap_cons, List.flatMap_cons, own.rules, own.path, own.jsonPath, ih]

theorem sound_kept {d : Sql.Dialect} {places places' : List FieldPlace}
    (kept : List.Forall₂ FieldPlace.Kept places places') (sound : ∀ p ∈ places, p.Sound d) :
    ∀ p ∈ places', p.Sound d := by
  induction kept with
  | nil => exact fun p inside => absurd inside List.not_mem_nil
  | cons own _ ih =>
    intro p inside
    rcases List.mem_cons.mp inside with rfl | inside
    · exact own.sound (sound _ List.mem_cons_self)
    · exact ih (fun q member => sound q (List.mem_cons_of_mem _ member)) p inside

/-! ### Places that are cut -/

/-- Some places, and those of them that are kept when `gone` is cut out. -/
inductive Cut (gone : List FieldPlace) : List FieldPlace → List FieldPlace → Prop
  | split {before before' after after' : List FieldPlace}
      (front : List.Forall₂ FieldPlace.Kept before before')
      (behind : List.Forall₂ FieldPlace.Kept after after') :
      Cut gone (before ++ gone ++ after) (before' ++ after')

namespace Cut

variable {gone places places' : List FieldPlace}

theorem of_kept (kept : List.Forall₂ FieldPlace.Kept places places') : Cut [] places places' :=
  .split .nil kept

theorem left {front front' : List FieldPlace} (kept : List.Forall₂ FieldPlace.Kept front front')
    (cut : Cut gone places places') : Cut gone (front ++ places) (front' ++ places') := by
  cases cut with
  | split before behind =>
    rw [← List.append_assoc, ← List.append_assoc, ← List.append_assoc]
    exact .split (List.rel_append kept before) behind

theorem right {last last' : List FieldPlace} (cut : Cut gone places places')
    (kept : List.Forall₂ FieldPlace.Kept last last') : Cut gone (places ++ last) (places' ++ last') := by
  cases cut with
  | split before behind =>
    rw [List.append_assoc _ _ last, List.append_assoc _ _ last']
    exact .split before (List.rel_append behind kept)

/-- A walk that reaches its end does so with fewer places, and only lacks the columns of these. -/
theorem walk_ok {d : Sql.Dialect} {source : String} {taken : List TakenLabel} {flat : Flat}
    (cut : Cut gone places places') (passed : takeSteps taken (walk d source places) = .ok flat) :
    ∃ own flat' before after, takeSteps [] (walk d source gone) = .ok own ∧
      takeSteps taken (walk d source places') = .ok flat' ∧
      flat.columns = before ++ own.columns ++ after ∧ flat'.columns = before ++ after := by
  obtain ⟨sound, free⟩ := walk_ok_iff.mp ⟨flat, passed⟩
  have columns : flat.columns = columnsAt d source places := (sound_of_walk passed).2
  rw [labelsIn_eq_columnsAt d source] at free
  cases cut with
  | @split before before' after after' front behind =>
    have fewer : columnsAt d source (before' ++ after') =
        columnsAt d source before ++ columnsAt d source after := by
      rw [columnsAt_append, columnsAt_kept d source front, columnsAt_kept d source behind]
    rw [columnsAt_append, columnsAt_append] at columns free
    -- what is cut out and what is left both have some of the aliases that were free, so none clashes
    have alone : ∃ own, takeSteps [] (walk d source gone) = .ok own := by
      refine walk_ok_iff.mpr ⟨?_, ?_, fun _ _ => List.not_mem_nil⟩
      · intro p inside
        exact sound p (List.mem_append_left _ (List.mem_append_right _ inside))
      · rw [labelsIn_eq_columnsAt d source]
        exact (((List.sublist_append_right _ _).trans (List.sublist_append_left _ _)).map _).nodup
          free.apart
    have rest : ∃ flat', takeSteps taken (walk d source (before' ++ after')) = .ok flat' := by
      refine walk_ok_iff.mpr ⟨?_, ?_⟩
      · refine sound_kept (List.rel_append front behind) fun p inside => sound p ?_
        rcases List.mem_append.mp inside with inside | inside
        · exact List.mem_append_left _ (List.mem_append_left _ inside)
        · exact List.mem_append_right _ inside
      · rw [labelsIn_eq_columnsAt d source, fewer]
        exact free.sublist (((List.sublist_append_left _ _).append (List.Sublist.refl _)).map _)
    obtain ⟨own, alone⟩ := alone
    obtain ⟨flat', rest⟩ := rest
    have ownColumns : own.columns = columnsAt d source gone := (sound_of_walk alone).2
    refine ⟨own, flat', _, _, alone, rest, ?_, (sound_of_walk rest).2.trans fewer⟩
    rw [columns, ownColumns]

/-- A walk over places that are all kept gives the same columns. -/
theorem walk_kept {d : Sql.Dialect} {source : String} {taken : List TakenLabel} {flat : Flat}
    (cut : Cut [] places places') (passed : takeSteps taken (walk d source places) = .ok flat) :
    ∃ flat', takeSteps taken (walk d source places') = .ok flat' ∧ flat'.columns = flat.columns := by
  obtain ⟨own, flat', before, after, alone, rest, columns, fewer⟩ := cut.walk_ok passed
  cases alone
  refine ⟨flat', rest, ?_⟩
  rw [fewer, columns, List.append_nil]

end Cut

/-! ### Trees that hold less -/

namespace Spot

/-- The places of a field that is listed at a spot. -/
def placesOf (s : Spot) (g : Field) (earlier : List LooseText) : List FieldPlace :=
  g.places (s.entry g.name).keyPath (s.entry g.name).path (s.entry g.name).path earlier

/-- The arrays at a field that is listed at a spot, and below. -/
def arraysOf (s : Spot) (g : Field) : List ArrayNode :=
  g.arrayNodes s.around g.name (s.entry g.name).keyPath (s.entry g.name).path

end Spot

/-- An array, and the same array in a tree where its view loses the places `gone`. -/
structure ArrayNode.Loses (gone : List FieldPlace) (n n' : ArrayNode) : Prop where
  around : n'.around = n.around
  site : n'.site = n.site
  places : Cut gone n.places n'.places

/-- What a deletion leaves of the places of a view inside the arrays `around`, and of the arrays in
them and below. Either no view reads the field `g` that is gone, or this view does, or the view of one
of its arrays does. -/
inductive Less (g : Field) (target : Option Spot) (around : List ArraySite) :
    List FieldPlace → List FieldPlace → List ArrayNode → List ArrayNode → Prop
  | unread {places places' : List FieldPlace} {arrays arrays' : List ArrayNode}
      (nowhere : target = none) (view : Cut [] places places')
      (kept : List.Forall₂ (ArrayNode.Loses []) arrays arrays') :
      Less g target around places places' arrays arrays'
  | own {spot : Spot} {places places' : List FieldPlace} {earlier : List LooseText}
      (lies : target = some spot) (here : spot.around = around)
      (view : Cut (spot.placesOf g earlier) places places') (before after : List ArrayNode) :
      Less g target around places places' (before ++ spot.arraysOf g ++ after) (before ++ after)
  | inner {spot : Spot} {places places' : List FieldPlace} {before before' : List ArrayNode}
      {owner owner' : ArrayNode} {earlier : List LooseText} (lies : target = some spot)
      (view : Cut [] places places') (kept : List.Forall₂ (ArrayNode.Loses []) before before')
      (here : spot.around = owner.around ++ [owner.site])
      (loses : owner.Loses (spot.placesOf g earlier) owner') (between after : List ArrayNode) :
      Less g target around places places' (before ++ owner :: (between ++ spot.arraysOf g ++ after))
        (before' ++ owner' :: (between ++ after))

theorem ArrayNode.Loses.refl (n : ArrayNode) : n.Loses [] n := ⟨rfl, rfl, .of_kept (kept_refl _)⟩

private theorem loses_refl (arrays : List ArrayNode) :
    List.Forall₂ (ArrayNode.Loses []) arrays arrays :=
  List.forall₂_same.mpr fun n _ => .refl n

namespace Less

variable {g : Field} {target : Option Spot} {around : List ArraySite}
  {places places' : List FieldPlace} {arrays arrays' : List ArrayNode}

theorem left {front front' : List FieldPlace} (kept : List.Forall₂ FieldPlace.Kept front front')
    (first : List ArrayNode) (less : Less g target around places places' arrays arrays') :
    Less g target around (front ++ places) (front' ++ places') (first ++ arrays) (first ++ arrays') := by
  cases less with
  | unread nowhere view others =>
    exact .unread nowhere (view.left kept) (List.rel_append (loses_refl first) others)
  | own lies here view before after =>
    rw [← List.append_assoc, ← List.append_assoc, ← List.append_assoc]
    exact .own lies here (view.left kept) (first ++ before) after
  | inner lies view others here loses between after =>
    rw [← List.append_assoc, ← List.append_assoc]
    exact .inner lies (view.left kept) (List.rel_append (loses_refl first) others) here loses between
      after

theorem right {last last' : List FieldPlace} (less : Less g target around places places' arrays arrays')
    (kept : List.Forall₂ FieldPlace.Kept last last') (final : List ArrayNode) :
    Less g target around (places ++ last) (places' ++ last') (arrays ++ final) (arrays' ++ final) := by
  cases less with
  | unread nowhere view others =>
    exact .unread nowhere (view.right kept) (List.rel_append others (loses_refl final))
  | own lies here view before after =>
    rw [List.append_assoc _ after, List.append_assoc _ after]
    exact .own lies here (view.right kept) before (after ++ final)
  | inner lies view others here loses between after =>
    rw [List.append_assoc _ _ final, List.append_assoc _ _ final, List.cons_append, List.cons_append,
      List.append_assoc _ after, List.append_assoc _ after]
    exact .inner lies (view.right kept) others here loses between (after ++ final)

/-- What a view loses is lost by its array. The view around the array keeps all. -/
theorem enter {n n' : ArrayNode} (around : n'.around = n.around) (site : n'.site = n.site)
    (less : Less g target (n.around ++ [n.site]) n.places n'.places arrays arrays') :
    Less g target n.around [] [] (n :: arrays) (n' :: arrays') := by
  cases less with
  | unread nowhere view others =>
    exact .unread nowhere (.of_kept .nil) (.cons ⟨around, site, view⟩ others)
  | own lies here view before after =>
    exact .inner lies (.of_kept .nil) .nil here ⟨around, site, view⟩ before after
  | inner lies view others here loses between after =>
    exact .inner lies (.of_kept .nil) (.cons ⟨around, site, view⟩ others) here loses between after

end Less

theorem placesIn_fewer {earlier earlier' : List LooseText} (fewer : earlier' ⊆ earlier)
    (root path jsonPath : List String) (fields : List Field) :
    List.Forall₂ FieldPlace.Kept (placesIn root path jsonPath earlier fields)
      (placesIn root path jsonPath earlier' fields) := by
  induction fields generalizing earlier earlier' with
  | nil => exact .nil
  | cons f rest ih =>
    rw [placesIn, placesIn, Field.places_eq, Field.places_eq]
    have own : FieldPlace.Kept ⟨root ++ [f.name.shown], path ++ [f.name.shown],
        jsonPath ++ [f.name.shown], earlier, f⟩ ⟨root ++ [f.name.shown], path ++ [f.name.shown],
        jsonPath ++ [f.name.shown], earlier', f⟩ := ⟨rfl, rfl, fewer, rfl, rfl, rfl, rfl⟩
    exact List.rel_append (.cons own (kept_refl _)) (ih (List.cons_subset_cons _ fewer))

private theorem kept_of_drops {g f f' : Field} {target spot : Option Spot} {known : LooseText}
    (drops : DropsBelow g target spot known f f') (root path jsonPath : List String)
    (earlier : List LooseText) :
    FieldPlace.Kept ⟨root, path, jsonPath, earlier, f⟩ ⟨root, path, jsonPath, earlier, f'⟩ := by
  cases drops with
  | fields lists _ => exact ⟨rfl, rfl, List.Subset.refl _, rfl, rfl, by rw [lists]; rfl, rfl⟩
  | element holds _ => exact ⟨rfl, rfl, List.Subset.refl _, rfl, rfl, rfl, by rw [holds]; rfl⟩

private theorem DropsBelow.withName {g f f' : Field} {target spot : Option Spot}
    {known : LooseText} (drops : DropsBelow g target spot known f f') (name : LooseText) :
    DropsBelow g target spot known { f with name := name } { f' with name := name } := by
  cases drops with
  | fields lists below => exact .fields (f := { f with name := name }) lists below
  | element holds inside => exact .element (f := { f with name := name }) holds inside

section
variable (g : Field) (target : Option Spot)

/-- Deletions below a field leave less of it. -/
private def LessBelow (f : Field) : Prop :=
  ∀ (f' : Field) (s : Spot) (known : LooseText), DropsBelow g target (some s) known f f' →
    Less g target s.around (placesIn s.keyPath s.path s.path [] f.members)
      (placesIn s.keyPath s.path s.path [] f'.members) (f.arrayNodes s.around known s.keyPath s.path)
      (f'.arrayNodes s.around known s.keyPath s.path)

/-- Deletions in a list leave less of it. -/
private def LessIn (fields : List Field) : Prop :=
  ∀ (fields' : List Field) (s : Spot) (earlier : List LooseText),
    DropsIn g target (some s) fields fields' →
    Less g target s.around (placesIn s.keyPath s.path s.path earlier fields)
      (placesIn s.keyPath s.path s.path earlier fields')
      (arrayNodesIn s.around s.keyPath s.path fields)
      (arrayNodesIn s.around s.keyPath s.path fields')

end

section
variable {g : Field} {target : Option Spot} {f : Field}

private theorem Less.of_same (nowhere : target = none) (around : List ArraySite)
    (places : List FieldPlace) (arrays : List ArrayNode) :
    Less g target around places places arrays arrays :=
  .unread nowhere (.of_kept (kept_refl _)) (loses_refl _)

private theorem less_of_map (isMap : f.type = .known .map)
    (members : ∀ fields, f.fields = some fields → LessIn g target fields) :
    LessBelow g target f := by
  intro f' s known drops
  have yes : f.isMap = true := Field.isMap_iff.mpr isMap
  have noArray : f.isArray = false := by simp [Field.isArray, isMap]
  have type : f'.type = .known .map := (kept_of_drops drops [] [] [] []).type.trans isMap
  rw [Field.arrayNodes_map _ _ _ _ isMap, Field.arrayNodes_map _ _ _ _ type]
  cases drops with
  | @fields _ _ _ listed listed' lists below =>
    have spot : (some s).bind f.listSpot = some s := by simp [Field.listSpot, yes]
    have own : f.members = listed := by simp [Field.members, yes, lists]
    have others : ({ f with fields := some listed' } : Field).members = listed' :=
      if_pos (Field.isMap_iff.mpr isMap)
    rw [spot] at below
    rw [own, others]
    exact members _ lists _ s [] below
  | element _ inside =>
    have spot : ∀ inner, (some s).bind (f.elementSpot known inner) = none := by
      simp [Field.elementSpot, noArray]
    rw [spot] at inside
    exact .of_same (target_unread.1 _ _ _ inside) _ _ _

private theorem less_of_plain (noMap : f.type ≠ .known .map) (noArray : f.type ≠ .known .array) :
    LessBelow g target f := by
  intro f' s known drops
  have type : f'.type = f.type := (kept_of_drops drops [] [] [] []).type
  have no : f.isMap = false := by simpa [Field.isMap] using noMap
  have noArray' : f.isArray = false := by simpa [Field.isArray] using noArray
  have nowhere : target = none := by
    cases drops with
    | fields _ below =>
      have spot : (some s).bind f.listSpot = none := by simp [Field.listSpot, no, noArray']
      rw [spot] at below
      exact target_unread.2 _ _ below
    | element _ inside =>
      have spot : ∀ inner, (some s).bind (f.elementSpot known inner) = none := by
        simp [Field.elementSpot, noArray']
      rw [spot] at inside
      exact target_unread.1 _ _ _ inside
  rw [Field.arrayNodes_plain _ _ _ _ noMap noArray, Field.arrayNodes_plain _ _ _ _
    (by rw [type]; exact noMap) (by rw [type]; exact noArray), Field.members_eq_nil noMap,
    Field.members_eq_nil (by rw [type]; exact noMap)]
  exact .of_same nowhere _ _ _

/-- The places of the view of an array that lists the fields of its elements. -/
private theorem elementPlaces_listed (root : List String) {fields : List Field}
    (none : f.element = none) (lists : f.fields = some fields) :
    f.elementPlaces root = placesIn root [] [] [] fields := by
  unfold Field.elementPlaces Field.arrayElement Field.members
  rw [none, lists]
  rfl

/-- The places of the view of an array that declares its element. -/
private theorem elementPlaces_declared (root : List String) {inner : Field}
    (holds : f.element = some inner) :
    f.elementPlaces root =
      if inner.isMap then placesIn root [] [] [] inner.members
      else [⟨root, [f.name.shown], [], [], { inner with name := f.name }⟩] := by
  unfold Field.elementPlaces Field.arrayElement
  rw [holds]

private theorem innerNodes_listed (around : List ArraySite) (keyPath : List String)
    {fields : List Field} (none : f.element = none) (lists : f.fields = some fields) :
    f.innerNodes around keyPath = arrayNodesIn around keyPath [] fields := by
  unfold Field.innerNodes
  rw [none, lists]

private theorem innerNodes_declared (around : List ArraySite) (keyPath : List String)
    {inner : Field} (holds : f.element = some inner) :
    f.innerNodes around keyPath =
      inner.arrayNodes around f.name (if inner.isArray then keyPath ++ [f.name.shown] else keyPath)
        [] := by
  unfold Field.innerNodes
  rw [holds]

/-- What the view of an array loses when a field is deleted from its element. -/
private theorem less_of_element {f' inner inner' : Field} {s : Spot} (isArray : f.isArray = true)
    (below : LessBelow g target inner) (holds : f.element = some inner)
    (holds' : f'.element = some inner') (name : f'.name = f.name)
    (drops : DropsBelow g target (f.elementSpot f.name inner s) f.name inner inner') :
    Less g target s.elements.around (f.elementPlaces s.keyPath) (f'.elementPlaces s.keyPath)
      (f.innerNodes s.elements.around s.keyPath) (f'.innerNodes s.elements.around s.keyPath) := by
  have type : inner'.type = inner.type := (kept_of_drops drops [] [] [] []).type
  have sameMap : inner'.isMap = inner.isMap := by rw [Field.isMap, type, Field.isMap]
  have sameArray : inner'.isArray = inner.isArray := by rw [Field.isArray, type, Field.isArray]
  rw [elementPlaces_declared _ holds, elementPlaces_declared _ holds', innerNodes_declared _ _ holds,
    innerNodes_declared _ _ holds', sameMap, sameArray, name]
  rw [Field.elementSpot, if_pos isArray] at drops
  have less := below inner' _ _ drops
  by_cases isMap : inner.isMap = true
  · have noArray : inner.isArray = false := by
      rw [Field.isArray, Field.isMap_iff.mp isMap]
      rfl
    rw [noArray] at less ⊢
    rw [if_pos isMap, if_pos isMap]
    exact less
  · -- the element is the one place of the view, under the name of the array
    have noMap : inner.type ≠ .known .map := mt Field.isMap_iff.mpr isMap
    rw [Field.members_eq_nil noMap, Field.members_eq_nil (type ▸ noMap)] at less
    rw [if_neg isMap, if_neg isMap]
    have head := kept_of_drops (drops.withName f.name) s.keyPath [f.name.shown] [] []
    exact less.left (.cons head .nil) []

/-- What the view of an array loses when a field is deleted below it. -/
private theorem less_inside {f' : Field} {s : Spot} (isArray : f.type = .known .array)
    (members : ∀ fields, f.fields = some fields → LessIn g target fields)
    (inner : ∀ inner, f.element = some inner → LessBelow g target inner)
    (drops : DropsBelow g target (some s) f.name f f') :
    Less g target s.elements.around (f.elementPlaces s.keyPath) (f'.elementPlaces s.keyPath)
      (f.innerNodes s.elements.around s.keyPath) (f'.innerNodes s.elements.around s.keyPath) := by
  have yes : f.isArray = true := Field.isArray_iff.mpr isArray
  have noMap : f.isMap = false := by simp [Field.isMap, isArray]
  cases drops with
  | @fields _ _ _ listed listed' lists below =>
    by_cases none : f.element = none
    · have spot : (some s).bind f.listSpot = some s.elements := by
        simp [Field.listSpot, noMap, yes, none]
      rw [spot] at below
      have none' : ({ f with fields := some listed' } : Field).element = .none := none
      rw [elementPlaces_listed _ none lists, elementPlaces_listed _ none' rfl,
        innerNodes_listed _ _ none lists, innerNodes_listed _ _ none' rfl]
      exact members _ lists _ s.elements [] below
    · -- an array that declares its element is never asked for the fields that it lists
      obtain ⟨e, declared⟩ := Option.ne_none_iff_exists'.mp none
      have spot : (some s).bind f.listSpot = .none := by simp [Field.listSpot, noMap, declared]
      rw [spot] at below
      have declared' : ({ f with fields := some listed' } : Field).element = some e := declared
      rw [elementPlaces_declared _ declared, elementPlaces_declared _ declared',
        innerNodes_declared _ _ declared, innerNodes_declared _ _ declared']
      exact .of_same (target_unread.2 _ _ below) _ _ _
  | element holds inside => exact less_of_element yes (inner _ holds) holds rfl rfl inside

private theorem less_of_array (isArray : f.type = .known .array)
    (members : ∀ fields, f.fields = some fields → LessIn g target fields)
    (inner : ∀ inner, f.element = some inner → LessBelow g target inner) :
    LessBelow g target f := by
  intro f' s known drops
  have type : f'.type = .known .array := (kept_of_drops drops [] [] [] []).type.trans isArray
  have noMap : f.type ≠ .known .map := by rw [isArray]; decide
  have noMap' : f'.type ≠ .known .map := by rw [type]; decide
  rw [Field.members_eq_nil noMap, Field.members_eq_nil noMap', Field.arrayNodes_array _ _ _ _ isArray,
    Field.arrayNodes_array _ _ _ _ type]
  exact Less.enter (n := ⟨s.around, ⟨s.keyPath, s.path⟩, { f with name := known }⟩) rfl rfl
    (less_inside isArray members inner (drops.withName known))

end

/-- A deletion leaves less of the places of one view and of the arrays of the tree. -/
private theorem less_of_drops (g : Field) (target : Option Spot) :
    (∀ f, LessBelow g target f) ∧ ∀ fields, LessIn g target fields := by
  apply Field.induction
  case node =>
    intro name type description fields element members inner
    by_cases isMap : type = .known .map
    · exact less_of_map isMap members
    by_cases isArray : type = .known .array
    · exact less_of_array isArray members inner
    · exact less_of_plain isMap isArray
  case nil =>
    intro fields' s earlier drops
    cases drops
  case cons =>
    intro f rest first others fields' s earlier drops
    cases drops with
    | here _ =>
      -- only the names before the fields behind `g` change: that of `g` is no longer among them
      rw [placesIn, arrayNodesIn, ← List.nil_append (g.places _ _ _ _),
        ← List.nil_append (g.arrayNodes _ _ _ _)]
      exact .own rfl rfl (.split .nil (placesIn_fewer (List.subset_cons_self _ _) _ _ _ _)) [] _
    | @head _ _ f' _ own =>
      have head := kept_of_drops own (s.keyPath ++ [f.name.shown]) (s.path ++ [f.name.shown])
        (s.path ++ [f.name.shown]) earlier
      have name : f'.name = f.name := head.name
      rw [placesIn, placesIn, arrayNodesIn, arrayNodesIn, name, Field.places_eq, Field.places_eq]
      have below := (first f' (s.entry f.name) f.name own).left (.cons head .nil) []
      exact below.right (kept_refl _) _
    | tail _ later => exact (others _ s _ later).left (kept_refl _) _

/-- What is left of a list of fields without one that was in it or below. -/
theorem lessIn_of_dropsIn {g : Field} {target : Option Spot} {fields fields' : List Field}
    {s : Spot} (drops : DropsIn g target (some s) fields fields') :
    Less g target s.around (placesIn s.keyPath s.path s.path [] fields)
      (placesIn s.keyPath s.path s.path [] fields') (arrayNodesIn s.around s.keyPath s.path fields)
      (arrayNodesIn s.around s.keyPath s.path fields') :=
  (less_of_drops g target).2 _ _ s [] drops

/-- The columns of a field that is listed at a spot, compiled by themselves. -/
theorem Spot.flatten_of_walk {d : Sql.Dialect} {source : String} {s : Spot} {g : Field}
    {earlier : List LooseText} {own : Flat}
    (alone : takeSteps [] (walk d source (s.placesOf g earlier)) = .ok own) :
    ∃ flat, flatten d source s.path [] [g] = .ok flat ∧ flat.columns = own.columns := by
  have fewer := placesIn_fewer (List.nil_subset earlier) s.keyPath s.path s.path [g]
  rw [placesIn, placesIn, placesIn, List.append_nil] at fewer
  obtain ⟨flat, passed, columns⟩ := (Cut.of_kept fewer).walk_kept alone
  refine ⟨flat, ?_, columns⟩
  rw [flatten_eq_walk d source s.keyPath, placesIn, placesIn]
  exact passed

end ChangelogViews
