import ChangelogViews.Proofs.Schema.Faults

/-!
# Members that nobody looks at

A document may hold members that mean nothing to a schema. Whatever is done to them, in whatever object of
the document, the outcome is the same (`Edited.outcome`). With the grammar and the places at fault this
is all that there is to say about the check of a document (`schemas_checked`).
-/

namespace ChangelogViews

/-- What a value stands for. -/
inductive Role where
  | schema
  | fields
  | field
  | text
  deriving DecidableEq, Repr

/-- The members of an object that mean something, and what they stand for. -/
def Role.members : Role → List (String × Role)
  | .schema => [("fields", .fields)]
  | .field => [("name", .text), ("type", .text), ("description", .text), ("fields", .fields),
      ("element", .field)]
  | _ => []

/-- What the items of a list stand for. -/
def Role.item : Role → Role
  | .fields => .field
  | _ => .text

/-- A document and the same with members added, changed or taken away that mean nothing where they are,
in any of its objects. -/
inductive Edited : Role → Value → Value → Prop
  | same (role : Role) (v : Value) : Edited role v v
  | object {role : Role} {members members' : List (String × Value)}
      (kept : ∀ known ∈ role.members,
        (member? members known.1 = none ↔ member? members' known.1 = none))
      (each : ∀ known ∈ role.members, ∀ v w, member? members known.1 = some v →
        member? members' known.1 = some w → Edited known.2 v w) :
      Edited role (.object members) (.object members')
  | list {role : Role} {items items' : List Value} (length : items.length = items'.length)
      (each : ∀ pair ∈ items.zip items', Edited role.item pair.1 pair.2) :
      Edited role (.list items) (.list items')
  | bag {role : Role} {items items' : List Value} (length : items.length = items'.length)
      (each : ∀ pair ∈ items.zip items', Edited role.item pair.1 pair.2) :
      Edited role (.bag items) (.bag items')

/-- No check that is made of what has a role tells two values apart. -/
def Role.Alike : Role → Value → Value → Prop
  | .schema, v, w => ∀ room, checkSchemaIn room v = checkSchemaIn room w
  | .fields, v, w => ∀ room, checkSchemaFields room v = checkSchemaFields room w ∧
      checkFieldsOrNull room v = checkFieldsOrNull room w
  | .field, v, w => ∀ room, checkFieldIn room v = checkFieldIn room w ∧
      checkFieldOrNull room v = checkFieldOrNull room w
  | .text, v, w => checkText v = checkText w ∧ checkType v = checkType w ∧
      checkTextOrNull v = checkTextOrNull w

theorem Role.Alike.refl (role : Role) (v : Value) : role.Alike v v := by
  cases role with
  | schema => exact fun _ => rfl
  | fields => exact fun _ => ⟨rfl, rfl⟩
  | field => exact fun _ => ⟨rfl, rfl⟩
  | text => exact ⟨rfl, rfl, rfl⟩

theorem checkMember_congr {α : Type} {members members' : List (String × Value)} {name : String}
    (absent : Checked α) {check : Value → Checked α}
    (kept : member? members name = none ↔ member? members' name = none)
    (each : ∀ v w, member? members name = some v → member? members' name = some w → check v = check w) :
    checkMember members name absent check = checkMember members' name absent check := by
  unfold checkMember
  cases found : member? members name with
  | none => rw [kept.mp found]
  | some v =>
    cases found' : member? members' name with
    | none =>
      rw [kept.mpr found'] at found
      cases found
    | some w =>
      simp only
      rw [each v w found found']

theorem checkItems_congr {items items' : List Value} (length : items.length = items'.length)
    (each : ∀ pair ∈ items.zip items', Role.field.Alike pair.1 pair.2) (room i : Nat) :
    checkItems room i items = checkItems room i items' := by
  induction items generalizing items' i with
  | nil =>
    obtain rfl := List.length_eq_zero_iff.mp length.symm
    rfl
  | cons item rest ih =>
    cases items' with
    | nil => cases length
    | cons item' rest' =>
      obtain ⟨first, later⟩ := List.forall_mem_cons.mp each
      simp only [checkItems]
      rw [(first room).1, ih (Nat.succ.inj length) later]

section
variable {members members' : List (String × Value)}

theorem checkSchemaIn_congr
    (kept : member? members "fields" = none ↔ member? members' "fields" = none)
    (each : ∀ v w, member? members "fields" = some v → member? members' "fields" = some w →
      Role.fields.Alike v w) (room : Nat) :
    checkSchemaIn room (.object members) = checkSchemaIn room (.object members') := by
  rw [checkSchemaIn_object, checkSchemaIn_object,
    checkMember_congr (.ok []) kept fun v w here there => (each v w here there room).1]

theorem checkFieldIn_congr
    (kept : ∀ known ∈ Role.field.members,
      (member? members known.1 = none ↔ member? members' known.1 = none))
    (each : ∀ known ∈ Role.field.members, ∀ v w, member? members known.1 = some v →
      member? members' known.1 = some w → known.2.Alike v w) (room : Nat) :
    checkFieldIn room (.object members) = checkFieldIn room (.object members') := by
  cases room with
  | zero => rfl
  | succ room =>
    simp only [Role.members, List.forall_mem_cons] at kept each
    obtain ⟨keptName, keptType, keptDescription, keptFields, keptElement, -⟩ := kept
    obtain ⟨name, type, description, fields, element, -⟩ := each
    rw [checkFieldIn_object, checkFieldIn_object,
      checkMember_congr (.ok (.ofString "")) keptName fun v w here there => (name v w here there).1,
      checkMember_congr (.problem .missing) keptType fun v w here there => (type v w here there).2.1,
      checkMember_congr (.ok none) keptDescription fun v w here there =>
        (description v w here there).2.2,
      checkMember_congr (.ok none) keptFields fun v w here there => (fields v w here there room).2,
      checkMember_congr (.ok none) keptElement fun v w here there => (element v w here there room).2]

end

theorem Edited.alike {role : Role} {v w : Value} (edited : Edited role v w) : role.Alike v w := by
  induction edited with
  | same role v => exact .refl role v
  | @object role members members' kept _ ih =>
    cases role with
    | schema =>
      exact checkSchemaIn_congr (kept _ List.mem_cons_self) (ih _ List.mem_cons_self)
    | fields => exact fun _ => ⟨rfl, rfl⟩
    | field =>
      have same := checkFieldIn_congr kept ih
      exact fun room => ⟨same room, congrArg (Except.map some) (same room)⟩
    | text => exact ⟨rfl, rfl, rfl⟩
  | @list role items items' length _ ih =>
    cases role with
    | schema => exact fun _ => rfl
    | fields =>
      have same (room : Nat) : checkFieldsOrNull room (.list items) = checkFieldsOrNull room (.list items') :=
        congrArg (Except.map some) (checkItems_congr length ih room 0)
      exact fun room => ⟨congrArg (Except.map _) (same room), same room⟩
    | field => exact fun room => by cases room <;> exact ⟨rfl, rfl⟩
    | text => exact ⟨rfl, rfl, rfl⟩
  | @bag role items items' length _ ih =>
    cases role with
    | schema => exact fun _ => rfl
    | fields =>
      have same (room : Nat) : checkFieldsOrNull room (.bag items) = checkFieldsOrNull room (.bag items') :=
        congrArg (Except.map some) (checkItems_congr length ih room 0)
      exact fun room => ⟨congrArg (Except.map _) (same room), same room⟩
    | field => exact fun room => by cases room <;> exact ⟨rfl, rfl⟩
    | text => exact ⟨rfl, rfl, rfl⟩

/-- However deep a document is followed: it is taken for a schema if and only if it describes that schema
and no more fields stand inside each other than are followed. One that is refused has the issues of all its
places in order, each where the way to it leads. Members that mean nothing where they are make no
difference. -/
theorem schemas_checked (room : Nat) (v : Value) :
    (∀ schema, checkSchemaIn room v = .ok schema ↔
      DescribesSchema v schema ∧ ∀ f ∈ schema.fields, f.height ≤ room) ∧
    (∀ issues, checkSchemaIn room v = .error issues ↔
      issues ≠ [] ∧ issues = issuesOf (schemaPlaces room v)) ∧
    (∀ p ∈ schemaPlaces room v, v.at? p.path = p.found) ∧
    ∀ w, Edited .schema v w → checkSchemaIn room w = checkSchemaIn room v :=
  ⟨checkSchemaIn_ok_iff room v, checkSchemaIn_error_iff room v, at?_of_schemaPlaces room v,
    fun _ edited => (edited.alike room).symm⟩

/-- A document with members that mean nothing, at the top and in a field. -/
def noted : Value :=
  .object [("version", .int 2), ("fields", .list [
    .object [("type", .text (.ofString "String")), ("note", .object [("type", .null)])],
    .object [("type", .text (.ofString "map")), ("fields", .list [])]])]

/-- The same without these members. -/
def unnoted : Value :=
  .object [("fields", .list [
    .object [("type", .text (.ofString "String"))],
    .object [("type", .text (.ofString "map")), ("fields", .list [])]])]

theorem noted_edited : Edited .schema noted unnoted := by
  have field : Edited .field
      (.object [("type", .text (.ofString "String")), ("note", .object [("type", .null)])])
      (.object [("type", .text (.ofString "String"))]) := by
    refine .object ?_ ?_
    · simp [Role.members, member?]
    · simp [Role.members, member?, Edited.same]
  have fields : Edited .fields
      (.list [.object [("type", .text (.ofString "String")), ("note", .object [("type", .null)])],
        .object [("type", .text (.ofString "map")), ("fields", .list [])]])
      (.list [.object [("type", .text (.ofString "String"))],
        .object [("type", .text (.ofString "map")), ("fields", .list [])]]) :=
    .list rfl (List.forall_mem_cons.mpr ⟨field, List.forall_mem_singleton.mpr (.same _ _)⟩)
  refine .object (List.forall_mem_singleton.mpr ?_) (List.forall_mem_singleton.mpr ?_)
  · simp [member?]
  · rintro v w ⟨⟩ ⟨⟩
    exact fields

/-- The schema of both. -/
def notedSchema : Schema :=
  ⟨[.ofKind (.ofString "") .string, { Field.ofKind (.ofString "") .map with fields := some [] }]⟩

theorem noted_checked :
    Edited .schema noted unnoted ∧ checkSchema unnoted = checkSchema noted ∧
      checkSchema noted = .ok notedSchema := by
  obtain ⟨accepted, -, -, edits⟩ := schemas_checked (deepest - 1) noted
  refine ⟨noted_edited, edits _ noted_edited, (accepted _).mpr ⟨?_, ?_⟩⟩
  · have string := SpellsType.text (.ofString "String")
    have map := SpellsType.text (.ofString "map")
    rw [show FieldType.ofName (FieldType.normalName (.ofString "String")) = .known .string from by decide]
      at string
    rw [show FieldType.ofName (FieldType.normalName (.ofString "map")) = .known .map from by decide] at map
    refine .there rfl rfl (.cons ?_ (.cons ?_ .nil))
    · exact .object .absent string .absent .absent .absent
    · exact .object .absent map .absent (.there rfl .nil) .absent
  · decide

/-- An array of an array and so on, with a text at the end. -/
def layered : Nat → Value
  | 0 => .object [("type", .text (.ofString "string"))]
  | n + 1 => .object [("type", .text (.ofString "array")), ("element", layered n)]

/-- The field that it describes. -/
def layeredField : Nat → Field
  | 0 => .ofKind (.ofString "") .string
  | n + 1 => { Field.ofKind (.ofString "") .array with element := some (layeredField n) }

theorem layered_describes (n : Nat) : Describes (layered n) (layeredField n) := by
  induction n with
  | zero =>
    have type := SpellsType.text (.ofString "string")
    rw [show FieldType.ofName (FieldType.normalName (.ofString "string")) = .known .string from by decide]
      at type
    exact .object .absent type .absent .absent .absent
  | succ n ih =>
    have type := SpellsType.text (.ofString "array")
    rw [show FieldType.ofName (FieldType.normalName (.ofString "array")) = .known .array from by decide]
      at type
    exact .object .absent type .absent .absent (.there ih)

theorem height_layeredField (n : Nat) : (layeredField n).height = n + 1 := by
  induction n with
  | zero => rfl
  | succ n ih => simp [layeredField, Field.ofKind, Field.height, ih]

/-- A document that describes a schema is refused where it has too many fields inside each other. -/
theorem layers_refused :
    let v : Value := .object [("fields", .list [layered 299])]
    (∃ schema, DescribesSchema v schema) ∧ ∀ schema, checkSchema v ≠ .ok schema := by
  have describes : DescribesSchema (.object [("fields", .list [layered 299])]) ⟨[layeredField 299]⟩ :=
    .there rfl rfl (.cons (layered_describes 299) .nil)
  refine ⟨⟨_, describes⟩, fun schema accepted => ?_⟩
  obtain ⟨described, low⟩ := (checkSchemaIn_ok_iff _ _ schema).mp accepted
  cases described with
  | absent none => cases none
  | there found among each =>
    cases found
    cases among
    cases each with
    | cons first rest =>
      have bound := low _ List.mem_cons_self
      rw [first.unique (layered_describes 299), height_layeredField] at bound
      exact absurd bound (by decide)

end ChangelogViews
