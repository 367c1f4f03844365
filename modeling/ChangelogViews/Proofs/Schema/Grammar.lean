import ChangelogViews.Schema.Reader
import ChangelogViews.Proofs.Document.Members
import Mathlib.Data.List.Forall2

/-!
# The grammar of schemas

Which documents describe a field, and which field that is: `Describes` goes by what stands at the members
of an object, and says nothing of issues. A document is accepted if and only if it describes a field or a
schema in which no more fields stand inside each other than are followed (`checkFieldIn_ok_iff`,
`checkSchemaIn_ok_iff`).
-/

namespace ChangelogViews

variable {α β : Type}

namespace Checked

theorem map_ok_iff {c : Checked α} {f : α → β} {b : β} :
    c.map f = .ok b ↔ ∃ a, c = .ok a ∧ f a = b := by
  cases c with
  | ok a => simp [Except.map]
  | error issues => simp [Except.map]

theorem under_ok_iff {key : Key} {c : Checked α} {a : α} : c.under key = .ok a ↔ c = .ok a := by
  cases c with
  | ok other => rfl
  | error issues => simp [under]

theorem both_ok_iff {c : Checked α} {d : Checked β} {pair : α × β} :
    c.both d = .ok pair ↔ c = .ok pair.1 ∧ d = .ok pair.2 := by
  cases c <;> cases d <;> simp [both, Prod.ext_iff]

end Checked

/-- A field, or nothing where null stands for it. -/
def checkFieldOrNull (room : Nat) : Value → Checked (Option Field)
  | .null => .ok none
  | v => (checkFieldIn room v).map some

theorem checkFieldsMember_eq (room : Nat) (members : List (String × Value)) :
    checkFieldsMember room members =
      checkMember members "fields" (.ok none) (checkFieldsOrNull room) := by
  induction members with
  | nil => rfl
  | cons first rest ih =>
    obtain ⟨name, v⟩ := first
    rw [checkFieldsMember, ih]
    simp only [checkMember, member?_cons]
    split <;> rfl

theorem checkElementMember_eq (room : Nat) (members : List (String × Value)) :
    checkElementMember room members =
      checkMember members "element" (.ok none) (checkFieldOrNull room) := by
  induction members with
  | nil => rfl
  | cons first rest ih =>
    obtain ⟨name, v⟩ := first
    have step : checkElementMember room ((name, v) :: rest) =
        if name = "element" then Checked.under (.member "element") (checkFieldOrNull room v)
        else checkElementMember room rest := by cases v <;> rfl
    rw [step, ih]
    simp only [checkMember, member?_cons]
    split <;> rfl

/-- What stands below a field is checked member by member, in a fixed order. -/
theorem checkFieldIn_object (room : Nat) (members : List (String × Value)) :
    checkFieldIn (room + 1) (.object members) =
      (((checkMember members "name" (.ok (.ofString "")) checkText).both <|
        (checkMember members "type" (.problem .missing) checkType).both <|
          checkMember members "description" (.ok none) checkTextOrNull).both <|
        (checkMember members "fields" (.ok none) (checkFieldsOrNull room)).both <|
          checkMember members "element" (.ok none) (checkFieldOrNull room)).map
        fun ((name, type, description), below) => fieldOfParts name type description below := by
  rw [← checkFieldsMember_eq, ← checkElementMember_eq]
  rfl

/-- A text as a document spells it: a text, or the bytes of one. -/
inductive Spells : Value → LooseText → Prop
  | text (s : LooseText) : Spells (.text s) s
  | bytes {data : List UInt8} {cs : List Char} (decoded : Text.decodeUtf8 data = .ok cs) :
      Spells (.bytes data) (.ofString (String.ofList cs))

/-- The items of a list or of a bag. -/
def Value.items? : Value → Option (List Value)
  | .list items => some items
  | .bag items => some items
  | _ => none

/-- A name, the empty one where there is none. -/
inductive SpellsName : Option Value → LooseText → Prop
  | absent : SpellsName none (.ofString "")
  | there {v : Value} {name : LooseText} (spells : Spells v name) : SpellsName (some v) name

/-- A type, in the common form of its name. Bytes are taken as they are. -/
inductive SpellsType : Option Value → FieldType → Prop
  | text (declared : LooseText) :
      SpellsType (some (.text declared)) (.ofName (FieldType.normalName declared))
  | bytes {data : List UInt8} {name : LooseText} (spells : Spells (.bytes data) name) :
      SpellsType (some (.bytes data)) (.ofName name)

/-- A description, or none. -/
inductive SpellsDescription : Option Value → Option LooseText → Prop
  | absent : SpellsDescription none none
  | null : SpellsDescription (some .null) none
  | there {v : Value} {s : LooseText} (spells : Spells v s) : SpellsDescription (some v) (some s)

/-- Fields that the items of a list describe one by one, or none. No list is told apart from an empty
one. -/
inductive Lists (describes : Value → Field → Prop) : Option Value → Option (List Field) → Prop
  | absent : Lists describes none none
  | null : Lists describes (some .null) none
  | there {v : Value} {items : List Value} {fields : List Field} (among : v.items? = some items)
      (each : List.Forall₂ describes items fields) : Lists describes (some v) (some fields)

/-- One field, or none. -/
inductive Holds (describes : Value → Field → Prop) : Option Value → Option Field → Prop
  | absent : Holds describes none none
  | null : Holds describes (some .null) none
  | there {v : Value} {f : Field} (inner : describes v f) : Holds describes (some v) (some f)

/-- The field that a document describes. -/
inductive Describes : Value → Field → Prop
  | object {members : List (String × Value)} {name : LooseText} {type : FieldType}
      {description : Option LooseText} {fields : Option (List Field)} {element : Option Field}
      (named : SpellsName (member? members "name") name)
      (typed : SpellsType (member? members "type") type)
      (described : SpellsDescription (member? members "description") description)
      (lists : Lists Describes (member? members "fields") fields)
      (holds : Holds Describes (member? members "element") element) :
      Describes (.object members) ⟨name, type, description, fields, element⟩

theorem checkText_ok_iff {v : Value} {s : LooseText} : checkText v = .ok s ↔ Spells v s := by
  constructor
  · intro ok
    cases v with
    | text declared =>
      cases ok
      exact .text s
    | bytes data =>
      simp only [checkText] at ok
      split at ok
      · rename_i cs decoded
        cases ok
        exact .bytes decoded
      · cases ok
    | _ => cases ok
  · rintro (_ | decoded)
    · rfl
    · simp only [checkText, decoded]

theorem checkType_ok_iff {v : Value} {type : FieldType} :
    checkType v = .ok type ↔ SpellsType (some v) type := by
  constructor
  · intro ok
    cases v with
    | text declared =>
      cases ok
      exact .text declared
    | bytes data =>
      simp only [checkType] at ok
      split at ok
      · rename_i name read
        cases ok
        exact .bytes (checkText_ok_iff.mp read)
      · cases ok
    | _ => cases ok
  · rintro (_ | spells)
    · rfl
    · simp only [checkType, checkText_ok_iff.mpr spells]

theorem checkTextOrNull_eq {v : Value} (there : v ≠ .null) :
    checkTextOrNull v = (checkText v).map some := by
  cases v with
  | null => exact absurd rfl there
  | _ => rfl

theorem checkTextOrNull_ok_iff {v : Value} {description : Option LooseText} :
    checkTextOrNull v = .ok description ↔ SpellsDescription (some v) description := by
  by_cases null : v = .null
  · subst null
    constructor
    · rintro ⟨⟩
      exact .null
    · intro spelled
      cases spelled with
      | null => rfl
      | there spells => cases spells
  · simp only [checkTextOrNull_eq null, Checked.map_ok_iff, checkText_ok_iff]
    constructor
    · rintro ⟨s, spells, rfl⟩
      exact .there spells
    · intro spelled
      cases spelled with
      | null => exact absurd rfl null
      | there spells => exact ⟨_, spells, rfl⟩

/-! ### Fields that are accepted -/

mutual

/-- The most fields inside each other in a field, itself among them. -/
def Field.height : Field → Nat
  | ⟨_, _, _, fields, element⟩ =>
    let below := match fields with
      | some fields => heightIn fields
      | none => 0
    let inside := match element with
      | some element => element.height
      | none => 0
    max below inside + 1

/-- The most fields inside each other in some fields. -/
def heightIn : List Field → Nat
  | [] => 0
  | f :: rest => max f.height (heightIn rest)

end

theorem heightIn_le_iff {fields : List Field} {room : Nat} :
    heightIn fields ≤ room ↔ ∀ f ∈ fields, f.height ≤ room := by
  induction fields with
  | nil => simp [heightIn]
  | cons f rest ih => rw [heightIn, Nat.max_le, ih, List.forall_mem_cons]

theorem height_pos (f : Field) : 0 < f.height := by
  obtain ⟨_, _, _, fields, element⟩ := f
  cases fields <;> cases element <;> simp [Field.height]

theorem height_le_iff {name : LooseText} {type : FieldType} {description : Option LooseText}
    {fields : Option (List Field)} {element : Option Field} {room : Nat} :
    (⟨name, type, description, fields, element⟩ : Field).height ≤ room + 1 ↔
      (∀ members, fields = some members → ∀ f ∈ members, f.height ≤ room) ∧
        ∀ inner, element = some inner → inner.height ≤ room := by
  cases fields <;> cases element <;> simp only [Field.height, Nat.add_le_add_iff_right, Nat.max_le] <;>
    simp [heightIn_le_iff]

theorem checkItems_ok_iff {room : Nat}
    (each : ∀ v f, checkFieldIn room v = .ok f ↔ Describes v f ∧ f.height ≤ room) (i : Nat)
    (items : List Value) (fields : List Field) :
    checkItems room i items = .ok fields ↔
      List.Forall₂ Describes items fields ∧ ∀ f ∈ fields, f.height ≤ room := by
  induction items generalizing i fields with
  | nil =>
    simp only [checkItems, Except.ok.injEq, List.forall₂_nil_left_iff]
    constructor
    · rintro rfl
      exact ⟨rfl, nofun⟩
    · rintro ⟨rfl, -⟩
      rfl
  | cons item rest ih =>
    simp only [checkItems, Checked.map_ok_iff, Checked.both_ok_iff, Checked.under_ok_iff, each, ih,
      Prod.exists]
    constructor
    · rintro ⟨f, later, ⟨⟨first, low⟩, ⟨rest, lower⟩⟩, rfl⟩
      exact ⟨.cons first rest, List.forall_mem_cons.mpr ⟨low, lower⟩⟩
    · rintro ⟨described, low⟩
      cases described with
      | cons first rest =>
        obtain ⟨lowFirst, lowRest⟩ := List.forall_mem_cons.mp low
        exact ⟨_, _, ⟨⟨first, lowFirst⟩, ⟨rest, lowRest⟩⟩, rfl⟩

/-- The fields of an optional list stand within some room. -/
abbrev Within (room : Nat) (fields : Option (List Field)) : Prop :=
  ∀ members, fields = some members → ∀ f ∈ members, f.height ≤ room

theorem checkFieldsOrNull_items {v : Value} {items : List Value} (among : v.items? = some items)
    (room : Nat) : checkFieldsOrNull room v = (checkItems room 0 items).map some := by
  cases v <;> cases among <;> rfl

theorem checkFieldsOrNull_ok_iff {room : Nat}
    (each : ∀ v f, checkFieldIn room v = .ok f ↔ Describes v f ∧ f.height ≤ room) (v : Value)
    (fields : Option (List Field)) :
    checkFieldsOrNull room v = .ok fields ↔ Lists Describes (some v) fields ∧ Within room fields := by
  cases among : v.items? with
  | some items =>
    simp only [checkFieldsOrNull_items among, Checked.map_ok_iff, checkItems_ok_iff each]
    constructor
    · rintro ⟨members, ⟨described, low⟩, rfl⟩
      refine ⟨.there among described, ?_⟩
      rintro _ ⟨⟩
      exact low
    · rintro ⟨lists, low⟩
      cases lists with
      | null => cases among
      | there same described =>
        cases among.symm.trans same
        exact ⟨_, ⟨described, low _ rfl⟩, rfl⟩
  | none =>
    constructor
    · intro ok
      cases v with
      | null =>
        cases ok
        exact ⟨.null, nofun⟩
      | list items => cases among
      | bag items => cases among
      | _ => cases ok
    · rintro ⟨lists, -⟩
      cases lists with
      | null => rfl
      | there same described => cases among.symm.trans same

theorem checkFieldOrNull_eq {v : Value} (there : v ≠ .null) (room : Nat) :
    checkFieldOrNull room v = (checkFieldIn room v).map some := by
  cases v with
  | null => exact absurd rfl there
  | _ => rfl

theorem checkFieldOrNull_ok_iff {room : Nat}
    (each : ∀ v f, checkFieldIn room v = .ok f ↔ Describes v f ∧ f.height ≤ room) (v : Value)
    (element : Option Field) :
    checkFieldOrNull room v = .ok element ↔
      Holds Describes (some v) element ∧ ∀ inner, element = some inner → inner.height ≤ room := by
  by_cases null : v = .null
  · subst null
    constructor
    · rintro ⟨⟩
      exact ⟨.null, nofun⟩
    · rintro ⟨holds, -⟩
      cases holds with
      | null => rfl
      | there inner => cases inner
  · simp only [checkFieldOrNull_eq null, Checked.map_ok_iff, each]
    constructor
    · rintro ⟨f, ⟨described, low⟩, rfl⟩
      refine ⟨.there described, ?_⟩
      rintro _ ⟨⟩
      exact low
    · rintro ⟨holds, low⟩
      cases holds with
      | null => exact absurd rfl null
      | there inner => exact ⟨_, ⟨inner, low _ rfl⟩, rfl⟩

theorem checkMember_ok_iff (describes : Option Value → Prop) {members : List (String × Value)}
    {name : String} {absent : Checked α} {check : Value → Checked α} {a : α}
    (none : absent = .ok a ↔ describes none) (some : ∀ v, check v = .ok a ↔ describes (some v)) :
    checkMember members name absent check = .ok a ↔ describes (member? members name) := by
  unfold checkMember
  rw [Checked.under_ok_iff]
  cases member? members name with
  | none => exact none
  | some v => exact some v

section
variable {members : List (String × Value)} {name : LooseText} {type : FieldType}
  {description : Option LooseText} {fields : Option (List Field)} {element : Option Field} {room : Nat}

theorem checkName_ok_iff :
    checkMember members "name" (.ok (.ofString "")) checkText = .ok name ↔
      SpellsName (member? members "name") name := by
  refine checkMember_ok_iff (SpellsName · name) ⟨?_, ?_⟩ fun v => ?_
  · rintro ⟨⟩
    exact .absent
  · rintro ⟨⟩
    rfl
  · rw [checkText_ok_iff]
    exact ⟨.there, fun (.there spells) => spells⟩

theorem checkTypeMember_ok_iff :
    checkMember members "type" (.problem .missing) checkType = .ok type ↔
      SpellsType (member? members "type") type :=
  checkMember_ok_iff (SpellsType · type) (iff_of_false nofun nofun)
    fun _ => checkType_ok_iff

theorem checkDescription_ok_iff :
    checkMember members "description" (.ok none) checkTextOrNull = .ok description ↔
      SpellsDescription (member? members "description") description := by
  refine checkMember_ok_iff (SpellsDescription · description) ⟨?_, ?_⟩
    fun _ => checkTextOrNull_ok_iff
  · rintro ⟨⟩
    exact .absent
  · rintro ⟨⟩
    rfl

theorem checkFields_ok_iff
    (each : ∀ v f, checkFieldIn room v = .ok f ↔ Describes v f ∧ f.height ≤ room) :
    checkMember members "fields" (.ok none) (checkFieldsOrNull room) = .ok fields ↔
      Lists Describes (member? members "fields") fields ∧ Within room fields := by
  refine checkMember_ok_iff (fun found => Lists Describes found fields ∧ Within room fields) ⟨?_, ?_⟩
    fun v => checkFieldsOrNull_ok_iff each v fields
  · rintro ⟨⟩
    exact ⟨.absent, nofun⟩
  · rintro ⟨⟨⟩, -⟩
    rfl

theorem checkElement_ok_iff
    (each : ∀ v f, checkFieldIn room v = .ok f ↔ Describes v f ∧ f.height ≤ room) :
    checkMember members "element" (.ok none) (checkFieldOrNull room) = .ok element ↔
      Holds Describes (member? members "element") element ∧
        ∀ inner, element = some inner → inner.height ≤ room := by
  refine checkMember_ok_iff (fun found => Holds Describes found element ∧
    ∀ inner, element = some inner → inner.height ≤ room) ⟨?_, ?_⟩
    fun v => checkFieldOrNull_ok_iff each v element
  · rintro ⟨⟩
    exact ⟨.absent, nofun⟩
  · rintro ⟨⟨⟩, -⟩
    rfl

end

/-- A document is taken for a field if and only if it describes the field and the room is enough. -/
theorem checkFieldIn_ok_iff (room : Nat) (v : Value) (f : Field) :
    checkFieldIn room v = .ok f ↔ Describes v f ∧ f.height ≤ room := by
  induction room generalizing v f with
  | zero =>
    refine iff_of_false ?_ fun ⟨_, low⟩ => absurd (height_pos f) (Nat.not_lt.mpr low)
    cases v <;> exact nofun
  | succ room ih =>
    cases v with
    | object members =>
      obtain ⟨name, type, description, fields, element⟩ := f
      simp only [checkFieldIn_object, Checked.map_ok_iff, Checked.both_ok_iff, Prod.exists, height_le_iff,
        checkName_ok_iff, checkTypeMember_ok_iff, checkDescription_ok_iff, checkFields_ok_iff ih,
        checkElement_ok_iff ih, fieldOfParts]
      constructor
      · rintro ⟨_, _, _, _, _, ⟨⟨named, typed, described⟩, ⟨lists, within⟩, ⟨holds, low⟩⟩, ⟨⟩⟩
        exact ⟨.object named typed described lists holds, within, low⟩
      · rintro ⟨⟨named, typed, described, lists, holds⟩, within, low⟩
        exact ⟨_, _, _, _, _, ⟨⟨named, typed, described⟩, ⟨lists, within⟩, ⟨holds, low⟩⟩, rfl⟩
    | _ => exact iff_of_false nofun fun ⟨described, _⟩ => nomatch described

/-- A document describes no more than one field. -/
theorem Describes.unique {v : Value} {f g : Field} (first : Describes v f) (second : Describes v g) :
    f = g := by
  have left := (checkFieldIn_ok_iff (max f.height g.height) v f).mpr ⟨first, Nat.le_max_left _ _⟩
  have right := (checkFieldIn_ok_iff (max f.height g.height) v g).mpr ⟨second, Nat.le_max_right _ _⟩
  exact Except.ok.inj (left.symm.trans right)

/-- The schema that a document describes. Its fields may be absent, but they are not null. -/
inductive DescribesSchema : Value → Schema → Prop
  | absent {members : List (String × Value)} (absent : member? members "fields" = none) :
      DescribesSchema (.object members) ⟨[]⟩
  | there {members : List (String × Value)} {v : Value} {items : List Value} {fields : List Field}
      (found : member? members "fields" = some v) (among : v.items? = some items)
      (each : List.Forall₂ Describes items fields) : DescribesSchema (.object members) ⟨fields⟩

/-- The check of the fields of a schema. -/
def checkSchemaFields (room : Nat) : Value → Checked (List Field)
  | .null => .problem .notSequence
  | v => (checkFieldsOrNull room v).map fun fields => fields.getD []

theorem checkSchemaIn_object (room : Nat) (members : List (String × Value)) :
    checkSchemaIn room (.object members) =
      (checkMember members "fields" (.ok []) (checkSchemaFields room)).map Schema.mk := by
  simp only [checkSchemaIn, checkMember]
  cases member? members "fields" with
  | none => rfl
  | some v => cases v <;> rfl

theorem checkSchemaFields_eq {v : Value} (there : v ≠ .null) (room : Nat) :
    checkSchemaFields room v = (checkFieldsOrNull room v).map fun fields => fields.getD [] := by
  cases v with
  | null => exact absurd rfl there
  | _ => rfl

theorem checkSchemaFields_ok_iff {room : Nat} {v : Value} {fields : List Field} :
    checkSchemaFields room v = .ok fields ↔ ∃ items, v.items? = some items ∧
      List.Forall₂ Describes items fields ∧ ∀ f ∈ fields, f.height ≤ room := by
  by_cases null : v = .null
  · subst null
    exact iff_of_false nofun nofun
  · rw [checkSchemaFields_eq null, Checked.map_ok_iff]
    simp only [checkFieldsOrNull_ok_iff (checkFieldIn_ok_iff _)]
    constructor
    · rintro ⟨found, ⟨lists, within⟩, rfl⟩
      cases lists with
      | null => exact absurd rfl null
      | there among each => exact ⟨_, among, each, within _ rfl⟩
    · rintro ⟨items, among, each, low⟩
      refine ⟨some fields, ⟨.there among each, ?_⟩, rfl⟩
      rintro _ ⟨⟩
      exact low

/-- A document is taken for a schema if and only if it describes the schema and the room is enough. -/
theorem checkSchemaIn_ok_iff (room : Nat) (v : Value) (schema : Schema) :
    checkSchemaIn room v = .ok schema ↔
      DescribesSchema v schema ∧ ∀ f ∈ schema.fields, f.height ≤ room := by
  cases v with
  | object members =>
    rw [checkSchemaIn_object, Checked.map_ok_iff]
    unfold checkMember
    cases found : member? members "fields" with
    | none =>
      simp only [Checked.under_ok_iff]
      constructor
      · rintro ⟨_, ⟨⟩, rfl⟩
        exact ⟨.absent found, nofun⟩
      · rintro ⟨described, -⟩
        cases described with
        | absent => exact ⟨[], rfl, rfl⟩
        | there other => cases found.symm.trans other
    | some v =>
      simp only [Checked.under_ok_iff, checkSchemaFields_ok_iff]
      constructor
      · rintro ⟨fields, ⟨items, among, each, low⟩, rfl⟩
        exact ⟨.there found among each, low⟩
      · rintro ⟨described, low⟩
        cases described with
        | absent other => cases found.symm.trans other
        | there other among each =>
          cases found.symm.trans other
          exact ⟨_, ⟨_, among, each, low⟩, rfl⟩
  | _ => exact iff_of_false nofun fun ⟨described, _⟩ => nomatch described

end ChangelogViews
