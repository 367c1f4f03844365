import ChangelogViews.Schema.Field
import ChangelogViews.Document.Value
import ChangelogViews.Document.Issue
import ChangelogViews.Text.Utf8

/-!
# Schemas from documents

Which document describes a field or a schema. Members with other names are ignored. The issues are
reported member by member, in the order name, type, description, fields, element, and each list of
fields from its first item on.
-/

namespace ChangelogViews

/-- A string, or bytes that are one. -/
def checkText : Value → Checked LooseText
  | .text s => .ok s
  | .bytes data =>
    match Text.decodeUtf8 data with
    | .ok cs => .ok (.ofString (String.ofList cs))
    | .error _ => .problem .notUtf8
  | _ => .problem .notText

def checkShown (v : Value) : Checked String := (checkText v).map LooseText.shown

def checkTextOrNull : Value → Checked (Option LooseText)
  | .null => .ok none
  | v => (checkText v).map some

def checkMember {α : Type} (members : List (String × Value)) (name : String) (absent : Checked α)
    (check : Value → Checked α) : Checked α :=
  Checked.under (.member name) <|
    match member? members name with
    | none => absent
    | some v => check v

/-- The `type` of a field, a kind or a string. What is neither fails as both. -/
def checkType : Value → Checked FieldType
  | .text declared => .ok (.ofName (FieldType.normalName declared))
  | v =>
    match checkText v with
    | .ok name => .ok (.ofName name)
    | .error issues => .error <|
        ⟨[.member "str-enum[FieldType]"], .notAmong (FieldKind.all.map (·.name))⟩ ::
          issues.map fun issue => { issue with location := .member "str" :: issue.location }

def fieldOfParts (name : LooseText) (type : FieldType) (description : Option LooseText)
    (below : Option (List Field) × Option Field) : Field :=
  ⟨name, type, description, below.1, below.2⟩

mutual

/-- The field that a document describes, with at most `room` fields inside each other. -/
def checkFieldIn (room : Nat) (v : Value) : Checked Field :=
  match room, v with
  | _, .cycle => .problem .cyclic
  | 0, _ => .problem .tooDeep
  | room + 1, .object members =>
    let head :=
      (checkMember members "name" (.ok (.ofString "")) checkText).both <|
        (checkMember members "type" (.problem .missing) checkType).both <|
          checkMember members "description" (.ok none) checkTextOrNull
    let below := (checkFieldsMember room members).both (checkElementMember room members)
    (head.both below).map fun ((name, type, description), below) =>
      fieldOfParts name type description below
  | _, _ => .problem (.notObject "Field")

def checkFieldsMember (room : Nat) : List (String × Value) → Checked (Option (List Field))
  | [] => .ok none
  | (name, v) :: rest =>
    if name = "fields" then Checked.under (.member "fields") (checkFieldsOrNull room v)
    else checkFieldsMember room rest

def checkFieldsOrNull (room : Nat) : Value → Checked (Option (List Field))
  | .null => .ok none
  | .list items => (checkItems room 0 items).map some
  | .bag items => (checkItems room 0 items).map some
  | _ => .problem .notSequence

/-- The fields that the items of a list describe, counted from `i`. -/
def checkItems (room i : Nat) : List Value → Checked (List Field)
  | [] => .ok []
  | item :: rest =>
    ((Checked.under (.index i) (checkFieldIn room item)).both (checkItems room (i + 1) rest)).map
      fun (field, fields) => field :: fields

def checkElementMember (room : Nat) : List (String × Value) → Checked (Option Field)
  | [] => .ok none
  | (name, v) :: rest =>
    if name = "element" then
      Checked.under (.member "element") <|
        match v with
        | .null => .ok none
        | v => (checkFieldIn room v).map some
    else checkElementMember room rest

end

/-- The schema that a document describes, with at most `room` fields inside each other. -/
def checkSchemaIn (room : Nat) : Value → Checked Schema
  | .object members =>
    (checkMember members "fields" (.ok []) fun v =>
      match v with
      | .null => .problem .notSequence
      | v => (checkFieldsOrNull room v).map fun fields => fields.getD []).map Schema.mk
  | _ => .problem (.notObject "FirestoreSchema")

/-- How deep pydantic follows a document, in models inside each other: 255 on most platforms. -/
def deepest : Nat := 255

def checkField (v : Value) : Checked Field := checkFieldIn deepest v

/-- The schema that a document describes. The schema itself is one of the models. -/
def checkSchema (v : Value) : Checked Schema := checkSchemaIn (deepest - 1) v

end ChangelogViews
