import ChangelogViews.Schema.FieldType
import ChangelogViews.Text.Loose

/-!
# Fields and schemas

A schema is the list of fields that the documents of a collection have. Maps hold fields of their
own, and arrays hold elements, which are described by one field.
-/

namespace ChangelogViews

/-- `Field`. On an array `fields` is the shorthand for an element of type map. -/
structure Field where
  name : LooseText
  type : FieldType
  description : Option LooseText
  fields : Option (List Field)
  element : Option Field
  deriving Inhabited, Repr, BEq

/-- `FirestoreSchema`. -/
structure Schema where
  fields : List Field
  deriving Inhabited, Repr, BEq

namespace Field

def ofKind (name : LooseText) (kind : FieldKind) : Field := ⟨name, .known kind, none, none, none⟩

def isMap (f : Field) : Bool := f.type = .known .map

def isArray (f : Field) : Bool := f.type = .known .array

theorem isMap_iff {f : Field} : f.isMap = true ↔ f.type = .known .map := decide_eq_true_iff

theorem isArray_iff {f : Field} : f.isArray = true ↔ f.type = .known .array := decide_eq_true_iff

/-- `element_field` of an array: without an element it holds maps if it lists fields, and strings otherwise. -/
def arrayElement (f : Field) : Field :=
  match f.element, f.fields with
  | some element, _ => element
  | none, some fields => { ofKind f.name .map with fields := some fields }
  | none, none => ofKind f.name .string

/-- What holds of a field whenever it holds of the fields and of the element below it holds of all. -/
theorem induction {motive : Field → Prop} {each : List Field → Prop}
    (node : ∀ name type description fields element,
      (∀ members, fields = some members → each members) →
      (∀ inner, element = some inner → motive inner) →
      motive ⟨name, type, description, fields, element⟩)
    (nil : each []) (cons : ∀ f rest, motive f → each rest → each (f :: rest)) :
    (∀ f, motive f) ∧ ∀ fields, each fields := by
  have all : ∀ f, motive f := by
    intro f
    refine @Field.rec motive (fun fields => ∀ members, fields = some members → each members)
      (fun element => ∀ inner, element = some inner → motive inner) each node ?_ ?_ ?_ ?_ nil cons f
    · intro members same
      cases same
    · rintro fields below members ⟨⟩
      exact below
    · intro inner same
      cases same
    · rintro element below inner ⟨⟩
      exact below
  refine ⟨all, fun fields => ?_⟩
  induction fields with
  | nil => exact nil
  | cons f rest ih => exact cons f rest (all f) ih

structure NotAnArray where
  name : LooseText
  deriving DecidableEq, Repr

def NotAnArray.message (e : NotAnArray) : String :=
  s!"Field {e.name.quoted} is not an array"

/-- `element_field`. -/
def element? (f : Field) : Except NotAnArray Field :=
  if f.isArray then .ok f.arrayElement else .error ⟨f.name⟩

end Field
end ChangelogViews
