import ChangelogViews.Text.Loose

/-!
# Field types

The ten kinds of field that a schema can declare, and the types that carry a name of their own
because it belongs to none of them.
-/

namespace ChangelogViews

/-- The members of `FieldType`. -/
inductive FieldKind where
  | string
  | number
  | boolean
  | timestamp
  | geopoint
  | reference
  | null
  | map
  | array
  | stringifiedMap
  deriving DecidableEq, Inhabited, Repr

namespace FieldKind

def all : List FieldKind :=
  [.string, .number, .boolean, .timestamp, .geopoint, .reference, .null, .map, .array,
   .stringifiedMap]

def name : FieldKind → String
  | .string => "string"
  | .number => "number"
  | .boolean => "boolean"
  | .timestamp => "timestamp"
  | .geopoint => "geopoint"
  | .reference => "reference"
  | .null => "null"
  | .map => "map"
  | .array => "array"
  | .stringifiedMap => "stringified_map"

def ofName? (name : String) : Option FieldKind := all.find? (·.name == name)

theorem mem_all (kind : FieldKind) : kind ∈ all := by cases kind <;> decide

def shown (kind : FieldKind) : String :=
  s!"<FieldType.{String.ofList (kind.name.toList.map Char.toUpper)}: '{kind.name}'>"

end FieldKind

/-- The type of a field: a kind, or an unknown type name as a plain string. -/
inductive FieldType where
  | known (kind : FieldKind)
  | other (name : LooseText)
  deriving DecidableEq, Inhabited, Repr

namespace FieldType

def ofName (name : LooseText) : FieldType :=
  match name.whole?.bind FieldKind.ofName? with
  | some kind => .known kind
  | none => .other name

/-- `_normalize_type`. -/
def normalName (declared : LooseText) : LooseText :=
  declared.trim.lower.mapPieces fun s =>
    String.ofList (s.toList.map fun c => if c = '-' then '_' else c)

def name : FieldType → LooseText
  | .known kind => kind.name
  | .other name => name

end FieldType
end ChangelogViews
