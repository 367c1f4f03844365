import ChangelogViews.Schema.Reader

/-!
# The raw changelog

Which columns the table has that writes are appended to.
-/

namespace ChangelogViews

/-- `ChangelogLayout`. The sequence is the tie-break for writes sharing a timestamp. -/
structure ChangelogLayout where
  documentName : String
  documentId : Option String
  timestamp : String
  sequence : String
  operation : String
  data : String
  deleteOperation : String
  deriving DecidableEq, Repr

namespace ChangelogLayout

def standard : ChangelogLayout :=
  ⟨"document_name", some "document_id", "timestamp", "event_id", "operation", "data", "DELETE"⟩

def memberNames : List String :=
  ["document_name", "document_id", "timestamp", "sequence", "operation", "data",
   "delete_operation"]

/-- `snapshot_columns`. The document id may be missing or blank. -/
def snapshotColumns (layout : ChangelogLayout) : List String :=
  let id := match layout.documentId with
    | some name => if name = "" then [] else [name]
    | none => []
  [layout.documentName] ++ id ++
    [layout.timestamp, layout.sequence, layout.operation, layout.data]

/-- The layout that a document describes: the standard one with some names replaced. -/
def check : Value → Checked ChangelogLayout
  | .object members =>
    let text (name standard : String) := checkMember members name (.ok standard) checkShown
    let id := checkMember members "document_id" (.ok standard.documentId)
      fun v => (checkTextOrNull v).map (·.map LooseText.shown)
    let parts :=
      (text "document_name" standard.documentName).both <| id.both <|
        (text "timestamp" standard.timestamp).both <| (text "sequence" standard.sequence).both <|
          (text "operation" standard.operation).both <| (text "data" standard.data).both <|
            text "delete_operation" standard.deleteOperation
    parts.map fun (documentName, documentId, timestamp, sequence, operation, data, delete) =>
      ⟨documentName, documentId, timestamp, sequence, operation, data, delete⟩
  | _ => .problem (.notObject "ChangelogLayout")

end ChangelogLayout
end ChangelogViews
