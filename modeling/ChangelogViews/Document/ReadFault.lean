import ChangelogViews.Document.Json
import ChangelogViews.Document.Yaml.Fault
import ChangelogViews.Text.Utf8

/-!
# Faults of reading a document

What can keep a file from becoming a value: the file itself, its bytes, or its text. Faults of YAML
are known by the stage that met them; their wording is no part of any format and is left out.
-/

namespace ChangelogViews

/-- Why a path gives no file to read. -/
inductive FileFault where
  | notFound (path : String)
  | isDirectory (path : String)
  | notDirectory (path : String)
  | tooLong (path : String)
  | nullInPath
  deriving DecidableEq, Repr

def FileFault.message : FileFault → String
  | .notFound path => s!"[Errno 2] No such file or directory: {Text.quoted path}"
  | .isDirectory path => s!"[Errno 21] Is a directory: {Text.quoted path}"
  | .notDirectory path => s!"[Errno 20] Not a directory: {Text.quoted path}"
  | .tooLong path => s!"[Errno 36] File name too long: {Text.quoted path}"
  | .nullInPath => omittedDetails

/-- Why a file cannot be read as a document. -/
inductive ReadFault where
  | file (fault : FileFault)
  | encoding (fault : Text.Utf8Fault)
  | json (text : List Char) (fault : Json.Fault)
  | yaml (fault : YamlFault)
  deriving DecidableEq, Repr

def ReadFault.message : ReadFault → String
  | .file fault => fault.message
  | .encoding fault => fault.message
  | .json text fault => fault.message text
  | .yaml _ => omittedDetails

end ChangelogViews
