import ChangelogViews.Program.Command

/-!
# The program

Gathers what a command needs to know of the world and carries out what it decides. No database can be
reached from here, so only dry runs come to their end.
-/

namespace ChangelogViews

/-- The working directory and the files below it. -/
def readTree : IO FileTree := do
  let top ← IO.currentDir
  let placeOf (path : String) : Place :=
    (Path.ofText path).parts.filter Path.leadsIn
  let home := (← IO.getEnv "HOME").getD top.toString
  let mut entries : List (Place × FileEntry) := []
  for path in ← top.walkDir do
    let place := placeOf path.toString
    if ← path.isDir then entries := entries ++ [(place, .directory)]
    else
      let bytes ← IO.FS.readBinFile path
      entries := entries ++ [(place, .file bytes.toList)]
  let homes := (FileTree.homeOf home).toList.map fun path => ("", path)
  return ⟨placeOf top.toString, homes, entries, by simp [placeOf, List.all_filter]⟩

def environmentOf (bytes : List UInt8) : List (String × String) :=
  (bytes.splitOn 0).filterMap fun entry =>
    match Text.decodeUtf8 entry with
    | .ok cs =>
      match cs.dropWhile (· != '=') with
      | _ :: text => some (String.ofList (cs.takeWhile (· != '=')), String.ofList text)
      | [] => none
    | .error _ => none

def readEnvironment : IO (List (String × String)) := do
  try
    let bytes ← IO.FS.readBinFile "/proc/self/environ"
    return environmentOf bytes.toList
  catch _ => return []

def outOfReach : String := "this program has no connection to a database"

/-- No database is in reach. -/
def noDatabases : Databases Unit Unit where
  remote := {
    connect := fun _ _ => (.error (.credentials outOfReach), ())
    getTable := fun _ _ => (.error (.credentials outOfReach), ())
    newTable := fun _ => .ok ()
    createTable := fun _ _ _ => (.error (.credentials outOfReach), ())
    updateTable := fun _ _ _ => (.error (.credentials outOfReach), ()) }
  remoteState := ()
  engine := {
    execute := fun _ _ => (.error (.database outOfReach), ())
    connect := fun _ _ => (.error ⟨"IOException", outOfReach⟩, ()) }
  engineState := ()

def unwritten (text : String) (written : Nat) : String := String.ofList (text.toList.drop written)

def writeNew (output written : Output) : IO Unit := do
  IO.print (unwritten output.out written.out.length)
  IO.eprint (unwritten output.err written.err.length)
  (← IO.getStdout).flush

/-- Reports a failure that the command does not handle. -/
def giveUp (message : String) : IO UInt32 := do
  IO.eprintln message
  return 1

def Failure.text : Failure → String
  | .views e => e.text
  | .sql fault => fault.message
  | .foreign failure => s!"{failure.kind}: {failure.message}"

def ConfigFault.text : ConfigFault → String
  | .rule fault => fault.message
  | .system failure => s!"{failure.kind}: {failure.message}"
  | .encoding fault => fault.message
  | .unnamed setting => unnamedMessage setting
  | .secretsFile => secretsFileMessage
  | .wordsAre kind => wordsMessage kind
  | .unparsed setting origin => unparsedMessage setting origin
  | .invalid issues => "\n".intercalate (issues.map fun issue => issue.problem.message)

/-- Runs the command with the replies so far. Where it needs one more, that is read and the command
run again, which writes the same and goes on from there. -/
partial def converse (words : List String) (world : World Unit Unit) (written : Output) :
    IO UInt32 := do
  let report := command words world
  writeNew report.output written
  match report.ending with
  | .left status => return status.toUInt32
  | .returned status => return status.toUInt32
  | .unconfigured fault => giveUp fault.text
  | .failed failure => giveUp failure.text
  | .unanswered =>
    let line ← (← IO.getStdin).getLine
    if line.isEmpty then giveUp "EOF when reading a line"
    else converse words { world with replies := world.replies ++ [.line line] } report.output

def runCommand (words : List String) : IO UInt32 := do
  converse words ⟨← readTree, ← readEnvironment, [], noDatabases⟩ .none

end ChangelogViews

def main (words : List String) : IO UInt32 := ChangelogViews.runCommand words
