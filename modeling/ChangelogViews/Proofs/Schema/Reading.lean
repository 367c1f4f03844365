import ChangelogViews.Proofs.Document.Members
import ChangelogViews.Proofs.Files.Expansion

/-!
# Schemas of files

The files that patterns stand for are read in order, and the first one that gives no schema ends the
reading. Of files with one name the first gives the place among the schemas and the last gives the schema
itself (`readFiles_passed`). A file that fails is reported by its name, and nothing behind it is looked at
(`readFiles_stopped`, `readFiles_congr`).
-/

namespace ChangelogViews

variable {t : FileTree}

/-- What is noted of a path before it is read: that a schema of its name is replaced, if one of the files
`earlier` has this name. -/
def replacing (earlier : List Path) (path : Path) : List LogEntry :=
  if path.stem ∈ earlier.map Path.stem then [redefined path] else []

/-- What is noted of some files behind others where each of them gives a schema. -/
def readingNotes (earlier : List Path) : List Path → List LogEntry
  | [] => []
  | path :: rest => replacing earlier path ++ loaded path :: readingNotes (earlier ++ [path]) rest

theorem readingNotes_append (earlier paths more : List Path) :
    readingNotes earlier (paths ++ more) =
      readingNotes earlier paths ++ readingNotes (earlier ++ paths) more := by
  induction paths generalizing earlier with
  | nil => simp [readingNotes]
  | cons path rest ih => simp [readingNotes, ih]

/-- A file gives a schema. -/
def Loads (t : FileTree) (path : Path) : Prop := ∃ schema, loadFile t path = .ok schema

/-- The schemas of some files by name. A name stands where the first file of this name does, and its
schema is that of the last one. -/
structure Latest (t : FileTree) (paths : List Path) (schemas : List (String × Schema)) : Prop where
  names : schemas.map Prod.fst = (paths.map Path.stem).eraseDups
  last : ∀ before path after, paths = before ++ path :: after → path.stem ∉ after.map Path.stem →
    ∃ schema, loadFile t path = .ok schema ∧ member? schemas path.stem = some schema

theorem readFiles_append {schemas read : List (String × Schema)} {notes : List LogEntry}
    {before : List Path} (passed : readFiles t schemas before = (notes, .ok read)) (rest : List Path) :
    readFiles t schemas (before ++ rest) =
      (notes ++ (readFiles t read rest).1, (readFiles t read rest).2) := by
  induction before generalizing schemas notes with
  | nil => cases passed; rfl
  | cons path before ih =>
    simp only [readFiles, List.cons_append] at passed ⊢
    cases load : loadFile t path with
    | error failure => simp [load] at passed
    | ok schema =>
      simp only [load] at passed ⊢
      cases later : readFiles t (setMember schemas path.stem schema) before with
      | mk noted result =>
        rw [later] at passed
        cases passed
        rw [ih later]
        simp

theorem Latest.concat {paths : List Path} {schemas : List (String × Schema)}
    (latest : Latest t paths schemas) {path : Path} {schema : Schema}
    (load : loadFile t path = .ok schema) :
    Latest t (paths ++ [path]) (setMember schemas path.stem schema) := by
  refine ⟨?_, ?_⟩
  · simp only [names_setMember, latest.names, List.mem_eraseDups, List.map_append, List.map_cons,
      List.map_nil, eraseDups_concat]
  · intro before other after split unseen
    cases after using List.reverseRecOn with
    | nil =>
      obtain ⟨rfl, same⟩ := List.append_inj' split rfl
      cases same
      exact ⟨schema, load, by rw [member?_setMember, if_pos rfl]⟩
    | append_singleton after last =>
      have cut : paths ++ [path] = (before ++ other :: after) ++ [last] := by simpa using split
      obtain ⟨rfl, same⟩ := List.append_inj' cut rfl
      cases same
      simp only [List.map_append, List.map_cons, List.map_nil, List.mem_append, List.mem_singleton,
        not_or] at unseen
      obtain ⟨found, loaded, kept⟩ := latest.last before other after rfl unseen.1
      refine ⟨found, loaded, ?_⟩
      rw [member?_setMember, if_neg (Ne.symm unseen.2), kept]

theorem readFiles_passed {paths : List Path} (loads : ∀ path ∈ paths, Loads t path) :
    ∃ schemas, readFiles t [] paths = (readingNotes [] paths, .ok schemas) ∧
      Latest t paths schemas := by
  induction paths using List.reverseRecOn with
  | nil =>
    refine ⟨[], rfl, rfl, ?_⟩
    intro before path after split
    simp at split
  | append_singleton paths path ih =>
    obtain ⟨schemas, passed, latest⟩ := ih fun other inside => loads other (by simp [inside])
    obtain ⟨schema, load⟩ := loads path (by simp)
    refine ⟨setMember schemas path.stem schema, ?_, latest.concat load⟩
    have known : (member? schemas path.stem).isSome = true ↔ path.stem ∈ paths.map Path.stem := by
      rw [isSome_member?, latest.names, List.mem_eraseDups]
    rw [readFiles_append passed, readingNotes_append]
    simp only [readFiles, load, known, readingNotes, replacing, List.nil_append]

/-- The first file that gives no schema ends the reading, whatever the files behind it are. -/
theorem readFiles_stopped {before : List Path} (loads : ∀ path ∈ before, Loads t path) {path : Path}
    {failure : Failure} (failed : loadFile t path = .error failure) (after : List Path) :
    readFiles t [] (before ++ path :: after) =
      (readingNotes [] before ++ replacing before path, .error failure) := by
  obtain ⟨schemas, passed, latest⟩ := readFiles_passed loads
  have known : (member? schemas path.stem).isSome = true ↔ path.stem ∈ before.map Path.stem := by
    rw [isSome_member?, latest.names, List.mem_eraseDups]
  rw [readFiles_append passed]
  simp only [readFiles, failed, known, replacing]

/-- Either all of some files give schemas, or one of them is the first that does not. -/
theorem loads_or_first (t : FileTree) (paths : List Path) :
    (∀ path ∈ paths, Loads t path) ∨
    ∃ before path after failure, paths = before ++ path :: after ∧
      (∀ earlier ∈ before, Loads t earlier) ∧ loadFile t path = .error failure := by
  cases tried : paths.mapM (loadFile t) with
  | ok schemas =>
    refine .inl fun path inside => ?_
    obtain ⟨schema, _, load⟩ := forall_of_mapM_ok tried path inside
    exact ⟨schema, load⟩
  | error failure =>
    obtain ⟨before, path, after, split, loads, failed⟩ := mapM_error tried
    exact .inr ⟨before, path, after, failure, split, loads, failed⟩

theorem loadFile_congr {t other : FileTree} {path : Path}
    (same : other.readBytes path = t.readBytes path) : loadFile other path = loadFile t path := by
  simp only [loadFile, readDocument, readText, same]

/-- Behind the first file that gives no schema nothing is looked at. -/
theorem readFiles_congr {t other : FileTree} {before : List Path}
    (loads : ∀ path ∈ before, Loads t path) {path : Path} {failure : Failure}
    (failed : loadFile t path = .error failure)
    (same : ∀ read ∈ before ++ [path], other.readBytes read = t.readBytes read)
    (after others : List Path) :
    readFiles other [] (before ++ path :: others) = readFiles t [] (before ++ path :: after) := by
  have otherLoads : ∀ earlier ∈ before, Loads other earlier := by
    intro earlier inside
    obtain ⟨schema, load⟩ := loads earlier inside
    exact ⟨schema, (loadFile_congr (same earlier (by simp [inside]))).trans load⟩
  have otherFailed := (loadFile_congr (same path (by simp))).trans failed
  rw [readFiles_stopped loads failed, readFiles_stopped otherLoads otherFailed]

/-- The faults that are not foreseen in a schema file: nodes that cannot be what they are marked as, and
numbers and depths beyond what the machine holds. -/
inductive ReadFault.Unforeseen : ReadFault → Prop
  | notTruth (word : LooseText) : Unforeseen (.yaml (.notTruth word))
  | emptyNumber : Unforeseen (.yaml .emptyNumber)
  | notMoment : Unforeseen (.yaml .notMoment)
  | membersAsMoment : Unforeseen (.yaml .membersAsMoment)
  | codeTooLarge : Unforeseen (.yaml .codeTooLarge)
  | numberTooLarge : Unforeseen (.yaml .numberTooLarge)
  | yamlTooDeep : Unforeseen (.yaml .tooDeep)
  | jsonTooDeep (text : List Char) (isArray : Bool) (position : Nat) :
      Unforeseen (.json text ⟨.tooDeep isArray, position⟩)

/-- Reading a file meets foreseen faults only. -/
def Foreseen (t : FileTree) (path : Path) : Prop :=
  ∀ fault, readDocument t path = .error fault → ¬ fault.Unforeseen

theorem readFailure_of_foreseen (path : Path) {fault : ReadFault} (foreseen : ¬ fault.Unforeseen) :
    readFailure path fault = .views (unloaded path (.unreadable path.text fault)) := by
  unfold readFailure
  split <;> first
    | rfl
    | exact absurd (by constructor) foreseen

theorem loadFile_error_of_foreseen {path : Path} {failure : Failure} (foreseen : Foreseen t path)
    (failed : loadFile t path = .error failure) :
    ∃ problem, failure = .views ⟨.unloaded problem, ⟨some path.stem, none, none⟩⟩ := by
  unfold loadFile at failed
  cases document : readDocument t path with
  | error fault =>
    rw [document] at failed
    cases failed
    exact ⟨_, readFailure_of_foreseen path (foreseen fault document)⟩
  | ok v =>
    rw [document] at failed
    cases checked : checkSchema v with
    | ok schema => simp [checked] at failed
    | error issues =>
      simp only [checked, Except.error.injEq] at failed
      exact ⟨_, failed.symm⟩

theorem nodup_readSchemas {patterns : List String} {schemas : List (String × Schema)}
    (read : (readSchemas t patterns).2 = .ok schemas) : (schemas.map Prod.fst).Nodup := by
  cases expanded : expandPatterns t.view patterns with
  | mk logs result =>
    cases result with
    | error failure => simp [readSchemas, expanded] at read
    | ok paths =>
      simp only [readSchemas, expanded] at read
      rcases loads_or_first t paths with loads | ⟨_, _, _, _, split, loads, failed⟩
      · obtain ⟨latest, passed, known⟩ := readFiles_passed loads
        rw [passed] at read
        cases read
        rw [known.names]
        exact nodup_eraseDups _
      · rw [split, readFiles_stopped loads failed] at read
        cases read

/-- The schemas of patterns are read iff each of their files gives one, those included that are replaced.
Then each name stands at the place of its first file with the schema of its last one, and what is noted
for the files are their names, with a warning for each whose name an earlier file has. Otherwise the first
file that gives no schema is reported, and no file behind it matters. -/
theorem schemas_of_files {patterns : List String} {logs : List LogEntry} {paths : List Path}
    (expanded : expandPatterns t.view patterns = (logs, .ok paths)) :
    ((∃ schemas, (readSchemas t patterns).2 = .ok schemas) ↔ ∀ path ∈ paths, Loads t path) ∧
    (∀ schemas, (readSchemas t patterns).2 = .ok schemas →
      (readSchemas t patterns).1 = logs ++ readingNotes [] paths ∧ Latest t paths schemas) ∧
    ∀ failure, (readSchemas t patterns).2 = .error failure →
      ∃ before path after, paths = before ++ path :: after ∧
        (∀ earlier ∈ before, Loads t earlier) ∧ loadFile t path = .error failure ∧
        (readSchemas t patterns).1 = logs ++ (readingNotes [] before ++ replacing before path) ∧
        (Foreseen t path →
          ∃ problem, failure = .views ⟨.unloaded problem, ⟨some path.stem, none, none⟩⟩) ∧
        ∀ other : FileTree, expandPatterns other.view patterns = (logs, .ok paths) →
          (∀ read ∈ before ++ [path], other.readBytes read = t.readBytes read) →
          readSchemas other patterns = readSchemas t patterns := by
  have outcome : readSchemas t patterns =
      (logs ++ (readFiles t [] paths).1, (readFiles t [] paths).2) := by
    simp only [readSchemas, expanded]
  rcases loads_or_first t paths with loads | ⟨before, path, after, failure, split, loads, failed⟩
  · obtain ⟨schemas, passed, latest⟩ := readFiles_passed loads
    simp only [outcome, passed]
    refine ⟨iff_of_true ⟨schemas, rfl⟩ loads, ?_, ?_⟩
    · rintro _ ⟨⟩
      exact ⟨trivial, latest⟩
    · rintro _ ⟨⟩
  · have stopped := readFiles_stopped loads failed after
    rw [← split] at stopped
    simp only [outcome, stopped]
    refine ⟨iff_of_false ?_ ?_, ?_, ?_⟩
    · rintro ⟨_, ⟨⟩⟩
    · intro all
      obtain ⟨schema, load⟩ := all path (by simp [split])
      rw [failed] at load
      cases load
    · rintro _ ⟨⟩
    · rintro _ ⟨⟩
      refine ⟨before, path, after, split, loads, failed, rfl,
        fun foreseen => loadFile_error_of_foreseen foreseen failed, ?_⟩
      intro other expandedToo same
      have again := readFiles_congr loads failed same after after
      rw [← split, stopped] at again
      simp only [readSchemas, expandedToo, again]

/-- A JSON file that holds an object without members is a schema without fields. -/
theorem loadFile_braces {path : Path} (bytes : t.readBytes path = .ok [0x7b, 0x7d])
    (json : [".yaml", ".yml"].contains (Text.lower path.suffix) = false) :
    loadFile t path = .ok ⟨[]⟩ := by
  have text : readText t path = .ok ['\x7b', '\x7d'] := by
    simp only [readText, bytes]
    rfl
  have tokens : Json.tokensFrom 0 ['\x7b', '\x7d'] =
      [(.openObject, 0), (.closeObject, 1), (.finish, 2)] := by
    simp [Json.tokensFrom, Json.isSpace, Json.mark?]
  have parsed : Json.read ['\x7b', '\x7d'] = .ok (.object []) := by
    simp only [Json.read, tokens]
    rfl
  have document : readDocument t path = .ok (.object []) := by
    unfold readDocument
    rw [text]
    simp only [bind, Except.bind, json, parsed]
    rfl
  unfold loadFile
  rw [document]
  rfl

/-- Two schema files of one name. -/
def sameNames : FileTree where
  base := ["w"]
  homes := []
  entries := [(["w", "x", "a.json"], .file [0x7b, 0x7d]), (["w", "y", "a.json"], .file [0x7b, 0x7d])]

private theorem expand_sameNames :
    expandPatterns sameNames.view ["x/a.json", "y/a.json"] =
      ([], .ok [⟨"/", ["w", "x", "a.json"]⟩, ⟨"/", ["w", "y", "a.json"]⟩]) := by
  have first : expandPatterns sameNames.view ["x/a.json"] =
      ([], .ok [⟨"/", ["w", "x", "a.json"]⟩]) := by
    have written : Text.trim "x/a.json" ≠ "" := by decide
    have found : sameNames.view.glob ⟨"", ["x", "a.json"]⟩ = .ok ["x/a.json"] := rfl
    exact expandPatterns_once written rfl found rfl
  have second : expandPatterns sameNames.view ["y/a.json"] =
      ([], .ok [⟨"/", ["w", "y", "a.json"]⟩]) := by
    have written : Text.trim "y/a.json" ≠ "" := by decide
    have found : sameNames.view.glob ⟨"", ["y", "a.json"]⟩ = .ok ["y/a.json"] := rfl
    exact expandPatterns_once written rfl found rfl
  have both := expandPatterns_append sameNames.view ["x/a.json"] ["y/a.json"]
  rw [first, second] at both
  exact both

theorem sameNames_read :
    (∃ schemas, (readSchemas sameNames ["x/a.json", "y/a.json"]).2 = .ok schemas ∧
      schemas.map Prod.fst = ["a"] ∧ member? schemas "a" = some ⟨[]⟩) ∧
    (readSchemas sameNames ["x/a.json", "y/a.json"]).1.filter (·.level == .warning) =
      [redefined (.ofText "/w/y/a.json")] := by
  have loads : ∀ path ∈ [⟨"/", ["w", "x", "a.json"]⟩, ⟨"/", ["w", "y", "a.json"]⟩],
      loadFile sameNames path = .ok ⟨[]⟩ := by
    intro path inside
    simp only [List.mem_cons, List.not_mem_nil, or_false] at inside
    rcases inside with rfl | rfl
    · exact loadFile_braces rfl rfl
    · exact loadFile_braces rfl rfl
  obtain ⟨whole, passed, _⟩ := schemas_of_files expand_sameNames
  obtain ⟨schemas, read⟩ := whole.mpr fun path inside => ⟨_, loads path inside⟩
  obtain ⟨noted, names, last⟩ := passed schemas read
  obtain ⟨schema, load, kept⟩ := last [_] ⟨"/", ["w", "y", "a.json"]⟩ [] rfl (by simp)
  rw [loads _ (by simp)] at load
  cases load
  exact ⟨⟨schemas, read, names, kept⟩, by rw [noted]; rfl⟩

end ChangelogViews
