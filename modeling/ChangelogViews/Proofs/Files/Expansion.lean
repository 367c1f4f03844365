import Mathlib.Data.List.DropRight
import Mathlib.Data.List.Induction
import ChangelogViews.Proofs.Attempts
import ChangelogViews.Proofs.Files.Resolution
import ChangelogViews.Schema.Loaded

/-!
# Files of patterns

Patterns are worked through in order, and what each stands for is added as far as it is new, so that the
files of further patterns follow those of the patterns before them (`expandPatterns_append`). What comes
out are files, each once and under the names that lead straight to it: the files that are matched, and the
schema files in the directories that are (`mem_expandPatterns`).
-/

namespace ChangelogViews

section
variable {α : Type} [BEq α] [LawfulBEq α]

theorem eraseDups_concat (xs : List α) (x : α) :
    (xs ++ [x]).eraseDups = if x ∈ xs then xs.eraseDups else xs.eraseDups ++ [x] := by
  rw [List.eraseDups_append]
  by_cases known : x ∈ xs
  · simp [List.removeAll, known]
  · simp [List.removeAll, known, List.eraseDups_cons]

theorem nodup_eraseDups (xs : List α) : xs.eraseDups.Nodup := by
  induction xs using List.reverseRecOn with
  | nil => exact List.nodup_nil
  | append_singleton xs x ih =>
    rw [eraseDups_concat]
    split
    · exact ih
    · next fresh =>
      refine List.nodup_append.mpr ⟨ih, by simp, ?_⟩
      rintro y old z new rfl
      rw [List.mem_singleton.mp new] at old
      exact fresh (List.mem_eraseDups.mp old)

theorem eraseDups_of_nodup {xs : List α} (apart : xs.Nodup) : xs.eraseDups = xs := by
  induction xs using List.reverseRecOn with
  | nil => rfl
  | append_singleton xs x ih =>
    obtain ⟨before, _, fresh⟩ := List.nodup_append.mp apart
    have new : x ∉ xs := fun inside => fresh x inside x List.mem_cons_self rfl
    rw [eraseDups_concat, if_neg new, ih before]

/-- Adding each element that is not there yet adds the new ones, in the order of their first places. -/
theorem foldl_new (seen xs : List α) :
    xs.foldl (fun done x => if done.contains x then done else done ++ [x]) seen =
      seen ++ xs.eraseDups.filter fun x => !seen.contains x := by
  induction xs using List.reverseRecOn with
  | nil => simp
  | append_singleton xs x ih =>
    rw [List.foldl_append, ih, eraseDups_concat]
    by_cases known : x ∈ xs
    · by_cases old : x ∈ seen <;> simp [known, old]
    · by_cases old : x ∈ seen <;> simp [known, old]

end

theorem union_eq (paths more : List Path) :
    union paths more = paths ++ more.eraseDups.filter fun path => !paths.contains path :=
  foldl_new paths more

theorem mem_union {paths more : List Path} {path : Path} :
    path ∈ union paths more ↔ path ∈ paths ∨ path ∈ more := by
  rw [union_eq]
  by_cases old : path ∈ paths <;> simp [old]

theorem nodup_union {paths : List Path} (apart : paths.Nodup) (more : List Path) :
    (union paths more).Nodup := by
  rw [union_eq]
  refine List.nodup_append.mpr ⟨apart, (nodup_eraseDups more).filter _, ?_⟩
  rintro path old _ new rfl
  simp [old] at new

/-- Paths that were added to others can be added with them. -/
theorem union_union (paths more others : List Path) :
    union paths (union more others) = union (union paths more) others := by
  have split : union paths (union more others) = union (union paths more)
      (others.eraseDups.filter fun path => !more.contains path) := by
    rw [union_eq more, union, union, union, List.foldl_append]
  have kept := eraseDups_of_nodup ((nodup_eraseDups others).filter fun path => !more.contains path)
  rw [split, union_eq (union paths more), union_eq (union paths more) others, kept,
    List.filter_filter]
  congr 1
  refine List.filter_congr fun path _ => ?_
  by_cases old : path ∈ more <;> simp [mem_union, old]

namespace Expansion

variable {α : Type} {step : α → List Path → Expansion} {found : List Path}

/-- What was found, behind other paths. -/
def behind (e : Expansion) (found : List Path) : Expansion := (e.1, e.2.map (union found))

/-- Paths that were found before do not change what a step finds, only what of it is new. -/
def Incremental (step : List Path → Expansion) : Prop := ∀ found, step found = (step []).behind found

theorem Incremental.andThen {first next : List Path → Expansion} (one : Incremental first)
    (two : Incremental next) : Incremental fun found => (first found).andThen next := by
  intro found
  simp only
  rw [one found]
  cases first [] with
  | mk logs result =>
    cases result with
    | error failure => rfl
    | ok paths =>
      simp only [behind, Expansion.andThen, Except.map]
      rw [two (union found paths), two paths]
      cases next [] with
      | mk others result =>
        cases result with
        | error failure => rfl
        | ok more => exact Prod.ext rfl (congrArg Except.ok (union_union found paths more).symm)

theorem incremental_each (incremental : ∀ item, Incremental (step item)) (items : List α) :
    Incremental (each step items) := by
  induction items with
  | nil => exact fun _ => rfl
  | cons item rest ih => exact (incremental item).andThen ih

theorem each_append (first more : List α) :
    each step (first ++ more) found = (each step first found).andThen (each step more) := by
  induction first generalizing found with
  | nil => rfl
  | cons item rest ih =>
    simp only [List.cons_append, each]
    cases step item found with
    | mk logs result =>
      cases result with
      | error failure => rfl
      | ok paths =>
        simp only [andThen, ih]
        cases each step rest paths with
        | mk others result =>
          cases result with
          | error failure => rfl
          | ok later => simp only [List.append_assoc]

theorem andThen_ok {first : Expansion} {next : List Path → Expansion} {paths : List Path}
    (ok : (first.andThen next).2 = .ok paths) :
    ∃ middle, first.2 = .ok middle ∧ (next middle).2 = .ok paths := by
  obtain ⟨logs, result⟩ := first
  cases result with
  | error failure => cases ok
  | ok middle => exact ⟨middle, rfl, ok⟩

/-- A step that goes through adds what some files resolve to, and resolves them all. -/
def Adds (view : FileView) (files : Path → Prop) (step : List Path → Expansion) : Prop :=
  ∀ found paths, (step found).2 = .ok paths →
    (∀ path, path ∈ paths ↔ path ∈ found ∨ ∃ file, files file ∧ view.resolve file = .ok path) ∧
      ∀ file, files file → ∃ path, view.resolve file = .ok path

theorem Adds.nothing {view : FileView} {files : Path → Prop} {step : List Path → Expansion}
    (kept : ∀ found paths, (step found).2 = .ok paths → paths = found) (empty : ∀ file, ¬ files file) :
    Adds view files step := by
  intro found paths ok
  rw [kept found paths ok]
  exact ⟨fun path => ⟨.inl, Or.rec id fun ⟨file, is, _⟩ => absurd is (empty file)⟩,
    fun file is => absurd is (empty file)⟩

theorem Adds.each {view : FileView} {files : α → Path → Prop}
    (adds : ∀ item, Adds view (files item) (step item)) (items : List α) :
    Adds view (fun file => ∃ item ∈ items, files item file) (each step items) := by
  induction items with
  | nil =>
    refine .nothing ?_ (by simp)
    rintro found _ ⟨⟩
    rfl
  | cons item rest ih =>
    intro found paths ok
    obtain ⟨middle, first, later⟩ := andThen_ok ok
    obtain ⟨own, resolves⟩ := adds item found middle first
    obtain ⟨others, resolvesLater⟩ := ih middle paths later
    refine ⟨fun path => ?_, ?_⟩
    · have either (file : Path) : (∃ other ∈ item :: rest, files other file) ↔
          files item file ∨ ∃ other ∈ rest, files other file := by
        simp only [List.mem_cons, exists_eq_or_imp]
      simp only [others, own, either, or_and_right, exists_or, or_assoc]
    · rintro file ⟨other, among, is⟩
      rcases List.mem_cons.mp among with rfl | among
      · exact resolves file is
      · exact resolvesLater file ⟨other, among, is⟩

end Expansion

/-! ### What a match stands for -/

namespace FileView

variable {view : FileView}

/-- What a path stands for: a regular file for itself, and a directory for the regular files directly in it
that have the suffix of a schema file. -/
inductive StandsFor (view : FileView) (path : Path) : Path → Prop
  | file (noDirectory : view.isDir path = .ok false) (isFile : view.isFile path = .ok true) :
      StandsFor view path path
  | inside {listed : List Path} {file : Path} (isDirectory : view.isDir path = .ok true)
      (lists : view.iterdir path = .ok listed) (among : file ∈ listed)
      (isFile : view.isFile file = .ok true) (suffix : isSchemaPath file = true) :
      StandsFor view path file

theorem StandsFor.isFile {path file : Path} (stands : view.StandsFor path file) :
    view.isFile file = .ok true := by
  cases stands with
  | file _ isFile => exact isFile
  | inside _ _ _ isFile _ => exact isFile

theorem mem_schemaFilesAmong {listed files : List Path} {file : Path}
    (looked : schemaFilesAmong view listed = .ok files) :
    file ∈ files ↔ file ∈ listed ∧ view.isFile file = .ok true ∧ isSchemaPath file = true := by
  induction listed generalizing files with
  | nil => cases looked; simp
  | cons path rest ih =>
    obtain ⟨isFile, asked, looked⟩ := bind_ok looked
    obtain ⟨later, others, same⟩ := bind_ok looked
    cases same
    have own : file = path → (view.isFile file = .ok true ↔ isFile = true) := by
      rintro rfl
      simp [asked]
    by_cases chosen : (isFile && isSchemaPath path) = true
    · rw [if_pos chosen, List.mem_cons, List.mem_cons, ih others]
      rw [Bool.and_eq_true] at chosen
      constructor
      · rintro (rfl | ⟨among, kept⟩)
        · exact ⟨.inl rfl, (own rfl).mpr chosen.1, chosen.2⟩
        · exact ⟨.inr among, kept⟩
      · rintro ⟨rfl | among, kept⟩
        · exact .inl rfl
        · exact .inr ⟨among, kept⟩
    · rw [if_neg chosen, List.mem_cons, ih others]
      refine ⟨fun ⟨among, kept⟩ => ⟨.inr among, kept⟩, ?_⟩
      rintro ⟨rfl | among, isFile', suffix⟩
      · exact absurd (Bool.and_eq_true_iff.mpr ⟨(own rfl).mp isFile', suffix⟩) chosen
      · exact ⟨among, isFile', suffix⟩

/-- The candidates at a path are the files that it stands for. -/
theorem mem_candidates {path file : Path} {found : Option (List Path)}
    (looked : candidates view path = .ok found) :
    (∃ files, found = some files ∧ file ∈ files) ↔ view.StandsFor path file := by
  obtain ⟨isDir, askedDir, looked⟩ := bind_ok looked
  cases isDir with
  | true =>
    obtain ⟨listed, lists, looked⟩ := bind_ok looked
    obtain ⟨files, chosen, same⟩ := bind_ok looked
    cases same
    simp only [Option.some.injEq, exists_eq_left', List.mem_mergeSort, mem_schemaFilesAmong chosen]
    constructor
    · rintro ⟨among, isFile, suffix⟩
      exact .inside askedDir lists among isFile suffix
    · intro stands
      cases stands with
      | file noDirectory _ => rw [askedDir] at noDirectory; cases noDirectory
      | inside _ lists' among isFile suffix =>
        cases lists.symm.trans lists'
        exact ⟨among, isFile, suffix⟩
  | false =>
    obtain ⟨isFile, askedFile, looked⟩ := bind_ok looked
    have only : view.StandsFor path file ↔ file = path ∧ isFile = true := by
      constructor
      · intro stands
        cases stands with
        | file _ isFile' => exact ⟨rfl, Except.ok.inj (askedFile.symm.trans isFile')⟩
        | inside isDirectory => rw [askedDir] at isDirectory; cases isDirectory
      · rintro ⟨rfl, rfl⟩
        exact .file askedDir askedFile
    rw [only]
    cases isFile with
    | true => cases looked; simp
    | false => cases looked; simp

theorem expandMatch_adds (view : FileView) (pattern text : String) :
    Expansion.Adds view (view.StandsFor (.ofText text)) (expandMatch view pattern text) := by
  cases looked : filesAt view text with
  | error failure =>
    intro found paths ok
    simp only [expandMatch, looked] at ok
    cases ok
  | ok files =>
    obtain ⟨chosen, candidates, found⟩ := bind_ok looked
    cases chosen with
    | none =>
      cases found
      refine .nothing ?_ fun file stands => ?_
      · intro found paths ok
        simp only [expandMatch, looked] at ok
        exact (Except.ok.inj ok).symm
      · obtain ⟨_, none, _⟩ := (mem_candidates candidates).mpr stands
        cases none
    | some chosen =>
      obtain ⟨_, resolved, same⟩ := bind_ok (x := chosen.mapM view.resolve) found
      cases same
      intro found paths ok
      simp only [expandMatch, looked] at ok
      cases ok
      have stands (file : Path) : view.StandsFor (.ofText text) file ↔ file ∈ chosen := by
        rw [← mem_candidates candidates]
        simp
      simp only [stands, mem_union]
      refine ⟨fun path => or_congr_right ⟨fun inside => mem_of_mapM_ok resolved inside, ?_⟩, ?_⟩
      · rintro ⟨file, among, resolves⟩
        obtain ⟨path', inside, resolves'⟩ := forall_of_mapM_ok resolved file among
        cases resolves.symm.trans resolves'
        exact inside
      · intro file among
        obtain ⟨path, _, resolves⟩ := forall_of_mapM_ok resolved file among
        exact ⟨path, resolves⟩

theorem expandMatch_incremental (view : FileView) (pattern text : String) :
    Expansion.Incremental (expandMatch view pattern text) := by
  intro found
  unfold expandMatch
  cases filesAt view text with
  | error failure => rfl
  | ok files =>
    cases files with
    | none => rfl
    | some files => exact Prod.ext rfl (congrArg Except.ok (union_union found [] files).symm)

/-- A pattern matches the paths that are found for it, or its own if none is found. -/
def Matches (view : FileView) (pattern : String) (path : Path) : Prop :=
  ∃ expanded found, view.expandUser (.ofText (Text.trim pattern)) = .ok expanded ∧
    view.glob expanded = .ok found ∧
    ∃ text, path = .ofText text ∧ (text ∈ found ∨ found = [] ∧ text = expanded.text)

theorem matches_iff {pattern : String} {texts : List String}
    (searched : matchesOf view (Text.trim pattern) = .ok texts) (path : Path) :
    view.Matches pattern path ↔ ∃ text ∈ texts, path = .ofText text := by
  obtain ⟨expanded, home, searched⟩ := bind_ok searched
  obtain ⟨found, globbed, same⟩ := bind_ok searched
  have listed (text : String) : text ∈ texts ↔ text ∈ found ∨ found = [] ∧ text = expanded.text := by
    cases same
    cases found with
    | nil => simp
    | cons first rest => simp
  constructor
  · rintro ⟨expanded', found', home', globbed', text, rfl, among⟩
    cases home.symm.trans home'
    cases globbed.symm.trans globbed'
    exact ⟨text, (listed text).mpr among, rfl⟩
  · rintro ⟨text, among, rfl⟩
    exact ⟨expanded, found, home, globbed, text, rfl, (listed text).mp among⟩

/-- The files that a pattern stands for. One that is blank stands for none. -/
def FilesOf (view : FileView) (pattern : String) (file : Path) : Prop :=
  Text.trim pattern ≠ "" ∧ ∃ matched, view.Matches pattern matched ∧ view.StandsFor matched file

theorem expandPattern_adds (view : FileView) (pattern : String) :
    Expansion.Adds view (view.FilesOf pattern) (expandPattern view pattern) := by
  by_cases blank : Text.trim pattern = ""
  · refine .nothing ?_ fun file files => files.1 blank
    intro found paths ok
    simp only [expandPattern, if_pos blank] at ok
    exact (Except.ok.inj ok).symm
  · intro found paths ok
    simp only [expandPattern, if_neg blank] at ok
    cases searched : matchesOf view (Text.trim pattern) with
    | error failure =>
      rw [searched] at ok
      cases ok
    | ok texts =>
      rw [searched] at ok
      have files (file : Path) :
          view.FilesOf pattern file ↔ ∃ text ∈ texts, view.StandsFor (.ofText text) file := by
        simp only [FilesOf, ne_eq, blank, not_false_eq_true, true_and, matches_iff searched]
        constructor
        · rintro ⟨_, ⟨text, among, rfl⟩, stands⟩
          exact ⟨text, among, stands⟩
        · rintro ⟨text, among, stands⟩
          exact ⟨_, ⟨text, among, rfl⟩, stands⟩
      simp only [files]
      exact Expansion.Adds.each (expandMatch_adds view (Text.trim pattern)) texts found paths ok

theorem expandPattern_incremental (view : FileView) (pattern : String) :
    Expansion.Incremental (expandPattern view pattern) := by
  intro found
  unfold expandPattern
  by_cases blank : Text.trim pattern = ""
  · rw [if_pos blank, if_pos blank]
    rfl
  · rw [if_neg blank, if_neg blank]
    cases matchesOf view (Text.trim pattern) with
    | error failure => rfl
    | ok texts => exact Expansion.incremental_each (expandMatch_incremental view _) texts found

end FileView

/-! ### Patterns one behind the other -/

/-- What some patterns stand for, and behind it what others stand for as far as it is new. A failure of
the first leaves the others aside. -/
def Expansion.followedBy (first later : Expansion) : Expansion :=
  first.andThen fun paths =>
    (later.1, later.2.map fun others => paths ++ others.filter fun path => !paths.contains path)

section
variable (view : FileView)

/-- Nothing stands twice among what patterns stand for. -/
theorem nodup_expandPatterns {patterns : List String} {paths : List Path}
    (expanded : (expandPatterns view patterns).2 = .ok paths) : paths.Nodup := by
  have again := congrArg Prod.snd (Expansion.incremental_each view.expandPattern_incremental patterns [])
  change (expandPatterns view patterns).2 = (expandPatterns view patterns).2.map (union []) at again
  rw [expanded] at again
  rw [Except.ok.inj again]
  exact nodup_union List.nodup_nil paths

/-- What patterns stand for with others behind them. -/
theorem expandPatterns_append (first more : List String) :
    expandPatterns view (first ++ more) =
      (expandPatterns view first).followedBy (expandPatterns view more) := by
  have later (paths : List Path) :
      Expansion.each (expandPattern view) more paths = (expandPatterns view more).behind paths :=
    Expansion.incremental_each view.expandPattern_incremental more paths
  unfold expandPatterns at later ⊢
  rw [Expansion.each_append, Expansion.followedBy]
  refine congrArg (Expansion.andThen _) (funext fun paths => ?_)
  rw [later paths, Expansion.behind]
  cases expanded : (expandPatterns view more).2 with
  | error failure =>
    unfold expandPatterns at expanded
    rw [expanded]
    rfl
  | ok others =>
    have once := nodup_expandPatterns view expanded
    unfold expandPatterns at expanded
    simp only [expanded, Except.map, union_eq, eraseDups_of_nodup once]

/-- A blank pattern stands for nothing. -/
theorem expandPatterns_blank (first more : List String) {pattern : String}
    (blank : Text.trim pattern = "") :
    expandPatterns view (first ++ pattern :: more) = expandPatterns view (first ++ more) := by
  unfold expandPatterns
  rw [Expansion.each_append, Expansion.each_append]
  refine congrArg (Expansion.andThen _) (funext fun paths => ?_)
  simp only [Expansion.each, expandPattern, if_pos blank, Expansion.andThen, List.nil_append]

/-- A pattern that finds one path stands for the files there. -/
theorem expandPatterns_once {view : FileView} {pattern text : String} {expanded : Path}
    {files : List Path} (written : Text.trim pattern ≠ "")
    (home : view.expandUser (.ofText (Text.trim pattern)) = .ok expanded)
    (found : view.glob expanded = .ok [text]) (looked : filesAt view text = .ok (some files)) :
    expandPatterns view [pattern] = ([], .ok files.eraseDups) := by
  have matched : matchesOf view (Text.trim pattern) = .ok [text] := by
    unfold matchesOf
    rw [home]
    change (view.glob expanded >>= _) = _
    rw [found]
    exact congrArg Except.ok (List.mergeSort_singleton text)
  have whole : union [] files = files.eraseDups := by
    rw [union_eq]
    simp
  simp only [expandPatterns, Expansion.each, expandPattern, if_neg written, matched, expandMatch, looked,
    Expansion.andThen, whole, List.append_nil]

end

/-- Nothing is left of a text without the blanks at its ends if it holds blanks alone. -/
theorem trim_eq_empty_iff {s : String} : Text.trim s = "" ↔ Text.allBlank s = true := by
  have empty : Text.trim s = "" ↔ ∀ c ∈ s.toList.dropWhile Text.isBlank, Text.isBlank c = true := by
    rw [← String.toList_inj]
    simp [Text.trim, Text.trimEnd, List.dropWhile_eq_nil_iff]
  rw [empty, Text.allBlank, List.all_eq_true, ← List.dropWhile_eq_nil_iff,
    List.dropWhile_idempotent, List.dropWhile_eq_nil_iff]

/-- The files of a tree that patterns stand for are reached straight under their whole paths, unless these
are too long to follow. -/
theorem FileTree.expanded_straight (t : FileTree) {patterns : List String} {paths : List Path}
    (expanded : (expandPatterns t.view patterns).2 = .ok paths) :
    ∀ path ∈ paths, ∃ place, path = pathOf place ∧ t.isFile place = true ∧ t.Straight place ∧
      (t.reach path = .ok place ∨ t.reach path = .error (.tooLong path.text)) := by
  intro path inside
  obtain ⟨added, -⟩ := Expansion.Adds.each t.view.expandPattern_adds patterns [] paths expanded
  obtain ⟨file, ⟨_, _, _, _, _, stands⟩, resolved⟩ :=
    ((added path).mp inside).resolve_left List.not_mem_nil
  obtain ⟨place, named, rest⟩ := resolved_of_isFile stands.isFile
  obtain rfl : path = pathOf place := (Except.ok.inj resolved).symm.trans named
  exact ⟨place, rfl, rest.2.1, rest.1, rest.2.2⟩

/-- However files are seen: the files of some patterns and of more behind them are those of the first,
followed by those of the others that are new. None is there twice. They are what the regular files resolve
to that the matches of the patterns stand for, and all of these are there; where regular files resolve to
regular files, they are such files under their resolved paths, and in a tree of files they are those that
are reached straight. Blank patterns match nothing. -/
theorem files_of_patterns (view : FileView) (first more : List String) :
    expandPatterns view (first ++ more) =
      (expandPatterns view first).followedBy (expandPatterns view more) ∧
    (∀ paths, (expandPatterns view first).2 = .ok paths →
      paths.Nodup ∧
      (∀ path ∈ paths, ∃ pattern ∈ first, Text.allBlank pattern = false ∧
        ∃ matched file, view.Matches pattern matched ∧ view.StandsFor matched file ∧
          view.resolve file = .ok path) ∧
      (∀ pattern ∈ first, Text.allBlank pattern = false →
        ∀ matched file, view.Matches pattern matched → view.StandsFor matched file →
          ∃ path ∈ paths, view.resolve file = .ok path) ∧
      (view.ResolvesFiles → ∀ path ∈ paths,
        view.resolve path = .ok path ∧ view.isFile path ≠ .ok false) ∧
      ∀ t : FileTree, view = t.view → ∀ path ∈ paths, ∃ place, path = FileTree.pathOf place ∧
        t.isFile place = true ∧ t.Straight place ∧
        (t.reach path = .ok place ∨ t.reach path = .error (.tooLong path.text))) ∧
    ∀ pattern, Text.allBlank pattern = true →
      expandPatterns view (first ++ pattern :: more) = expandPatterns view (first ++ more) := by
  refine ⟨expandPatterns_append view first more, ?_, ?_⟩
  · intro paths expanded
    obtain ⟨added, resolves⟩ :=
      Expansion.Adds.each view.expandPattern_adds first [] paths expanded
    have files : ∀ path ∈ paths, ∃ pattern ∈ first, Text.allBlank pattern = false ∧
        ∃ matched file, view.Matches pattern matched ∧ view.StandsFor matched file ∧
          view.resolve file = .ok path := by
      intro path inside
      obtain ⟨file, ⟨pattern, among, written, matched, matches_, stands⟩, resolved⟩ :=
        ((added path).mp inside).resolve_left List.not_mem_nil
      refine ⟨pattern, among, ?_, matched, file, matches_, stands, resolved⟩
      rwa [ne_eq, trim_eq_empty_iff, Bool.not_eq_true] at written
    refine ⟨nodup_expandPatterns view expanded, files, ?_, ?_, ?_⟩
    · intro pattern among written matched file matches_ stands
      have known : ∃ pattern ∈ first, view.FilesOf pattern file := by
        refine ⟨pattern, among, ?_, matched, matches_, stands⟩
        rw [ne_eq, trim_eq_empty_iff, written]
        exact Bool.false_ne_true
      obtain ⟨path, resolved⟩ := resolves file known
      exact ⟨path, (added path).mpr (.inr ⟨file, known, resolved⟩), resolved⟩
    · intro law path inside
      obtain ⟨_, _, _, _, file, _, stands, resolved⟩ := files path inside
      exact law file path stands.isFile resolved
    · rintro t rfl
      exact t.expanded_straight expanded
  · intro pattern blank
    exact expandPatterns_blank view first more (trim_eq_empty_iff.mpr blank)

/-- A directory with a schema file and a file of notes. -/
def oneDirectory : FileTree where
  base := ["srv"]
  homes := []
  entries := [(["srv", "s", "a.JSON"], .file []), (["srv", "s", "notes.txt"], .file [])]

private theorem expand_directory :
    expandPatterns oneDirectory.view ["s"] = ([], .ok [⟨"/", ["srv", "s", "a.JSON"]⟩]) := by
  have written : Text.trim "s" ≠ "" := by decide
  have found : oneDirectory.view.glob ⟨"", ["s"]⟩ = .ok ["s"] := rfl
  have looked : filesAt oneDirectory.view "s" = .ok (some [⟨"/", ["srv", "s", "a.JSON"]⟩]) := by
    have chosen : schemaFilesAmong oneDirectory.view
        [⟨"", ["s", "a.JSON"]⟩, ⟨"", ["s", "notes.txt"]⟩] = .ok [⟨"", ["s", "a.JSON"]⟩] := rfl
    have isDirectory : oneDirectory.view.isDir (.ofText "s") = .ok true := rfl
    have listed : oneDirectory.view.iterdir (.ofText "s") =
        .ok [⟨"", ["s", "a.JSON"]⟩, ⟨"", ["s", "notes.txt"]⟩] := rfl
    simp only [filesAt, candidates, isDirectory, listed, chosen, bind, Except.bind, pure, Except.pure,
      if_true, List.mergeSort_singleton]
    rfl
  exact expandPatterns_once written rfl found looked

private theorem expand_member :
    expandPatterns oneDirectory.view ["../srv/s/a.JSON"] = ([], .ok [⟨"/", ["srv", "s", "a.JSON"]⟩]) := by
  have written : Text.trim "../srv/s/a.JSON" ≠ "" := by decide
  have found : oneDirectory.view.glob ⟨"", ["..", "srv", "s", "a.JSON"]⟩ = .ok ["../srv/s/a.JSON"] := rfl
  exact expandPatterns_once written rfl found rfl

theorem oneDirectory_expanded :
    oneDirectory.view.ResolvesFiles ∧
    expandPatterns oneDirectory.view (["s"] ++ " " :: ["../srv/s/a.JSON"]) =
      ([], .ok [⟨"/", ["srv", "s", "a.JSON"]⟩]) ∧
    oneDirectory.view.resolve ⟨"/", ["srv", "s", "a.JSON"]⟩ = .ok ⟨"/", ["srv", "s", "a.JSON"]⟩ ∧
    ∃ matched file, oneDirectory.view.Matches "s" matched ∧ oneDirectory.view.StandsFor matched file ∧
      oneDirectory.view.resolve file = .ok ⟨"/", ["srv", "s", "a.JSON"]⟩ := by
  obtain ⟨behind, files, blank⟩ := files_of_patterns oneDirectory.view ["s"] ["../srv/s/a.JSON"]
  obtain ⟨_, known, _, resolved, _⟩ := files [⟨"/", ["srv", "s", "a.JSON"]⟩] (by rw [expand_directory])
  have law := oneDirectory.view_resolvesFiles
  refine ⟨law, ?_, (resolved law _ List.mem_cons_self).1, ?_⟩
  · rw [blank " " (by decide), behind, expand_directory, expand_member]
    rfl
  · obtain ⟨pattern, among, _, found⟩ := known _ List.mem_cons_self
    rw [List.mem_singleton.mp among] at found
    exact found

end ChangelogViews
