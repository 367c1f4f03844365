import ChangelogViews.Proofs.Sql.Escapes
import ChangelogViews.Sql.DuckDb

/-!
# Doubled marks

DuckDB reads an identifier or a text up to the first mark that is not written twice, and a mark that is
written twice as one. Whatever is put between marks with each mark in it doubled is read back as it was,
unless a further mark follows, which would belong to it (`token_quote_iff`, `token_literal_iff`). A
reference to a table is therefore read as the two names that it was made of (`marks_read_back`).
-/

namespace ChangelogViews.Sql.DuckDb

/-- The text of a token up to its closing mark, and what is behind the token. -/
def tokenFrom (mark : Char) : List Char → Option (List Char × List Char)
  | [] => none
  | [c] => if c = mark then some ([], []) else none
  | c :: next :: rest =>
    if c = mark then
      if next = mark then (tokenFrom mark rest).map fun (text, behind) => (mark :: text, behind)
      else some ([], next :: rest)
    else (tokenFrom mark (next :: rest)).map fun (text, behind) => (c :: text, behind)

/-- The text of the token between marks that stands at the front, and what is behind the token. -/
def token (mark : Char) : List Char → Option (List Char × List Char)
  | c :: rest => if c = mark then tokenFrom mark rest else none
  | [] => none

/-- The names of a dataset and of a table in it, which a dot stands between. -/
def reference? (text : List Char) : Option (List Char × List Char) := do
  let (dataset, behind) ← token '"' text
  let (table, rest) ← match behind with
    | '.' :: behind => token '"' behind
    | _ => none
  if rest = [] then some (dataset, table) else none

section
variable {mark : Char}

theorem tokenFrom_plain {c : Char} (noMark : c ≠ mark) (rest : List Char) :
    tokenFrom mark (c :: rest) =
      (tokenFrom mark rest).map fun (text, behind) => (c :: text, behind) := by
  cases rest with
  | nil => exact if_neg noMark
  | cons next rest => rw [tokenFrom, if_neg noMark]

theorem tokenFrom_pair (rest : List Char) :
    tokenFrom mark (mark :: mark :: rest) =
      (tokenFrom mark rest).map fun (text, behind) => (mark :: text, behind) := by
  rw [tokenFrom, if_pos rfl, if_pos rfl]

theorem tokenFrom_close {behind : List Char} (apart : behind.head? ≠ some mark) :
    tokenFrom mark (mark :: behind) = some ([], behind) := by
  cases behind with
  | nil => rw [tokenFrom, if_pos rfl]
  | cons next rest => rw [tokenFrom, if_pos rfl, if_neg (mt (congrArg some) apart)]

/-- A text with its marks doubled is read as the text, whatever is behind it. -/
theorem tokenFrom_withEach (text rest : List Char) :
    tokenFrom mark (withEach mark mark text ++ rest) =
      (tokenFrom mark rest).map fun (later, behind) => (text ++ later, behind) := by
  induction text with
  | nil => exact Option.map_id'.symm
  | cons c text ih =>
    have later : tokenFrom mark (withEach mark mark (c :: text) ++ rest) =
        (tokenFrom mark (withEach mark mark text ++ rest)).map
          fun (text, behind) => (c :: text, behind) := by
      rw [withEach_cons, List.append_assoc]
      split
      · next isMark => rw [isMark]; exact tokenFrom_pair _
      · next noMark => exact tokenFrom_plain noMark _
    rw [later, ih, Option.map_map]
    rfl

/-- Between marks a text with its marks doubled is read back exactly if no further mark follows. -/
theorem token_withEach_iff (text behind : List Char) :
    token mark (mark :: (withEach mark mark text ++ mark :: behind)) = some (text, behind) ↔
      behind.head? ≠ some mark := by
  rw [token, if_pos rfl, tokenFrom_withEach]
  constructor
  · intro found further
    obtain ⟨rest, rfl⟩ := List.head?_eq_some_iff.mp further
    -- the two marks are read as one, with which the text goes on
    rw [tokenFrom_pair, Option.map_map] at found
    obtain ⟨⟨later, _⟩, _, same⟩ := Option.map_eq_some_iff.mp found
    have longer : text ++ mark :: later = text := congrArg Prod.fst same
    exact List.cons_ne_nil _ _ (List.append_right_eq_self.mp longer)
  · intro apart
    rw [tokenFrom_close apart]
    exact congrArg (fun text => some (text, behind)) (List.append_nil text)

end

theorem toList_quote (s : String) : (quote s).toList = '"' :: (withEach '"' '"' s.toList ++ ['"']) := by
  rw [quote, String.toList_append, String.toList_append, toList_doubled]
  rfl

theorem token_quote_iff (identifier : String) (behind : List Char) :
    token '"' ((quote identifier).toList ++ behind) = some (identifier.toList, behind) ↔
      behind.head? ≠ some '"' := by
  rw [toList_quote, List.cons_append, List.append_assoc]
  exact token_withEach_iff _ _

theorem token_literal_iff (text : String) (behind : List Char) :
    token '\'' ((literal text).toList ++ behind) = some (text.toList, behind) ↔
      behind.head? ≠ some '\'' := by
  rw [toList_literal, List.cons_append, List.append_assoc]
  exact token_withEach_iff _ _

/-- A reference is read as the two names that it was made of. -/
theorem reference?_tableRef (project dataset table : String) :
    reference? (spelling.tableRef project dataset table).toList = some (dataset.toList, table.toList) := by
  have text : (spelling.tableRef project dataset table).toList =
      (quote dataset).toList ++ '.' :: ((quote table).toList ++ []) := by
    have written : spelling.tableRef project dataset table = quote dataset ++ "." ++ quote table := rfl
    have dot : ".".toList = ['.'] := rfl
    rw [written, String.toList_append, String.toList_append, dot, List.append_nil, List.append_assoc,
      List.singleton_append]
  have first := (token_quote_iff dataset ('.' :: ((quote table).toList ++ []))).mpr (by simp)
  have second := (token_quote_iff table []).mpr (by simp)
  rw [text, reference?, first]
  simp only [Option.bind_eq_bind, Option.bind_some]
  rw [second]
  rfl

/-- What is written for DuckDB between marks is read back exactly, and no more than that, wherever no
further mark follows. A reference is read as the names of its dataset and its table, so no two pairs of
names have one reference. -/
theorem marks_read_back :
    (∀ identifier rest : String,
      token '"' (quote identifier ++ rest).toList = some (identifier.toList, rest.toList) ↔
        rest.toList.head? ≠ some '"') ∧
    (∀ text rest : String,
      token '\'' (literal text ++ rest).toList = some (text.toList, rest.toList) ↔
        rest.toList.head? ≠ some '\'') ∧
    (∀ project dataset table : String,
      reference? (spelling.tableRef project dataset table).toList =
        some (dataset.toList, table.toList)) ∧
    ∀ project dataset table project' dataset' table' : String,
      spelling.tableRef project dataset table = spelling.tableRef project' dataset' table' ↔
        dataset = dataset' ∧ table = table' := by
  refine ⟨fun identifier rest => ?_, fun text rest => ?_, reference?_tableRef, ?_⟩
  · rw [String.toList_append]
    exact token_quote_iff identifier rest.toList
  · rw [String.toList_append]
    exact token_literal_iff text rest.toList
  · intro project dataset table project' dataset' table'
    constructor
    · intro same
      have names := reference?_tableRef project dataset table
      rw [same, reference?_tableRef, Option.some.injEq, Prod.mk.injEq] at names
      exact ⟨String.toList_inj.mp names.1.symm, String.toList_inj.mp names.2.symm⟩
    · rintro ⟨rfl, rfl⟩
      rfl

example : token '"' (quote "\"a\"\"" ++ ".").toList = some ("\"a\"\"".toList, ['.']) := by decide

end ChangelogViews.Sql.DuckDb
