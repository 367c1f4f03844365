import ChangelogViews.Sql.BigQuery
import ChangelogViews.Sql.ViewQuery

/-!
# Escapes

BigQuery reads an identifier or a text between two marks with escapes in it. A backslash begins an
escape wherever it stands, and the first mark outside of escapes ends the token. What is written for it
escapes less than that: an identifier is read back as it was unless it holds a backslash, and a text
unless it holds a backslash or a mark (`tokens_read_back`, `unescaped_not_read_back`).
-/

namespace ChangelogViews.Sql

/-- A text with a further character in front of each mark in it. -/
def withEach (escape mark : Char) (text : List Char) : List Char :=
  text.flatMap fun c => if c = mark then [escape, c] else [c]

theorem withEach_cons (escape mark c : Char) (text : List Char) :
    withEach escape mark (c :: text) =
      (if c = mark then [escape, c] else [c]) ++ withEach escape mark text := rfl

/-- Without a mark nothing is added. -/
theorem withEach_eq_self (escape : Char) {mark : Char} {text : List Char} (noMark : mark ∉ text) :
    withEach escape mark text = text := by
  induction text with
  | nil => rfl
  | cons c rest ih =>
    rw [withEach_cons, if_neg (List.ne_of_not_mem_cons noMark).symm,
      ih (List.not_mem_of_not_mem_cons noMark)]
    rfl

theorem toList_doubled (mark : Char) (s : String) :
    (doubled mark s).toList = withEach mark mark s.toList := by
  have same : (fun c => if c = mark then [c, c] else [c]) =
      fun c => if c = mark then [mark, c] else [c] := by
    funext c
    split
    · next isMark => rw [isMark]
    · rfl
  rw [doubled, String.toList_ofList, same]
  rfl

theorem toList_literal (s : String) :
    (literal s).toList = '\'' :: (withEach '\'' '\'' s.toList ++ ['\'']) := by
  rw [literal, String.toList_append, String.toList_append, toList_doubled]
  rfl

namespace BigQuery

theorem toList_quote (s : String) : (quote s).toList = mark :: (withEach '\\' mark s.toList ++ [mark]) := by
  rw [quote, String.toList_ofList]
  rfl

/-- The value of a digit. -/
def digit? (base : Nat) (c : Char) : Option Nat :=
  let value :=
    if '0' ≤ c ∧ c ≤ '9' then c.toNat - '0'.toNat
    else if 'a' ≤ c ∧ c ≤ 'f' then c.toNat - 'a'.toNat + 10
    else if 'A' ≤ c ∧ c ≤ 'F' then c.toNat - 'A'.toNat + 10
    else base
  if value < base then some value else none

/-- The character whose code point the digits write. -/
def codePoint? (base : Nat) (digits : List Char) : Option Char := do
  let code ← digits.foldlM (fun n c => (digit? base c).map (n * base + ·)) 0
  if code.isValidChar then some (Char.ofNat code) else none

/-- What the letters and signs behind a backslash stand for. -/
def signs : List (Char × Char) :=
  [('a', '\x07'), ('b', '\x08'), ('f', '\x0c'), ('n', '\n'), ('r', '\r'), ('t', '\t'), ('v', '\x0b'),
   ('\\', '\\'), ('?', '?'), ('"', '"'), ('\'', '\''), (mark, mark)]

/-- How many characters an escape has behind its backslash, which is told by the first of them. -/
def escapeLength (c : Char) : Nat :=
  if c = 'x' ∨ c = 'X' then 3
  else if c = 'u' then 5
  else if c = 'U' then 9
  else if (digit? 8 c).isSome then 3
  else 1

/-- The character that an escape stands for, if it is one. -/
def escaped? : List Char → Option Char
  | [] => none
  | [sign] => signs.lookup sign
  | first :: digits =>
    if (digit? 8 first).isSome then codePoint? 8 (first :: digits) else codePoint? 16 digits

/-- Where a token is read: in its text, or in an escape of which some characters were seen. -/
inductive Reading where
  | text
  | escape (seen : List Char)

/-- The text of a token up to its closing mark, and what is behind the token. -/
def tokenFrom (mark : Char) : Reading → List Char → Option (List Char × List Char)
  | _, [] => none
  | .text, c :: rest =>
    if c = mark then some ([], rest)
    else if c = '\\' then tokenFrom mark (.escape []) rest
    else (tokenFrom mark .text rest).map fun (text, behind) => (c :: text, behind)
  | .escape seen, c :: rest =>
    let seen := seen ++ [c]
    if seen.length < escapeLength (seen.headD c) then tokenFrom mark (.escape seen) rest
    else
      match escaped? seen with
      | some sign => (tokenFrom mark .text rest).map fun (text, behind) => (sign :: text, behind)
      | none => none

/-- The text of the token between marks that stands at the front, and what is behind the token. -/
def token (mark : Char) : List Char → Option (List Char × List Char)
  | c :: rest => if c = mark then tokenFrom mark .text rest else none
  | [] => none

section
variable {mark : Char}

theorem tokenFrom_close (rest : List Char) : tokenFrom mark .text (mark :: rest) = some ([], rest) := by
  rw [tokenFrom, if_pos rfl]

theorem tokenFrom_plain {c : Char} (noMark : c ≠ mark) (plain : c ≠ '\\') (rest : List Char) :
    tokenFrom mark .text (c :: rest) =
      (tokenFrom mark .text rest).map fun (text, behind) => (c :: text, behind) := by
  rw [tokenFrom, if_neg noMark, if_neg plain]

theorem tokenFrom_sign (proper : mark ≠ '\\') {c sign : Char} (short : escapeLength c = 1)
    (stands : signs.lookup c = some sign) (rest : List Char) :
    tokenFrom mark .text ('\\' :: c :: rest) =
      (tokenFrom mark .text rest).map fun (text, behind) => (sign :: text, behind) := by
  rw [tokenFrom, if_neg proper.symm, if_pos rfl, tokenFrom]
  simp [short, escaped?, stands]

/-- A text without marks and backslashes is read as it is. -/
theorem tokenFrom_append {text : List Char} (noMark : mark ∉ text) (plain : '\\' ∉ text)
    (behind : List Char) : tokenFrom mark .text (text ++ mark :: behind) = some (text, behind) := by
  induction text with
  | nil => exact tokenFrom_close behind
  | cons c rest ih =>
    rw [List.cons_append, tokenFrom_plain (List.ne_of_not_mem_cons noMark).symm
      (List.ne_of_not_mem_cons plain).symm, ih (List.not_mem_of_not_mem_cons noMark)
      (List.not_mem_of_not_mem_cons plain)]
    rfl

/-- How many characters it takes at least to write one in a token. Marks and backslashes have to be
escaped. -/
def cost (mark c : Char) : Nat := if c = mark ∨ c = '\\' then 2 else 1

theorem cost_le (mark c : Char) : cost mark c ≤ 2 := by
  unfold cost
  split <;> omega

def costs (mark : Char) : List Char → Nat
  | [] => 0
  | c :: text => cost mark c + costs mark text

/-- A token is no shorter than what its text costs. The backslash of an escape that was begun counts. -/
theorem costs_of_tokenFrom (cs : List Char) :
    (∀ text behind, tokenFrom mark .text cs = some (text, behind) →
      costs mark text + 1 + behind.length ≤ cs.length) ∧
    ∀ seen text behind, tokenFrom mark (.escape seen) cs = some (text, behind) →
      costs mark text + 1 + behind.length ≤ cs.length + 1 := by
  induction cs with
  | nil =>
    constructor
    · intro text behind found
      cases found
    · intro seen text behind found
      cases found
  | cons c rest ih =>
    obtain ⟨inText, inEscape⟩ := ih
    constructor
    · intro text behind found
      rw [tokenFrom] at found
      split at found
      · cases found
        simp only [costs, List.length_cons]
        omega
      · next noMark =>
        split at found
        · have bound := inEscape _ _ _ found
          rw [List.length_cons]
          omega
        · next plain =>
          obtain ⟨⟨later, _⟩, read, same⟩ := Option.map_eq_some_iff.mp found
          cases same
          have bound := inText _ _ read
          simp only [costs, cost, if_neg (not_or.mpr ⟨noMark, plain⟩), List.length_cons]
          omega
    · intro seen text behind found
      rw [tokenFrom] at found
      simp only at found
      split at found
      · have bound := inEscape _ _ _ found
        rw [List.length_cons]
        omega
      · split at found
        · next sign _ =>
          obtain ⟨⟨later, _⟩, read, same⟩ := Option.map_eq_some_iff.mp found
          cases same
          have bound := inText _ _ read
          have own := cost_le mark sign
          simp only [costs, List.length_cons]
          omega
        · cases found

/-- What is written with an escape for its marks alone is too short where a backslash is in it. -/
theorem length_withEach_lt (escape : Char) (proper : mark ≠ '\\') {text : List Char}
    (inside : '\\' ∈ text) : (withEach escape mark text).length < costs mark text := by
  have one (c : Char) : (if c = mark then [escape, c] else [c]).length ≤ cost mark c := by
    unfold cost
    split
    · next isMark => rw [if_pos (.inl isMark)]; exact Nat.le_refl 2
    · split <;> simp
  have all (text : List Char) : (withEach escape mark text).length ≤ costs mark text := by
    induction text with
    | nil => exact Nat.le_refl 0
    | cons c rest ih =>
      have own := one c
      rw [costs, withEach_cons, List.length_append]
      exact Nat.add_le_add own ih
  induction text with
  | nil => cases inside
  | cons c rest ih =>
    rw [costs, withEach_cons, List.length_append]
    rcases List.mem_cons.mp inside with rfl | inside
    · have later := all rest
      rw [if_neg proper.symm, cost, if_pos (.inr rfl), List.length_singleton]
      omega
    · exact Nat.add_lt_add_of_le_of_lt (one c) (ih inside)

/-- No text with a backslash is read back if no more than its marks are escaped. -/
theorem no_backslash_of_token (escape : Char) (proper : mark ≠ '\\') {text behind : List Char}
    (found : tokenFrom mark .text (withEach escape mark text ++ mark :: behind) =
      some (text, behind)) : '\\' ∉ text := by
  intro inside
  have short := length_withEach_lt escape proper inside
  have bound := (costs_of_tokenFrom _).1 _ _ found
  rw [List.length_append, List.length_cons] at bound
  omega

end

/-- An identifier is read back exactly if it holds no backslash. -/
theorem token_quote_iff (identifier : String) (behind : List Char) :
    token mark ((quote identifier).toList ++ behind) = some (identifier.toList, behind) ↔
      '\\' ∉ identifier.toList := by
  rw [toList_quote, List.cons_append, List.append_assoc, token, if_pos rfl]
  constructor
  · exact no_backslash_of_token '\\' (by decide)
  · generalize identifier.toList = text
    intro plain
    induction text with
    | nil => exact tokenFrom_close behind
    | cons c rest ih =>
      have later := ih (List.not_mem_of_not_mem_cons plain)
      rw [withEach_cons, List.append_assoc]
      by_cases isMark : c = mark
      · rw [if_pos isMark, isMark]
        exact (tokenFrom_sign (by decide) (by decide) rfl _).trans (congrArg _ later)
      · rw [if_neg isMark]
        exact (tokenFrom_plain isMark (List.ne_of_not_mem_cons plain).symm _).trans (congrArg _ later)

/-- A text literal is read back exactly if the text holds neither a mark nor a backslash. -/
theorem token_literal_iff (text : String) (behind : List Char) :
    token '\'' ((literal text).toList ++ behind) = some (text.toList, behind) ↔
      '\'' ∉ text.toList ∧ '\\' ∉ text.toList := by
  rw [toList_literal, List.cons_append, List.append_assoc, token, if_pos rfl]
  constructor
  · intro found
    have plain := no_backslash_of_token '\'' (by decide) found
    refine ⟨fun inside => ?_, plain⟩
    -- the first mark of the text ends the token, although it was written twice
    obtain ⟨before, after, split, noMark⟩ := List.eq_append_cons_of_mem inside
    rw [split] at found plain
    rw [withEach, List.flatMap_append, ← withEach, ← withEach, withEach_eq_self _ noMark, withEach_cons,
      if_pos rfl, List.append_assoc, List.append_assoc] at found
    have ends := tokenFrom_append noMark (fun slash => plain (List.mem_append_left _ slash))
      ('\'' :: (withEach '\'' '\'' after ++ '\'' :: behind))
    have same := congrArg Prod.fst (Option.some.inj (ends.symm.trans found))
    exact List.cons_ne_nil _ _ (List.self_eq_append_right.mp same)
  · rintro ⟨noMark, plain⟩
    rw [withEach_eq_self _ noMark]
    exact tokenFrom_append noMark plain behind

/-- The text of a snapshot up to the operation that marks a deletion. -/
def snapshotHead (spelling : Spelling) (changelog : String) (layout : ChangelogLayout) : String :=
  let q := spelling.quote
  let name := q "ranked"
  "\n".intercalate
    (["SELECT", Select.renderItems q (layout.snapshotColumns.map .column), "FROM (",
      Text.indent margin ((rankedWrites spelling changelog layout).render q), s!") AS {name}",
      s!"WHERE {q rankColumn} = 1"] ++ [s!"{margin}AND {q layout.operation} IS DISTINCT FROM "])

private theorem intercalate_last (between : String) (lines : List String) (start rest : String) :
    between.intercalate (lines ++ [start ++ rest]) = between.intercalate (lines ++ [start]) ++ rest := by
  by_cases none : lines = []
  · rw [none, List.nil_append, List.nil_append, String.intercalate_singleton,
      String.intercalate_singleton]
  · simp only [String.intercalate_append_of_ne_nil none (List.cons_ne_nil _ _),
      String.intercalate_singleton, String.append_assoc]

/-- The text of a snapshot ends in the operation that marks a deletion, written as a literal. -/
theorem snapshotQuery_render (spelling : Spelling) (changelog : String) (layout : ChangelogLayout) :
    (snapshotQuery spelling changelog layout).render spelling.quote =
      snapshotHead spelling changelog layout ++ literal layout.deleteOperation := by
  rw [snapshotQuery, Select.render]
  exact intercalate_last "\n" ["SELECT", _, "FROM (", _, _, _] _ (literal layout.deleteOperation)

/-- What is written for BigQuery between marks is read back exactly if it holds nothing that should have
been escaped and is not: in an identifier no backslash, and in the operation that marks a deletion no
backslash and no mark. -/
theorem tokens_read_back (identifier changelog : String) (layout : ChangelogLayout) :
    (∀ behind, token mark ((quote identifier).toList ++ behind) = some (identifier.toList, behind) ↔
      '\\' ∉ identifier.toList) ∧
    ∃ before, ∀ operation,
      (snapshotQuery spelling changelog { layout with deleteOperation := operation }).render quote =
        before ++ literal operation ∧
      ∀ behind, token '\'' ((literal operation).toList ++ behind) = some (operation.toList, behind) ↔
        '\'' ∉ operation.toList ∧ '\\' ∉ operation.toList := by
  refine ⟨token_quote_iff identifier, snapshotHead spelling changelog layout, fun operation => ?_⟩
  refine ⟨?_, token_literal_iff operation⟩
  exact snapshotQuery_render spelling changelog { layout with deleteOperation := operation }

/-- An identifier that ends in a backslash is never closed, and a literal ends at the first mark of its
text. -/
theorem unescaped_not_read_back :
    token mark (quote "a\\").toList = none ∧
    token '\'' (literal "it's").toList = some (['i', 't'], ['\'', 's', '\'']) := by decide

end BigQuery
end ChangelogViews.Sql
