import ChangelogViews.Sql.Dialects

/-!
# Filling in templates

A template is filled in by replacing the places in its text, each where it stands in the template. What is
put in is not looked at again, even if it reads like a place (`render_eq_filled`).
-/

namespace ChangelogViews.Sql

/-- The characters of a text with each brace doubled, as braces stand in a template beside its places. -/
def bracesDoubled : List Char → List Char
  | '\x7b' :: rest => '\x7b' :: '\x7b' :: bracesDoubled rest
  | '\x7d' :: rest => '\x7d' :: '\x7d' :: bracesDoubled rest
  | c :: rest => c :: bracesDoubled rest
  | [] => []

/-- A piece as it is written in the text of a template. -/
def Piece.written : Piece → List Char
  | .text s => bracesDoubled s.toList
  | .source => "\x7bsource\x7d".toList
  | .path => "\x7bpath\x7d".toList

/-- The text of a template. -/
def Template.written (t : Template) : String := String.ofList (t.flatMap Piece.written)

/-- The text of a template with source and path put in, read from the left. Reading goes on behind a place
and not in what was put there. -/
def filledIn (source path : List Char) : List Char → List Char
  | '\x7b' :: '\x7b' :: rest => '\x7b' :: filledIn source path rest
  | '\x7d' :: '\x7d' :: rest => '\x7d' :: filledIn source path rest
  | '\x7b' :: 's' :: 'o' :: 'u' :: 'r' :: 'c' :: 'e' :: '\x7d' :: rest =>
    source ++ filledIn source path rest
  | '\x7b' :: 'p' :: 'a' :: 't' :: 'h' :: '\x7d' :: rest => path ++ filledIn source path rest
  | c :: rest => c :: filledIn source path rest
  | [] => []

/-- The text of a template with source and path put in for the places in it. -/
def filled (source path text : String) : String :=
  String.ofList (filledIn source.toList path.toList text.toList)

theorem filledIn_bracesDoubled (source path text rest : List Char) :
    filledIn source path (bracesDoubled text ++ rest) = text ++ filledIn source path rest := by
  induction text using bracesDoubled.induct with
  | case1 later ih => exact congrArg (List.cons _) ih
  | case2 later ih => exact congrArg (List.cons _) ih
  | case3 c later noOpen noClose ih =>
    rw [bracesDoubled, List.cons_append, filledIn, ih]
    · rfl
    -- all other readings begin with a brace
    all_goals grind
  | case4 => rfl

theorem render_cons (p : Piece) (t : Template) (source path : String) :
    Template.render (p :: t) source path = p.render source path ++ Template.render t source path := by
  simp [Template.render, String.join_cons]

/-- Filling in a template replaces the places in its text. -/
theorem render_eq_filled (t : Template) (source path : String) :
    t.render source path = filled source path t.written := by
  rw [filled, Template.written, ← String.toList_inj, String.toList_ofList, String.toList_ofList]
  induction t with
  | nil => rfl
  | cons p rest ih =>
    rw [render_cons, String.toList_append, ih, List.flatMap_cons]
    cases p with
    | source => rfl
    | path => rfl
    | text s => exact (filledIn_bracesDoubled _ _ s.toList _).symm

/-- A template has no braces beside those of its places. -/
def Template.plain (t : Template) : Bool :=
  t.all fun
    | .text s => s.toList.all fun c => c != '\x7b' && c != '\x7d'
    | _ => true

theorem bracesDoubled_plain {text : List Char}
    (plain : (text.all fun c => c != '\x7b' && c != '\x7d') = true) : bracesDoubled text = text := by
  induction text with
  | nil => rfl
  | cons c rest ih =>
    obtain ⟨own, others⟩ := Bool.and_eq_true_iff.mp plain
    rw [bracesDoubled, ih others]
    all_goals
      rintro rfl
      cases own

theorem written_eq_pattern {t : Template} (plain : t.plain = true) : t.written = t.pattern := by
  rw [Template.written, Template.pattern, ← String.toList_inj, String.toList_ofList]
  induction t with
  | nil => rfl
  | cons p rest ih =>
    obtain ⟨own, others⟩ := Bool.and_eq_true_iff.mp plain
    rw [render_cons, String.toList_append, ← ih others, List.flatMap_cons]
    cases p with
    | source => rfl
    | path => rfl
    | text s => exact congrArg (· ++ _) (bracesDoubled_plain own)

theorem plain_of_mem {d : Dialect} (shipped : d ∈ dialects) {kind : FieldKind} {rules : List ColumnRule}
    (listed : d.rules kind = some rules) : ∀ rule ∈ rules, rule.template.plain = true := by
  have each : ∀ d ∈ dialects, ∀ kind ∈ FieldKind.all,
      ∀ rule ∈ (d.rules kind).getD [], rule.template.plain = true := by decide +kernel
  have own := each d shipped kind (FieldKind.mem_all kind)
  rwa [listed] at own

/-- The templates that a shipped dialect resolves a type to are written as their patterns. -/
theorem written_of_resolved {d : Dialect} (shipped : d ∈ dialects) {subject : TypeSubject}
    {rules : List ColumnRule} (resolved : d.resolve subject = .ok rules) :
    ∀ rule ∈ rules, rule.template.written = rule.template.pattern := by
  have listed : ∃ kind, d.rules kind = some rules := by
    unfold Dialect.resolve at resolved
    grind
  obtain ⟨kind, listed⟩ := listed
  exact fun rule inside => written_eq_pattern (plain_of_mem shipped listed rule inside)

end ChangelogViews.Sql
