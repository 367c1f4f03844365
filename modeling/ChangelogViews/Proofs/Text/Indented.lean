import Mathlib.Data.List.Basic
import Mathlib.Logic.Function.Iterate
import ChangelogViews.Text.Lines

/-!
# Indented texts

A text is indented line by line, and a line feed ends a line whatever is around it. A text that is put
together with line feeds is therefore indented part by part (`indent_intercalate`), and a list whose
items end in something to see item by item (`indent_list`). A text between two characters to be seen is
moved as it is exactly if no line ends in it (`indentLines_eq_iff`).
-/

namespace ChangelogViews.Text

theorem isBlank_of_isLineEnd {c : Char} (ends : isLineEnd c = true) : isBlank c = true := by
  simp only [isLineEnd, isBlank, inRanges, lineEndRanges, blankRanges, List.any_cons, List.any_nil,
    Bool.or_eq_true, Bool.and_eq_true, Nat.ble_eq, Bool.false_eq_true, or_false] at ends ⊢
  omega

/-- A line that goes on behind a start. -/
def behindStart (start : List Char) : List (List Char) → List (List Char)
  | [] => if start = [] then [] else [start]
  | line :: lines => (start ++ line) :: lines

theorem behindStart_nil (lines : List (List Char)) : behindStart [] lines = lines := by
  cases lines <;> rfl

theorem behindStart_pushFirst (start : List Char) (c : Char) (lines : List (List Char)) :
    behindStart start (pushFirst c lines) = behindStart (start ++ [c]) lines := by
  cases lines with
  | nil => simp [behindStart, pushFirst]
  | cons line lines => simp [behindStart, pushFirst]

/-- Unless a carriage return and a line feed end it together, a line ends with the first character that
ends one. -/
theorem linesOf_cons {c : Char} {rest : List Char} (alone : ∀ later, c = '\r' → rest ≠ '\n' :: later) :
    linesOf (c :: rest) = if isLineEnd c then [c] :: linesOf rest else pushFirst c (linesOf rest) :=
  linesOf.eq_3 c rest alone

theorem linesOf_feed (rest : List Char) : linesOf ('\n' :: rest) = ['\n'] :: linesOf rest := by
  rw [linesOf_cons fun _ other => absurd other (by decide)]
  rfl

/-- The lines of a text moved to the right. -/
def indentLines (margin : List Char) (lines : List (List Char)) : List Char :=
  lines.flatMap (indentLine margin)

theorem indentLines_nil (margin : List Char) : indentLines margin [] = [] := rfl

theorem indentLines_cons (margin line : List Char) (lines : List (List Char)) :
    indentLines margin (line :: lines) = indentLine margin line ++ indentLines margin lines :=
  List.flatMap_cons

theorem indent_eq (margin s : String) :
    indent margin s = String.ofList (indentLines margin.toList (linesOf s.toList)) := rfl

/-- A blank at the end of a line does not make it a line to be moved. -/
theorem indentLine_append {line blanks : List Char} (margin : List Char)
    (blank : blanks.all isBlank = true) :
    indentLine margin (line ++ blanks) = indentLine margin line ++ blanks := by
  unfold indentLine
  rw [List.all_append, blank, Bool.and_true]
  split
  · rfl
  · rw [List.append_assoc]

/-- Where the end of a text can be moved on its own, be it alone or behind a carriage return, it can be
behind anything. -/
theorem indentLines_behind {margin x first later : List Char}
    (own : ∀ start, indentLines margin (behindStart start (linesOf x)) =
      indentLines margin (behindStart start (linesOf first)) ++ later)
    (pair : ∀ start, indentLines margin (behindStart start (linesOf ('\r' :: x))) =
      indentLines margin (behindStart start (linesOf ('\r' :: first))) ++ later)
    (start a : List Char) :
    indentLines margin (behindStart start (linesOf (a ++ x))) =
      indentLines margin (behindStart start (linesOf (a ++ first))) ++ later := by
  induction a using linesOf.induct generalizing start with
  | case1 => exact own start
  | case2 rest ih =>
    have below := ih []
    rw [behindStart_nil, behindStart_nil] at below
    simp only [List.cons_append, linesOf, behindStart, indentLines_cons]
    rw [below, List.append_assoc]
  | case3 c rest alone ends ih =>
    by_cases last : c = '\r' ∧ rest = []
    · rw [last.1, last.2]
      exact pair start
    · have more : ∀ y later, c = '\r' → rest ++ y ≠ '\n' :: later := by
        rintro y later rfl same
        cases rest with
        | nil => exact last ⟨rfl, rfl⟩
        | cons d rest => exact alone rest rfl (by rw [(List.cons.inj same).1])
      have below := ih []
      rw [behindStart_nil, behindStart_nil] at below
      rw [List.cons_append, List.cons_append, linesOf_cons (more x), linesOf_cons (more first), if_pos ends,
        if_pos ends, behindStart, behindStart, indentLines_cons, indentLines_cons, below,
        List.append_assoc]
  | case4 c rest alone inside ih =>
    have more : ∀ y later, c = '\r' → rest ++ y ≠ '\n' :: later := by
      rintro y later rfl
      exact absurd (by decide) inside
    rw [List.cons_append, List.cons_append, linesOf_cons (more x), linesOf_cons (more first), if_neg inside,
      if_neg inside, behindStart_pushFirst, behindStart_pushFirst]
    exact ih (start ++ [c])

/-- A line feed ends a line, so what is before it and what is behind it are moved on their own. -/
theorem indentLines_feed (margin a b : List Char) :
    indentLines margin (linesOf (a ++ '\n' :: b)) =
      indentLines margin (linesOf a) ++ '\n' :: indentLines margin (linesOf b) := by
  have ended (line : List Char) : indentLine margin (line ++ ['\n']) = indentLine margin line ++ ['\n'] :=
    indentLine_append margin (by decide)
  have own (start : List Char) : indentLines margin (behindStart start (linesOf ('\n' :: b))) =
      indentLines margin (behindStart start (linesOf [])) ++
        '\n' :: indentLines margin (linesOf b) := by
    rw [linesOf_feed, behindStart, indentLines_cons, ended, List.append_assoc, linesOf, behindStart]
    split
    · next none => rw [none]; rfl
    · rw [indentLines_cons, indentLines_nil, List.append_nil]; rfl
  have pair (start : List Char) :
      indentLines margin (behindStart start (linesOf ('\r' :: '\n' :: b))) =
        indentLines margin (behindStart start (linesOf ['\r'])) ++
          '\n' :: indentLines margin (linesOf b) := by
    -- the line feed belongs to the carriage return before it
    have together : linesOf ('\r' :: '\n' :: b) = (['\r'] ++ ['\n']) :: linesOf b := linesOf.eq_2 b
    have alone : linesOf ['\r'] = [['\r']] := rfl
    rw [together, alone, behindStart, behindStart, indentLines_cons, indentLines_cons,
      ← List.append_assoc, ended, indentLines_nil, List.append_nil, List.append_assoc]
    rfl
  have parts := indentLines_behind own pair [] a
  rwa [behindStart_nil, behindStart_nil, List.append_nil] at parts

/-- What stands before and behind a line feed is indented on its own. -/
theorem indent_feed (margin a b : String) :
    indent margin (a ++ "\n" ++ b) = indent margin a ++ "\n" ++ indent margin b := by
  have parts := indentLines_feed margin.toList a.toList b.toList
  rw [← String.toList_inj]
  simp only [indent_eq, String.toList_append, String.toList_ofList, List.append_assoc]
  exact parts

/-- Parts with line feeds between them are indented one by one. -/
theorem indent_intercalate (margin : String) (parts : List String) :
    indent margin ("\n".intercalate parts) = "\n".intercalate (parts.map (indent margin)) := by
  match parts with
  | [] => rfl
  | [part] => rw [List.map_singleton, String.intercalate_singleton, String.intercalate_singleton]
  | part :: second :: rest =>
    rw [String.intercalate_cons_cons, indent_feed, indent_intercalate margin (second :: rest),
      List.map_cons, List.map_cons, List.map_cons, String.intercalate_cons_cons]

/-- The same holds where they are indented again and again. -/
theorem iterate_indent_intercalate (margin : String) (steps : Nat) (parts : List String) :
    (indent margin)^[steps] ("\n".intercalate parts) =
      "\n".intercalate (parts.map (indent margin)^[steps]) := by
  induction steps with
  | zero => simp
  | succ steps ih =>
    rw [Function.iterate_succ_apply', ih, indent_intercalate, List.map_map]
    exact congrArg _ (List.map_congr_left fun part _ => (Function.iterate_succ_apply' _ _ _).symm)

/-- The text ends in something to see. -/
def EndsVisibly (s : String) : Prop := ∃ c ∈ s.toList.getLast?, isBlank c = false

theorem EndsVisibly.append {y : String} (ends : EndsVisibly y) (x : String) : EndsVisibly (x ++ y) := by
  obtain ⟨c, last, visible⟩ := ends
  refine ⟨c, ?_, visible⟩
  rw [String.toList_append, List.getLast?_append, Option.mem_def.mp last]
  rfl

theorem isLineEnd_of_visible {c : Char} (visible : isBlank c = false) : isLineEnd c = false := by
  cases ends : isLineEnd c with
  | false => rfl
  | true => rw [isBlank_of_isLineEnd ends] at visible; cases visible

theorem forall_not_lineEnd {cs : List Char} (all : cs.all (!isLineEnd ·) = true) :
    ∀ c ∈ cs, isLineEnd c = false := by
  intro c among
  simpa using List.all_eq_true.mp all c among

theorem pushFirst_behindStart (c : Char) (start : List Char) (lines : List (List Char)) :
    pushFirst c (behindStart start lines) = behindStart (c :: start) lines := by
  cases lines with
  | nil => cases start <;> rfl
  | cons line lines => rfl

/-- A text in which no line ends begins the first line. -/
theorem linesOf_append {start : List Char} (inside : ∀ c ∈ start, isLineEnd c = false)
    (rest : List Char) : linesOf (start ++ rest) = behindStart start (linesOf rest) := by
  induction start with
  | nil => exact (behindStart_nil _).symm
  | cons c start ih =>
    have goesOn : isLineEnd c = false := inside c List.mem_cons_self
    have alone : ∀ later, c = '\r' → start ++ rest ≠ '\n' :: later := by
      rintro later rfl
      cases goesOn
    rw [List.cons_append, linesOf_cons alone, goesOn,
      ih fun d among => inside d (List.mem_cons_of_mem _ among)]
    exact pushFirst_behindStart c start _

theorem indentLine_visible {line : List Char} {c : Char} (margin : List Char) (among : c ∈ line)
    (visible : isBlank c = false) : indentLine margin line = margin ++ line := by
  unfold indentLine
  rw [if_neg]
  intro blank
  rw [List.all_eq_true.mp blank c among] at visible
  cases visible

/-- Behind something to see a line goes on without being moved. -/
theorem indentLines_append {c : Char} (visible : isBlank c = false) {s : List Char}
    (inside : ∀ d ∈ s, isLineEnd d = false) (margin a : List Char) :
    indentLines margin (linesOf (a ++ c :: s)) = indentLines margin (linesOf (a ++ [c])) ++ s := by
  have goesOn := isLineEnd_of_visible visible
  have own (start : List Char) : indentLines margin (behindStart start (linesOf (c :: s))) =
      indentLines margin (behindStart start (linesOf [c])) ++ s := by
    have line (s : List Char) (inside : ∀ d ∈ s, isLineEnd d = false) : linesOf (c :: s) = [c :: s] := by
      have whole : linesOf (c :: s ++ []) = behindStart (c :: s) (linesOf []) :=
        linesOf_append (List.forall_mem_cons.mpr ⟨goesOn, inside⟩) []
      rwa [List.append_nil] at whole
    rw [line s inside, line [] fun _ none => absurd none List.not_mem_nil]
    simp only [behindStart, indentLines_cons, indentLines_nil, List.append_nil]
    rw [indentLine_visible margin (List.mem_append_right _ List.mem_cons_self) visible,
      indentLine_visible margin (List.mem_append_right _ List.mem_cons_self) visible]
    simp
  have pair (start : List Char) : indentLines margin (behindStart start (linesOf ('\r' :: c :: s))) =
      indentLines margin (behindStart start (linesOf ['\r', c])) ++ s := by
    have alone (s later : List Char) : c :: s ≠ '\n' :: later := by
      intro same
      rw [(List.cons.inj same).1] at goesOn
      cases goesOn
    have below := own []
    rw [behindStart_nil, behindStart_nil] at below
    rw [linesOf_cons fun later _ => alone s later, linesOf_cons fun later _ => alone [] later]
    simp only [if_pos (show isLineEnd '\r' = true from rfl), behindStart, indentLines_cons]
    rw [below, List.append_assoc]
  have parts := indentLines_behind own pair [] a
  rwa [behindStart_nil, behindStart_nil] at parts

theorem indent_append {x s : String} (margin : String) (ends : EndsVisibly x)
    (inside : ∀ d ∈ s.toList, isLineEnd d = false) : indent margin (x ++ s) = indent margin x ++ s := by
  obtain ⟨c, last, visible⟩ := ends
  obtain ⟨a, split⟩ := List.getLast?_eq_some_iff.mp last
  have parts := indentLines_append visible inside margin.toList a
  rw [← String.toList_inj]
  simp only [indent_eq, String.toList_append, String.toList_ofList, split, List.append_assoc]
  exact parts

/-- Lines of a list that end in something to see are indented one by one, with the commas behind
them. -/
theorem indent_list (margin : String) {parts : List String} (ends : ∀ part ∈ parts, EndsVisibly part) :
    indent margin (",\n".intercalate parts) = ",\n".intercalate (parts.map (indent margin)) := by
  match parts with
  | [] => rfl
  | [part] => rw [List.map_singleton, String.intercalate_singleton, String.intercalate_singleton]
  | part :: second :: rest =>
    have comma (a b : String) : a ++ ",\n" ++ b = a ++ "," ++ "\n" ++ b := by
      have together : ",\n" = "," ++ "\n" := rfl
      rw [together, String.append_assoc, String.append_assoc, String.append_assoc, String.append_assoc]
    have later : indent margin (",\n".intercalate (second :: rest)) =
        ",\n".intercalate ((second :: rest).map (indent margin)) :=
      indent_list margin fun other among => ends other (List.mem_cons_of_mem _ among)
    rw [String.intercalate_cons_cons, comma, indent_feed,
      indent_append margin (ends part List.mem_cons_self) (forall_not_lineEnd rfl), later, ← comma, List.map_cons, List.map_cons, List.map_cons,
      String.intercalate_cons_cons]

theorem flatten_linesOf (cs : List Char) : (linesOf cs).flatten = cs := by
  have pushed (c : Char) (lines : List (List Char)) :
      (pushFirst c lines).flatten = c :: lines.flatten := by cases lines <;> rfl
  induction cs using linesOf.induct with
  | case1 => rfl
  | case2 rest ih => rw [linesOf, List.flatten_cons, ih]; rfl
  | case3 c rest alone ends ih => rw [linesOf_cons alone, if_pos ends, List.flatten_cons, ih]; rfl
  | case4 c rest alone inside ih => rw [linesOf_cons alone, if_neg inside, pushed, ih]

/-- Each line that has something to see gets longer by the margin. -/
theorem length_indentLines (margin : List Char) (lines : List (List Char)) :
    (indentLines margin lines).length =
      lines.flatten.length + margin.length * lines.countP fun line => !line.all isBlank := by
  induction lines with
  | nil => rfl
  | cons line lines ih =>
    rw [indentLines_cons, List.length_append, ih, List.flatten_cons, List.length_append, List.countP_cons,
      indentLine]
    cases line.all isBlank with
    | true => simp only [if_true, Bool.not_true, Bool.false_eq_true, if_false, Nat.add_zero]; omega
    | false =>
      simp only [Bool.false_eq_true, if_false, Bool.not_false, if_true, List.length_append, Nat.mul_add,
        Nat.mul_one]
      omega

/-- Where a line ends, the lines begin anew. -/
theorem linesOf_lineEnd {c : Char} (ends : isLineEnd c = true) (rest : List Char) :
    ∃ ending later, ending ++ later = c :: rest ∧ (∀ d ∈ ending, isBlank d = true) ∧
      linesOf (c :: rest) = ending :: linesOf later := by
  by_cases pair : c = '\r' ∧ ∃ later, rest = '\n' :: later
  · obtain ⟨rfl, later, rfl⟩ := pair
    exact ⟨['\r', '\n'], later, rfl, List.all_eq_true.mp rfl, linesOf.eq_2 later⟩
  · have alone : ∀ later, c = '\r' → rest ≠ '\n' :: later :=
      fun later isReturn same => pair ⟨isReturn, later, same⟩
    refine ⟨[c], rest, rfl, ?_, by rw [linesOf_cons alone, if_pos ends]⟩
    intro d among
    rw [List.mem_singleton.mp among]
    exact isBlank_of_isLineEnd ends

theorem countP_linesOf_pos {b : Char} {cs : List Char} (among : b ∈ cs) (visible : isBlank b = false) :
    0 < (linesOf cs).countP fun line => !line.all isBlank := by
  rw [← flatten_linesOf cs] at among
  obtain ⟨line, listed, inside⟩ := List.mem_flatten.mp among
  refine List.countP_pos_iff.mpr ⟨line, listed, ?_⟩
  rw [Bool.not_eq_true', List.all_eq_false]
  exact ⟨b, inside, by rw [visible]; exact Bool.false_ne_true⟩

/-- A text with something to see on its first line and behind it grows by two margins at least. -/
theorem length_of_lineEnd (margin : List Char) {line rest : List Char} {a b e : Char}
    (goesOn : ∀ c ∈ line, isLineEnd c = false) (ends : isLineEnd e = true) (onLine : a ∈ line)
    (first : isBlank a = false) (behind : b ∈ rest) (last : isBlank b = false) :
    (line ++ e :: rest).length + margin.length * 2 ≤
      (indentLines margin (linesOf (line ++ e :: rest))).length := by
  obtain ⟨ending, later, together, blank, lines⟩ := linesOf_lineEnd ends rest
  have below : b ∈ later := by
    have there : b ∈ ending ++ later := together ▸ List.mem_cons_of_mem e behind
    rcases List.mem_append.mp there with among | among
    · rw [blank b among] at last; cases last
    · exact among
  have moved : (!(line ++ ending).all isBlank) = true := by
    rw [Bool.not_eq_true', List.all_eq_false]
    exact ⟨a, List.mem_append_left _ onLine, by rw [first]; exact Bool.false_ne_true⟩
  have more := countP_linesOf_pos below last
  rw [length_indentLines, flatten_linesOf, linesOf_append goesOn, lines, behindStart, List.countP_cons,
    moved, if_pos rfl]
  exact Nat.add_le_add_left (Nat.mul_le_mul_left _ (Nat.succ_le_succ more)) _

/-- A text between two characters to be seen is moved as it is exactly if no line ends in it. -/
theorem indentLines_eq_iff {margin start body : List Char} {a b : Char} (wide : margin ≠ [])
    (inside : ∀ c ∈ start, isLineEnd c = false) (first : isBlank a = false) (last : isBlank b = false) :
    indentLines margin (linesOf (start ++ a :: (body ++ [b]))) =
        margin ++ (start ++ a :: (body ++ [b])) ↔ ∀ c ∈ body, isLineEnd c = false := by
  constructor
  · intro same
    by_contra broken
    push Not at broken
    obtain ⟨c, among, ends⟩ := broken
    have found : (body.find? isLineEnd).isSome :=
      List.find?_isSome.mpr ⟨c, among, by simpa using ends⟩
    obtain ⟨e, isFirst⟩ := Option.isSome_iff_exists.mp found
    obtain ⟨ends, p, q, split, before⟩ := List.find?_eq_some_iff_append.mp isFirst
    have line : ∀ d ∈ start ++ a :: p, isLineEnd d = false := by
      intro d among
      rcases List.mem_append.mp among with among | among
      · exact inside d among
      · rcases List.mem_cons.mp among with rfl | among
        · exact isLineEnd_of_visible first
        · simpa using before d among
    have text : start ++ a :: (body ++ [b]) = (start ++ a :: p) ++ e :: (q ++ [b]) := by simp [split]
    -- the margin stands before the lines of `a` and of `b`, but the text grows by one margin only
    have behind : b ∈ q ++ [b] := List.mem_append_right q List.mem_cons_self
    have grown := length_of_lineEnd margin line ends
      (List.mem_append_right start List.mem_cons_self) first behind last
    have length := (congrArg List.length same).trans List.length_append
    rw [← text] at grown
    have some : 0 < margin.length := List.length_pos_iff.mpr wide
    omega
  · intro whole
    have line : ∀ c ∈ start ++ a :: (body ++ [b]), isLineEnd c = false := by
      intro c among
      simp only [List.mem_append, List.mem_cons, List.not_mem_nil, or_false] at among
      rcases among with among | rfl | among | rfl
      · exact inside c among
      · exact isLineEnd_of_visible first
      · exact whole c among
      · exact isLineEnd_of_visible last
    have one := linesOf_append line []
    rw [List.append_nil, linesOf, behindStart, if_neg (by simp)] at one
    rw [one, indentLines_cons, indentLines_nil, List.append_nil]
    exact indentLine_visible margin (List.mem_append_right _ List.mem_cons_self) first

end ChangelogViews.Text
