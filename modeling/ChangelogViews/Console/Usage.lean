import ChangelogViews.Console.Options

/-!
# Usage and help

What is shown about the options, in lines that leave two columns of the screen free. All explanations
stand in a column of their own, and so do the options in the usage unless the screen is narrow.
-/

namespace ChangelogViews.Usage

def program : String := "gen-schema-views"

def description : String :=
  "Generate typed BigQuery (or DuckDB) views over a raw Cloud Firestore document changelog."

def standardColumns : Nat := 80

/-- The columns of the screen that an environment tells of. -/
def columnsIn (environment : List (String × String)) : Nat :=
  match (member? environment "COLUMNS").bind fun text => Text.wholeNumber? text.toList with
  | some (n + 1 : Nat) => n + 1
  | _ => standardColumns

def widthIn (environment : List (String × String)) : Nat := columnsIn environment - 2

def spaces (n : Nat) : String := String.ofList (List.replicate n ' ')

/-- The words in lines, each as long as `width` allows, where `line` was begun already. -/
def fillFrom (width : Nat) (line : String) : List String → List String
  | [] => [line]
  | word :: rest =>
    if line.length + 1 + word.length ≤ width then fillFrom width (line ++ " " ++ word) rest
    else line :: fillFrom width word rest

def fill (width : Nat) : List String → List String
  | [] => []
  | word :: rest => fillFrom width word rest

/-- The lines below each other, all but the first behind `column` blanks. -/
def inColumn (column : Nat) (lines : List String) : String :=
  ("\n" ++ spaces column).intercalate lines

/-- The option with the operand behind it, for one of its spellings. -/
def spelledOut (form : OptionForm) (spelling : String) : String :=
  match form.operand with
  | none => spelling
  | some operand => s!"{spelling} {operand}"

def inUsage (form : OptionForm) : String :=
  "[" ++ spelledOut form (form.spellings.headD "") ++ "]"

def usageLabel : String := "usage: "

/-- How the program is called: in one line if it fits, else with the options behind the program or, on
a screen where that takes more than three quarters of the line, below it. -/
def usage (width : Nat) : String :=
  let options := OptionForm.all.map inUsage
  let line := usageLabel ++ " ".intercalate (program :: options)
  let heading := usageLabel ++ program
  if line.length ≤ width then line ++ "\n"
  else if 4 * heading.length ≤ 3 * width then
    let column := heading.length + 1
    heading ++ " " ++ inColumn column (fill (width - column) options) ++ "\n"
  else
    let column := usageLabel.length
    inColumn column (heading :: fill (width - column) options) ++ "\n"

/-- Where the column of explanations begins. -/
def column (width : Nat) : Nat := min 24 (max (width - 20) 4)

def leastColumnWidth : Nat := 11

/-- The explanation of an option, beside its spellings if they are short enough. -/
def entry (width : Nat) (form : OptionForm) : String :=
  let heading := "  " ++ ", ".intercalate (form.spellings.map (spelledOut form))
  let column := column width
  let gap :=
    if heading.length + 2 ≤ column then spaces (column - heading.length) else "\n" ++ spaces column
  let lines := fill (max (width - column) leastColumnWidth) (form.explanation.splitOn " ")
  heading ++ gap ++ inColumn column lines ++ "\n"

def help (width : Nat) : String :=
  usage width ++ "\n" ++ description ++ "\n\noptions:\n" ++
    String.join (OptionForm.all.map (entry width))

/-- What is shown for a command line that is refused. -/
def refusal (width : Nat) (fault : UsageFault) : String :=
  usage width ++ s!"{program}: error: {fault.message}\n"

end ChangelogViews.Usage
