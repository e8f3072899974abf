import Blueprint.CommandLine.Vocabulary
import Blueprint.Text.Trim

/-!
Help texts: how the program and its commands are called, and what their arguments mean. Lines are
filled up to a fixed width; what an argument means stands in a column of its own.
-/
set_option autoImplicit false

namespace Blueprint.CommandLine

def lineWidth : Nat := 78

def meaningColumn : Nat := 24

def spaces (count : Nat) : String := String.ofList (List.replicate count ' ')

/-- Fills lines with words. A line takes a word if it stays within a width, and its first word in any
case; `used` is the length of the line that is open, and lines after it are to be indented. -/
def fillFrom (width indent used : Nat) (line : List String) : List String → List (List String)
  | [] => if line.isEmpty then [] else [line]
  | word :: rest =>
    if line.isEmpty then fillFrom width indent (used + word.length) [word] rest
    else if used + 1 + word.length ≤ width then
      fillFrom width indent (used + 1 + word.length) (line ++ [word]) rest
    else line :: fillFrom width indent (indent + word.length) [word] rest

def fill (width : Nat) (text : String) : List String :=
  (fillFrom width 0 0 [] (Text.split ' ' text)).map (" ".intercalate ·)

def callOf : Option Command → String
  | some command => s!"{program} {command.name}"
  | none => program

def callPart (flag : Flag) : String :=
  let spelling := flag.spellings.headD ""
  match flag.placeholder? with
  | some value => s!"[{spelling} {value}]"
  | none => s!"[{spelling}]"

def operand : Option Command → String
  | some _ => "file"
  | none => "COMMAND ..."

/-- How to call a command, on one line if it fits. Otherwise the options are filled into lines below
each other, and what follows them stands on a line of its own. -/
def usage (command : Option Command) : String :=
  let call := s!"usage: {callOf command}"
  let parts := (flagsOf command).map callPart
  let single := " ".intercalate (call :: parts ++ [operand command])
  if single.length ≤ lineWidth then single ++ "\n"
  else
    let column := call.length + 1
    let indent := spaces column
    let filled := (fillFrom lineWidth column call.length [call] parts).map (" ".intercalate ·)
    let lines := match filled with
      | [] => []
      | first :: more => first :: more.map (indent ++ ·)
    "\n".intercalate (lines ++ [indent ++ operand command]) ++ "\n"

/-- An argument in a help text: how far it is indented, what it is, and what it means. -/
structure HelpEntry where
  indent : Nat := 2
  label : String
  meaning : Option String := none

/-- The lines of an argument, its meaning starting at a column: beside it if there are two spaces
between them, else below it. -/
def HelpEntry.lines (column : Nat) (entry : HelpEntry) : List String :=
  let start := spaces entry.indent ++ entry.label
  match entry.meaning with
  | none => [start]
  | some meaning =>
    let filled := fill (lineWidth - column) meaning
    let below := filled.map (spaces column ++ ·)
    if entry.indent + entry.label.length + 2 ≤ column then
      match filled with
      | first :: more => (start ++ spaces (column - start.length) ++ first)
          :: more.map (spaces column ++ ·)
      | [] => [start]
    else start :: below

/-- What an option is in a help text: all spellings, each with its value. -/
def optionLabel (flag : Flag) : String :=
  ", ".intercalate (flag.spellings.map fun spelling =>
    match flag.placeholder? with
    | some value => s!"{spelling} {value}"
    | none => spelling)

/-- The arguments of a level without a dash. -/
def operandEntries : Option Command → List HelpEntry
  | some _ => [{ label := "file", meaning := some "FinApp DSL source file" }]
  | none =>
    { label := "COMMAND" } :: Command.all.map fun command =>
      { indent := 4, label := command.name, meaning := some command.summary }

def optionEntries (command : Option Command) : List HelpEntry :=
  (flagsOf command).map fun flag =>
    { label := optionLabel flag, meaning := some (flag.summary command) }

/-- The column at which meanings start: after the longest argument, unless that is too far. -/
def columnOf (entries : List HelpEntry) : Nat :=
  min (((entries.map fun entry => entry.label.length).foldl max 0) + 4) meaningColumn

def descriptionOf : Option Command → String
  | some command => command.description
  | none => purpose

def help (command : Option Command) : String :=
  let operands := operandEntries command
  let options := optionEntries command
  let column := columnOf (operands ++ options)
  let lines := [descriptionOf command, "", "positional arguments:"]
    ++ operands.flatMap (HelpEntry.lines column)
    ++ ["", "options:"]
    ++ options.flatMap (HelpEntry.lines column)
  usage command ++ "\n" ++ "\n".intercalate lines ++ "\n"

end Blueprint.CommandLine
