import Blueprint.Application.Reconcile
import Blueprint.CommandLine.Help
import Blueprint.Number.Numeral
import Blueprint.Text.Quoted

/-!
Reading the arguments of the program. Options may stand before and after the file, long ones may be
shortened as long as they stay apart, short ones may be run together and followed by their value.
After two dashes nothing is an option. Arguments that no one wants are reported together.
-/
set_option autoImplicit false

namespace Blueprint.CommandLine

/-- What is wrong with the arguments. -/
inductive ArgumentError where
  | ambiguous (given : String) (candidates : List String)
  | unwantedValue (flag : Flag) (value : String)
  | missingValue (flag : Flag)
  | unknownStrategy (value : String)
  | invalidPort (value : String)
  | unknownCommand (value : String)
  | missingFile
  | unrecognized (arguments : List String)
  deriving DecidableEq, Repr

def quotedChoices (names : List String) : String :=
  ", ".intercalate (names.map Text.quoted)

def ArgumentError.message : ArgumentError → String
  | .ambiguous given candidates =>
    let matching := ", ".intercalate candidates
    s!"ambiguous option: {given} could match {matching}"
  | .unwantedValue flag value =>
    s!"argument {flag.title}: ignored explicit argument {Text.quoted value}"
  | .missingValue flag => s!"argument {flag.title}: expected one argument"
  | .unknownStrategy value =>
    let choices := quotedChoices (Strategy.all.map Strategy.name)
    s!"argument {Flag.strategy.title}: invalid choice: {Text.quoted value} (choose from {choices})"
  | .invalidPort value => s!"argument {Flag.port.title}: invalid int value: {Text.quoted value}"
  | .unknownCommand value =>
    let choices := quotedChoices (Command.all.map Command.name)
    s!"argument COMMAND: invalid choice: {Text.quoted value} (choose from {choices})"
  | .missingFile => "the following arguments are required: file"
  | .unrecognized arguments =>
    let all := " ".intercalate arguments
    s!"unrecognized arguments: {all}"

/-- Arguments that are refused, and the command whose arguments they are. -/
structure Refusal where
  command : Option Command
  error : ArgumentError
  deriving DecidableEq, Repr

def Refusal.text (refusal : Refusal) : String :=
  s!"{usage refusal.command}{callOf refusal.command}: error: {refusal.error.message}\n"

/-- An option as it is written: its spelling, the value that is written together with it, and whether
an equals sign stands between them. -/
structure OptionUse where
  flag : Flag
  spelling : String
  value : Option String := none
  assigned : Bool := false
  deriving DecidableEq, Repr

/-- An argument by its form. -/
inductive Word where
  /-- The two dashes after which nothing is an option. -/
  | separator
  | operand
  | option (use : OptionUse)
  | unknownOption
  deriving DecidableEq, Repr

/-- The parts of a text before and after its first equals sign, if it has one. -/
def splitAssignment (text : List Char) : List Char × Option (List Char) :=
  match text.dropWhile (· != '=') with
  | '=' :: value => (text.takeWhile (· != '='), some value)
  | _ => (text, none)

/-- Whether a text is a negative number, perhaps with a point; a line feed may follow. -/
def isNegativeNumber : List Char → Bool
  | '-' :: rest =>
    let digits := if rest.getLast? == some '\n' then rest.dropLast else rest
    match Text.splitChars '.' digits with
    | [whole] => !whole.isEmpty && whole.all Text.isDigit
    | [whole, fraction] =>
      whole.all Text.isDigit && !fraction.isEmpty && fraction.all Text.isDigit
    | _ => false
  | _ => false

/-- The options that an argument may stand for: after two dashes those that start with it, up to an
equals sign before a value; after one dash the short one that it starts with, the rest being its
value. -/
def candidates (spellings : List (String × Flag)) (argument : List Char) : List OptionUse :=
  match argument with
  | '-' :: '-' :: _ =>
    let (given, value) := splitAssignment argument
    (spellings.filter fun (spelling, _) => given.isPrefixOf spelling.toList).map
      fun (spelling, flag) => ⟨flag, spelling, value.map String.ofList, true⟩
  | _ =>
    let short := String.ofList (argument.take 2)
    (spellings.filter fun (spelling, _) => spelling == short).map
      fun (spelling, flag) => ⟨flag, spelling, some (String.ofList (argument.drop 2)), false⟩

def unspelledForm (spellings : List (String × Flag)) (argument : List Char) :
    Except ArgumentError Word :=
  match candidates spellings argument with
  | [use] => .ok (.option use)
  | [] =>
    if isNegativeNumber argument || argument.contains ' ' then .ok .operand else .ok .unknownOption
  | several => .error (.ambiguous (String.ofList argument) (several.map OptionUse.spelling))

def form (spellings : List (String × Flag)) (argument : String) : Except ArgumentError Word :=
  match argument.toList with
  | '-' :: tail =>
    match spellings.lookup argument with
    | some flag => .ok (.option ⟨flag, argument, none, false⟩)
    | none =>
      if tail.isEmpty then .ok .operand
      else
        let (given, value) := splitAssignment argument.toList
        match value, spellings.lookup (String.ofList given) with
        | some value, some flag =>
          .ok (.option ⟨flag, String.ofList given, some (String.ofList value), true⟩)
        | _, _ => unspelledForm spellings argument.toList
  | _ => .ok .operand

/-- Arguments with their forms. After the first two dashes there are only operands. -/
def forms (spellings : List (String × Flag)) :
    List String → Except ArgumentError (List (String × Word))
  | [] => .ok []
  | argument :: rest =>
    if argument == "--" then
      .ok ((argument, .separator) :: rest.map fun operand => (operand, .operand))
    else do
      let word ← form spellings argument
      return (argument, word) :: (← forms spellings rest)

/-- The options that an argument stands for, and what of it is unknown. -/
structure Expansion where
  uses : List OptionUse
  unknown : List String := []

/-- The options in an argument of short switches, from the text after one of them on: each may be
followed by another one, and the last one by its value. From the first unknown one on the rest is
unknown. Neither an equals sign nor a dash may follow a switch. -/
def cluster (spellings : List (String × Flag)) (switch : Flag) :
    List Char → Except ArgumentError Expansion
  | [] => .error (.unwantedValue switch "")
  | c :: rest =>
    let spelling := String.ofList ['-', c]
    if c == '-' then .error (.unwantedValue switch (String.ofList (c :: rest)))
    else
      match spellings.lookup spelling, rest with
      | none, _ => .ok ⟨[], [String.ofList ('-' :: c :: rest)]⟩
      | some flag, [] => .ok ⟨[⟨flag, spelling, none, false⟩], []⟩
      | some flag, '=' :: value =>
        if flag.takesValue then .ok ⟨[⟨flag, spelling, some (String.ofList value), true⟩], []⟩
        else .error (.unwantedValue flag (String.ofList value))
      | some flag, _ =>
        if flag.takesValue then .ok ⟨[⟨flag, spelling, some (String.ofList rest), false⟩], []⟩
        else do
          let more ← cluster spellings flag rest
          return { more with uses := ⟨flag, spelling, none, false⟩ :: more.uses }

def expand (spellings : List (String × Flag)) (use : OptionUse) : Except ArgumentError Expansion :=
  match use.value with
  | none => .ok ⟨[use], []⟩
  | some value =>
    if use.flag.takesValue then .ok ⟨[use], []⟩
    else if use.assigned || use.spelling.startsWith "--" then .error (.unwantedValue use.flag value)
    else do
      let more ← cluster spellings use.flag value.toList
      return { more with uses := { use with value := none } :: more.uses }

/-- The arguments of a command as they are given. -/
structure Given where
  file : Option String := none
  strategy : Option Strategy := none
  config : Option String := none
  verbose : Bool := false
  output : Option String := none
  platforms : Option String := none
  port : Int := 8050
  host : String := "127.0.0.1"
  unwanted : List String := []
  deriving DecidableEq, Repr

/-- What is given, with more arguments that no one wants. -/
def Given.reject (given : Given) (arguments : List String) : Given :=
  { given with unwanted := given.unwanted ++ arguments }

/-- The digits of a number; single underscores may stand between them. -/
def groupedDigits? : List Char → Option (List Char)
  | [] => none
  | [c] => if Text.isDigit c then some [c] else none
  | c :: '_' :: rest => if Text.isDigit c then (groupedDigits? rest).map (c :: ·) else none
  | c :: rest => if Text.isDigit c then (groupedDigits? rest).map (c :: ·) else none

/-- The number that a text writes, with blanks around it and a sign perhaps. -/
def integer? (text : String) : Option Int :=
  let trimmed := Text.trimChars text.toList
  let (negative, unsigned) := match trimmed with
    | '-' :: rest => (true, rest)
    | '+' :: rest => (false, rest)
    | rest => (false, rest)
  (groupedDigits? unsigned).bind fun digits =>
    if digits.length > Numeral.maxDigits then none
    else
      let value : Int := Numeral.natural digits
      some (if negative then -value else value)

/-- What an option with its value does: it asks for help, or changes what is given. A later value
counts more than an earlier one. -/
def apply (given : Given) (flag : Flag) (value : String) : Except ArgumentError (Option Given) :=
  match flag with
  | .help => .ok none
  | .verbose => .ok (some { given with verbose := true })
  | .config => .ok (some { given with config := some value })
  | .output => .ok (some { given with output := some value })
  | .platforms => .ok (some { given with platforms := some value })
  | .host => .ok (some { given with host := value })
  | .strategy =>
    match Strategy.ofName? value with
    | some strategy => .ok (some { given with strategy := some strategy })
    | none => .error (.unknownStrategy value)
  | .port =>
    match integer? value with
    | some port => .ok (some { given with port := port })
    | none => .error (.invalidPort value)

/-- What several options do one after the other, up to one that asks for help. -/
def applyAll (given : Given) : List (Flag × String) → Except ArgumentError (Option Given)
  | [] => .ok (some given)
  | (flag, value) :: rest => do
    match ← apply given flag value with
    | some changed => applyAll changed rest
    | none => return none

/-- The options that an argument stands for with their values, and the arguments after them. A value
that is not written together with the last option is the next argument. -/
def optionValues (uses : List OptionUse) (rest : List (String × Word)) :
    Except ArgumentError (List (Flag × String) × List (String × Word)) :=
  let valued := uses.map fun use => (use.flag, use.value.getD "")
  match uses.getLast? with
  | none => .ok ([], rest)
  | some last =>
    if last.flag.takesValue && last.value.isNone then
      match rest with
      | (value, .operand) :: after => .ok (valued.dropLast ++ [(last.flag, value)], after)
      | _ => .error (.missingValue last.flag)
    else .ok (valued, rest)

/-- An argument and what may follow it directly: the two dashes before or after the file belong to
it. -/
def takeFile : List (String × Word) → Option (String × List (String × Word))
  | (_, .separator) :: (file, _) :: rest => some (file, rest)
  | (file, .operand) :: (_, .separator) :: rest => some (file, rest)
  | (file, .operand) :: rest => some (file, rest)
  | _ => none

/-- Reads the arguments of a command; there are none if help is asked for. Every step takes an
argument, so their number bounds the steps. -/
def readWithin (spellings : List (String × Flag)) :
    Nat → Given → List (String × Word) → Except ArgumentError (Option Given)
  | 0, given, _ => .ok (some given)
  | _, given, [] => .ok (some given)
  | fuel + 1, given, (argument, word) :: rest =>
    match word with
    | .option use => do
      let expansion ← expand spellings use
      let (options, after) ← optionValues expansion.uses rest
      match ← applyAll (given.reject expansion.unknown) options with
      | some changed => readWithin spellings fuel changed after
      | none => return none
    | .unknownOption => readWithin spellings fuel (given.reject [argument]) rest
    | .separator | .operand =>
      match if given.file.isNone then takeFile ((argument, word) :: rest) else none with
      | some (file, after) => readWithin spellings fuel { given with file := some file } after
      | none => readWithin spellings fuel (given.reject [argument]) rest

def readCommand (command : Command) (arguments : List String) :
    Except ArgumentError (Option Given) := do
  let spellings := spellingsOf command
  let words ← forms spellings arguments
  readWithin spellings words.length {} words

structure Common where
  file : String
  strategy : Option Strategy := none
  config : Option String := none
  verbose : Bool := false
  deriving DecidableEq, Repr

/-- What the program is asked to do. -/
inductive Request where
  | check (common : Common)
  | generate (common : Common) (output platforms : Option String)
  | docs (common : Common) (output : Option String)
  | dump (common : Common) (output : Option String)
  | serve (common : Common) (host : String) (port : Int)
  deriving DecidableEq, Repr

/-- What all commands take, of a request. -/
def Request.common : Request → Common
  | .check common => common
  | .generate common _ _ => common
  | .docs common _ => common
  | .dump common _ => common
  | .serve common _ _ => common

def nonempty (value : Option String) : Option String := value.filter fun text => !text.isEmpty

/-- The request that the arguments of a command make. An empty value is none. -/
def requestOf (command : Command) (file : String) (given : Given) : Request :=
  let common : Common := {
    file := file
    strategy := given.strategy
    config := nonempty given.config
    verbose := given.verbose }
  match command with
  | .check => .check common
  | .generate => .generate common (nonempty given.output) (nonempty given.platforms)
  | .docs => .docs common (nonempty given.output)
  | .dump => .dump common (nonempty given.output)
  | .serve => .serve common given.host given.port

inductive Reading where
  | refused (refusal : Refusal)
  | help (command : Option Command)
  | request (request : Request)
  deriving DecidableEq, Repr

/-- Reads a command and its arguments, after arguments that no one wanted. -/
def readFrom (unwanted : List String) (name : String) (arguments : List String) : Reading :=
  match Command.ofName? name with
  | none => .refused ⟨none, .unknownCommand name⟩
  | some command =>
    match readCommand command arguments with
    | .error error => .refused ⟨command, error⟩
    | .ok none => .help command
    | .ok (some given) =>
      match given.file with
      | none => .refused ⟨command, .missingFile⟩
      | some file =>
        match unwanted ++ given.unwanted with
        | [] => .request (requestOf command file given)
        | several => .refused ⟨none, .unrecognized several⟩

/-- Reads arguments up to the command. Without a command there is help. -/
def readProgram (unwanted : List String) : List (String × Word) → Reading
  | [] => if unwanted.isEmpty then .help none else .refused ⟨none, .unrecognized unwanted⟩
  | (argument, word) :: rest =>
    match word with
    | .option use =>
      match expand (spellingsOf none) use with
      | .ok _ => .help none
      | .error error => .refused ⟨none, error⟩
    | .unknownOption => readProgram (unwanted ++ [argument]) rest
    | .separator =>
      if rest.isEmpty then readProgram (unwanted ++ [argument]) rest
      else readFrom unwanted argument (rest.map Prod.fst)
    | .operand => readFrom unwanted argument (rest.map Prod.fst)

def read (arguments : List String) : Reading :=
  match forms (spellingsOf none) arguments with
  | .ok words => readProgram [] words
  | .error error => .refused ⟨none, error⟩

end Blueprint.CommandLine
