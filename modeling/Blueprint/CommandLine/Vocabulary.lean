/-!
The words of the command line: the commands, the options that each of them takes, and what is said
about them.
-/
set_option autoImplicit false

namespace Blueprint.CommandLine

def program : String := "finapp"

def purpose : String := "FinApp - finance application description compiler"

inductive Command where
  | check
  | generate
  | docs
  | dump
  | serve
  deriving DecidableEq, Repr

/-- An option of a command or of the program. -/
inductive Flag where
  | help
  | strategy
  | config
  | verbose
  | output
  | platforms
  | port
  | host
  deriving DecidableEq, Repr

namespace Command

def all : List Command := [.check, .generate, .docs, .dump, .serve]

def name : Command → String
  | .check => "check"
  | .generate => "generate"
  | .docs => "docs"
  | .dump => "dump"
  | .serve => "serve"

def ofName? (text : String) : Option Command :=
  all.find? fun command => command.name == text

/-- What a command does, in a list of all of them. -/
def summary : Command → String
  | .check => "Check a FinApp file for syntax and validation errors"
  | .generate => "Generate application code"
  | .docs => "Generate Markdown documentation"
  | .dump => "Write a debug JSON dump of the application"
  | .serve => "Launch the interactive application viewer"

/-- What a command does, in its own help. -/
def description : Command → String
  | .check => "Parse, reconcile and validate a FinApp DSL file."
  | .generate => "Generate web, iOS and Android sources from a valid FinApp file."
  | .docs => "Write a Markdown description of models, screens, navigation and API."
  | .dump => "Serialize the reconciled application to JSON for debugging."
  | .serve => "Launch a web-based UI for browsing the compiled application."

/-- The options of a command, in the order in which they are listed. -/
def flags (command : Command) : List Flag :=
  [.help, .strategy, .config, .verbose] ++ match command with
    | .check => []
    | .generate => [.output, .platforms]
    | .docs | .dump => [.output]
    | .serve => [.port, .host]

end Command

namespace Flag

/-- The spellings of an option, a short one first. -/
def spellings : Flag → List String
  | .help => ["-h", "--help"]
  | .strategy => ["--strategy"]
  | .config => ["--config"]
  | .verbose => ["-v", "--verbose"]
  | .output => ["-o", "--output"]
  | .platforms => ["-p", "--platforms"]
  | .port => ["--port"]
  | .host => ["--host"]

/-- What stands for the value of an option; a switch has none. -/
def placeholder? : Flag → Option String
  | .help | .verbose => none
  | .strategy => some "\x7bextracted,grammar\x7d"
  | .config => some "CONFIG"
  | .output => some "OUTPUT"
  | .platforms => some "PLATFORMS"
  | .port => some "PORT"
  | .host => some "HOST"

def takesValue (flag : Flag) : Bool := flag.placeholder?.isSome

def title (flag : Flag) : String := "/".intercalate flag.spellings

def summary (command : Option Command) : Flag → String
  | .help => "show this help message and exit"
  | .strategy =>
    "How grammar and direct-text results are combined (default: from config, else 'extracted')"
  | .config => "Project configuration file (default: .finapp.yaml next to the source file)"
  | .verbose => "Enable debug logging"
  | .output =>
    if command == some .dump then
      "Output file (default: 'debug-dump' from config, else <file>.json)"
    else "Output directory (default: 'output-directory' from config, else 'generated')"
  | .platforms =>
    "Comma-separated platforms to generate, e.g. 'web,ios' (default: from config, else 'web')"
  | .port => "Port to run the server on (default: 8050)"
  | .host => "Host to bind the server to (default: 127.0.0.1)"

end Flag

/-- The options at a level of the command line: those of a command, or of the program. -/
def flagsOf : Option Command → List Flag
  | some command => command.flags
  | none => [.help]

/-- The spellings that are known at a level, each with its option. -/
def spellingsOf (command : Option Command) : List (String × Flag) :=
  (flagsOf command).flatMap fun flag => flag.spellings.map fun spelling => (spelling, flag)

end Blueprint.CommandLine
