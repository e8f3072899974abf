import Blueprint.Document.Diagnostic

/-!
Parsers over tokens. A parser either delivers a value or fails, and in both cases says which tokens
remain and which diagnostics it reported on the way; reports survive a later failure. The tokens
that a parser sees do not include the one that ends the source: where they run out, `current` shows
that token at the place where the source stops.
-/
set_option autoImplicit false

namespace Blueprint

/-- Why a parser gives up. -/
inductive Failure where
  /-- The tokens do not fit the grammar; parsing can go on after recovery. -/
  | syntaxError (diagnostic : SyntaxDiagnostic)
  /-- An integer literal is too long to be converted; nothing can be delivered. -/
  | oversizedInteger
  deriving DecidableEq, Repr

/-- The result of a parser. -/
inductive Outcome (α : Type) where
  | ok (value : α) (rest : List Token) (reports : List SyntaxDiagnostic)
  | failed (failure : Failure) (rest : List Token) (reports : List SyntaxDiagnostic)

namespace Outcome

variable {α β : Type}

def after (earlier : List SyntaxDiagnostic) : Outcome α → Outcome α
  | .ok value rest reports => .ok value rest (earlier ++ reports)
  | .failed failure rest reports => .failed failure rest (earlier ++ reports)

end Outcome

/-- A parser, given the place where the source stops and the tokens before that place. -/
def Parser (α : Type) : Type := Position → List Token → Outcome α

namespace Parser

variable {α β σ : Type}

def deliver (value : α) : Parser α := fun _ tokens => .ok value tokens []

def andThen (first : Parser α) (next : α → Parser β) : Parser β := fun stop tokens =>
  match first stop tokens with
  | .ok value rest reports => (next value stop rest).after reports
  | .failed failure rest reports => .failed failure rest reports

instance : Monad Parser where
  pure := deliver
  bind := andThen

def endToken (stop : Position) : Token := ⟨.eof, "", stop⟩

/-- The current token; beyond the last token, the end. -/
def current : Parser Token := fun stop tokens =>
  .ok (tokens.head?.getD (endToken stop)) tokens []

/-- Takes the current token; at the end there is nothing to take. -/
def advance : Parser Token := fun stop tokens =>
  .ok (tokens.head?.getD (endToken stop)) (tokens.drop 1) []

def fail (problem : SyntaxProblem) (place : Position) : Parser α := fun _ tokens =>
  .failed (.syntaxError ⟨problem, place⟩) tokens []

def failOversized : Parser α := fun _ tokens => .failed .oversizedInteger tokens []

def report (problem : SyntaxProblem) (place : Position) : Parser Unit := fun _ tokens =>
  .ok () tokens [⟨problem, place⟩]

/-- Fails because the current token is not an expected one. -/
def unexpected (expected : Expectation) : Parser α := do
  let token ← current
  fun _ tokens => .failed (.syntaxError (.unexpected expected token)) tokens []

def skip (keep : List Token → List Token) : Parser Unit := fun _ tokens => .ok () (keep tokens) []

def isAt (kind : TokenKind) : Parser Bool := return (← current).kind == kind

/-- Looks for something at this place and takes its tokens if it is there. -/
def takeFound {β : Type} (find : List Token → Option β) (length : β → Nat) : Parser (Option β) :=
  fun _ tokens =>
    match find tokens with
    | some found => .ok (some found) (tokens.drop (length found)) []
    | none => .ok none tokens []

/-- Takes a number of tokens if a test holds here; says whether it did. -/
def takeIf (length : Nat) (test : List Token → Bool) : Parser Bool :=
  return (← takeFound (fun tokens => if test tokens then some () else none) fun _ => length).isSome

def startsWith (kind : TokenKind) : List Token → Bool
  | [] => false
  | token :: _ => token.kind == kind

/-- Takes a token of a kind if it is the current one; says whether it was. -/
def option (kind : TokenKind) : Parser Bool := takeIf 1 (startsWith kind)

/-- Whether a word stands first as a flag: it is a name, and no colon follows it. -/
def startsWithFlag (word : String) : List Token → Bool
  | [] => false
  | token :: rest =>
    token.kind.isName && token.value == word && !startsWith (.symbol .colon) rest

/-- Takes a word if it stands here as a flag; says whether it did. -/
def flag (word : String) : Parser Bool := takeIf 1 (startsWithFlag word)

def accept (allowed : TokenKind → Bool) (expected : Expectation) : Parser Token := do
  let token ← current
  if allowed token.kind then advance else unexpected expected

def expectOneOf (allowed : List TokenKind) : Parser Token :=
  accept allowed.contains (.kinds allowed)

def expect (kind : TokenKind) : Parser Token := expectOneOf [kind]

def expectSymbol (mark : Symbol) : Parser Token := expect (.symbol mark)

def expectName : Parser Token := accept TokenKind.isName .name

def expectText : Parser String := return (← expect .string).value

def expectFlag : Parser Bool :=
  return (← expectOneOf [.keyword .true, .keyword .false]).kind == .keyword .true

def expectKey : Parser Token := do
  let key ← expectName
  let _ ← expectSymbol .colon
  return key

def afterCommas (tokens : List Token) : List Token :=
  tokens.dropWhile fun token => token.kind == .symbol .comma

def skipCommas : Parser Unit := skip afterCommas

/-- Whether a group is still open: there is a token, and it is not the closing one. -/
def stillOpen (close : Symbol) (tokens : List Token) : Bool :=
  match tokens with
  | [] => false
  | token :: _ => token.kind != .symbol close

/-- Repeats a step while `more` holds. A step that takes no token is the last one, so that the
repetition ends whatever the step does. -/
def loop (more : σ → List Token → Bool) (step : σ → Parser σ) (state : σ) (stop : Position)
    (tokens : List Token) : Outcome σ :=
  if more state tokens then
    match step state stop tokens with
    | .failed failure rest reports => .failed failure rest reports
    | .ok next rest reports =>
      if rest.length < tokens.length then (loop more step next stop rest).after reports
      else .ok next rest reports
  else .ok state tokens []
termination_by tokens.length

/-- Repeats a step until a group is closed or the source ends. -/
def untilClosed (close : Symbol) (step : σ → Parser σ) (state : σ) : Parser σ :=
  loop (fun _ tokens => stillOpen close tokens) step state

/-- Items up to the end of a group, with any number of commas after each. -/
def itemsUntil (close : Symbol) (item : Parser α) : Parser (List α) :=
  untilClosed close (fun items => do
    let next ← item
    skipCommas
    return items ++ [next]) []

/-- Items up to the end of a bracketed list, a comma between each two. -/
def commaSeparated (item : Parser α) : Parser (List α) := do
  let (items, _) ← loop (fun state tokens => state.2 && stillOpen .rightBracket tokens)
    (fun state => do
      let next ← item
      let more ← option (.symbol .comma)
      return (state.1 ++ [next], more)) ([], true)
  return items

/-- Runs a parser; if it fails on the grammar, records the diagnostic and runs another one from the
place where the first began. -/
def orRetry (first : Parser α) (second : Parser α) : Parser α := fun stop tokens =>
  match first stop tokens with
  | .failed (.syntaxError diagnostic) _ reports =>
    (second stop tokens).after (reports ++ [diagnostic])
  | outcome => outcome

/-- Runs a parser; if it fails on the grammar, records the diagnostic and goes on from the place of
the failure as `recover` says, which is told where the parser began. -/
def orResume (first : Parser α) (recover : List Token → Parser α) : Parser α := fun stop tokens =>
  match first stop tokens with
  | .failed (.syntaxError diagnostic) rest reports =>
    (recover tokens stop rest).after (reports ++ [diagnostic])
  | outcome => outcome

end Parser

end Blueprint
