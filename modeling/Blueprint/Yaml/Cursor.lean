import Blueprint.Text.Hex

/-!
Walking through YAML text: a cursor that knows its line, column and distance from the start, and
the steps that scanning is made of. A byte order mark takes no column.
-/
set_option autoImplicit false

namespace Blueprint.Yaml

/-- Why a text delivers no value. -/
inductive Problem where
  /-- The text is no YAML, or more than one document, or has no plain value. -/
  | malformed
  /-- A scalar has the form of a number or a date but no value. -/
  | unconvertible
  deriving DecidableEq, Repr

/-- What is left of a text, and where it starts. -/
structure Cursor where
  rest : List Char
  index : Nat := 0
  line : Nat := 0
  column : Nat := 0

def isBreak (c : Char) : Bool :=
  c == '\n' || c == '\r' || c == '\u0085' || c == '\u2028' || c == '\u2029'

def endsLine (c : Option Char) : Bool := (c.map isBreak).getD true

/-- Whether a place holds a space, a line break or the end of the text. -/
def endsWord (c : Option Char) : Bool := c == some ' ' || endsLine c

/-- Whether a place holds a space, a tab, a line break or the end of the text. -/
def isSpaceOrEnd (c : Option Char) : Bool := c == some '\t' || endsWord c

namespace Cursor

def peek (cursor : Cursor) (ahead : Nat) : Option Char := cursor.rest[ahead]?

/-- The cursor after one character. A carriage return before a line feed ends no line. -/
def next (cursor : Cursor) : Cursor :=
  match cursor.rest with
  | [] => cursor
  | c :: rest =>
    let atBreak := isBreak c && !(c == '\r' && rest.head? == some '\n')
    { rest := rest
      index := cursor.index + 1
      line := if atBreak then cursor.line + 1 else cursor.line
      column :=
        if atBreak then 0
        else if c == '\ufeff' then cursor.column
        else cursor.column + 1 }

def skip : Nat → Cursor → Cursor
  | 0, cursor => cursor
  | count + 1, cursor => skip count cursor.next

/-- Whether a mark of three characters stands here, alone at the start of a line. -/
def startsWithMark (mark : Char) (cursor : Cursor) : Bool :=
  [0, 1, 2].all (fun ahead => cursor.peek ahead == some mark) && isSpaceOrEnd (cursor.peek 3)

def atDocumentMark (cursor : Cursor) : Bool :=
  cursor.startsWithMark '-' || cursor.startsWithMark '.'

end Cursor

abbrev Scan := StateT Cursor (Except Problem)

namespace Scan

def reject {α : Type} : Scan α := throw .malformed

/-- Gives up unless a condition holds. -/
def require (condition : Bool) : Scan Unit :=
  if condition then pure () else reject

def peek (ahead : Nat) : Scan (Option Char) := return (← get).peek ahead

def skip (count : Nat) : Scan Unit := modify (Cursor.skip count)

/-- Passes the characters that satisfy a test, and delivers them. -/
def takeWhile (test : Char → Bool) : Scan (List Char) := do
  let run := (← get).rest.takeWhile test
  skip run.length
  return run

/-- Repeats a step until it says that it was the last one. Every step but the last takes a
character, so the number of characters left bounds the repetition. -/
def loopWithin {σ : Type} (step : σ → Scan (σ × Bool)) : Nat → σ → Scan σ
  | 0, state => pure state
  | fuel + 1, state => do
    let (state, more) ← step state
    if more then loopWithin step fuel state else pure state

/-- Repeats a step until it says that it was the last one. -/
def loop {σ : Type} (step : σ → Scan (σ × Bool)) (state : σ) : Scan σ := do
  loopWithin step ((← get).rest.length + 1) state

/-- Passes a line break and delivers it: most kinds count as a line feed. -/
def lineBreak : Scan (List Char) := do
  match ← peek 0 with
  | some '\r' => do
    skip (if (← peek 1) == some '\n' then 2 else 1)
    return ['\n']
  | some c =>
    if !isBreak c then return []
    else
      skip 1
      return [if c == '\u0085' then '\n' else c]
  | none => return []

/-- Passes what may follow on a line that is otherwise complete: spaces, a comment, the break. -/
def restOfLine : Scan Unit := do
  let _ ← takeWhile (· == ' ')
  if (← peek 0) == some '#' then
    let _ ← takeWhile fun c => !isBreak c
  require (endsLine (← peek 0))
  let _ ← lineBreak

def hex (count : Nat) : Scan Nat := do
  let digits := (← get).rest.take count
  match digits.mapM Text.hexValue? with
  | some values =>
    require (values.length == count)
    skip count
    return values.foldl (fun total value => 16 * total + value) 0
  | none => reject

end Scan

end Blueprint.Yaml
