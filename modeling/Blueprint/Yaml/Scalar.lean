import Blueprint.Yaml.Cursor

/-!
Scanning scalars: plain ones, quoted ones of either kind, and block scalars. Lines of a plain or
quoted scalar are folded into one; a block scalar keeps its lines or folds them, and its header says
what becomes of the breaks at its end.
-/
set_option autoImplicit false

namespace Blueprint.Yaml

open Scan

/-- The text of a fold: a single line feed becomes a space, further breaks are kept. -/
def folded (first : List Char) (more : List (List Char)) : List Char :=
  (if first != ['\n'] then first else if more.isEmpty then [' '] else []) ++ more.flatten

/-- Whether a plain scalar ends here: at a blank, at a colon that ends a key, and inside a flow
collection at its punctuation. -/
def endsPlain (inFlow : Bool) (cursor : Cursor) : Bool :=
  match cursor.peek 0 with
  | none => true
  | some c =>
    isSpaceOrEnd (some c)
      || (c == ':' && (isSpaceOrEnd (cursor.peek 1)
        || (inFlow && ((cursor.peek 1).map ([',', '[', ']', '\x7b', '\x7d'].contains ·)).getD false)))
      || (inFlow && [',', '?', '[', ']', '\x7b', '\x7d'].contains c)

def plainRun (inFlow : Bool) : Scan (List Char) :=
  loop (fun run => do
    let cursor ← get
    match cursor.peek 0 with
    | some c =>
      if endsPlain inFlow cursor then return (run, false)
      else
        skip 1
        return (run ++ [c], true)
    | none => return (run, false)) []

/-- A blank stretch inside a plain scalar: its text, and whether it holds a line break. A document
mark after a break ends the scalar, so the text is empty then. -/
structure PlainGap where
  text : List Char
  crossedLine : Bool

/-- Passes the line breaks and spaces after the first break of a gap; nothing is delivered if a
document mark follows. -/
def plainBreaks : Scan (Option (List (List Char))) :=
  loop (fun breaks => do
    match breaks with
    | none => return (none, false)
    | some found =>
      match ← peek 0 with
      | some ' ' => do
        skip 1
        return (some found, true)
      | some c =>
        if !isBreak c then return (some found, false)
        else
          let next ← lineBreak
          if (← get).atDocumentMark then return (none, false)
          return (some (found ++ [next]), true)
      | none => return (some found, false)) (some [])

def plainGap : Scan PlainGap := do
  let spaces ← takeWhile (· == ' ')
  match ← peek 0 with
  | none => return ⟨spaces, false⟩
  | some c =>
    if !isBreak c then return ⟨spaces, false⟩
    else
      let first ← lineBreak
      if (← get).atDocumentMark then return ⟨[], true⟩
      match ← plainBreaks with
      | none => return ⟨[], true⟩
      | some more => return ⟨folded first more, true⟩

/-- A plain scalar while it is read. -/
structure OpenPlain where
  text : List Char := []
  gap : List Char := []
  crossedLine : Bool := false

/-- Reads a plain scalar, of which lines after the first are indented at least as given. Says also
whether a line break was passed after its last part. -/
def plainScalar (inFlow : Bool) (indent : Nat) : Scan (List Char × Bool) := do
  let scalar ← loop (fun (scalar : OpenPlain) => do
    if (← peek 0) == some '#' then return (scalar, false)
    let run ← plainRun inFlow
    if run.isEmpty then return (scalar, false)
    let gap ← plainGap
    let next : OpenPlain := ⟨scalar.text ++ scalar.gap ++ run, gap.text, gap.crossedLine⟩
    let cursor ← get
    let ended := gap.text.isEmpty || cursor.peek 0 == some '#' || (!inFlow && cursor.column < indent)
    return (next, !ended)) {}
  return (scalar.text, scalar.crossedLine)

def escapes : List (Char × Char) :=
  [('0', '\x00'), ('a', '\x07'), ('b', '\x08'), ('t', '\t'), ('\t', '\t'), ('n', '\n'),
    ('v', '\x0b'), ('f', '\x0c'), ('r', '\r'), ('e', '\x1b'), (' ', ' '), ('"', '"'),
    ('\\', '\\'), ('/', '/'), ('N', '\u0085'), ('_', '\u00a0'), ('L', '\u2028'), ('P', '\u2029')]

def codeEscapes : List (Char × Nat) := [('x', 2), ('u', 4), ('U', 8)]

/-- Passes the blank starts of lines inside a quoted scalar, and delivers the breaks. -/
def quotedBreaks : Scan (List (List Char)) :=
  loop (fun breaks => do
    require (!(← get).atDocumentMark)
    let _ ← takeWhile fun c => c == ' ' || c == '\t'
    match ← peek 0 with
    | some c =>
      if isBreak c then return (breaks ++ [← lineBreak], true) else return (breaks, false)
    | none => return (breaks, false)) []

def escape : Scan (List Char) := do
  match ← peek 0 with
  | none => reject
  | some c =>
    match escapes.lookup c, codeEscapes.lookup c with
    | some meant, _ => do
      skip 1
      return [meant]
    | none, some count => do
      skip 1
      let code ← hex count
      if code < 0x110000 then return [Char.ofNat code] else throw .unconvertible
    | none, none =>
      if isBreak c then
        let _ ← lineBreak
        return (← quotedBreaks).flatten
      else reject

/-- Reads the next piece of a quoted scalar; there is none at its closing mark. -/
def quotedPiece (mark : Char) : Scan (Option (List Char)) := do
  match ← peek 0 with
  | none => reject
  | some c =>
    if c == ' ' || c == '\t' then
      let spaces ← takeWhile fun c => c == ' ' || c == '\t'
      match ← peek 0 with
      | none => reject
      | some d =>
        if !isBreak d then return some spaces
        let first ← lineBreak
        return some (folded first (← quotedBreaks))
    else if isBreak c then
      let first ← lineBreak
      return some (folded first (← quotedBreaks))
    else if c == mark then
      if mark == '\'' && (← peek 1) == some '\'' then
        skip 2
        return some ['\'']
      else
        skip 1
        return none
    else if mark == '"' && c == '\\' then
      skip 1
      return some (← escape)
    else
      skip 1
      return some [c]

def quotedScalar (mark : Char) : Scan (List Char) := do
  skip 1
  loop (fun text => do
    match ← quotedPiece mark with
    | some piece => return (text ++ piece, true)
    | none => return (text, false)) []

/-- What becomes of the line breaks at the end of a block scalar. -/
inductive Chomping where
  | clip
  | strip
  | keep
  deriving DecidableEq, Repr

def chompingOf? : Option Char → Option Chomping
  | some '+' => some .keep
  | some '-' => some .strip
  | _ => none

/-- An indentation indicator: a digit other than zero. -/
def indentationDigit : Scan (Option Nat) := do
  match ← peek 0 with
  | some c =>
    if c.isDigit then
      require (c != '0')
      skip 1
      return some (c.toNat - 0x30)
    else return none
  | none => return none

/-- Reads the indicators in the header of a block scalar, in either order. -/
def blockIndicators : Scan (Chomping × Option Nat) := do
  match chompingOf? (← peek 0) with
  | some chomping => do
    skip 1
    let indentation ← indentationDigit
    require (endsWord (← peek 0))
    return (chomping, indentation)
  | none => do
    let indentation ← indentationDigit
    let chomping := chompingOf? (← peek 0)
    if chomping.isSome then skip 1
    require (endsWord (← peek 0))
    return (chomping.getD .clip, indentation)

def spacesTo (column : Nat) : Scan Unit := do
  let cursor ← get
  let run := cursor.rest.takeWhile (· == ' ')
  skip (min run.length (column - cursor.column))

def blockBreaks (indent : Nat) : Scan (List (List Char)) := do
  spacesTo indent
  loop (fun breaks => do
    match ← peek 0 with
    | some c =>
      if !isBreak c then return (breaks, false)
      else
        let next ← lineBreak
        spacesTo indent
        return (breaks ++ [next], true)
    | none => return (breaks, false)) []

/-- Passes empty lines at the start of a block scalar whose indentation is not given, and finds the
greatest indentation among them and the line after them. -/
def blockIndentation : Scan (List (List Char) × Nat) :=
  loop (fun (breaks, widest) => do
    match ← peek 0 with
    | some ' ' => do
      skip 1
      return ((breaks, max widest (← get).column), true)
    | some c =>
      if isBreak c then return ((breaks ++ [← lineBreak], widest), true)
      else return ((breaks, widest), false)
    | none => return ((breaks, widest), false)) ([], 0)

/-- A block scalar while it is read: its text, the break after its last line, and the empty lines
after that. -/
structure OpenBlock where
  text : List Char := []
  lastBreak : List Char := []
  breaks : List (List Char) := []

def isLineBlank (c : Option Char) : Bool := c == some ' ' || c == some '\t'

/-- Reads a block scalar from its indicator on, below an indentation. -/
def blockScalar (folds : Bool) (parentIndent : Nat) : Scan (List Char) := do
  skip 1
  let (chomping, increment) ← blockIndicators
  restOfLine
  let least := max 1 parentIndent
  let (breaks, indent) ← match increment with
    | none => do
      let (breaks, widest) ← blockIndentation
      pure (breaks, max least widest)
    | some increment => do
      let indent := least + increment - 1
      pure (← blockBreaks indent, indent)
  let block ← loop (fun (block : OpenBlock) => do
    let cursor ← get
    if cursor.column != indent || (cursor.peek 0).isNone then return (block, false)
    let startsFull := !isLineBlank (cursor.peek 0)
    let content ← takeWhile fun c => !isBreak c
    let lastBreak ← lineBreak
    let breaks ← blockBreaks indent
    let after ← get
    let text := block.text ++ block.breaks.flatten ++ content
    if after.column == indent && (after.peek 0).isSome then
      let joint :=
        if folds && lastBreak == ['\n'] && startsFull && !isLineBlank (after.peek 0) then
          if breaks.isEmpty then [' '] else []
        else lastBreak
      return (⟨text ++ joint, [], breaks⟩, true)
    else return (⟨text, lastBreak, breaks⟩, false)) { breaks := breaks }
  return block.text
    ++ (if chomping == .strip then [] else block.lastBreak)
    ++ (if chomping == .keep then block.breaks.flatten else [])

end Blueprint.Yaml
