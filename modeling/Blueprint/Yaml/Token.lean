import Blueprint.Text.Utf8
import Blueprint.Yaml.Scalar

/-!
YAML tokens. Block collections are told by indentation: a token opens one where a line is indented
deeper than the one around it and closes it where that ends. A key needs no mark of its own: what
may be one is remembered, and marked when its colon follows on the same line.
-/
set_option autoImplicit false

namespace Blueprint.Yaml

open Scan

/-- A directive before a document. -/
inductive Directive where
  | version (major : Nat)
  | tagHandle (handle expansion : String)
  | other
  deriving DecidableEq, Repr

inductive Token where
  | directive (content : Directive)
  | documentStart
  | documentEnd
  | blockSequenceStart
  | blockMappingStart
  | blockEnd
  | flowSequenceStart
  | flowSequenceEnd
  | flowMappingStart
  | flowMappingEnd
  | flowEntry
  | blockEntry
  | key
  | value
  | alias (name : String)
  | anchor (name : String)
  /-- A tag, with the handle that abbreviates it, if it has one. -/
  | tag (handle : Option String) (suffix : String)
  | scalar (text : String) (plain : Bool)
  deriving DecidableEq, Repr

/-- What may turn out to be a key. -/
structure KeyCandidate where
  /-- The number of tokens before it. -/
  place : Nat
  /-- Whether it must be a key, because it stands at the indentation of a block mapping. -/
  required : Bool
  index : Nat
  line : Nat
  column : Nat

/-- The state of scanning: the tokens found, the open collections, and the candidates for keys, one
for each level of flow collections. -/
structure TokenState where
  cursor : Cursor
  tokens : List Token := []
  flowLevel : Nat := 0
  indent : Int := -1
  indents : List Int := []
  allowsKey : Bool := true
  candidates : List (Nat × KeyCandidate) := []

/-- A step that finds tokens. -/
abbrev TokenReader := StateT TokenState (Except Problem)

namespace TokenReader

def scan {α : Type} (step : Scan α) : TokenReader α := do
  let state ← get
  match step state.cursor with
  | .ok (answer, cursor) =>
    set { state with cursor := cursor }
    return answer
  | .error problem => throw problem

/-- Gives up unless a condition holds. -/
def require (condition : Bool) : TokenReader Unit :=
  if condition then pure () else throw .malformed

def emit (token : Token) : TokenReader Unit :=
  modify fun state => { state with tokens := state.tokens ++ [token] }

def emitAt (place : Nat) (token : Token) : TokenReader Unit :=
  modify fun state =>
    { state with tokens := state.tokens.take place ++ token :: state.tokens.drop place }

def allowKey (allowed : Bool) : TokenReader Unit :=
  modify fun state => { state with allowsKey := allowed }

def mark (token : Token) : TokenReader Unit := do
  scan (skip 1)
  emit token

/-- Forgets the candidates that cannot be keys any more: a key is on one line, and not long. -/
def dropStale : TokenReader Unit := do
  let state ← get
  let isStale (candidate : KeyCandidate) : Bool :=
    candidate.line != state.cursor.line || candidate.index + 1024 < state.cursor.index
  require (!state.candidates.any fun entry => isStale entry.2 && entry.2.required)
  set { state with candidates := state.candidates.filter fun entry => !isStale entry.2 }

def dropCandidate : TokenReader Unit := do
  let state ← get
  match state.candidates.lookup state.flowLevel with
  | some candidate => require (!candidate.required)
  | none => pure ()
  set { state with
    candidates := state.candidates.filter fun entry => entry.1 != state.flowLevel }

/-- Remembers what comes next as a candidate, where keys are allowed. -/
def saveCandidate : TokenReader Unit := do
  if (← get).allowsKey then
    dropCandidate
    modify fun state =>
      let cursor := state.cursor
      let required := state.flowLevel == 0 && state.indent == cursor.column
      let candidate : KeyCandidate :=
        ⟨state.tokens.length, required, cursor.index, cursor.line, cursor.column⟩
      { state with candidates := state.candidates ++ [(state.flowLevel, candidate)] }

/-- Closes the block collections that are indented deeper than a column. -/
def closeBlocks (column : Int) : TokenReader Unit :=
  modify fun state =>
    if state.flowLevel != 0 then state
    else
      let levels := state.indent :: state.indents
      let closed := levels.takeWhile (column < ·)
      match levels.drop closed.length with
      | [] => state
      | indent :: indents =>
        { state with
          tokens := state.tokens ++ closed.map (fun _ => Token.blockEnd)
          indent := indent
          indents := indents }

/-- Opens a block collection at a column, if it is deeper than the one around; says whether it
did. -/
def openBlock (column : Nat) : TokenReader Bool := do
  let state ← get
  if state.indent < column then
    set { state with indent := column, indents := state.indent :: state.indents }
    return true
  else return false

/-- Passes spaces, comments and line breaks. A new line may start with a key, outside of flow
collections. -/
def toNextToken : TokenReader Unit := do
  let lines ← scan do
    if (← get).index == 0 && (← peek 0) == some '\ufeff' then skip 1
    Scan.loop (fun lines => do
      let _ ← takeWhile (· == ' ')
      if (← peek 0) == some '#' then
        let _ ← takeWhile fun c => !isBreak c
      let found ← lineBreak
      return (if found.isEmpty then lines else lines + 1, !found.isEmpty)) 0
  if lines != 0 && (← get).flowLevel == 0 then allowKey true

/-- Characters of the names of anchors, handles and directives. -/
def isNameChar (c : Char) : Bool := c.isAlphanum || c == '-' || c == '_'

def isUriChar (c : Char) : Bool := c.isAlphanum || "-;/?:@&=+$,_.!~*'()[]%".toList.contains c

/-- Reads bytes that are written by their codes after percent signs, as text. -/
def uriEscapes : Scan (List Char) := do
  let bytes ← Scan.loop (fun bytes => do
    if (← peek 0) == some '%' then
      skip 1
      return (bytes ++ [← hex 2], true)
    else return (bytes, false)) []
  match Text.decodeUtf8 bytes with
  | .ok text => return text
  | .error _ => reject

/-- Reads the text of a tag; it is not empty. -/
def uri : Scan String := do
  let text ← Scan.loop (fun text => do
    if (← peek 0) == some '%' then return (text ++ (← uriEscapes), true)
    let run ← takeWhile fun c => isUriChar c && c != '%'
    return (text ++ run, !run.isEmpty)) []
  Scan.require (!text.isEmpty)
  return String.ofList text

/-- Reads the handle of a tag: an exclamation mark, or a name between two. -/
def tagHandle : Scan String := do
  Scan.require ((← peek 0) == some '!')
  skip 1
  if (← peek 0) == some ' ' then return "!"
  let name ← takeWhile isNameChar
  Scan.require ((← peek 0) == some '!')
  skip 1
  return String.ofList ('!' :: name ++ ['!'])

def decimal : Scan Nat := do
  let digits ← takeWhile Char.isDigit
  Scan.require (!digits.isEmpty)
  return digits.foldl (fun total c => 10 * total + (c.toNat - 0x30)) 0

def directiveContent (name : String) : Scan Directive := do
  match name with
  | "YAML" => do
    let _ ← takeWhile (· == ' ')
    let major ← decimal
    Scan.require ((← peek 0) == some '.')
    skip 1
    let _ ← decimal
    Scan.require (endsWord (← peek 0))
    return .version major
  | "TAG" => do
    let _ ← takeWhile (· == ' ')
    let handle ← tagHandle
    Scan.require ((← peek 0) == some ' ')
    let _ ← takeWhile (· == ' ')
    let expansion ← uri
    Scan.require (endsWord (← peek 0))
    return .tagHandle handle expansion
  | _ => do
    let _ ← takeWhile fun c => !isBreak c
    return .other

def directive : Scan Directive := do
  skip 1
  let name ← takeWhile isNameChar
  Scan.require (!name.isEmpty)
  Scan.require (endsWord (← peek 0))
  let content ← directiveContent (String.ofList name)
  restOfLine
  return content

def anchorName : Scan String := do
  skip 1
  let name ← takeWhile isNameChar
  Scan.require (!name.isEmpty)
  let after ← peek 0
  Scan.require (isSpaceOrEnd after
    || (after.map (['?', ':', ',', ']', '\x7d', '%', '@', '\x60'].contains ·)).getD false)
  return String.ofList name

/-- Whether a tag that starts with an exclamation mark has another one, and so a handle. -/
def hasHandle (text : List Char) : Bool :=
  (text.takeWhile fun c => !endsWord (some c)).contains '!'

/-- Reads a tag: verbatim, alone, or by a handle. -/
def tagToken : Scan Token := do
  let second ← peek 1
  let token ←
    if second == some '<' then do
      skip 2
      let suffix ← uri
      Scan.require ((← peek 0) == some '>')
      skip 1
      pure (Token.tag none suffix)
    else if isSpaceOrEnd second then do
      skip 1
      pure (Token.tag none "!")
    else if hasHandle ((← get).rest.drop 1) then do
      let handle ← tagHandle
      pure (Token.tag (some handle) (← uri))
    else do
      skip 1
      pure (Token.tag (some "!") (← uri))
  Scan.require (endsWord (← peek 0))
  return token

/-- Adds a token that belongs to no block, and closes all blocks before it. -/
def outsideBlocks (step : TokenReader Unit) : TokenReader Unit := do
  closeBlocks (-1)
  dropCandidate
  allowKey false
  step

/-- Opens a flow collection, which may itself be a key. -/
def openFlow (token : Token) : TokenReader Unit := do
  saveCandidate
  modify fun state => { state with flowLevel := state.flowLevel + 1, allowsKey := true }
  mark token

def closeFlow (token : Token) : TokenReader Unit := do
  dropCandidate
  modify fun state => { state with flowLevel := state.flowLevel - 1, allowsKey := false }
  mark token

/-- Adds the mark of an entry or an explicit key; in a block it may open a collection. -/
def blockMark (opening token : Token) (allowsKeyInFlow : Bool) : TokenReader Unit := do
  let inFlow := (← get).flowLevel != 0
  if !inFlow then
    require (← get).allowsKey
    if ← openBlock (← get).cursor.column then emit opening
  allowKey (!inFlow || allowsKeyInFlow)
  dropCandidate
  mark token

/-- Adds the mark of a value. The candidate at this level, if there is one, is its key. -/
def valueMark : TokenReader Unit := do
  let state ← get
  match state.candidates.lookup state.flowLevel with
  | some candidate => do
    set { state with
      candidates := state.candidates.filter fun entry => entry.1 != state.flowLevel }
    emitAt candidate.place .key
    if state.flowLevel == 0 then
      if ← openBlock candidate.column then emitAt candidate.place .blockMappingStart
    allowKey false
    mark .value
  | none => blockMark .blockMappingStart .value false

def maybeKey (step : Scan Token) : TokenReader Unit := do
  saveCandidate
  allowKey false
  emit (← scan step)

def startsPlain (inFlow : Bool) (cursor : Cursor) : Bool :=
  match cursor.peek 0 with
  | none => false
  | some c =>
    !(isSpaceOrEnd (some c) || "-?:,[]\x7b\x7d#&*!|>'\"%@\x60".toList.contains c)
      || (!isSpaceOrEnd (cursor.peek 1) && (c == '-' || (!inFlow && (c == '?' || c == ':'))))

/-- Adds a plain scalar. After one that ends with a line break, a key may follow. -/
def plain : TokenReader Unit := do
  saveCandidate
  let state ← get
  let (text, crossedLine) ← scan (plainScalar (state.flowLevel != 0) (state.indent + 1).toNat)
  allowKey crossedLine
  emit (.scalar (String.ofList text) true)

def block (folds : Bool) : TokenReader Unit := do
  allowKey true
  dropCandidate
  let indent := (← get).indent
  let text ← scan (blockScalar folds (indent + 1).toNat)
  emit (.scalar (String.ofList text) false)

/-- Finds the next token; says whether there was one. -/
def next : TokenReader Bool := do
  toNextToken
  dropStale
  closeBlocks (← get).cursor.column
  let state ← get
  let cursor := state.cursor
  let inFlow := state.flowLevel != 0
  let spaced := isSpaceOrEnd (cursor.peek 1)
  match cursor.peek 0 with
  | none => do
    outsideBlocks (pure ())
    return false
  | some c =>
    if c == '%' && cursor.column == 0 then
      outsideBlocks do emit (.directive (← scan directive))
    else if cursor.column == 0 && cursor.startsWithMark '-' then
      outsideBlocks do
        scan (skip 3)
        emit .documentStart
    else if cursor.column == 0 && cursor.startsWithMark '.' then
      outsideBlocks do
        scan (skip 3)
        emit .documentEnd
    else if c == '[' then openFlow .flowSequenceStart
    else if c == '\x7b' then openFlow .flowMappingStart
    else if c == ']' then closeFlow .flowSequenceEnd
    else if c == '\x7d' then closeFlow .flowMappingEnd
    else if c == ',' then do
      allowKey true
      dropCandidate
      mark .flowEntry
    else if c == '-' && spaced then blockMark .blockSequenceStart .blockEntry true
    else if c == '?' && (inFlow || spaced) then blockMark .blockMappingStart .key false
    else if c == ':' && (inFlow || spaced) then valueMark
    else if c == '*' then maybeKey do return .alias (← anchorName)
    else if c == '&' then maybeKey do return .anchor (← anchorName)
    else if c == '!' then maybeKey tagToken
    else if c == '|' && !inFlow then block false
    else if c == '>' && !inFlow then block true
    else if c == '\'' || c == '"' then
      maybeKey do return .scalar (String.ofList (← quotedScalar c)) false
    else if startsPlain inFlow cursor then plain
    else throw .malformed
    return true

/-- Finds all tokens. Each takes a character, so the number of characters bounds them. -/
def all : Nat → TokenReader Unit
  | 0 => pure ()
  | fuel + 1 => do if ← next then all fuel

end TokenReader

def isAllowed (c : Char) : Bool :=
  c == '\t' || c == '\n' || c == '\r' || c == '\u0085'
    || (0x20 ≤ c.toNat && c.toNat ≤ 0x7e)
    || (0xa0 ≤ c.toNat && c.toNat ≤ 0xfffd)
    || 0x10000 ≤ c.toNat

def tokenize (text : List Char) : Except Problem (List Token) := do
  if !text.all isAllowed then throw .malformed
  let (_, state) ← (TokenReader.all (text.length + 1)).run { cursor := { rest := text } }
  return state.tokens

end Blueprint.Yaml
