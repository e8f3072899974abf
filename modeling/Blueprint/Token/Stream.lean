import Blueprint.Token.Lexer

/-!
Several readers over one source. A reader scans lazily from its own cursor, so that what one reader
delivers does not depend on the others; a full pass opens a fresh reader.
-/
set_option autoImplicit false

namespace Blueprint

/-- A reader of tokens: the cursor where it stands, or nothing once it has delivered the end. -/
abbrev Reader := Option Cursor

namespace Reader

def ofSource (source : String) : Reader := some (Cursor.ofSource source)

def remaining : Reader → List Token
  | none => []
  | some cursor => cursor.tokens

/-- Draws up to a number of tokens: what was drawn, whether the reader ran out before the number
was reached, and the reader afterwards. -/
def draw : Nat → Reader → List Token × Bool × Reader
  | 0, reader => ([], false, reader)
  | _ + 1, none => ([], true, none)
  | count + 1, some cursor =>
    let (token, after) := cursor.next
    let (tokens, ranOut, reader) := draw count after
    (token :: tokens, ranOut, reader)

end Reader

/-- What can be asked of the readers over one source. -/
inductive StreamStep where
  /-- Open a new reader at the start. -/
  | opened
  /-- Draw up to `count` tokens from a reader. -/
  | drawn (reader : Nat) (count : Nat)
  /-- Draw all that a reader has left. -/
  | drained (reader : Nat)
  | passed
  deriving DecidableEq, Repr

/-- The answer to a step. -/
inductive StreamAnswer where
  | reader (index : Nat)
  | tokens (delivered : List Token) (ranOut : Bool)
  deriving DecidableEq, Repr

/-- The readers opened so far over one source. -/
structure TokenStream where
  source : String
  readers : List Reader

namespace TokenStream

/-- A stream without readers. -/
def ofSource (source : String) : TokenStream := ⟨source, []⟩

/-- Carries out one step. A reader that was never opened delivers nothing. -/
def step (stream : TokenStream) : StreamStep → StreamAnswer × TokenStream
  | .opened =>
    (.reader stream.readers.length,
      { stream with readers := stream.readers ++ [Reader.ofSource stream.source] })
  | .drawn index count =>
    let reader := (stream.readers[index]?).getD none
    let (tokens, ranOut, after) := reader.draw count
    (.tokens tokens ranOut, { stream with readers := stream.readers.set index after })
  | .drained index =>
    let reader := (stream.readers[index]?).getD none
    (.tokens reader.remaining false, { stream with readers := stream.readers.set index none })
  | .passed => (.tokens (tokenize stream.source) false, stream)

def run : TokenStream → List StreamStep → List StreamAnswer
  | _, [] => []
  | stream, step :: steps =>
    let (answer, after) := stream.step step
    answer :: run after steps

end TokenStream

end Blueprint
