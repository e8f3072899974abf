/-!
Tokens of the description language: their kinds, their spellings and their places in the source.
-/
set_option autoImplicit false

namespace Blueprint

/-- A place in a source text; lines and columns count from one, columns in characters. -/
structure Position where
  line : Nat
  column : Nat
  deriving DecidableEq, Repr, Inhabited

namespace Position

def start : Position := ⟨1, 1⟩

def next (place : Position) (c : Char) : Position :=
  if c == '\n' then ⟨place.line + 1, 1⟩ else ⟨place.line, place.column + 1⟩

def after (place : Position) (text : List Char) : Position :=
  text.foldl next place

end Position

inductive Keyword where
  | app
  | model
  | screen
  | navigation
  | api
  | mockData
  | endpoint
  | true
  | false
  deriving DecidableEq, Repr

namespace Keyword

def all : List Keyword :=
  [.app, .model, .screen, .navigation, .api, .mockData, .endpoint, .true, .false]

def spelling : Keyword → String
  | .app => "app"
  | .model => "model"
  | .screen => "screen"
  | .navigation => "navigation"
  | .api => "api"
  | .mockData => "mockData"
  | .endpoint => "endpoint"
  | .true => "true"
  | .false => "false"

def ofSpelling? (word : String) : Option Keyword :=
  all.find? fun keyword => keyword.spelling == word

/-- Whether the word may stand where a name is expected; the truth values may not. -/
def isName : Keyword → Bool
  | .true | .false => Bool.false
  | _ => Bool.true

end Keyword

inductive Symbol where
  | leftBrace
  | rightBrace
  | leftBracket
  | rightBracket
  | leftParen
  | rightParen
  | comma
  | colon
  | dot
  deriving DecidableEq, Repr

namespace Symbol

def all : List Symbol :=
  [.leftBrace, .rightBrace, .leftBracket, .rightBracket, .leftParen, .rightParen, .comma, .colon,
    .dot]

def char : Symbol → Char
  | .leftBrace => '\x7b'
  | .rightBrace => '\x7d'
  | .leftBracket => '['
  | .rightBracket => ']'
  | .leftParen => '('
  | .rightParen => ')'
  | .comma => ','
  | .colon => ':'
  | .dot => '.'

def ofChar? (c : Char) : Option Symbol :=
  all.find? fun symbol => symbol.char == c

end Symbol

/-- The kinds of tokens. A character that starts no other token is unknown. -/
inductive TokenKind where
  | keyword (word : Keyword)
  | symbol (mark : Symbol)
  | string
  | number
  | identifier
  | unknown
  | eof
  deriving DecidableEq, Repr

namespace TokenKind

def label : TokenKind → String
  | .keyword word => word.spelling
  | .symbol mark => String.singleton mark.char
  | .string => "STRING"
  | .number => "NUMBER"
  | .identifier => "IDENTIFIER"
  | .unknown => "UNKNOWN"
  | .eof => "EOF"

/-- Whether a token of this kind may stand where a name is expected: identifiers, and reserved words
other than the truth values. -/
def isName : TokenKind → Bool
  | .keyword word => word.isName
  | .identifier => true
  | _ => false

end TokenKind

/-- A token with its place. The value is the text of the token; of a string it is the content with
its escapes read. -/
structure Token where
  kind : TokenKind
  value : String
  place : Position
  deriving DecidableEq, Repr

end Blueprint
