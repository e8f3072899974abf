import Blueprint.Application.Reconcile
import Blueprint.Proofs.Spacing

/-!
Sheets: descriptions in a canonical layout, made of a header, models, screens and at most one
interface. `Sheet.row` is the row of pieces that a sheet is laid out as, `Sheet.document` the document
that it describes, and `Sheet.Canonical` says which names and texts a sheet may hold.
-/
set_option autoImplicit false

namespace Blueprint

/-- A text in a theme, with or without a comma after it. -/
structure ThemeEntry where
  key : String
  text : String
  comma : Bool

inductive HeaderAttribute where
  | name (text : String)
  | id (text : String)
  | version (text : String)
  | platforms (found : List Platform)
  | theme (entries : List ThemeEntry)

/-- An attribute of a header, with or without a comma after it. -/
structure HeaderEntry where
  content : HeaderAttribute
  comma : Bool

/-- What a sheet says of a screen. -/
structure ScreenOutline where
  name : String
  title : String
  isInitial : Bool

/-- What a sheet says of an endpoint. -/
structure EndpointOutline where
  id : String
  path : String
  method : HttpMethod

structure ApiOutline where
  baseUrl : String
  endpoints : List EndpointOutline

structure Sheet where
  name : String
  entries : List HeaderEntry
  models : List Model
  screens : List ScreenOutline
  api : Option ApiOutline

/-! ## What a sheet describes -/

/-- The header with an attribute; a repeated one replaces what was said before. -/
def HeaderAttribute.set (header : Header) : HeaderAttribute → Header
  | .name text => { header with displayName := text }
  | .id text => { header with appId := text }
  | .version text => { header with version := text }
  | .platforms found => { header with platforms := found }
  | .theme entries =>
    { header with theme := some (Fields.ofList (entries.map fun entry => (entry.key, entry.text))) }

def ScreenOutline.screen (outline : ScreenOutline) : Screen where
  name := outline.name
  title := outline.title
  isInitial := outline.isInitial
  layout := some {}

def EndpointOutline.endpoint (outline : EndpointOutline) : Endpoint :=
  ⟨outline.id, outline.path, outline.method.name, [], none, none⟩

def ApiOutline.api (outline : ApiOutline) : Api where
  baseUrl := outline.baseUrl
  endpoints := outline.endpoints.map EndpointOutline.endpoint

namespace Sheet

def header (sheet : Sheet) : Header :=
  sheet.entries.foldl (fun header entry => entry.content.set header) { name := sheet.name }

def document (sheet : Sheet) : Document where
  header := some sheet.header
  models := sheet.models
  screens := sheet.screens.map ScreenOutline.screen
  api := sheet.api.map ApiOutline.api

def application (sheet : Sheet) : Application := sheet.document.toApplication sheet.header

end Sheet

/-! ## How a sheet is laid out -/

/-- Pieces with the same kind of blanks before each. -/
def spacedBy (space : Space) (pieces : List Piece) : Row := pieces.map fun piece => (space, piece)

/-- Pieces with any blanks before each. -/
def loose (pieces : List Piece) : Row := spacedBy .free pieces

/-- Pieces with a comma between each two. -/
def commaPieces : List Piece → List Piece
  | [] => []
  | first :: others => first :: others.flatMap fun other => [.mark .comma, other]

/-- A comma that may be left out. -/
def commaIf (comma : Bool) : List Piece := if comma then [.mark .comma] else []

def ThemeEntry.pieces (entry : ThemeEntry) : List Piece :=
  [.word entry.key, .mark .colon, .text entry.text] ++ commaIf entry.comma

def HeaderAttribute.pieces : HeaderAttribute → List Piece
  | .name text => [.word "name", .mark .colon, .text text]
  | .id text => [.word "id", .mark .colon, .text text]
  | .version text => [.word "version", .mark .colon, .text text]
  | .platforms found => .word "platforms" :: .mark .colon :: .mark .leftBracket ::
      (commaPieces (found.map fun platform => .word platform.name) ++ [.mark .rightBracket])
  | .theme entries => .word "theme" :: .mark .colon :: .mark .leftBrace ::
      (entries.flatMap ThemeEntry.pieces ++ [.mark .rightBrace])

def HeaderEntry.row (entry : HeaderEntry) : Row :=
  loose (entry.content.pieces ++ commaIf entry.comma)

def requiredRow (required : Bool) : Row :=
  if required then [(.apart, .word "required")] else []

def defaultRow : Option String → Row
  | none => []
  | some content => (.apart, .word "default") :: spacedBy .inLine [.mark .colon, .text content]

def enumRow : List String → Row
  | [] => []
  | contents => (.apart, .word "enum") :: spacedBy .inLine (.mark .colon :: .mark .leftBracket ::
      (commaPieces (contents.map .text) ++ [.mark .rightBracket]))

/-- The features of a property, in the order in which they are laid out. -/
def featuresRow (property : Property) : Row :=
  requiredRow property.required ++
    (defaultRow property.defaultValue ++ enumRow property.enumValues)

def arrayRow (isArray : Bool) : Row :=
  if isArray then [(.inLine, .mark .leftBracket), (.tight, .mark .rightBracket)] else []

/-- A property: it begins on a line of its own and stays on it. -/
def propertyRow (property : Property) : Row :=
  (.newLine, .word property.name) :: (.inLine, .mark .colon) :: (.inLine, .word property.type.name) ::
    (arrayRow property.type.isArray ++ featuresRow property)

/-- A word, a name, and the opening brace. -/
def blockRow (keyword name : String) : Row :=
  loose [.word keyword, .word name, .mark .leftBrace]

def modelRow (model : Model) : Row :=
  blockRow "model" model.name ++
    (model.properties.flatMap propertyRow ++ loose [.mark .rightBrace])

/-- The inside of a screen, up to the closing brace of its layout. -/
def screenBody (outline : ScreenOutline) : Row :=
  loose ([.word "title", .mark .colon, .text outline.title] ++
    (if outline.isInitial then [.word "initial"] else []) ++
    [.word "layout", .mark .colon, .mark .leftBrace, .word "type", .mark .colon, .word "stack"])

def screenRow (outline : ScreenOutline) : Row :=
  blockRow "screen" outline.name ++
    (screenBody outline ++ loose [.mark .rightBrace, .mark .rightBrace])

def endpointBody (outline : EndpointOutline) : Row :=
  loose [.word "path", .mark .colon, .text outline.path, .word "method", .mark .colon,
    .word outline.method.name]

def endpointRow (outline : EndpointOutline) : Row :=
  blockRow "endpoint" outline.id ++ (endpointBody outline ++ loose [.mark .rightBrace])

def apiRow (outline : ApiOutline) : Row :=
  loose [.word "api", .mark .leftBrace, .word "baseUrl", .mark .colon, .text outline.baseUrl] ++
    (outline.endpoints.flatMap endpointRow ++ loose [.mark .rightBrace])

namespace Sheet

def headerRow (sheet : Sheet) : Row :=
  blockRow "app" sheet.name ++
    (sheet.entries.flatMap HeaderEntry.row ++ loose [.mark .rightBrace])

def row (sheet : Sheet) : Row :=
  sheet.headerRow ++ (sheet.models.flatMap modelRow ++
    (sheet.screens.flatMap screenRow ++ sheet.api.elim [] apiRow))

/-- Whether a source lays the sheet out, with nothing but blanks after it. -/
def LaidOutIn (sheet : Sheet) (source : String) : Prop :=
  ∃ last, Spaced sheet.row source.toList last ∧ Blank last

end Sheet

/-! ## Which names and texts a sheet may hold -/

/-- A name that is neither reserved nor the word of a feature. -/
def IsTerm (name : String) : Prop :=
  IsWord name.toList ∧ Keyword.ofSpelling? name = none ∧
    name ∉ ["required", "default", "enum"]

/-- A text that stands between quotation marks as it is. -/
def Verbatim (text : String) : Prop := (Piece.text text).Readable

def Braceless (text : String) : Prop := '\x7b' ∉ text.toList ∧ '\x7d' ∉ text.toList

def IsSolid (text : String) : Prop := text ≠ "" ∧ ∀ c ∈ text.toList, Text.isBlank c = false

/-- A value that a property may have: word characters, hyphens and points, but no `required`. -/
def IsChoice (value : String) : Prop :=
  value ≠ "" ∧ (∀ c ∈ value.toList, Text.isWordChar c = true ∨ c = '-' ∨ c = '.') ∧
    ¬ "required".toList <:+: value.toList

section

variable (text : String)

instance : Decidable (IsTerm text) :=
  inferInstanceAs (Decidable (IsWord text.toList ∧ Keyword.ofSpelling? text = none ∧
    text ∉ ["required", "default", "enum"]))

instance : Decidable (Verbatim text) :=
  inferInstanceAs (Decidable ('"' ∉ text.toList ∧ '\\' ∉ text.toList ∧ '\n' ∉ text.toList))

instance : Decidable (Braceless text) :=
  inferInstanceAs (Decidable ('\x7b' ∉ text.toList ∧ '\x7d' ∉ text.toList))

instance : Decidable (IsSolid text) :=
  decidable_of_iff (text ≠ "" ∧ text.toList.all (fun c => !Text.isBlank c) = true)
    (by simp [IsSolid])

end

def HeaderAttribute.Canonical : HeaderAttribute → Prop
  | .name text | .id text | .version text => Verbatim text ∧ Braceless text
  | .platforms _ => True
  | .theme entries =>
    ∀ entry ∈ entries, IsTerm entry.key ∧ Verbatim entry.text ∧ Braceless entry.text

structure Property.Canonical (property : Property) : Prop where
  name : IsTerm property.name
  type : IsTerm property.type.name
  default : ∀ value ∈ property.defaultValue, IsChoice value
  choices : ∀ value ∈ property.enumValues, IsChoice value

structure Model.Canonical (model : Model) : Prop where
  name : IsTerm model.name
  properties : ∀ property ∈ model.properties, property.Canonical

structure ScreenOutline.Canonical (outline : ScreenOutline) : Prop where
  name : IsTerm outline.name
  nameFree : ¬ "initial".toList <:+: outline.name.toList
  title : Verbatim outline.title ∧ Braceless outline.title
  titleFree : ¬ "initial".toList <:+: outline.title.toList

structure EndpointOutline.Canonical (outline : EndpointOutline) : Prop where
  id : IsTerm outline.id
  path : Verbatim outline.path ∧ IsSolid outline.path

structure ApiOutline.Canonical (outline : ApiOutline) : Prop where
  baseUrl : Verbatim outline.baseUrl ∧ Braceless outline.baseUrl ∧ IsSolid outline.baseUrl
  endpoints : ∀ endpoint ∈ outline.endpoints, endpoint.Canonical

structure Sheet.Canonical (sheet : Sheet) : Prop where
  name : IsTerm sheet.name
  entries : ∀ entry ∈ sheet.entries, entry.content.Canonical
  models : ∀ model ∈ sheet.models, model.Canonical
  screens : ∀ outline ∈ sheet.screens, outline.Canonical
  api : ∀ outline ∈ sheet.api, outline.Canonical

end Blueprint
