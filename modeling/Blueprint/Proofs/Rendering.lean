import Blueprint.Application.Basic
import Blueprint.Number.Numeral
import Blueprint.Proofs.Lexemes
import Mathlib.Algebra.Group.Nat.Defs
import Mathlib.Data.List.Chain

/-!
Documents written in the description language. A document is written as a row of tokens, and the row
as a text with a blank after each token. Texts are quoted; a comma follows every property, attribute,
entry and element; flags stand as bare words, without a comma where the grammar allows none.
-/
set_option autoImplicit false

namespace Blueprint

/-! ## Tokens and their spelling -/

namespace Written

/-- A token whose place does not matter. -/
def token (kind : TokenKind) (value : String) : Token := ⟨kind, value, .start⟩

def mark (symbol : Symbol) : Token := token (.symbol symbol) (String.ofList [symbol.char])

def word (text : String) : Token := token (Lexeme.wordKind text) text

def quoted (content : String) : Token := token .string content

def numeral (digits : List Char) : Token := token .number (String.ofList digits)

def comma : Token := mark .comma

/-- A character between quotation marks. -/
def escape : Char → List Char
  | '\\' => ['\\', '\\']
  | '"' => ['\\', '"']
  | '\n' => ['\\', 'n']
  | '\t' => ['\\', 't']
  | c => [c]

def spelling (token : Token) : List Char :=
  match token.kind with
  | .string => '"' :: (token.value.toList.flatMap escape ++ ['"'])
  | _ => token.value.toList

def text (tokens : List Token) : List Char :=
  tokens.flatMap fun token => spelling token ++ [' ']

/-! ## Groups -/

def braces (content : List Token) : List Token :=
  mark .leftBrace :: (content ++ [mark .rightBrace])

def brackets (content : List Token) : List Token :=
  mark .leftBracket :: (content ++ [mark .rightBracket])

def elements {α : Type} (write : α → List Token) (items : List α) : List Token :=
  items.flatMap fun item => write item ++ [comma]

/-- A name, a colon and a content. -/
def entry (key : String) (content : List Token) : List Token :=
  word key :: mark .colon :: (content ++ [comma])

/-- An entry that is left out where there is nothing to write. -/
def optionally {α : Type} (write : α → List Token) : Option α → List Token
  | none => []
  | some content => write content

/-- A word that stands alone for something that holds. -/
def flag (holds : Bool) (name : String) : List Token :=
  if holds then [word name] else []

/-! ## Numbers -/

def sign (negative : Bool) : List Char :=
  if negative then ['-'] else []

def integer (i : Int) : List Char :=
  sign (i < 0) ++ Nat.toDigits 10 i.natAbs

/-- The last digits of a number, as many as asked for. -/
def lastDigits : Nat → Nat → List Char
  | 0, _ => []
  | count + 1, number => lastDigits count (number / 10) ++ [Nat.digitChar (number % 10)]

/-- A number divided by a power of ten. -/
def decimal (number places : Nat) : List Char :=
  Nat.toDigits 10 (number / 10 ^ places) ++ '.' :: lastDigits places number

/-- A finite number in full, without an exponent; at least one digit follows the point. -/
def float : Binary64 → List Char
  | .finite negative significand (.ofNat exponent) _ =>
    sign negative ++ decimal (significand * 2 ^ exponent * 10) 1
  | .finite negative significand (.negSucc exponent) _ =>
    sign negative ++ decimal (significand * 5 ^ (exponent + 1)) (exponent + 1)
  | _ => []

/-! ## Values -/

mutual

/-- A generic value; the language has no word for an absent one. -/
def value : Value → List Token
  | .null => []
  | .bool true => [word "true"]
  | .bool false => [word "false"]
  | .int i => [numeral (integer i)]
  | .float x => [numeral (float x)]
  | .text s => [quoted s]
  | .list items => brackets (values items)
  | .object fields => braces (fieldsOf fields)

def values : List Value → List Token
  | [] => []
  | item :: rest => value item ++ comma :: values rest

def fieldsOf : List (String × Value) → List Token
  | [] => []
  | (key, content) :: rest =>
    quoted key :: mark .colon :: (value content ++ comma :: fieldsOf rest)

end

def object (fields : Fields Value) : List Token := value (.object fields)

def objectList (objects : List (Fields Value)) : List Token :=
  brackets (elements object objects)

/-! ## Models -/

def typeRef (type : TypeRef) : List Token :=
  word type.name :: if type.isArray then [mark .leftBracket, mark .rightBracket] else []

def defaultFeature (content : String) : List Token := [word "default", mark .colon, quoted content]

def enumFeature (contents : List String) : List Token :=
  if contents.isEmpty then []
  else word "enum" :: mark .colon :: brackets (elements (fun content => [quoted content]) contents)

/-- The features of a property, in a fixed order. -/
def features (property : Property) : List Token :=
  flag property.required "required" ++
    (optionally defaultFeature property.defaultValue ++ enumFeature property.enumValues)

def property (property : Property) : List Token :=
  word property.name :: mark .colon :: (typeRef property.type ++ features property)

def model (model : Model) : List Token :=
  word "model" :: word model.name :: braces (elements property model.properties)

/-! ## Screens -/

def screenParameter (parameter : Parameter) : List Token :=
  word parameter.name :: mark .colon ::
    (typeRef parameter.type ++ flag parameter.required "required")

/-- The fields of a component, with its type as the first of them. -/
def componentFields (component : Component) : Fields Value :=
  ("type", .text component.type) :: component.attributes

/-- A field with a text, left out where there is none. -/
def textField (name : String) (content : Option String) : Fields Value :=
  (content.map fun text => (name, .text text)).toList

/-- The fields of a form field that have a meaning of their own. -/
def formDescription (field : FormField) : Fields Value :=
  ("name", .text field.name) :: ("type", .text field.type) ::
    (textField "label" field.label ++
      if field.required then [("required", .bool true)] else [])

def formFields (field : FormField) : Fields Value := formDescription field ++ field.attributes

def actionFields (action : Action) : Fields Value :=
  textField "navigate" action.navigate ++
    (textField "api" action.api ++ [("params", .object action.params)])

def action (action : Action) : List Token :=
  word action.event :: mark .colon :: object (actionFields action)

def layout (layout : Layout) : List Token :=
  braces (entry "type" [word layout.kind.name] ++
    (entry "components" (objectList (layout.components.map componentFields)) ++
    (entry "fields" (objectList (layout.fields.map formFields)) ++
    (entry "actions" (braces (elements action layout.actions)) ++
    (optionally (fun label => entry "submitButton" [quoted label]) layout.submitButton ++
    optionally (fun label => entry "cancelButton" [quoted label]) layout.cancelButton)))))

def screen (screen : Screen) : List Token :=
  word "screen" :: word screen.name ::
    braces (flag screen.isInitial "initial" ++
      (entry "title" [quoted screen.title] ++
      (entry "params" (braces (elements screenParameter screen.parameters)) ++
      optionally (fun content => entry "layout" (layout content)) screen.layout)))

/-! ## Navigation -/

def navItemFields (item : NavItem) : Fields Value :=
  textField "title" item.title ++
    (textField "icon" item.icon ++ [("screen", .text item.screen)])

def navigation (navigation : Navigation) : List Token :=
  word "navigation" :: braces (entry "type" [word navigation.kind.name] ++
    entry "items" (objectList (navigation.items.map navItemFields)))

/-! ## The interface -/

def endpointParameter (parameter : Parameter) : List Token :=
  braces (flag parameter.required "required" ++
    (entry "name" [word parameter.name] ++ entry "type" (typeRef parameter.type)))

def endpoint (endpoint : Endpoint) : List Token :=
  braces (entry "id" [word endpoint.id] ++
    (entry "path" [quoted endpoint.path] ++
    (entry "method" [word endpoint.method] ++
    (entry "params" (brackets (elements endpointParameter endpoint.parameters)) ++
    (optionally (fun name => entry "body" [word name]) endpoint.body ++
    optionally (fun type => entry "response" (typeRef type)) endpoint.response)))))

def api (api : Api) : List Token :=
  word "api" :: braces (flag api.mock "mock" ++
    (entry "baseUrl" [quoted api.baseUrl] ++
    entry "endpoints" (brackets (elements endpoint api.endpoints))))

/-! ## Documents -/

def theme (fields : Fields String) : List Token :=
  braces (fields.flatMap fun field => entry field.1 [quoted field.2])

def header (header : Header) : List Token :=
  word "app" :: word header.name :: braces (entry "name" [quoted header.displayName] ++
    (entry "id" [quoted header.appId] ++
    (entry "version" [quoted header.version] ++
    (entry "platforms"
      (brackets (elements (fun platform => [word platform.name]) header.platforms)) ++
    optionally (fun fields => entry "theme" (theme fields)) header.theme))))

def mockData (data : MockData) : List Token :=
  word "mockData" ::
    braces (data.sections.flatMap fun field => entry field.1 (objectList field.2))

def document (document : Document) : List Token :=
  optionally header document.header ++
    (document.models.flatMap model ++
    (document.screens.flatMap screen ++
    (optionally navigation document.navigation ++
    (optionally api document.api ++
    optionally mockData document.mockData))))

end Written

/-- The text that a document is written as. -/
def Document.rendered (document : Document) : String :=
  String.ofList (Written.text (Written.document document))

/-! ## What can be written -/

def IsName (text : String) : Prop :=
  IsWord text.toList ∧ text ≠ "true" ∧ text ≠ "false"

instance : DecidablePred IsName := fun text =>
  inferInstanceAs (Decidable (IsWord text.toList ∧ text ≠ "true" ∧ text ≠ "false"))

def Fields.Distinct {α : Type} (fields : Fields α) : Prop := fields.names.Nodup

instance {α : Type} (fields : Fields α) : Decidable fields.Distinct :=
  inferInstanceAs (Decidable fields.names.Nodup)

/-- Generic values that the language has words for. -/
inductive Value.WellFormed : Value → Prop where
  | bool (b : Bool) : WellFormed (.bool b)
  | int {i : Int} (short : (Nat.toDigits 10 i.natAbs).length ≤ Numeral.maxDigits) :
    WellFormed (.int i)
  | float (negative : Bool) {significand : Nat} {exponent : Int}
    (canonical : CanonicalParts significand exponent) :
    WellFormed (.float (.finite negative significand exponent canonical))
  | text (s : String) : WellFormed (.text s)
  | list {items : List Value} (contents : ∀ item ∈ items, WellFormed item) :
    WellFormed (.list items)
  | object {fields : List (String × Value)} (distinct : Fields.Distinct fields)
    (contents : ∀ field ∈ fields, WellFormed field.2) : WellFormed (.object fields)

/-- Fields of distinct names whose contents can be written. -/
def Fields.WellFormed (fields : Fields Value) : Prop := Value.WellFormed (.object fields)

def Property.HasFeature (property : Property) : Prop :=
  property.required = true ∨ property.defaultValue.isSome = true ∨ property.enumValues ≠ []

/-- After a feature, the words `default` and `enum` with a colon begin another one. -/
def Property.MayPrecede (property next : Property) : Prop :=
  property.HasFeature → next.name ≠ "default" ∧ next.name ≠ "enum"

structure Model.WellFormed (model : Model) : Prop where
  name : IsName model.name
  properties : ∀ property ∈ model.properties, IsName property.name ∧ IsName property.type.name
  order : model.properties.IsChain Property.MayPrecede

def Parameter.WellFormed (parameter : Parameter) : Prop :=
  IsName parameter.name ∧ IsName parameter.type.name

instance : DecidablePred Parameter.WellFormed := fun parameter =>
  inferInstanceAs (Decidable (IsName parameter.name ∧ IsName parameter.type.name))

structure Component.WellFormed (component : Component) : Prop where
  attributes : component.attributes.WellFormed
  reserved : "type" ∉ component.attributes.names

structure FormField.WellFormed (field : FormField) : Prop where
  attributes : field.attributes.WellFormed
  reserved : ∀ key ∈ ["name", "type", "label", "required"], key ∉ field.attributes.names

structure Layout.WellFormed (layout : Layout) : Prop where
  components : ∀ component ∈ layout.components, component.WellFormed
  fields : ∀ field ∈ layout.fields, field.WellFormed
  actions : ∀ action ∈ layout.actions, IsName action.event ∧ action.params.WellFormed

structure Screen.WellFormed (screen : Screen) : Prop where
  name : IsName screen.name
  parameters : ∀ parameter ∈ screen.parameters, parameter.WellFormed
  layout : ∀ layout ∈ screen.layout, layout.WellFormed

structure Endpoint.WellFormed (endpoint : Endpoint) : Prop where
  id : IsName endpoint.id
  method : (HttpMethod.ofName? endpoint.method).isSome = true
  parameters : ∀ parameter ∈ endpoint.parameters, parameter.WellFormed
  body : ∀ name ∈ endpoint.body, IsName name
  response : ∀ type ∈ endpoint.response, IsName type.name

structure Header.WellFormed (header : Header) : Prop where
  name : IsName header.name
  theme : ∀ fields ∈ header.theme, fields.Distinct ∧ ∀ key ∈ fields.names, IsName key

structure MockData.WellFormed (data : MockData) : Prop where
  distinct : data.sections.Distinct
  names : ∀ key ∈ data.sections.names, IsName key
  records : ∀ field ∈ data.sections, ∀ record ∈ field.2, Fields.WellFormed record

/-- A document that can be written: names are words, and the names of fields are distinct and do not
clash with those that have a meaning of their own. Other texts are arbitrary. -/
structure Document.WellFormed (document : Document) : Prop where
  header : ∀ header ∈ document.header, header.WellFormed
  models : ∀ model ∈ document.models, model.WellFormed
  screens : ∀ screen ∈ document.screens, screen.WellFormed
  endpoints : ∀ api ∈ document.api, ∀ endpoint ∈ api.endpoints, endpoint.WellFormed
  mockData : ∀ data ∈ document.mockData, data.WellFormed

end Blueprint
