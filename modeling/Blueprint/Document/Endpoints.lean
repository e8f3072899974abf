import Blueprint.Application.Api
import Blueprint.Document.Screens

/-!
The grammar of the interface section and its endpoints, written inline or as a list.
-/
set_option autoImplicit false

namespace Blueprint.Grammar

open Blueprint.Parser

/-- An endpoint parameter while it is read: the name is not known before it is met. -/
structure OpenParameter where
  name : Option String := none
  type : TypeRef := { name := "string" }
  required : Bool := false

def parameterAttribute (key : Token) (parameter : OpenParameter) : Parser OpenParameter :=
  match key.value with
  | "name" => return { parameter with name := some (← expectName).value }
  | "type" => return { parameter with type := ← typeRef }
  | "required" => return { parameter with required := ← expectFlag }
  | name => fail (.unknownAttribute .parameter name) key.place

def parameterEntry (parameter : OpenParameter) : Parser OpenParameter := do
  if ← flag "required" then return { parameter with required := true }
  else
    let key ← expectKey
    let parameter ← parameterAttribute key parameter
    skipCommas
    return parameter

/-- A parameter of an endpoint; its type is text unless it is given. -/
def endpointParameter : Parser Parameter := do
  let opening ← expectSymbol .leftBrace
  let body ← untilClosed .rightBrace parameterEntry {}
  let _ ← expectSymbol .rightBrace
  match body.name with
  | some name => return { name := name, type := body.type, required := body.required }
  | none => fail .unnamedParameter opening.place

def endpointParameters : Parser (List Parameter) := do
  let _ ← expectSymbol .leftBracket
  let parameters ← itemsUntil .rightBracket endpointParameter
  let _ ← expectSymbol .rightBracket
  return parameters

/-- An endpoint while it is read. -/
structure OpenEndpoint where
  id : Option String := none
  path : Option String := none
  method : Option String := none
  parameters : List Parameter := []
  body : Option String := none
  response : Option TypeRef := none

def endpointAttribute (key : Token) (endpoint : OpenEndpoint) : Parser OpenEndpoint :=
  match key.value with
  | "id" => return { endpoint with id := some (← expectName).value }
  | "path" => return { endpoint with path := some (← expectText) }
  | "method" => do
    let method ← expectName
    match HttpMethod.ofName? method.value with
    | some _ => return { endpoint with method := some method.value }
    | none => fail (.unsupportedMethod method.value) method.place
  | "params" => return { endpoint with parameters := ← endpointParameters }
  | "body" => return { endpoint with body := some (← expectName).value }
  | "response" => return { endpoint with response := some (← typeRef) }
  | name => fail (.unknownAttribute .endpoint name) key.place

def endpointEntry (endpoint : OpenEndpoint) : Parser OpenEndpoint := do
  let key ← expectKey
  let endpoint ← endpointAttribute key endpoint
  skipCommas
  return endpoint

/-- The body of an endpoint, whose id may have been given before it. Id, path and method are
required; the first of them that is missing is the one reported. -/
def endpointBody (id : Option String) : Parser Endpoint := do
  let opening ← expectSymbol .leftBrace
  let body ← untilClosed .rightBrace endpointEntry { id := id }
  let _ ← expectSymbol .rightBrace
  match body.id, body.path, body.method with
  | none, _, _ => fail (.incompleteEndpoint "id") opening.place
  | some _, none, _ => fail (.incompleteEndpoint "path") opening.place
  | some _, some _, none => fail (.incompleteEndpoint "method") opening.place
  | some id, some path, some method => return {
      id := id
      path := path
      method := method
      parameters := body.parameters
      body := body.body
      response := body.response }

/-- An interface while it is read. -/
structure OpenApi where
  baseUrl : Option String := none
  mock : Bool := false
  endpoints : List Endpoint := []

def apiAttribute (key : Token) (api : OpenApi) : Parser OpenApi :=
  match key.value with
  | "baseUrl" => return { api with baseUrl := some (← expectText) }
  | "mock" => return { api with mock := ← expectFlag }
  | "endpoints" => do
    let _ ← expectSymbol .leftBracket
    let endpoints ← commaSeparated (endpointBody none)
    let _ ← expectSymbol .rightBracket
    return { api with endpoints := api.endpoints ++ endpoints }
  | name => fail (.unknownAttribute .api name) key.place

/-- Reads the next flag, inline endpoint or attribute of an interface. -/
def apiEntry (api : OpenApi) : Parser OpenApi := do
  if ← flag "mock" then return { api with mock := true }
  else if ← option (.keyword .endpoint) then
    let name ← expectName
    let endpoint ← endpointBody (some name.value)
    return { api with endpoints := api.endpoints ++ [endpoint] }
  else
    let key ← expectKey
    let api ← apiAttribute key api
    skipCommas
    return api

/-- The interface; its base address is required. -/
def api : Parser Api := do
  let keyword ← openSection .api
  let body ← untilClosed .rightBrace apiEntry {}
  let _ ← expectSymbol .rightBrace
  match body.baseUrl with
  | some baseUrl => return { baseUrl := baseUrl, mock := body.mock, endpoints := body.endpoints }
  | none => fail .apiWithoutBaseUrl keyword.place

end Blueprint.Grammar
