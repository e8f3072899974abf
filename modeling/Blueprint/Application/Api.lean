import Blueprint.Application.Schema
import Blueprint.Text.Placeholder

/-!
The programming interface an application talks to: its endpoints and their base address.
-/
set_option autoImplicit false

namespace Blueprint

/-- The methods an endpoint may use. -/
inductive HttpMethod where
  | get
  | post
  | put
  | delete
  deriving DecidableEq, Repr

namespace HttpMethod

def all : List HttpMethod := [.get, .post, .put, .delete]

def name : HttpMethod → String
  | .get => "GET"
  | .post => "POST"
  | .put => "PUT"
  | .delete => "DELETE"

def ofName? (text : String) : Option HttpMethod :=
  all.find? fun method => method.name == text

end HttpMethod

/-- An endpoint. The method keeps the word that the source wrote. -/
structure Endpoint where
  id : String
  path : String
  method : String
  parameters : List Parameter := []
  body : Option String := none
  response : Option TypeRef := none
  deriving DecidableEq, Repr

/-- The names of the placeholders in an endpoint's path, in order. -/
def Endpoint.pathParameters (endpoint : Endpoint) : List String :=
  Text.placeholderNames endpoint.path

/-- The interface: a base address and its endpoints. -/
structure Api where
  baseUrl : String
  mock : Bool := false
  endpoints : List Endpoint := []
  deriving DecidableEq, Repr

end Blueprint
