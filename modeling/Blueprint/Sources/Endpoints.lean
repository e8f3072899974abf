import Blueprint.Application.Basic
import Blueprint.Text.Placeholder

/-!
What generated code needs to know of endpoints: how a path interpolates its placeholders, whether a
request carries a body, and which models the endpoints exchange.
-/
set_option autoImplicit false

namespace Blueprint

open Text

/-- A path as a template literal of TypeScript or Kotlin: a dollar sign before each placeholder. -/
def dollarPath (path : String) : String :=
  substitute (fun inside => '$' :: openBrace :: inside ++ [closeBrace]) path

/-- A path as a string of Swift: each placeholder in parentheses after a backslash. -/
def swiftPath (path : String) : String :=
  substitute (fun inside => '\\' :: '(' :: inside ++ [')']) path

namespace Endpoint

/-- Whether requests carry a body: always with a method that writes, else where one is declared. -/
def sendsBody (endpoint : Endpoint) : Bool :=
  endpoint.method == HttpMethod.post.name || endpoint.method == HttpMethod.put.name
    || endpoint.body.isSome

def typeNames (endpoint : Endpoint) : List String :=
  endpoint.body.toList ++ (endpoint.response.map TypeRef.name).toList

end Endpoint

/-- Whether a text stands before or at the place of another, in the order of code points. -/
def textLE (a b : String) : Bool := !decide (b < a)

namespace Application

/-- The models that some endpoints exchange, each once, in the order of code points. -/
def referencedModels (app : Application) (endpoints : List Endpoint) : List String :=
  let used := endpoints.flatMap Endpoint.typeNames
  ((app.models.map Model.name).eraseDups.filter fun name => used.contains name).mergeSort textLE

end Application

end Blueprint
