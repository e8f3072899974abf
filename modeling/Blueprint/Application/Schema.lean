/-!
Data models: types, properties and parameters. A type keeps the name that the source wrote, so that
unknown names survive until validation reports them.
-/
set_option autoImplicit false

namespace Blueprint

inductive DataType where
  | string
  | number
  | decimal
  | boolean
  | date
  | array
  | object
  deriving DecidableEq, Repr

namespace DataType

def all : List DataType := [.string, .number, .decimal, .boolean, .date, .array, .object]

def name : DataType → String
  | .string => "string"
  | .number => "number"
  | .decimal => "decimal"
  | .boolean => "boolean"
  | .date => "date"
  | .array => "array"
  | .object => "object"

def ofName? (text : String) : Option DataType :=
  all.find? fun type => type.name == text

end DataType

/-- A type as the source writes it: a name, and whether it is an array of that type. -/
structure TypeRef where
  name : String
  isArray : Bool := false
  deriving DecidableEq, Repr

namespace TypeRef

/-- The primitive type that is named, if it is one. -/
def dataType? (type : TypeRef) : Option DataType := DataType.ofName? type.name

def text (type : TypeRef) : String :=
  if type.isArray then type.name ++ "[]" else type.name

end TypeRef

/-- A property of a data model. -/
structure Property where
  name : String
  type : TypeRef
  required : Bool := false
  defaultValue : Option String := none
  enumValues : List String := []
  deriving DecidableEq, Repr

/-- A parameter of a screen or an endpoint. -/
structure Parameter where
  name : String
  type : TypeRef
  required : Bool := false
  deriving DecidableEq, Repr

/-- A data model: a name and its properties in order. -/
structure Model where
  name : String
  properties : List Property := []
  deriving DecidableEq, Repr

def Model.property? (model : Model) (name : String) : Option Property :=
  model.properties.find? fun property => property.name == name

end Blueprint
