/-!
Ordered fields: named entries in the order in which their names first appeared. Setting a name that
is present keeps its place and replaces its content.
-/
set_option autoImplicit false

namespace Blueprint

/-- Named entries in order. Every name occurs once when the list is built by `Fields.insert`. -/
abbrev Fields (α : Type) := List (String × α)

namespace Fields

variable {α : Type}

/-- Sets a name: in place if it is present, at the end otherwise. -/
def insert (name : String) (content : α) : Fields α → Fields α
  | [] => [(name, content)]
  | (key, old) :: rest =>
    if key == name then (key, content) :: rest else (key, old) :: insert name content rest

def get? (name : String) : Fields α → Option α
  | [] => none
  | (key, content) :: rest => if key == name then some content else get? name rest

/-- The fields without a name. -/
def erase (name : String) (fields : Fields α) : Fields α :=
  fields.filter fun entry => entry.1 != name

/-- Builds fields from entries, a later entry replacing an earlier one of the same name. -/
def ofList (entries : List (String × α)) : Fields α :=
  entries.foldl (fun fields entry => insert entry.1 entry.2 fields) []

def names (fields : Fields α) : List String :=
  fields.map Prod.fst

end Fields

end Blueprint
