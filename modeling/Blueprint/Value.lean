import Blueprint.Fields
import Blueprint.Number.Binary64

/-!
Generic values: what component attributes, action parameters and mock records hold, and what the
debug data consists of.
-/
set_option autoImplicit false

namespace Blueprint

/-- A generic value. Integers are unbounded; the fields of an object are ordered. -/
inductive Value where
  | null
  | bool (b : Bool)
  | int (i : Int)
  | float (x : Binary64)
  | text (s : String)
  | list (items : List Value)
  | object (fields : List (String × Value))

namespace Value

instance : Inhabited Value := ⟨.null⟩

def text? : Value → Option String
  | .text s => some s
  | _ => none

def object? : Value → Option (Fields Value)
  | .object fields => some fields
  | _ => none

end Value

end Blueprint
