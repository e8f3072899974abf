import Blueprint.Number.Shortest
import Blueprint.Text.Json
import Blueprint.Value

/-!
Generic values as indented JSON: two spaces for each level, one entry on a line, empty groups on
one line.
-/
set_option autoImplicit false

namespace Blueprint.Value

open Text

/-- The entries of a group, each on a line of its own, between an opening and a closing mark. -/
def jsonGroup (opening closing : String) (level : Nat) (entries : List String) : String :=
  if entries.isEmpty then opening ++ closing
  else
    let inner := "\n" ++ String.ofList (List.replicate (2 * (level + 1)) ' ')
    let outer := "\n" ++ String.ofList (List.replicate (2 * level) ' ')
    opening ++ inner ++ ("," ++ inner).intercalate entries ++ outer ++ closing

mutual

def jsonAt (level : Nat) : Value → String
  | .null => "null"
  | .bool b => if b then "true" else "false"
  | .int i => toString i
  | .float x => x.text ⟨"NaN", "Infinity"⟩
  | .text s => jsonString s
  | .list items => jsonGroup "[" "]" level (jsonItems (level + 1) items)
  | .object fields => jsonGroup "\x7b" "\x7d" level (jsonFields (level + 1) fields)

def jsonItems (level : Nat) : List Value → List String
  | [] => []
  | value :: rest => jsonAt level value :: jsonItems level rest

def jsonFields (level : Nat) : List (String × Value) → List String
  | [] => []
  | (key, value) :: rest =>
    (jsonString key ++ ": " ++ jsonAt level value) :: jsonFields level rest

end

def json (value : Value) : String := value.jsonAt 0

end Blueprint.Value
