import Blueprint.Value

/-!
Names as validation looks at them: which are repeated, which are written as the names of models
should be, and which screens a generic value refers to.
-/
set_option autoImplicit false

namespace Blueprint.Validation

/-- The names that occur more than once, each once, in the order of their first occurrences. -/
def duplicates (names : List String) : List String :=
  names.eraseDups.filter fun name => 1 < names.count name

def isPascalChars : List Char → Bool
  | [] => false
  | c :: rest => c.isUpper && rest.all Char.isAlphanum

/-- Whether a name is in Pascal case; one line break at its end does not count. -/
def isPascalCase (name : String) : Bool :=
  let chars := name.toList
  isPascalChars chars || (chars.getLast? == some '\n' && isPascalChars chars.dropLast)

mutual

/-- The texts stored under the key `navigate` anywhere in a value, in order. -/
def navigationTargets : Value → List String
  | .object fields => fieldTargets fields
  | .list items => itemTargets items
  | _ => []

def fieldTargets : List (String × Value) → List String
  | [] => []
  | (key, content) :: rest =>
    (match key == "navigate", content with
      | true, .text target => [target]
      | _, content => navigationTargets content) ++ fieldTargets rest

def itemTargets : List Value → List String
  | [] => []
  | item :: rest => navigationTargets item ++ itemTargets rest

end

end Blueprint.Validation
