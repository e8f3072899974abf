import Blueprint.Text.Trim

/-!
Placeholders in braces inside a path. `placeholderNames` lists the names that a path asks for;
`substitute` rewrites the placeholders and copies the rest. The first takes an opening brace with
the next closing brace whatever stands between them, the second leaves empty braces as they are.
-/
set_option autoImplicit false

namespace Blueprint.Text

def openBrace : Char := '\x7b'

def closeBrace : Char := '\x7d'

/-- The characters before the first closing brace and the ones after it, if there is one. -/
def untilClose? : List Char → Option (List Char × List Char)
  | [] => none
  | c :: rest =>
    if c == closeBrace then some ([], rest)
    else (untilClose? rest).map fun (inside, after) => (c :: inside, after)

theorem untilClose?_length {text inside after : List Char}
    (found : untilClose? text = some (inside, after)) :
    inside.length + after.length + 1 = text.length := by
  induction text generalizing inside with
  | nil => simp [untilClose?] at found
  | cons c rest ih =>
    rw [untilClose?] at found
    split at found
    · simp only [Option.some.injEq, Prod.mk.injEq] at found
      obtain ⟨rfl, rfl⟩ := found
      simp
    · cases call : untilClose? rest with
      | none => simp [call] at found
      | some pair =>
        simp only [call, Option.map_some, Option.some.injEq, Prod.mk.injEq] at found
        obtain ⟨rfl, rfl⟩ := found
        have := ih call
        simp only [List.length_cons]
        omega

/-- The contents of all placeholders, untrimmed: each opening brace is taken with the next closing
brace, and an opening brace that is never closed ends the search. -/
def placeholders (text : List Char) : List (List Char) :=
  match text with
  | [] => []
  | c :: rest =>
    if c == openBrace then
      match _found : untilClose? rest with
      | none => []
      | some (inside, after) => inside :: placeholders after
    else placeholders rest
termination_by text.length
decreasing_by
  · have := untilClose?_length _found
    simp only [List.length_cons]
    omega
  · simp

/-- The trimmed names of a path's placeholders, in order. -/
def placeholderNames (path : String) : List String :=
  (placeholders path.toList).map fun inside => String.ofList (trimChars inside)

/-- A part of a path: one character copied as it is, or the content of a placeholder. -/
inductive PathPart where
  | plain (c : Char)
  | hole (inside : List Char)
  deriving DecidableEq, Repr

/-- Cuts a path into copied characters and placeholders with at least one character. -/
def pathParts (text : List Char) : List PathPart :=
  match text with
  | [] => []
  | c :: rest =>
    if c == openBrace then
      match _found : untilClose? rest with
      | some (d :: inside, after) => .hole (d :: inside) :: pathParts after
      | _ => .plain c :: pathParts rest
    else .plain c :: pathParts rest
termination_by text.length
decreasing_by
  · have := untilClose?_length _found
    simp only [List.length_cons] at *
    omega
  · simp
  · simp

/-- The characters of a path part, placeholders being rewritten by `write`. -/
def PathPart.render (write : List Char → List Char) : PathPart → List Char
  | .plain c => [c]
  | .hole inside => write inside

/-- The path with each placeholder rewritten. -/
def substitute (write : List Char → List Char) (path : String) : String :=
  String.ofList ((pathParts path.toList).flatMap (PathPart.render write))

end Blueprint.Text
