import Blueprint.Proofs.PathArguments

/-!
The two readings of the braces in a path. The search for placeholders takes every opening brace with
the next closing one; the rewriting of a path replaces, from the left, what stands in braces with at
least one character between them. They find the same texts but for empty ones, however the braces
stand, and the rewriting copies everything else.
-/
set_option autoImplicit false

namespace Blueprint

open Text

/-! ## Replacing from the left -/

/-- A text starts with something in braces: at least one character, and no closing brace within. -/
structure StartsHole (text inside after : List Char) : Prop where
  whole : text = openBrace :: (inside ++ closeBrace :: after)
  filled : inside ≠ []
  closed : closeBrace ∉ inside

/-- The cut of a text in which every hole is taken at the first place where one starts, from left to
right, and the search goes on behind it. -/
inductive CutsInto : List Char → List PathPart → Prop where
  | nil : CutsInto [] []
  | hole {text inside after : List Char} {parts : List PathPart}
    (starts : StartsHole text inside after) (rest : CutsInto after parts) :
    CutsInto text (.hole inside :: parts)
  | plain {c : Char} {text : List Char} {parts : List PathPart}
    (noHole : ∀ inside after, ¬ StartsHole (c :: text) inside after) (rest : CutsInto text parts) :
    CutsInto (c :: text) (.plain c :: parts)

theorem StartsHole.found {c : Char} {text inside after : List Char}
    (starts : StartsHole (c :: text) inside after) :
    c = openBrace ∧ untilClose? text = some (inside, after) := by
  obtain ⟨isOpen, rest⟩ := List.cons.inj starts.whole
  exact ⟨isOpen, rest ▸ untilClose?_append starts.closed after⟩

theorem StartsHole.unique {text inside inside' after after' : List Char}
    (starts : StartsHole text inside after) (starts' : StartsHole text inside' after') :
    inside = inside' ∧ after = after' := by
  cases text with
  | nil => exact nomatch starts.whole
  | cons c text =>
    have same := starts.found.2.symm.trans starts'.found.2
    exact Prod.mk.inj (Option.some.inj same)

theorem cutsInto_pathParts (text : List Char) : CutsInto text (pathParts text) := by
  fun_induction pathParts text with
  | case1 => exact .nil
  | case2 c text isOpen d inside after found ih =>
    obtain ⟨closed, rfl⟩ := append_of_untilClose? found
    have whole : c :: (d :: inside ++ closeBrace :: after) =
        openBrace :: (d :: inside ++ closeBrace :: after) := by
      rw [beq_iff_eq.mp isOpen]
    exact .hole ⟨whole, List.cons_ne_nil d inside, closed⟩ ih
  | case3 c text isOpen noHole ih =>
    -- The brace is not closed, or closed at once: either way there is nothing to replace.
    refine .plain (fun inside after starts => ?_) ih
    cases inside with
    | nil => exact starts.filled rfl
    | cons d inside => exact noHole d inside after starts.found.2
  | case4 c text notOpen ih =>
    refine .plain (fun inside after starts => ?_) ih
    exact notOpen (beq_iff_eq.mpr starts.found.1)

theorem CutsInto.unique {text : List Char} {parts parts' : List PathPart}
    (cut : CutsInto text parts) (cut' : CutsInto text parts') : parts = parts' := by
  induction cut generalizing parts' with
  | nil =>
    cases cut' with
    | nil => rfl
    | hole starts _ => exact nomatch starts.whole
  | hole starts _ ih =>
    cases cut' with
    | nil => exact nomatch starts.whole
    | hole starts' rest' =>
      obtain ⟨rfl, rfl⟩ := starts.unique starts'
      rw [ih rest']
    | plain noHole' _ => exact absurd starts (noHole' _ _)
  | plain noHole _ ih =>
    cases cut' with
    | hole starts' _ => exact absurd starts' (noHole _ _)
    | plain _ rest' => rw [ih rest']

/-- Written with its braces again, each hole stands where it stood. -/
theorem CutsInto.whole {text : List Char} {parts : List PathPart} (cut : CutsInto text parts) :
    parts.flatMap (PathPart.render fun inside => openBrace :: (inside ++ [closeBrace])) = text := by
  induction cut with
  | nil => rfl
  | hole starts _ ih =>
    rw [List.flatMap_cons, ih, starts.whole]
    simp [PathPart.render]
  | plain _ _ ih =>
    rw [List.flatMap_cons, ih]
    rfl

/-- The name that stands in braces. -/
def nameInside (inside : List Char) : String := String.ofList (trimChars inside)

/-- The texts that are replaced in a path are, without the blanks around them, the names of its
placeholders other than empty pairs of braces, in order; and what is not replaced is copied. -/
theorem holes_match_placeholders (path : String) :
    (∀ cut, CutsInto path.toList cut ↔ cut = pathParts path.toList) ∧
      placeholderNames path = (placeholders path.toList).map nameInside ∧
      ((pathParts path.toList).filterMap PathPart.content?).map nameInside =
        ((placeholders path.toList).filter fun inside => !inside.isEmpty).map nameInside ∧
      path.toList = (pathParts path.toList).flatMap
        (PathPart.render fun inside => openBrace :: (inside ++ [closeBrace])) ∧
      (dollarPath path).toList = (pathParts path.toList).flatMap
        (PathPart.render fun inside => '$' :: openBrace :: (inside ++ [closeBrace])) ∧
      (swiftPath path).toList = (pathParts path.toList).flatMap
        (PathPart.render fun inside => '\\' :: '(' :: (inside ++ [')'])) := by
  have cut : CutsInto path.toList (pathParts path.toList) := cutsInto_pathParts path.toList
  refine ⟨fun cut' => ⟨fun isCut => isCut.unique cut, fun same => same ▸ cut⟩, rfl, ?_,
    cut.whole.symm, String.toList_ofList, String.toList_ofList⟩
  rw [contents_pathParts]

end Blueprint
