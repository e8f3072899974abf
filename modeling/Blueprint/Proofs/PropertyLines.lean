import Blueprint.Proofs.FeatureRows

/-!
Properties that stand each on a line of their own: a laid out property is recovered from its line with
its type and all features, and so are all properties between the braces of a model.
-/
set_option autoImplicit false

namespace Blueprint

open Text Extraction

/-! ## What stands behind the name of a property -/

/-- What is laid out on the line of a property behind its name. -/
def propertyTail (property : Property) : Row :=
  (.inLine, .mark .colon) :: (.inLine, .word property.type.name) ::
    (arrayRow property.type.isArray ++ featuresRow property)

def tailWords (property : Property) : List String :=
  property.type.name :: (requiredWords property.required ++ ["default", "enum"])

theorem among_array (isArray : Bool) : (arrayRow isArray).Among [] [] := by
  intro spaced member
  cases isArray with
  | false => contradiction
  | true =>
    rcases List.mem_cons.mp member with rfl | member
    · exact ⟨trivial, Symbol.noConfusion⟩
    · obtain rfl := List.mem_singleton.mp member
      exact ⟨trivial, Symbol.noConfusion⟩

theorem among_tail (property : Property) : (propertyTail property).Among (tailWords property)
    (property.defaultValue.toList ++ property.enumValues) := by
  have array := (among_array property.type.isArray).mono (List.nil_subset (tailWords property))
    (List.nil_subset (property.defaultValue.toList ++ property.enumValues))
  have features := (among_features property).mono (List.subset_cons_self property.type.name _)
    (List.Subset.refl _)
  intro spaced member
  rcases List.mem_cons.mp member with rfl | member
  · exact ⟨trivial, Symbol.noConfusion⟩
  rcases List.mem_cons.mp member with rfl | member
  · exact ⟨trivial, List.mem_cons_self⟩
  · exact array.append features spaced member

theorem isWord_tail {property : Property} (canonical : property.Canonical) :
    ∀ name ∈ tailWords property, IsWord name.toList :=
  List.forall_mem_cons.mpr ⟨canonical.type.1, isWord_features property.required⟩

theorem readable_tail {property : Property} (canonical : property.Canonical) :
    (propertyTail property).Readable :=
  (among_tail property).readable (isWord_tail canonical) canonical.values

section Line

variable {property : Property} {text : List Char}

theorem featuresRow_begins (property : Property) : featuresRow property = [] ∨
    ∃ space name row, featuresRow property = (space, .word name) :: row := by
  obtain ⟨name, type, required, defaultValue, enumValues⟩ := property
  cases required with
  | true => exact .inr ⟨_, _, _, rfl⟩
  | false =>
    cases defaultValue with
    | some value => exact .inr ⟨_, _, _, rfl⟩
    | none =>
      cases enumValues with
      | nil => exact .inl rfl
      | cons first others => exact .inr ⟨_, _, _, rfl⟩

/-- The features cannot be taken for the brackets of a list type. -/
theorem features_unbracketed (canonical : property.Canonical)
    (spaced : Spaced (featuresRow property) text []) (more : List Char) :
    trimChars text ≠ '[' :: more := by
  have readable := readable_features canonical
  have ends := spaced.ends readable
  rcases featuresRow_begins property with none | ⟨space, name, row, whole⟩
  · rw [none] at spaced
    cases spaced
    exact (List.cons_ne_nil '[' more).symm
  · rw [whole] at spaced readable
    have isWord : IsWord name.toList := readable _ List.mem_cons_self
    obtain ⟨gap, after, rfl, fits, _⟩ := Spaced.cons_iff.mp spaced
    have begins : Begins ((Piece.word name).spelling ++ after) := begins_word isWord after
    rw [trimChars_gap fits.blank, trimChars_self begins ends.behind]
    intro same
    obtain ⟨c, others, letters, start, _⟩ := isWord
    rw [Piece.spelling, letters] at same
    obtain ⟨rfl, _⟩ := List.cons.inj same
    contradiction

/-- What stands behind the name of a type: the brackets of a list type, if it is one, and features. -/
def AfterType (rest : List Char) (isArray : Bool) (features : List Char) : Prop :=
  if isArray then ∃ more, trimChars rest = '[' :: ']' :: more ∧ trimChars more = features
  else trimChars rest = features ∧ ∀ more, features ≠ '[' :: more

theorem property?_eq {line name type rest rest' rest'' features : List Char} {isArray : Bool}
    (named : word? line = some (name, rest)) (marked : afterMark? ':' rest = some rest')
    (typed : word? (afterBlanks rest') = some (type, rest''))
    (afterType : AfterType rest'' isArray features) :
    property? line = some {
      name := String.ofList name
      type := { name := String.ofList type, isArray := isArray }
      required := occursIn "required".toList features
      defaultValue := (firstMatch defaultText? features).map fun found => String.ofList (unquote found)
      enumValues := enumValues features } := by
  unfold property?
  rw [named, Option.bind_eq_bind, Option.bind_some]
  dsimp only
  rw [marked, Option.bind_eq_bind, Option.bind_some, typed, Option.bind_some]
  dsimp only
  cases isArray with
  | true =>
    obtain ⟨more, brackets, rfl⟩ := afterType
    rw [brackets]
    rfl
  | false =>
    obtain ⟨rfl, unbracketed⟩ := afterType
    split
    · next more same => exact absurd same (unbracketed _)
    · rfl

/-- The brackets of a list type are read off, and the features remain. -/
theorem afterType_laid (canonical : property.Canonical) {isArray : Bool}
    (spaced : Spaced (arrayRow isArray ++ featuresRow property) text []) :
    ∃ laid, Spaced (featuresRow property) laid [] ∧ AfterType text isArray (trimChars laid) := by
  cases isArray with
  | false => exact ⟨text, spaced, rfl, features_unbracketed canonical spaced⟩
  | true =>
    obtain ⟨gap₁, after₁, whole₁, fits₁, _, closed⟩ := Spaced.cons_iff.mp spaced
    obtain ⟨gap₂, laid, whole₂, fits₂, _, features⟩ := Spaced.cons_iff.mp closed
    obtain rfl : gap₂ = [] := fits₂
    have bracketEnds : Ends (']' :: laid) := by
      have laidEnds := features.ends (readable_features canonical)
      cases laid with
      | nil => exact ends_concat [] (by decide)
      | cons c laid => exact laidEnds.append (List.cons_ne_nil c laid) [']']
    have whole : text = gap₁ ++ '[' :: ']' :: laid := by
      rw [whole₁, whole₂]
      rfl
    refine ⟨laid, features, laid, ?_, rfl⟩
    rw [whole, trimChars_gap fits₁.blank]
    apply trimChars_self
    · exact begins_cons (by decide) _
    · exact bracketEnds.append (List.cons_ne_nil ']' laid) ['[']

/-- A property is recovered from the line that it is laid out on. -/
theorem property?_laid (canonical : property.Canonical) {after : List Char}
    (spaced : Spaced (propertyTail property) after []) (ends : WordEnds after) :
    property? (property.name.toList ++ after) = some property := by
  obtain ⟨gap, _, rfl, ⟨blank, _⟩, _, typeRow⟩ := Spaced.cons_iff.mp spaced
  obtain ⟨gap', rest, rfl, ⟨blank', _⟩, ends', features⟩ := Spaced.cons_iff.mp typeRow
  have named := word?_append canonical.name.1 ends
  have marked : afterMark? ':' (gap ++ ((Piece.mark .colon).spelling ++ (gap' ++
      ((Piece.word property.type.name).spelling ++ rest)))) = some _ :=
    afterMark?_gap (by decide) blank _
  have begins : Begins ((Piece.word property.type.name).spelling ++ rest) :=
    begins_word canonical.type.1 rest
  have typed : word? (afterBlanks (gap' ++ ((Piece.word property.type.name).spelling ++ rest))) =
      some (property.type.name.toList, rest) := by
    rw [afterBlanks_gap blank' begins]
    exact word?_append canonical.type.1 ends'
  obtain ⟨laid, featuresLaid, afterType⟩ := afterType_laid canonical features
  obtain ⟨required, default, enumeration⟩ := features_read canonical featuresLaid
  rw [property?_eq named marked typed afterType, required, default, enumeration,
    String.ofList_toList, String.ofList_toList]

end Line

/-! ## The lines of a model -/

theorem lineProperty?_laid {property : Property} (canonical : property.Canonical)
    {after : List Char} (spaced : Spaced (propertyTail property) after []) (ends : WordEnds after) :
    lineProperty? (property.name.toList ++ after) = some property := by
  have readable := readable_tail canonical
  have some : after ≠ [] := by
    obtain ⟨gap, rest, rfl, _⟩ := Spaced.cons_iff.mp spaced
    simp [Piece.spelling]
  have trimmed : trimChars (property.name.toList ++ after) = property.name.toList ++ after :=
    trimChars_self (begins_word canonical.name.1 after) ((spaced.ends readable).append some _)
  have recovered := property?_laid canonical spaced ends
  obtain ⟨c, others, letters, start, _⟩ := canonical.name.1
  rw [lineProperty?, trimmed]
  rw [letters] at recovered ⊢
  split
  · next none => simp at none
  · next more comment =>
    obtain ⟨rfl, _⟩ := List.cons.inj comment
    contradiction
  · exact recovered

/-- The line of a property, from its name on. -/
theorem unbroken_propertyLine {property : Property} (canonical : property.Canonical)
    {after : List Char} (spaced : Spaced (propertyTail property) after []) :
    '\n' ∉ property.name.toList ++ after := by
  have name : '\n' ∉ (Piece.word property.name).spelling := Piece.unbroken canonical.name.1
  have tail : '\n' ∉ after := spaced.unbroken (readable_tail canonical)
    fun spaced member => (among_tail property spaced member).1
  simp only [List.mem_append, not_or]
  exact ⟨name, tail⟩

/-- The properties of a model are recovered from the lines that they are laid out on. -/
theorem propertiesOf_laid {properties : List Property}
    (canonical : ∀ property ∈ properties, property.Canonical) {text last : List Char}
    (spaced : Spaced (properties.flatMap propertyRow) text []) (blank : Blank last) :
    propertiesOf (text ++ last) = properties := by
  induction properties generalizing text with
  | nil =>
    cases spaced
    exact propertiesOf_lastLine List.not_mem_nil blank
  | cons property properties ih =>
    rw [List.flatMap_cons] at spaced
    obtain ⟨middle, first, others⟩ := Spaced.append_iff.mp spaced
    have rest := ih (fun other later => canonical other (List.mem_cons_of_mem _ later)) others
    have isCanonical := canonical property List.mem_cons_self
    obtain ⟨gap, after, rfl, fits, ends, tail⟩ := Spaced.cons_iff.mp first
    obtain ⟨front, rfl, laid⟩ : ∃ front, after = front ++ middle ∧
        Spaced (propertyTail property) front [] := tail.part
    have recovered := lineProperty?_laid isCanonical laid (WordEnds.front ends)
    have oneLine := unbroken_propertyLine isCanonical laid
    have whole : gap ++ ((Piece.word property.name).spelling ++ (front ++ middle)) ++ last =
        gap ++ ((property.name.toList ++ front) ++ (middle ++ last)) := by simp [Piece.spelling]
    rw [whole, propertiesOf_gap fits.blank]
    -- what follows the line: the blanks at the end, or a line break before the next property
    cases properties with
    | nil =>
      cases others
      rw [List.nil_append, propertiesOf_lastLine oneLine blank, recovered]
      rfl
    | cons next properties =>
      obtain ⟨gap', after', rfl, ⟨blank', breaks⟩, _⟩ := Spaced.cons_iff.mp others
      rw [List.append_assoc gap'] at rest ⊢
      rw [propertiesOf_gap blank'] at rest
      rw [propertiesOf_line oneLine blank' breaks, recovered, rest]
      rfl

end Blueprint
