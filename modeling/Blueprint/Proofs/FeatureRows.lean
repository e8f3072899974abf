import Blueprint.Proofs.KeySearch
import Blueprint.Proofs.Lines
import Blueprint.Proofs.Sheet

/-!
The features of a property, as they are laid out: what words and texts they are made of, and that each
of them is found among the others.
-/
set_option autoImplicit false

namespace Blueprint

open Text Extraction

/-! ## Features and their values -/

namespace IsChoice

instance : DecidablePred IsChoice := fun value =>
  decidable_of_iff (value ≠ "" ∧
    value.toList.all (fun c => isWordChar c || c == '-' || c == '.') = true ∧
      occursIn "required".toList value.toList = false)
    (by simp [IsChoice, or_assoc, ← occursIn_iff])

variable {value : String}

theorem free (isChoice : IsChoice value) {c : Char} (notLetter : isWordChar c = false)
    (notHyphen : c ≠ '-') (notPoint : c ≠ '.') : c ∉ value.toList := by
  intro member
  rcases isChoice.2.1 c member with letter | hyphen | point
  · rw [letter] at notLetter
    contradiction
  · exact notHyphen hyphen
  · exact notPoint point

theorem notBlank (isChoice : IsChoice value) : ∀ c ∈ value.toList, isBlank c = false := by
  intro c member
  rcases isChoice.2.1 c member with letter | rfl | rfl
  · exact not_isBlank_of_isWordChar letter
  · decide
  · decide

theorem readable (isChoice : IsChoice value) : (Piece.text value).Readable :=
  ⟨isChoice.free (by decide) (by decide) (by decide), isChoice.free (by decide) (by decide) (by decide),
    isChoice.free (by decide) (by decide) (by decide)⟩

theorem unquote_spelling (isChoice : IsChoice value) :
    unquote (Piece.text value).spelling = value.toList := by
  have double : '"' ∉ value.toList := isChoice.free (by decide) (by decide) (by decide)
  have single : '\'' ∉ value.toList := isChoice.free (by decide) (by decide) (by decide)
  have kept : ∀ c ∈ value.toList, (c != '"' && c != '\'') = true := by
    intro c member
    have notDouble : c ≠ '"' := fun same => double (same ▸ member)
    have notSingle : c ≠ '\'' := fun same => single (same ▸ member)
    simp [notDouble, notSingle]
  have all := List.filter_eq_self.mpr kept
  rw [unquote, Piece.spelling, List.filter_cons_of_neg (by simp), List.filter_append, all]
  simp

end IsChoice

/-- The words and the texts that a piece may be; it closes no block. -/
def Piece.Among (words values : List String) : Piece → Prop
  | .word name => name ∈ words
  | .mark symbol => symbol ≠ .rightBrace
  | .text content => content ∈ values

/-- A row that stays on its line, of such pieces. -/
def Row.Among (words values : List String) (row : Row) : Prop :=
  ∀ spaced ∈ row, spaced.1.InLine ∧ spaced.2.Among words values

section Among

variable {words words' values values' : List String} {row more : Row}

theorem Piece.Among.mono {piece : Piece} (among : piece.Among words values)
    (moreWords : words ⊆ words') (moreValues : values ⊆ values') : piece.Among words' values' := by
  cases piece with
  | word name => exact moreWords among
  | mark symbol => exact among
  | text content => exact moreValues among

theorem Row.Among.mono (among : row.Among words values) (moreWords : words ⊆ words')
    (moreValues : values ⊆ values') : row.Among words' values' :=
  fun spaced member => ⟨(among spaced member).1, (among spaced member).2.mono moreWords moreValues⟩

theorem Row.Among.append (first : row.Among words values) (second : more.Among words values) :
    (row ++ more).Among words values :=
  List.forall_mem_append.mpr ⟨first, second⟩

theorem mem_commaPieces {pieces : List Piece} {piece : Piece} (member : piece ∈ commaPieces pieces) :
    piece = .mark .comma ∨ piece ∈ pieces := by
  cases pieces with
  | nil => exact .inr member
  | cons first others =>
    rcases List.mem_cons.mp member with rfl | member
    · exact .inr List.mem_cons_self
    · obtain ⟨other, inOthers, here⟩ := List.mem_flatMap.mp member
      rcases List.mem_cons.mp here with rfl | here
      · exact .inl rfl
      · obtain rfl := List.mem_singleton.mp here
        exact .inr (List.mem_cons_of_mem first inOthers)

/-- The word of the flag, where a property is required. -/
def requiredWords (required : Bool) : List String := if required then ["required"] else []

theorem among_required (required : Bool) :
    (requiredRow required).Among (requiredWords required) [] := by
  intro spaced member
  cases required with
  | false => contradiction
  | true =>
    obtain rfl := List.mem_singleton.mp member
    exact ⟨trivial, List.mem_singleton_self _⟩

theorem among_default (defaultValue : Option String) :
    (defaultRow defaultValue).Among ["default"] defaultValue.toList := by
  intro spaced member
  cases defaultValue with
  | none => contradiction
  | some content =>
    simp only [defaultRow, spacedBy, List.map_cons, List.map_nil, List.mem_cons, List.not_mem_nil,
      or_false] at member
    rcases member with rfl | rfl | rfl
    · exact ⟨trivial, List.mem_singleton_self _⟩
    · exact ⟨trivial, Symbol.noConfusion⟩
    · exact ⟨trivial, List.mem_singleton_self _⟩

theorem among_enum (contents : List String) : (enumRow contents).Among ["enum"] contents := by
  intro spaced member
  cases contents with
  | nil => contradiction
  | cons first others =>
    rcases List.mem_cons.mp member with rfl | member
    · exact ⟨trivial, List.mem_singleton_self _⟩
    obtain ⟨piece, here, rfl⟩ := List.mem_map.mp member
    refine ⟨trivial, ?_⟩
    rcases List.mem_cons.mp here with rfl | here
    · exact Symbol.noConfusion
    rcases List.mem_cons.mp here with rfl | here
    · exact Symbol.noConfusion
    rcases List.mem_append.mp here with inside | here
    · rcases mem_commaPieces inside with rfl | inside
      · exact Symbol.noConfusion
      · obtain ⟨content, inContents, rfl⟩ := List.mem_map.mp inside
        exact inContents
    · obtain rfl := List.mem_singleton.mp here
      exact Symbol.noConfusion

theorem among_features (property : Property) : (featuresRow property).Among
    (requiredWords property.required ++ ["default", "enum"])
    (property.defaultValue.toList ++ property.enumValues) := by
  have flag := among_required property.required
  have default := among_default property.defaultValue
  have enumeration := among_enum property.enumValues
  refine (flag.mono ?_ ?_).append ((default.mono ?_ ?_).append (enumeration.mono ?_ ?_))
  · exact List.subset_append_left _ _
  · exact List.nil_subset _
  · exact List.subset_append_of_subset_right _ (by simp)
  · exact List.subset_append_left _ _
  · exact List.subset_append_of_subset_right _ (by simp)
  · exact List.subset_append_right _ _

theorem Row.Among.readable (among : row.Among words values)
    (isWords : ∀ name ∈ words, IsWord name.toList) (choices : ∀ value ∈ values, IsChoice value) :
    row.Readable := by
  intro spaced member
  have known := (among spaced member).2
  obtain ⟨space, piece⟩ := spaced
  cases piece with
  | word name => exact isWords name known
  | mark symbol => trivial
  | text content => exact (choices content known).readable

theorem Row.Among.unkeyed {key : String} (among : row.Among words values)
    (apart : ∀ name ∈ words, ¬ key.toList <:+ name.toList)
    (choices : ∀ value ∈ values, IsChoice value) : ∀ spaced ∈ row, spaced.2.Unkeyed key := by
  intro spaced member
  have known := (among spaced member).2
  obtain ⟨space, piece⟩ := spaced
  cases piece with
  | word name => exact apart name known
  | mark symbol => trivial
  | text content => exact (choices content known).free (by decide) (by decide) (by decide)

end Among

theorem isWord_features (required : Bool) :
    ∀ name ∈ requiredWords required ++ ["default", "enum"], IsWord name.toList := by
  cases required <;> decide

section Features

variable {property : Property} {text : List Char}

theorem Property.Canonical.values (canonical : property.Canonical) :
    ∀ value ∈ property.defaultValue.toList ++ property.enumValues, IsChoice value := by
  intro value member
  rcases List.mem_append.mp member with member | member
  · exact canonical.default value (Option.mem_toList.mp member)
  · exact canonical.choices value member

theorem readable_features (canonical : property.Canonical) : (featuresRow property).Readable :=
  (among_features property).readable (isWord_features _) canonical.values

/-- The word of the flag occurs in the features just where the property is required. -/
theorem required_read (canonical : property.Canonical)
    (spaced : Spaced (featuresRow property) text []) :
    occursIn "required".toList text = property.required := by
  rw [Bool.eq_iff_iff, occursIn_row (by decide) spaced]
  constructor
  · intro occurs
    obtain ⟨⟨space, piece⟩, member, inside⟩ := occurs
    have among := (among_features property _ member).2
    by_contra notRequired
    rw [Bool.eq_false_iff.mpr notRequired] at among
    cases piece with
    | word name =>
      have apart : ∀ name ∈ requiredWords false ++ ["default", "enum"],
          occursIn "required".toList name.toList = false := by decide
      have inName : occursIn "required".toList name.toList = true := occursIn_iff.mpr inside
      rw [apart name among] at inName
      contradiction
    | mark symbol => exact absurd (List.infix_nil.mp inside) (by decide)
    | text content => exact (canonical.values content among).2.2 inside
  · intro required
    have member : (.apart, .word "required") ∈ featuresRow property := by
      rw [featuresRow, required]
      exact List.mem_cons_self
    exact ⟨_, member, List.infix_rfl⟩

/-- Nothing or a blank follows a default. -/
theorem enumRow_begins {contents : List String} (spaced : Spaced (enumRow contents) text []) :
    ∀ c ∈ text.head?, isBlank c = true := by
  cases contents with
  | nil =>
    cases spaced
    intro c member
    contradiction
  | cons first others =>
    obtain ⟨gap, after, rfl, ⟨blank, some, _⟩, _⟩ := Spaced.cons_iff.mp spaced
    intro c member
    cases gap with
    | nil => contradiction
    | cons d gap =>
      obtain rfl : d = c := by simpa using member
      exact blank d List.mem_cons_self

theorem answersKey_defaultText : AnswersKey "default" defaultText? := .ofBind (by decide)

theorem answersKey_enumText : AnswersKey "enum" enumText? := .ofBind (by decide)

theorem defaultText?_laid {value : String} (isChoice : IsChoice value) {gap gap' rest : List Char}
    (blank : Blank gap) (blank' : Blank gap') (ends : ∀ c ∈ rest.head?, isBlank c = true) :
    defaultText? ("default".toList ++ (gap ++ ':' :: (gap' ++ ((Piece.text value).spelling ++ rest)))) =
      some (Piece.text value).spelling := by
  have whole : ∀ c ∈ (Piece.text value).spelling, (c != ',' && !isBlank c) = true := by
    intro c member
    have notBlank : isBlank c = false := by
      rcases List.mem_cons.mp member with rfl | member
      · decide
      rcases List.mem_append.mp member with member | member
      · exact isChoice.notBlank c member
      · obtain rfl := List.mem_singleton.mp member
        decide
    have notComma : c ≠ ',' := by
      rintro rfl
      have free : ',' ∉ value.toList := isChoice.free (by decide) (by decide) (by decide)
      simp [Piece.spelling, free] at member
    simp [notBlank, notComma]
  have taken : (((Piece.text value).spelling ++ rest).takeWhile fun c => c != ',' && !isBlank c) =
      (Piece.text value).spelling := by
    rw [List.takeWhile_append_of_pos whole]
    cases rest with
    | nil => simp
    | cons c rest => simp [ends c rfl]
  have begins : Begins ((Piece.text value).spelling ++ rest) := begins_cons (by decide) _
  have key := afterKey?_append "default" blank (gap' ++ ((Piece.text value).spelling ++ rest))
  unfold defaultText?
  rw [key, Option.bind_eq_bind, Option.bind_some, afterBlanks_gap blank' begins, taken]
  rfl

/-- The word of the flag is passed over. -/
theorem AnswersKey.firstMatch_flag {α : Type} {key : String} {read : List Char → Option α}
    (answers : AnswersKey key read) (apart : ¬ key.toList <:+ "required".toList) {required : Bool}
    {rest : List Char} (flag : Spaced (requiredRow required) text rest) :
    firstMatch read text = firstMatch read rest := by
  cases required with
  | false =>
    cases flag
    rfl
  | true =>
    obtain ⟨gap, _, rfl, fits, ends, ended⟩ := Spaced.cons_iff.mp flag
    cases ended
    rw [answers.firstMatch_gap fits.blank.notWordChar]
    exact answers.firstMatch_word (by decide) ends (.inl apart)

theorem default_found {value : String} (isChoice : IsChoice value) {rest : List Char}
    (ends : ∀ c ∈ rest.head?, isBlank c = true)
    (spaced : Spaced (defaultRow (some value)) text rest) :
    firstMatch defaultText? text = some (Piece.text value).spelling := by
  obtain ⟨gap, _, rfl, ⟨blank, _⟩, _, spaced⟩ := Spaced.cons_iff.mp spaced
  obtain ⟨gap₁, _, rfl, ⟨blank₁, _⟩, _, spaced⟩ := Spaced.cons_iff.mp spaced
  obtain ⟨gap₂, _, rfl, ⟨blank₂, _⟩, _, spaced⟩ := Spaced.cons_iff.mp spaced
  cases spaced
  rw [answersKey_defaultText.firstMatch_gap blank.notWordChar]
  exact firstMatch_found (defaultText?_laid isChoice blank₁ blank₂ ends)

theorem default_read (canonical : property.Canonical)
    (spaced : Spaced (featuresRow property) text []) :
    (firstMatch defaultText? text).map (fun found => String.ofList (unquote found)) =
      property.defaultValue := by
  obtain ⟨middle, flag, spaced⟩ := Spaced.append_iff.mp spaced
  obtain ⟨rest, default, enumeration⟩ := Spaced.append_iff.mp spaced
  have answers := answersKey_defaultText
  rw [answers.firstMatch_flag (by decide) flag]
  cases known : property.defaultValue with
  | none =>
    rw [known] at default
    cases default
    have among := among_enum property.enumValues
    have nothing : firstMatch defaultText? middle = firstMatch defaultText? [] :=
      answers.firstMatch_row (among.readable (by decide) canonical.choices)
        (among.unkeyed (by decide) canonical.choices) enumeration
    rw [nothing, firstMatch, answers.read_nil]
    rfl
  | some value =>
    rw [known] at default
    have isChoice := canonical.default value known
    rw [default_found isChoice (enumRow_begins enumeration) default, Option.map_some,
      isChoice.unquote_spelling, String.ofList_toList]

/-- A value as it stands between two commas. -/
def valueOf (cell : List Char) : String := String.ofList (unquote (trimChars cell))

theorem valueOf_cell {value : String} (isChoice : IsChoice value) {gap gap' : List Char}
    (blank : Blank gap) (blank' : Blank gap') :
    valueOf (gap ++ ((Piece.text value).spelling ++ gap')) = value := by
  have begins : Begins (Piece.text value).spelling := begins_cons (by decide) _
  have trimmed := trimChars_self begins (Piece.ends isChoice.readable)
  rw [valueOf, trimChars_gap blank, trimChars_gap_end blank', trimmed, isChoice.unquote_spelling,
    String.ofList_toList]

theorem comma_not_mem_cell {value : String} (isChoice : IsChoice value) {gap gap' : List Char}
    (blank : Blank gap) (blank' : Blank gap') :
    ',' ∉ gap ++ ((Piece.text value).spelling ++ gap') := by
  have free : ',' ∉ value.toList := isChoice.free (by decide) (by decide) (by decide)
  have first : ',' ∉ gap := fun member => absurd (blank _ member) (by decide)
  have last : ',' ∉ gap' := fun member => absurd (blank' _ member) (by decide)
  simp [Piece.spelling, free, first, last]

/-- The values of an enumeration are read from between its brackets. -/
theorem values_read {first : String} {others : List String}
    (choices : ∀ value ∈ first :: others, IsChoice value) {text last : List Char}
    (spaced : Spaced (spacedBy .inLine (commaPieces ((first :: others).map .text))) text [])
    (blank : Blank last) : (splitChars ',' (text ++ last)).map valueOf = first :: others := by
  have isChoice := choices first List.mem_cons_self
  induction others generalizing first text with
  | nil =>
    obtain ⟨gap, after, rfl, fits, _, spaced⟩ := Spaced.cons_iff.mp spaced
    cases spaced
    rw [List.append_nil, List.append_assoc, splitChars_free (comma_not_mem_cell isChoice fits.blank blank),
      List.map_singleton, valueOf_cell isChoice fits.blank blank]
  | cons second others ih =>
    obtain ⟨gap, after, rfl, fits, _, spaced⟩ := Spaced.cons_iff.mp spaced
    obtain ⟨gap', rest, rfl, fits', _, spaced⟩ := Spaced.cons_iff.mp spaced
    have later : ∀ value ∈ second :: others, IsChoice value :=
      fun value member => choices value (List.mem_cons_of_mem first member)
    have tail := ih later spaced (later second List.mem_cons_self)
    -- the comma belongs to no value, so the text is cut right at it
    have whole : gap ++ ((Piece.text first).spelling ++ (gap' ++ ((Piece.mark .comma).spelling ++
        rest))) ++ last =
        (gap ++ ((Piece.text first).spelling ++ gap')) ++ ',' :: (rest ++ last) := by
      simp [Piece.spelling, Symbol.char]
    rw [whole, splitChars_append, List.map_append, tail,
      splitChars_free (comma_not_mem_cell isChoice fits.blank fits'.blank), List.map_singleton,
      valueOf_cell isChoice fits.blank fits'.blank, List.singleton_append]

theorem bracket_not_mem_values {contents : List String}
    (choices : ∀ value ∈ contents, IsChoice value) {text : List Char}
    (spaced : Spaced (spacedBy .inLine (commaPieces (contents.map .text))) text []) : ']' ∉ text := by
  intro member
  obtain ⟨⟨space, piece⟩, inRow, inside⟩ := spaced.mem_part member (by decide)
  obtain ⟨piece, here, same⟩ := List.mem_map.mp inRow
  obtain ⟨_, rfl⟩ := Prod.mk.inj same
  rcases mem_commaPieces here with rfl | here
  · have apart : ']' ∉ (Piece.mark .comma).spelling := by decide
    exact apart inside
  · obtain ⟨value, inContents, rfl⟩ := List.mem_map.mp here
    have free : ']' ∉ value.toList :=
      (choices value inContents).free (by decide) (by decide) (by decide)
    simp [Piece.spelling, free] at inside

theorem enumText?_laid {gap gap' inside : List Char} (blank : Blank gap) (blank' : Blank gap')
    (free : ']' ∉ inside) (rest : List Char) :
    enumText? ("enum".toList ++ (gap ++ ':' :: (gap' ++ '[' :: (inside ++ ']' :: rest)))) =
      some inside := by
  have key := afterKey?_append "enum" blank (gap' ++ '[' :: (inside ++ ']' :: rest))
  have bracket : afterMark? '[' (gap' ++ '[' :: (inside ++ ']' :: rest)) =
      some (inside ++ ']' :: rest) := afterMark?_gap (by decide) blank' _
  unfold enumText?
  rw [key, Option.bind_eq_bind, Option.bind_some, bracket, Option.bind_eq_bind, Option.bind_some,
    upTo?_append free]
  rfl

/-- An enumeration is found with the text between its brackets. -/
theorem enum_found {first : String} {others : List String}
    (choices : ∀ value ∈ first :: others, IsChoice value)
    (spaced : Spaced (enumRow (first :: others)) text []) :
    ∃ inside, firstMatch enumText? text = some inside ∧
      (splitChars ',' inside).map valueOf = first :: others := by
  obtain ⟨gap, _, rfl, ⟨blank, _⟩, _, spaced⟩ := Spaced.cons_iff.mp spaced
  obtain ⟨gap₁, _, rfl, ⟨blank₁, _⟩, _, spaced⟩ := Spaced.cons_iff.mp spaced
  obtain ⟨gap₂, _, rfl, ⟨blank₂, _⟩, _, spaced⟩ := Spaced.cons_iff.mp spaced
  rw [List.map_append] at spaced
  obtain ⟨closing, values, closed⟩ := Spaced.append_iff.mp spaced
  obtain ⟨gap₃, _, rfl, ⟨blank₃, _⟩, _, ended⟩ := Spaced.cons_iff.mp closed
  cases ended
  obtain ⟨front, rfl, laid⟩ := values.part
  have unclosed : ']' ∉ front ++ gap₃ := by
    intro member
    rcases List.mem_append.mp member with member | member
    · exact bracket_not_mem_values choices laid member
    · exact absurd (blank₃ _ member) (by decide)
  have found : enumText? ((Piece.word "enum").spelling ++ (gap₁ ++ ((Piece.mark .colon).spelling ++
      (gap₂ ++ ((Piece.mark .leftBracket).spelling ++ (front ++ (gap₃ ++
        ((Piece.mark .rightBracket).spelling ++ [])))))))) = some (front ++ gap₃) := by
    rw [← List.append_assoc front]
    exact enumText?_laid blank₁ blank₂ unclosed []
  refine ⟨front ++ gap₃, ?_, values_read choices laid blank₃⟩
  rw [answersKey_enumText.firstMatch_gap blank.notWordChar]
  exact firstMatch_found found

theorem enum_read (canonical : property.Canonical)
    (spaced : Spaced (featuresRow property) text []) : enumValues text = property.enumValues := by
  obtain ⟨middle, flag, spaced⟩ := Spaced.append_iff.mp spaced
  obtain ⟨rest, default, enumeration⟩ := Spaced.append_iff.mp spaced
  have answers := answersKey_enumText
  have defaulted := among_default property.defaultValue
  have defaults : ∀ value ∈ property.defaultValue.toList, IsChoice value := by
    intro value member
    exact canonical.default value (Option.mem_toList.mp member)
  have passed : firstMatch enumText? middle = firstMatch enumText? rest :=
    answers.firstMatch_row (defaulted.readable (by decide) defaults)
      (defaulted.unkeyed (by decide) defaults) default
  rw [enumValues, answers.firstMatch_flag (by decide) flag, passed]
  have choices := canonical.choices
  cases known : property.enumValues with
  | nil =>
    rw [known] at enumeration
    cases enumeration
    rw [firstMatch, answers.read_nil]
  | cons first others =>
    rw [known] at enumeration choices
    obtain ⟨inside, found, read⟩ := enum_found choices enumeration
    have kept : (first :: others).filter (fun value => !value.isEmpty) = first :: others := by
      apply List.filter_eq_self.mpr
      intro value member
      simpa using (choices value member).1
    rw [found]
    change ((splitChars ',' inside).map valueOf).filter _ = _
    rw [read, kept]

/-- Blanks around the features do not matter. -/
theorem features_read (canonical : property.Canonical)
    (spaced : Spaced (featuresRow property) text []) :
    occursIn "required".toList (trimChars text) = property.required ∧
      (firstMatch defaultText? (trimChars text)).map
        (fun found => String.ofList (unquote found)) = property.defaultValue ∧
      enumValues (trimChars text) = property.enumValues := by
  have required := required_read canonical spaced
  have default := default_read canonical spaced
  have enumeration := enum_read canonical spaced
  have ends := spaced.ends (readable_features canonical)
  have begins := begins_afterBlanks text
  obtain ⟨gap, blank, whole⟩ := gap_of_afterBlanks text
  generalize afterBlanks text = features at begins whole
  subst whole
  have trimmed : trimChars (gap ++ features) = features := by
    rw [trimChars_gap blank, trimChars_self begins ends.behind]
  rw [occursIn_gap (by decide) blank.notWordChar] at required
  rw [answersKey_defaultText.firstMatch_gap blank.notWordChar] at default
  rw [enumValues, answersKey_enumText.firstMatch_gap blank.notWordChar] at enumeration
  rw [trimmed]
  exact ⟨required, default, enumeration⟩

end Features

end Blueprint
