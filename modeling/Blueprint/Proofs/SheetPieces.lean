import Blueprint.Proofs.PropertyLines

/-!
The pieces of a sheet can be read, and outside of a block they hold nothing for a reader that looks for
blocks of that kind: no name is the keyword of a block, and no text leads from one to a brace.
-/
set_option autoImplicit false

namespace Blueprint

open Text

/-- The keywords that blocks are looked for by. -/
def blockWords : List String := ["model", "screen", "endpoint", "api"]

/-- The piece can be read and holds nothing for a reader that looks for the keyword. -/
def Piece.Silent (keyword : String) (spaced : Bool) (piece : Piece) : Prop :=
  piece.Readable ∧ piece.Quiet keyword spaced

def Row.Silent (keyword : String) (spaced : Bool) (row : Row) : Prop :=
  ∀ spacedPiece ∈ row, spacedPiece.2.Silent keyword spaced

variable {keyword : String} {spaced : Bool}

/-! ## Pieces -/

namespace Piece

theorem silent_mark (symbol : Symbol) : (Piece.mark symbol).Silent keyword spaced := ⟨trivial, trivial⟩

theorem silent_word {name : String} (isWord : IsWord name.toList) (differs : name ≠ keyword) :
    (Piece.word name).Silent keyword spaced :=
  ⟨isWord, differs⟩

theorem silent_other (isBlock : keyword ∈ blockWords) {name : String} (isWord : IsWord name.toList)
    (apart : name ∉ blockWords) : (Piece.word name).Silent keyword spaced :=
  silent_word isWord fun same => apart (same ▸ isBlock)

theorem silent_term (isBlock : keyword ∈ blockWords) {name : String} (isTerm : IsTerm name) :
    (Piece.word name).Silent keyword spaced := by
  obtain ⟨isWord, free, _⟩ := isTerm
  apply silent_other isBlock isWord
  intro reserved
  simp only [blockWords, List.mem_cons, List.not_mem_nil, or_false] at reserved
  rcases reserved with rfl | rfl | rfl | rfl <;> contradiction

theorem silent_text {content : String} (known : Verbatim content ∧ Braceless content) :
    (Piece.text content).Silent keyword spaced :=
  ⟨known.1, .inl known.2.1⟩

theorem silent_solid {content : String} (known : Verbatim content ∧ IsSolid content) :
    (Piece.text content).Silent keyword true :=
  ⟨known.1, .inr ⟨rfl, known.2.2⟩⟩

theorem silent_choice {value : String} (isChoice : IsChoice value) :
    (Piece.text value).Silent keyword spaced :=
  ⟨isChoice.readable, .inl (isChoice.free (by decide) (by decide) (by decide))⟩

end Piece

/-! ## Rows -/

namespace Row.Silent

variable {row more : Row}

theorem append (first : row.Silent keyword spaced) (second : more.Silent keyword spaced) :
    Row.Silent keyword spaced (row ++ more) :=
  List.forall_mem_append.mpr ⟨first, second⟩

theorem flatMap {α : Type} {write : α → Row} {items : List α}
    (each : ∀ item ∈ items, (write item).Silent keyword spaced) :
    Row.Silent keyword spaced (items.flatMap write) := by
  intro spacedPiece member
  obtain ⟨item, inItems, here⟩ := List.mem_flatMap.mp member
  exact each item inItems spacedPiece here

theorem loose {pieces : List Piece} (each : ∀ piece ∈ pieces, piece.Silent keyword spaced) :
    Row.Silent keyword spaced (loose pieces) := by
  intro spacedPiece member
  obtain ⟨piece, here, rfl⟩ := List.mem_map.mp member
  exact each piece here

theorem readable (silent : row.Silent keyword spaced) : row.Readable :=
  fun spacedPiece member => (silent spacedPiece member).1

theorem finds {α β : Type} {read : WordReader α} {view : α → β}
    (silent : row.Silent keyword spaced) (answersAt : AnswersAt keyword spaced read) :
    Finds read view row [] :=
  .nothing answersAt silent.readable fun spacedPiece member => (silent spacedPiece member).2

end Row.Silent

theorem silent_brace : Row.Silent keyword spaced (loose [.mark .rightBrace]) :=
  .loose (List.forall_mem_singleton.mpr (Piece.silent_mark _))

theorem silent_commaIf (comma : Bool) : ∀ piece ∈ commaIf comma, piece.Silent keyword spaced := by
  intro piece member
  cases comma with
  | false => contradiction
  | true =>
    obtain rfl := List.mem_singleton.mp member
    exact Piece.silent_mark _

/-- A key, a colon and a text. -/
theorem silent_entry {key content : String} (isKey : (Piece.word key).Silent keyword spaced)
    (isText : (Piece.text content).Silent keyword spaced) :
    ∀ piece ∈ [Piece.word key, .mark .colon, .text content], piece.Silent keyword spaced := by
  intro piece member
  simp only [List.mem_cons, List.not_mem_nil, or_false] at member
  rcases member with rfl | rfl | rfl
  · exact isKey
  · exact Piece.silent_mark _
  · exact isText

theorem isWord_method (method : HttpMethod) : IsWord method.name.toList := by
  cases method <;> decide

section Rows

variable (isBlock : keyword ∈ blockWords)

include isBlock

/-- The head of a block of another kind. -/
theorem silent_blockRow {other name : String} (isWord : IsWord other.toList)
    (differs : other ≠ keyword) (isTerm : IsTerm name) :
    (blockRow other name).Silent keyword spaced := by
  apply Row.Silent.loose
  intro piece member
  simp only [List.mem_cons, List.not_mem_nil, or_false] at member
  rcases member with rfl | rfl | rfl
  · exact Piece.silent_word isWord differs
  · exact Piece.silent_term isBlock isTerm
  · exact Piece.silent_mark _

theorem silent_attribute {content : HeaderAttribute} (canonical : content.Canonical) :
    ∀ piece ∈ content.pieces, piece.Silent keyword spaced := by
  cases content with
  | name text =>
    exact silent_entry (Piece.silent_other isBlock (by decide) (by decide))
      (Piece.silent_text canonical)
  | id text =>
    exact silent_entry (Piece.silent_other isBlock (by decide) (by decide))
      (Piece.silent_text canonical)
  | version text =>
    exact silent_entry (Piece.silent_other isBlock (by decide) (by decide))
      (Piece.silent_text canonical)
  | platforms found =>
    intro piece member
    simp only [HeaderAttribute.pieces, List.mem_cons, List.mem_append, List.not_mem_nil,
      or_false] at member
    rcases member with rfl | rfl | rfl | inside | rfl
    · exact Piece.silent_other isBlock (by decide) (by decide)
    · exact Piece.silent_mark _
    · exact Piece.silent_mark _
    · rcases mem_commaPieces inside with rfl | inside
      · exact Piece.silent_mark _
      · obtain ⟨platform, _, rfl⟩ := List.mem_map.mp inside
        cases platform <;> exact Piece.silent_other isBlock (by decide) (by decide)
    · exact Piece.silent_mark _
  | theme entries =>
    intro piece member
    simp only [HeaderAttribute.pieces, List.mem_cons, List.mem_append, List.not_mem_nil,
      or_false] at member
    rcases member with rfl | rfl | rfl | inside | rfl
    · exact Piece.silent_other isBlock (by decide) (by decide)
    · exact Piece.silent_mark _
    · exact Piece.silent_mark _
    · obtain ⟨entry, inEntries, here⟩ := List.mem_flatMap.mp inside
      obtain ⟨isTerm, isText⟩ := canonical entry inEntries
      rcases List.mem_append.mp here with inEntry | inComma
      · exact silent_entry (Piece.silent_term isBlock isTerm) (Piece.silent_text isText)
          piece inEntry
      · exact silent_commaIf entry.comma piece inComma
    · exact Piece.silent_mark _

theorem silent_headerRow {sheet : Sheet} (canonical : sheet.Canonical) :
    sheet.headerRow.Silent keyword spaced := by
  have differs : "app" ≠ keyword := by
    rintro rfl
    exact absurd isBlock (by decide)
  apply (silent_blockRow isBlock (by decide) differs canonical.name).append
  apply Row.Silent.append _ silent_brace
  apply Row.Silent.flatMap
  intro entry member
  apply Row.Silent.loose
  intro piece here
  rcases List.mem_append.mp here with inContent | inComma
  · exact silent_attribute isBlock (canonical.entries entry member) piece inContent
  · exact silent_commaIf entry.comma piece inComma

theorem silent_propertyRow {property : Property} (canonical : property.Canonical) :
    (propertyRow property).Silent keyword spaced := by
  intro spacedPiece member
  rcases List.mem_cons.mp member with rfl | inTail
  · exact Piece.silent_term isBlock canonical.name
  have among := (among_tail property spacedPiece inTail).2
  obtain ⟨space, piece⟩ := spacedPiece
  cases piece with
  | word name =>
    rcases List.mem_cons.mp among with rfl | inFeatures
    · exact Piece.silent_term isBlock canonical.type
    · have apart : ∀ name ∈ requiredWords property.required ++ ["default", "enum"],
          name ∉ blockWords := by cases property.required <;> decide
      exact Piece.silent_other isBlock (isWord_features _ name inFeatures) (apart name inFeatures)
  | mark symbol => exact Piece.silent_mark symbol
  | text content => exact Piece.silent_choice (canonical.values content among)

theorem silent_modelBody {model : Model} (canonical : model.Canonical) :
    Row.Silent keyword spaced (model.properties.flatMap propertyRow) :=
  .flatMap fun property member => silent_propertyRow isBlock (canonical.properties property member)

theorem silent_modelRow (differs : "model" ≠ keyword) {model : Model}
    (canonical : model.Canonical) : (modelRow model).Silent keyword spaced :=
  (silent_blockRow isBlock (by decide) differs canonical.name).append
    ((silent_modelBody isBlock canonical).append silent_brace)

theorem silent_screenBody {outline : ScreenOutline} (canonical : outline.Canonical) :
    (screenBody outline).Silent keyword spaced := by
  apply Row.Silent.loose
  intro piece member
  rcases List.mem_append.mp member with inFront | inLayout
  · rcases List.mem_append.mp inFront with inTitle | inFlag
    · exact silent_entry (Piece.silent_other isBlock (by decide) (by decide))
        (Piece.silent_text canonical.title) piece inTitle
    · split at inFlag
      · obtain rfl := List.mem_singleton.mp inFlag
        exact Piece.silent_other isBlock (by decide) (by decide)
      · contradiction
  · simp only [List.mem_cons, List.not_mem_nil, or_false] at inLayout
    rcases inLayout with rfl | rfl | rfl | rfl | rfl | rfl
    · exact Piece.silent_other isBlock (by decide) (by decide)
    · exact Piece.silent_mark _
    · exact Piece.silent_mark _
    · exact Piece.silent_other isBlock (by decide) (by decide)
    · exact Piece.silent_mark _
    · exact Piece.silent_other isBlock (by decide) (by decide)

theorem silent_screenRow (differs : "screen" ≠ keyword) {outline : ScreenOutline}
    (canonical : outline.Canonical) : (screenRow outline).Silent keyword spaced := by
  have braces : Row.Silent keyword spaced (loose [.mark .rightBrace, .mark .rightBrace]) :=
    silent_brace.append silent_brace
  exact (silent_blockRow isBlock (by decide) differs canonical.name).append
    ((silent_screenBody isBlock canonical).append braces)

theorem silent_endpointBody {outline : EndpointOutline} (canonical : outline.Canonical) :
    (endpointBody outline).Silent keyword true := by
  apply Row.Silent.loose
  intro piece member
  simp only [List.mem_cons, List.not_mem_nil, or_false] at member
  rcases member with rfl | rfl | rfl | rfl | rfl | rfl
  · exact Piece.silent_other isBlock (by decide) (by decide)
  · exact Piece.silent_mark _
  · exact Piece.silent_solid canonical.path
  · exact Piece.silent_other isBlock (by decide) (by decide)
  · exact Piece.silent_mark _
  · refine Piece.silent_other isBlock (isWord_method outline.method) ?_
    cases outline.method <;> decide

theorem silent_endpointRow (differs : "endpoint" ≠ keyword) {outline : EndpointOutline}
    (canonical : outline.Canonical) : (endpointRow outline).Silent keyword true :=
  (silent_blockRow isBlock (by decide) differs canonical.id).append
    ((silent_endpointBody isBlock canonical).append silent_brace)

/-- The head of an interface with its base address. -/
theorem silent_apiHead (differs : "api" ≠ keyword) {outline : ApiOutline}
    (canonical : outline.Canonical) : Row.Silent keyword spaced
      (loose [.word "api", .mark .leftBrace, .word "baseUrl", .mark .colon, .text outline.baseUrl]) := by
  apply Row.Silent.loose
  intro piece member
  obtain ⟨verbatim, braceless, _⟩ := canonical.baseUrl
  simp only [List.mem_cons, List.not_mem_nil, or_false] at member
  rcases member with rfl | rfl | rfl | rfl | rfl
  · exact Piece.silent_word (by decide) differs
  · exact Piece.silent_mark _
  · exact Piece.silent_other isBlock (by decide) (by decide)
  · exact Piece.silent_mark _
  · exact Piece.silent_text ⟨verbatim, braceless⟩

theorem silent_apiRow (notApi : "api" ≠ keyword) (notEndpoint : "endpoint" ≠ keyword)
    {outline : ApiOutline} (canonical : outline.Canonical) : (apiRow outline).Silent keyword true :=
  (silent_apiHead isBlock notApi canonical).append
    (.append (.flatMap fun endpoint member =>
      silent_endpointRow isBlock notEndpoint (canonical.endpoints endpoint member)) silent_brace)

theorem silent_models (differs : "model" ≠ keyword) {sheet : Sheet} (canonical : sheet.Canonical) :
    Row.Silent keyword spaced (sheet.models.flatMap modelRow) :=
  .flatMap fun model member => silent_modelRow isBlock differs (canonical.models model member)

theorem silent_screens (differs : "screen" ≠ keyword) {sheet : Sheet} (canonical : sheet.Canonical) :
    Row.Silent keyword spaced (sheet.screens.flatMap screenRow) :=
  .flatMap fun outline member => silent_screenRow isBlock differs (canonical.screens outline member)

theorem silent_apis (notApi : "api" ≠ keyword) (notEndpoint : "endpoint" ≠ keyword) {sheet : Sheet}
    (canonical : sheet.Canonical) : Row.Silent keyword true (sheet.api.elim [] apiRow) := by
  cases api : sheet.api with
  | none => exact fun _ member => absurd member List.not_mem_nil
  | some outline => exact silent_apiRow isBlock notApi notEndpoint (canonical.api outline api)

end Rows

/-- Every piece of a canonical sheet can be read. -/
theorem Sheet.Canonical.readable {sheet : Sheet} (canonical : sheet.Canonical) :
    sheet.row.Readable := by
  have isModel : "model" ∈ blockWords := by decide
  have isScreen : "screen" ∈ blockWords := by decide
  have headers : sheet.headerRow.Silent "model" true := silent_headerRow isModel canonical
  have models : Row.Silent "screen" true (sheet.models.flatMap modelRow) :=
    silent_models isScreen (by decide) canonical
  have screens : Row.Silent "model" true (sheet.screens.flatMap screenRow) :=
    silent_screens isModel (by decide) canonical
  have apis : Row.Silent "model" true (sheet.api.elim [] apiRow) :=
    silent_apis isModel (by decide) (by decide) canonical
  intro spacedPiece member
  rcases List.mem_append.mp member with inHeader | member
  · exact headers.readable _ inHeader
  rcases List.mem_append.mp member with inModels | member
  · exact models.readable _ inModels
  rcases List.mem_append.mp member with inScreens | inApi
  · exact screens.readable _ inScreens
  · exact apis.readable _ inApi

end Blueprint
