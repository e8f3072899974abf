import Blueprint.Proofs.DocumentReading
import Blueprint.Proofs.Sheet

/-!
Sheets are read by the grammar as the documents that they describe. Between the entries of a sheet
there are no commas, so that an entry ends where the next one begins or the group is closed.
-/
set_option autoImplicit false

namespace Blueprint

open Written

variable {α β σ : Type} {follow : List Token → Prop}

/-! ## The tokens of a row -/

namespace Row

theorem tokens_append (row more : Row) : tokens (row ++ more) = tokens row ++ tokens more :=
  List.map_append

theorem tokens_spacedBy (space : Space) (pieces : List Piece) :
    tokens (spacedBy space pieces) = pieces.map Piece.token := by
  rw [tokens, spacedBy, List.map_map]
  rfl

theorem tokens_flatMap (write : α → Row) (items : List α) :
    tokens (items.flatMap write) = items.flatMap fun item => tokens (write item) :=
  List.map_flatMap

end Row

/-! ## Entries without commas -/

namespace Reads

theorem mono {follow' : List Token → Prop} {parser : Parser α} {tokens : List Token} {value : α}
    (reads : Reads follow' parser tokens value) (fits : ∀ rest, follow rest → follow' rest) :
    Reads follow parser tokens value where
  legible := reads.legible
  run stop rest follows := reads.run stop rest (fits rest follows)

theorem noCommas : Reads EntryNext Parser.skipCommas [] () where
  legible _ member := absurd member List.not_mem_nil
  run stop rest follows := by
    rw [List.nil_append, Parser.skipCommas, Parser.skip, afterCommas_of_entryNext follows]

/-- No comma follows a content. -/
theorem bare {parser : Parser α} {next : α → Parser β} {tokens : List Token} {value : α}
    {result : β} (contents : Reads EntryNext parser tokens value)
    (nexts : Reads EntryNext (next value) [] result) :
    Reads EntryNext (parser >>= fun value => Parser.skipCommas >>= fun _ => next value)
      tokens result :=
  contents.map (noCommas.map nexts)

end Reads

/-! ## Lists with commas between their items -/

/-- A token that an item is read from, and that may begin one. -/
def TakesItem (item : Parser α) (write : α → Piece) (value : α) : Prop :=
  Takes item (write value).token value ∧ IsOpening (write value).token.kind

theorem TakesItem.opens {item : Parser α} {write : α → Piece} {value : α}
    (takesItem : TakesItem item write value) (others : List Token) :
    Opens ((write value).token :: others) :=
  ⟨_, _, rfl, takesItem.2⟩

/-- Whether a comma has promised another item. -/
def moreItems (state : List α × Bool) (tokens : List Token) : Bool :=
  state.2 && Parser.stillOpen .rightBracket tokens

def nextItem (item : Parser α) (state : List α × Bool) : Parser (List α × Bool) := do
  let next ← item
  let more ← Parser.option (.symbol .comma)
  return (state.1 ++ [next], more)

theorem commaSeparated_eq (item : Parser α) : Parser.commaSeparated item =
    (Parser.loop moreItems (nextItem item) ([], true) >>= fun state => pure state.1) := rfl

section Items

variable {item : Parser α} {write : α → Piece} {value : α}

theorem isEntry_followedItem (takesItem : TakesItem item write value) (earlier : List α) :
    IsEntry Anything moreItems (nextItem item) (earlier, true) [(write value).token, comma]
      (earlier ++ [value], true) where
  reads := .take takesItem.1 (.taken (.pure _)
    (List.forall_mem_singleton.mpr (legible_mark .comma)) rfl fun _ _ => rfl)
  opens := takesItem.opens _
  goesOn := stillOpen_of_opens closing_bracket (takesItem.opens [comma])

theorem isEntry_lastItem (takesItem : TakesItem item write value) (earlier : List α) :
    IsEntry (CloseNext .rightBracket) moreItems (nextItem item) (earlier, true) [(write value).token]
      (earlier ++ [value], false) where
  reads := by
    refine .take takesItem.1 (.pass (.pure _) fun rest ends => ?_)
    obtain ⟨more, rfl⟩ := ends
    rfl
  opens := takesItem.opens _
  goesOn := stillOpen_of_opens closing_bracket (takesItem.opens [])

theorem entries_items {first : α} {others : List α}
    (each : ∀ value ∈ first :: others, TakesItem item write value) (earlier : List α) :
    Entries (CloseNext .rightBracket) moreItems (nextItem item) (earlier, true)
      ((commaPieces ((first :: others).map write)).map Piece.token)
      (earlier ++ first :: others, false) := by
  induction others generalizing first earlier with
  | nil => exact .entry (isEntry_lastItem (each first List.mem_cons_self) earlier) (fun _ ends => ends) .none
  | cons second others ih =>
    have tail := ih (fun other later => each other (List.mem_cons_of_mem first later))
      (earlier ++ [first])
    rw [List.append_cons earlier first]
    exact .entry (isEntry_followedItem (each first List.mem_cons_self) earlier) (fun _ _ => trivial) tail

theorem Reads.items {items : List α} (each : ∀ value ∈ items, TakesItem item write value) :
    Reads (CloseNext .rightBracket) (Parser.commaSeparated item)
      ((commaPieces (items.map write)).map Piece.token) items := by
  rw [commaSeparated_eq]
  cases items with
  | nil =>
    have none : Entries (CloseNext .rightBracket) moreItems (nextItem item) ([], true) [] ([], true) :=
      .none
    exact (none.reads fun rest ends => stillOpen_closed ends).map (.pure _)
  | cons first others =>
    exact ((entries_items each []).reads fun rest _ => rfl).map (.pure _)

end Items

/-! ## Properties -/

/-- What may follow a property: something that is not part of it. -/
structure PropertyEnd (rest : List Token) : Prop where
  entryNext : EntryNext rest
  noFeature : Grammar.featureAt? rest = none
  noBrackets : Grammar.startsWithBrackets rest = false

/-- The tokens are features without commas, which turn a property into another one. -/
structure ReadsBareFeatures (property : Property) (tokens : List Token) (final : Property) :
    Prop where
  legible : ∀ token ∈ tokens, Legible token
  begins : tokens = [] ∨ ∃ name others, tokens = word name :: others
  run : ∀ stop rest, PropertyEnd rest →
    featuresOf property stop (tokens ++ rest) = .ok final rest []

namespace ReadsBareFeatures

variable {property next final : Property} {tokens others : List Token}

theorem none (property : Property) : ReadsBareFeatures property [] property where
  legible _ member := absurd member List.not_mem_nil
  begins := .inl rfl
  run stop rest ends := by
    rw [List.nil_append, featuresOf_stop property stop ends.noFeature,
      Reads.afterCommas_of_entryNext ends.entryNext]

theorem entryNext (reads : ReadsBareFeatures property tokens final) {rest : List Token}
    (ends : PropertyEnd rest) : EntryNext (tokens ++ rest) := by
  rcases reads.begins with rfl | ⟨name, others, rfl⟩
  · exact ends.entryNext
  · exact (opens_word name others).entryNext rest

theorem noBrackets (reads : ReadsBareFeatures property tokens final) {rest : List Token}
    (ends : PropertyEnd rest) : Grammar.startsWithBrackets (tokens ++ rest) = false := by
  rcases reads.begins with rfl | ⟨name, others, rfl⟩
  · exact ends.noBrackets
  · exact noBrackets_word name _

theorem cons {name : String}
    (first : Reads EntryNext (Grammar.feature property) (word name :: tokens) next)
    (isFeature : ∀ rest, EntryNext rest →
      (Grammar.featureAt? (word name :: tokens ++ rest)).isSome = true)
    (tail : ReadsBareFeatures next others final) :
    ReadsBareFeatures property (word name :: tokens ++ others) final where
  legible := List.forall_mem_append.mpr ⟨first.legible, tail.legible⟩
  begins := .inr ⟨name, tokens ++ others, rfl⟩
  run stop rest ends := by
    have follows := tail.entryNext ends
    have shorter : (others ++ rest).length < (word name :: tokens ++ (others ++ rest)).length := by
      simp only [List.length_append, List.length_cons]
      omega
    rw [List.append_assoc, featuresOf_step (isFeature _ follows) (first.run stop _ follows) shorter,
      Reads.afterCommas_of_entryNext follows]
    exact tail.run stop rest ends

end ReadsBareFeatures

theorem Reads.bareEnumeration (property : Property) (first : String) (others : List String) :
    Reads follow (Grammar.feature property) (Row.tokens (enumRow (first :: others)))
      { property with enumValues := first :: others } := by
  generalize same : first :: others = contents
  have each : ∀ content ∈ contents, TakesItem Grammar.scalarText .text content :=
    fun content _ => ⟨takes_scalarText_quoted content, trivial⟩
  have values : Reads follow Grammar.enumValues
      (mark .leftBracket :: ((commaPieces (contents.map .text)).map Piece.token ++
        [mark .rightBracket])) contents :=
    .take (takes_symbol .leftBracket) (.closed (.items each) (.pure _))
  have reads : Reads follow (Grammar.feature property) ([word "enum", mark .colon] ++
      (mark .leftBracket :: ((commaPieces (contents.map .text)).map Piece.token ++
        [mark .rightBracket]))) { property with enumValues := contents } := by
    refine .found ?_ (legible_keyed (by decide)) rfl fun _ _ => rfl
    dsimp only
    exact .map values (.pure _)
  have written : Row.tokens (enumRow contents) = [word "enum", mark .colon] ++
      (mark .leftBracket :: ((commaPieces (contents.map .text)).map Piece.token ++
        [mark .rightBracket])) := by
    rw [← same, enumRow, Row.tokens, List.map_cons]
    · exact congrArg _ ((Row.tokens_spacedBy _ _).trans (by simp [Piece.token]))
    · exact List.cons_ne_nil first others
  rwa [written]

theorem readsBareFeatures (property : Property) :
    ReadsBareFeatures { name := property.name, type := property.type }
      (Row.tokens (featuresRow property)) property := by
  obtain ⟨name, type, required, defaultValue, enumValues⟩ := property
  have enumeration : ReadsBareFeatures ⟨name, type, required, defaultValue, []⟩
      (Row.tokens (enumRow enumValues)) ⟨name, type, required, defaultValue, enumValues⟩ := by
    cases enumValues with
    | nil => exact .none _
    | cons first others =>
      have reads := ReadsBareFeatures.cons
        (.bareEnumeration ⟨name, type, required, defaultValue, []⟩ first others)
        (fun _ _ => rfl) (.none _)
      rwa [List.append_nil] at reads
  have default : ReadsBareFeatures ⟨name, type, required, none, []⟩
      (Row.tokens (defaultRow defaultValue ++ enumRow enumValues))
      ⟨name, type, required, defaultValue, enumValues⟩ := by
    rw [Row.tokens_append]
    cases defaultValue with
    | none => exact enumeration
    | some content => exact .cons (.default _ content) (fun _ _ => rfl) enumeration
  rw [featuresRow, Row.tokens_append]
  cases required with
  | false => exact default
  | true =>
    refine .cons ((Reads.required _).mono fun _ => noColonNext_of_entryNext)
      (fun rest follows => ?_) default
    change (Grammar.featureAt? (word "required" :: rest)).isSome = true
    rw [featureAt?_required (noColonNext_of_entryNext follows)]
    rfl

theorem isName_of_isTerm {name : String} (isTerm : IsTerm name) : IsName name := by
  obtain ⟨isWord, free, _⟩ := isTerm
  refine ⟨isWord, ?_, ?_⟩
  · rintro rfl
    contradiction
  · rintro rfl
    contradiction

theorem reads_bareProperty {property : Property} (canonical : property.Canonical)
    (earlier : List Property) :
    Reads PropertyEnd
      (Grammar.property >>= fun property => Parser.skipCommas >>= fun _ =>
        pure (earlier ++ [property]))
      (Row.tokens (propertyRow property)) (earlier ++ [property]) := by
  have features := readsBareFeatures property
  have rest : Reads PropertyEnd
      (featuresOf { name := property.name, type := property.type })
      (Row.tokens (featuresRow property)) property := ⟨features.legible, features.run⟩
  have type : Reads (fun rest => Grammar.startsWithBrackets rest = false) Grammar.typeRef
      (typeRef property.type) property.type :=
    .typeRef (isName_of_isTerm canonical.type) fun _ noBrackets => noBrackets
  have same : Row.tokens (propertyRow property) = word property.name :: mark .colon ::
      (typeRef property.type ++ Row.tokens (featuresRow property)) := by
    obtain ⟨name, ⟨typeName, isArray⟩, required, defaultValue, enumValues⟩ := property
    cases isArray <;> rfl
  rw [property_eq, same]
  exact .key (isName_of_isTerm canonical.name) (type.bind (rest.map (.pure _)) fun _ ends =>
    features.noBrackets ends)

theorem propertyEnd_key {name : String} (isTerm : IsTerm name) (rest : List Token) :
    PropertyEnd (word name :: mark .colon :: rest) where
  entryNext := ⟨_, _, rfl, kind_word_ne_symbol name .comma, kind_word_ne_symbol name .colon⟩
  noFeature := by
    obtain ⟨_, _, free⟩ := isTerm
    simp only [List.mem_cons, List.not_mem_nil, or_false, not_or] at free
    exact featureAt?_key free.2.1 free.2.2 rest
  noBrackets := noBrackets_word name _

theorem propertyEnd_closed (rest : List Token) : PropertyEnd (mark .rightBrace :: rest) where
  entryNext := entryNext_of_closeNext closing_brace ⟨rest, rfl⟩
  noFeature := rfl
  noBrackets := by cases rest <;> rfl

theorem entries_bareProperties {properties : List Property}
    (canonical : ∀ property ∈ properties, property.Canonical) (earlier : List Property) :
    Entries (CloseNext .rightBrace) (fun _ tokens => Parser.stillOpen .rightBrace tokens)
      (fun items => Grammar.property >>= fun next => Parser.skipCommas >>= fun _ =>
        pure (items ++ [next]))
      earlier (Row.tokens (properties.flatMap propertyRow)) (earlier ++ properties) := by
  induction properties generalizing earlier with
  | nil =>
    rw [List.append_nil]
    exact .none
  | cons property properties ih =>
    have tail := ih (fun other later => canonical other (List.mem_cons_of_mem property later))
      (earlier ++ [property])
    rw [List.flatMap_cons, Row.tokens_append, List.append_cons earlier property properties]
    have opens : Opens (Row.tokens (propertyRow property)) := opens_word _ _
    refine .entry ⟨reads_bareProperty (canonical property List.mem_cons_self) earlier, opens,
      stillOpen_of_opens closing_brace opens⟩ (fun rest ends => ?_) tail
    obtain ⟨later, rfl⟩ := ends
    cases properties with
    | nil => exact propertyEnd_closed later
    | cons next properties =>
      have isTerm := (canonical next (List.mem_cons_of_mem property List.mem_cons_self)).name
      exact propertyEnd_key isTerm _

theorem Reads.sheetModel {model : Model} (canonical : model.Canonical) :
    Reads follow Grammar.model (Row.tokens (modelRow model)) model := by
  have same : Row.tokens (modelRow model) = word "model" :: word model.name :: mark .leftBrace ::
      (Row.tokens (model.properties.flatMap propertyRow) ++ [mark .rightBrace]) := by
    rw [modelRow, Row.tokens_append, Row.tokens_append]
    rfl
  rw [same]
  refine .take (takes_keyword .model (by decide)) (.take (takes_name (isName_of_isTerm canonical.name))
    (.take (takes_symbol .leftBrace) (.closed (.untilClosed ?_) (.pure _))))
  exact entries_bareProperties canonical.properties []

end Blueprint
