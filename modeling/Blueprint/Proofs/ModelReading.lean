import Blueprint.Document.Models
import Blueprint.Proofs.Reading

/-!
Types, properties and models are read as they were written. The comma after the last feature of a
property is taken by the features, so that what follows that comma must not begin another one.
-/
set_option autoImplicit false

namespace Blueprint

open Written

/-! ## Types -/

namespace Reads

variable {follow : List Token → Prop}

theorem typeRef {type : TypeRef} (isName : IsName type.name)
    (noBrackets : ∀ rest, follow rest → Grammar.startsWithBrackets rest = false) :
    Reads follow Grammar.typeRef (Written.typeRef type) type := by
  obtain ⟨name, isArray⟩ := type
  refine take (takes_name isName) ?_
  cases isArray with
  | false => exact pass (pure _) noBrackets
  | true =>
    have brackets : ∀ token ∈ [mark .leftBracket, mark .rightBracket], Legible token :=
      List.forall_mem_cons.mpr ⟨legible_mark _, List.forall_mem_singleton.mpr (legible_mark _)⟩
    exact taken (pure _) brackets rfl fun _ _ => rfl

end Reads

theorem noBrackets_of_commaNext {rest : List Token} (next : CommaNext rest) :
    Grammar.startsWithBrackets rest = false := by
  obtain ⟨more, rfl⟩ := next
  cases more <;> rfl

theorem noBrackets_word (name : String) (rest : List Token) :
    Grammar.startsWithBrackets (word name :: rest) = false := by
  cases rest with
  | nil => rfl
  | cons second rest => simp [Grammar.startsWithBrackets, kind_word_ne_symbol]

/-! ## Words that stand alone -/

def NoColonNext (rest : List Token) : Prop := Parser.startsWith (.symbol .colon) rest = false

theorem noColonNext_of_entryNext {rest : List Token} (next : EntryNext rest) : NoColonNext rest := by
  obtain ⟨token, more, rfl, _, notColon⟩ := next
  simp [NoColonNext, Parser.startsWith, notColon]

theorem noColonNext_of_commaNext {rest : List Token} (next : CommaNext rest) : NoColonNext rest := by
  obtain ⟨more, rfl⟩ := next
  rfl

theorem noColonNext_word (name : String) (rest : List Token) : NoColonNext (word name :: rest) := by
  simp [NoColonNext, Parser.startsWith, kind_word_ne_symbol]

theorem startsWithFlag_word {name : String} (isName : IsName name) {rest : List Token}
    (noColon : NoColonNext rest) : Parser.startsWithFlag name (word name :: rest) = true := by
  rw [NoColonNext] at noColon
  simp only [Parser.startsWithFlag, kind_word_of_isName isName, noColon]
  simp [word, token]

namespace Reads

variable {α : Type} {follow : List Token → Prop}

/-- A word that stands alone is taken as a flag. -/
theorem flagged {name : String} {next : Bool → Parser α} {result : α} (isName : IsName name)
    (nexts : Reads follow (next true) [] result)
    (noColon : ∀ rest, follow rest → NoColonNext rest) :
    Reads follow (Parser.flag name >>= next) [word name] result :=
  taken nexts (List.forall_mem_singleton.mpr (legible_word isName.1)) rfl fun rest fits =>
    startsWithFlag_word isName (noColon rest fits)

theorem unflagged {name key : String} {next : Bool → Parser α} {others : List Token} {result : α}
    (nexts : Reads follow (next false) (word key :: mark .colon :: others) result) :
    Reads follow (Parser.flag name >>= next) (word key :: mark .colon :: others) result :=
  pass nexts fun rest _ => by simp [Parser.startsWithFlag, Parser.startsWith, mark, token]

end Reads

/-! ## Features -/

theorem takes_scalarText_quoted (content : String) :
    Takes Grammar.scalarText (quoted content) content where
  legible := legible_quoted content
  run stop rest := Parser.bind_run_clean (Parser.accept_run rfl _ stop rest) _

theorem Reads.enumValues {follow : List Token → Prop} (contents : List String) :
    Reads follow Grammar.enumValues
      (brackets (elements (fun content => [quoted content]) contents)) contents := by
  refine .take (takes_symbol .leftBracket) (.closed (.commaSeparated ?_) (.pure _))
  intro content _
  exact ⟨.ofTakes (takes_scalarText_quoted content), opens_quoted _ _⟩

/-- The tokens of something that is found are taken. -/
theorem Reads.found {α β : Type} {follow : List Token → Prop} {find : List Token → Option β}
    {length : β → Nat} {content : β} {next : Option β → Parser α} {tokens more : List Token}
    {result : α} (nexts : Reads follow (next (some content)) more result)
    (legible : ∀ token ∈ tokens, Legible token) (size : tokens.length = length content)
    (finds : ∀ rest, follow rest → find (tokens ++ (more ++ rest)) = some content) :
    Reads follow (Parser.takeFound find length >>= next) (tokens ++ more) result where
  legible := List.forall_mem_append.mpr ⟨legible, nexts.legible⟩
  run stop rest follows := by
    have run : Parser.takeFound find length stop (tokens ++ (more ++ rest)) =
        .ok (some content) (more ++ rest) [] := by
      simp only [Parser.takeFound, finds rest follows, ← size, List.drop_left]
    rw [List.append_assoc, Parser.bind_run_clean run]
    exact nexts.run stop rest follows

theorem featureAt?_required {rest : List Token} (noColon : NoColonNext rest) :
    Grammar.featureAt? (word "required" :: rest) = some .required := by
  rw [NoColonNext] at noColon
  simp only [Grammar.featureAt?, noColon]
  rfl

theorem featureAt?_key {name : String} (notDefault : name ≠ "default") (notEnum : name ≠ "enum")
    (rest : List Token) : Grammar.featureAt? (word name :: mark .colon :: rest) = none := by
  have colon : Parser.startsWith (.symbol .colon) (mark .colon :: rest) = true := rfl
  simp [Grammar.featureAt?, colon, word, token, notDefault, notEnum]

theorem legible_keyed {name : String} (isName : IsName name) :
    ∀ token ∈ [word name, mark .colon], Legible token :=
  List.forall_mem_cons.mpr
    ⟨legible_word isName.1, List.forall_mem_singleton.mpr (legible_mark .colon)⟩

theorem Reads.required (property : Property) :
    Reads NoColonNext (Grammar.feature property) [word "required"]
      { property with required := true } := by
  have reads : Reads NoColonNext (Grammar.feature property) ([word "required"] ++ [])
      { property with required := true } :=
    .found (.pure _) (List.forall_mem_singleton.mpr (legible_word (by decide))) rfl
      fun _ noColon => featureAt?_required noColon
  exact reads

theorem Reads.default {follow : List Token → Prop} (property : Property) (content : String) :
    Reads follow (Grammar.feature property) (defaultFeature content)
      { property with defaultValue := some content } := by
  have reads : Reads follow (Grammar.feature property)
      ([word "default", mark .colon] ++ [quoted content])
      { property with defaultValue := some content } := by
    refine .found ?_ (legible_keyed (by decide)) rfl fun _ _ => rfl
    dsimp only
    exact .map (.ofTakes (takes_scalarText_quoted content)) (.pure _)
  exact reads

theorem Reads.enumeration {follow : List Token → Prop} (property : Property) (first : String)
    (others : List String) :
    Reads follow (Grammar.feature property) (enumFeature (first :: others))
      { property with enumValues := first :: others } := by
  have reads : Reads follow (Grammar.feature property)
      ([word "enum", mark .colon] ++
        brackets (elements (fun content => [quoted content]) (first :: others)))
      { property with enumValues := first :: others } := by
    refine .found ?_ (legible_keyed (by decide)) rfl fun _ _ => rfl
    dsimp only
    exact .map (.enumValues (first :: others)) (.pure _)
  exact reads

/-- Takes one feature of a property, and the commas after it. -/
def featureEntry (property : Property) : Parser Property := do
  let property ← Grammar.feature property
  Parser.skipCommas
  return property

/-- Takes the features of a property, and the commas after it. -/
def featuresOf (property : Property) : Parser Property := do
  let property ← Parser.loop (fun _ tokens => (Grammar.featureAt? tokens).isSome) featureEntry
    property
  Parser.skipCommas
  return property

theorem featuresOf_stop (property : Property) (stop : Position) {tokens : List Token}
    (noFeature : Grammar.featureAt? tokens = none) :
    featuresOf property stop tokens = .ok property (Parser.afterCommas tokens) [] := by
  have stops : Parser.loop (fun _ tokens => (Grammar.featureAt? tokens).isSome) featureEntry
      property stop tokens = .ok property tokens [] :=
    Parser.loop_stop (by rw [noFeature]; rfl)
  exact Parser.bind_run_clean stops _

theorem featuresOf_step {property next : Property} {stop : Position} {tokens rest : List Token}
    (isFeature : (Grammar.featureAt? tokens).isSome = true)
    (run : Grammar.feature property stop tokens = .ok next rest [])
    (shorter : rest.length < tokens.length) :
    featuresOf property stop tokens = featuresOf next stop (Parser.afterCommas rest) := by
  have taken : featureEntry property stop tokens = .ok next (Parser.afterCommas rest) [] :=
    Parser.bind_run_clean run _
  have smaller : (Parser.afterCommas rest).length < tokens.length :=
    (List.dropWhile_suffix _).length_le.trans_lt shorter
  refine Parser.bind_run_congr ?_ _
  rw [Parser.loop_step isFeature taken smaller, Outcome.after_nil]

/-- What follows the comma after a property. -/
def FeaturesEnd (tokens rest : List Token) : Prop :=
  EntryNext rest ∧ (tokens ≠ [] → Grammar.featureAt? rest = none)

/-- The tokens are features, which turn a property into another one. -/
structure ReadsFeatures (property : Property) (tokens : List Token) (final : Property) : Prop where
  legible : ∀ token ∈ tokens, Legible token
  begins : tokens = [] ∨ ∃ name others, tokens = word name :: others
  run : ∀ stop rest, FeaturesEnd tokens rest →
    featuresOf property stop (tokens ++ comma :: rest) = .ok final rest []

namespace ReadsFeatures

variable {property next final : Property} {tokens others : List Token}

theorem none (property : Property) : ReadsFeatures property [] property where
  legible _ member := absurd member List.not_mem_nil
  begins := .inl rfl
  run stop rest ends := by
    rw [List.nil_append, featuresOf_stop property stop rfl, Reads.afterCommas_comma,
      Reads.afterCommas_of_entryNext ends.1]

theorem noColonNext (reads : ReadsFeatures property tokens final) (rest : List Token) :
    NoColonNext (tokens ++ comma :: rest) := by
  rcases reads.begins with rfl | ⟨name, others, rfl⟩
  · rfl
  · exact noColonNext_word name _

theorem noBrackets (reads : ReadsFeatures property tokens final) (rest : List Token) :
    Grammar.startsWithBrackets (tokens ++ comma :: rest) = false := by
  rcases reads.begins with rfl | ⟨name, others, rfl⟩
  · exact noBrackets_of_commaNext ⟨rest, rfl⟩
  · exact noBrackets_word name _

theorem cons {name : String}
    (first : Reads NoColonNext (Grammar.feature property) (word name :: tokens) next)
    (isFeature : ∀ rest, NoColonNext rest →
      (Grammar.featureAt? (word name :: tokens ++ rest)).isSome = true)
    (tail : ReadsFeatures next others final) :
    ReadsFeatures property (word name :: tokens ++ others) final where
  legible := List.forall_mem_append.mpr ⟨first.legible, tail.legible⟩
  begins := .inr ⟨name, tokens ++ others, rfl⟩
  run stop rest ends := by
    obtain ⟨entryNext, free⟩ := ends
    have noFeature : Grammar.featureAt? rest = Option.none := free (by simp)
    have noColon := tail.noColonNext rest
    rw [List.append_assoc, featuresOf_step (isFeature _ noColon) (first.run stop _ noColon)
      (by simp only [List.length_append, List.length_cons]; omega)]
    -- The comma after the last feature has been taken with it, and no other one follows.
    rcases tail.begins with rfl | ⟨name, more, rfl⟩
    · have same := (none next).run stop rest ⟨entryNext, fun some => absurd rfl some⟩
      rw [tail.run stop rest ⟨entryNext, fun some => absurd rfl some⟩] at same
      rw [List.nil_append, Reads.afterCommas_comma, Reads.afterCommas_of_entryNext entryNext,
        featuresOf_stop next stop noFeature, Reads.afterCommas_of_entryNext entryNext]
      simp only [Outcome.ok.injEq, and_true] at same
      rw [same]
    · rw [Reads.afterCommas_of_entryNext ((opens_word name more).entryNext _)]
      exact tail.run stop rest ⟨entryNext, fun _ => noFeature⟩

end ReadsFeatures

theorem readsFeatures (property : Property) :
    ReadsFeatures { name := property.name, type := property.type } (features property) property := by
  obtain ⟨name, type, required, defaultValue, enumValues⟩ := property
  have enumeration : ReadsFeatures ⟨name, type, required, defaultValue, []⟩
      (enumFeature enumValues) ⟨name, type, required, defaultValue, enumValues⟩ := by
    cases enumValues with
    | nil => exact .none _
    | cons first others =>
      have reads := ReadsFeatures.cons (.enumeration ⟨name, type, required, defaultValue, []⟩
        first others) (fun _ _ => rfl) (.none _)
      rwa [List.append_nil] at reads
  have default : ReadsFeatures ⟨name, type, required, none, []⟩
      (optionally defaultFeature defaultValue ++ enumFeature enumValues)
      ⟨name, type, required, defaultValue, enumValues⟩ := by
    cases defaultValue with
    | none => exact enumeration
    | some content => exact .cons (.default _ content) (fun _ _ => rfl) enumeration
  cases required with
  | false => exact default
  | true =>
    refine .cons (.required _) (fun rest noColon => ?_) default
    rw [List.cons_append, List.nil_append, featureAt?_required noColon]
    rfl

theorem hasFeature_of_features {property : Property} (some : features property ≠ []) :
    property.HasFeature := by
  by_contra none
  apply some
  simp only [Property.HasFeature, not_or] at none
  simp_all [features, enumFeature, Written.flag, optionally]

/-! ## Properties and models -/

theorem property_eq (earlier : List Property) :
    (Grammar.property >>= fun property => Parser.skipCommas >>= fun _ =>
        pure (earlier ++ [property])) =
      (Parser.expectKey >>= fun name => Grammar.typeRef >>= fun type =>
        featuresOf { name := name.value, type := type } >>= fun property =>
          pure (earlier ++ [property])) := by
  refine (bind_assoc _ _ _).trans (bind_congr fun name => ?_)
  refine (bind_assoc _ _ _).trans (bind_congr fun type => ?_)
  exact (Parser.bind_assoc
    (Parser.loop (fun _ tokens => (Grammar.featureAt? tokens).isSome) featureEntry
      { name := name.value, type := type })
    (fun property => Parser.skipCommas >>= fun _ => pure property)
    (fun property => pure (earlier ++ [property]))).symm

theorem reads_property {property : Property} (isName : IsName property.name)
    (typeName : IsName property.type.name) (earlier : List Property) :
    Reads (FeaturesEnd (features property))
      (Grammar.property >>= fun property => Parser.skipCommas >>= fun _ =>
        pure (earlier ++ [property]))
      (Written.property property ++ [comma]) (earlier ++ [property]) := by
  have features := readsFeatures property
  have rest : Reads (FeaturesEnd (Written.features property))
      (featuresOf { name := property.name, type := property.type })
      (Written.features property ++ [comma]) property :=
    { legible := List.forall_mem_append.mpr
        ⟨features.legible, List.forall_mem_singleton.mpr (legible_mark .comma)⟩
      run := by
        intro stop rest ends
        rw [List.append_assoc]
        exact features.run stop rest ends }
  have type : Reads (fun rest => Grammar.startsWithBrackets rest = false) Grammar.typeRef
      (typeRef property.type) property.type :=
    .typeRef typeName fun _ noBrackets => noBrackets
  rw [property_eq, Written.property, List.cons_append, List.cons_append, List.append_assoc]
  refine .key isName (type.bind (rest.map (.pure _)) fun later _ => ?_)
  rw [List.append_assoc]
  exact features.noBrackets later

/-- The properties of a model, after any that were read before. -/
theorem entries_properties {properties : List Property}
    (names : ∀ property ∈ properties, IsName property.name ∧ IsName property.type.name)
    (order : properties.IsChain Property.MayPrecede) (earlier : List Property) :
    Entries (CloseNext .rightBrace) (fun _ tokens => Parser.stillOpen .rightBrace tokens)
      (fun items => Grammar.property >>= fun next => Parser.skipCommas >>= fun _ =>
        pure (items ++ [next]))
      earlier (elements Written.property properties) (earlier ++ properties) := by
  induction properties generalizing earlier with
  | nil =>
    rw [List.append_nil]
    exact .none
  | cons property properties ih =>
    obtain ⟨isName, typeName⟩ := names property List.mem_cons_self
    have tail := ih (fun other later => names other (List.mem_cons_of_mem property later))
      order.tail (earlier ++ [property])
    rw [elements_cons, List.append_cons earlier property properties]
    have opens : Opens (Written.property property ++ [comma]) := opens_word _ _
    refine .entry ⟨reads_property isName typeName earlier, opens,
      stillOpen_of_opens closing_brace opens⟩ (fun rest ends => ?_) tail
    refine ⟨tail.entryNext closing_brace ends, fun some => ?_⟩
    obtain ⟨later, rfl⟩ := ends
    cases properties with
    | nil => rfl
    | cons next properties =>
      obtain ⟨notDefault, notEnum⟩ := order.rel (hasFeature_of_features some)
      exact featureAt?_key notDefault notEnum _

theorem Reads.model {follow : List Token → Prop} {model : Model} (wellFormed : model.WellFormed) :
    Reads follow Grammar.model (Written.model model) model := by
  refine .take (takes_keyword .model (by decide)) (.take (takes_name wellFormed.name)
    (.take (takes_symbol .leftBrace) (.closed (.untilClosed ?_) (.pure _))))
  exact entries_properties wellFormed.properties wellFormed.order []

end Blueprint
