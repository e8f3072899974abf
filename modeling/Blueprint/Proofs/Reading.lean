import Blueprint.Proofs.FieldLaws
import Blueprint.Proofs.ParserLaws
import Blueprint.Proofs.RenderedText

/-!
Parsers that read what was written. `Reads` says that a parser takes a row of tokens and delivers a
value, before any tokens that may follow; `Entries` says that a repeated step takes a row of entries.
-/
set_option autoImplicit false

namespace Blueprint

open Written

variable {α β σ : Type}

/-- The parser takes the tokens, delivers the value and reports nothing, if what follows is as asked
for; and the tokens are legible. -/
structure Reads (follow : List Token → Prop) (parser : Parser α) (tokens : List Token)
    (value : α) : Prop where
  legible : ∀ token ∈ tokens, Legible token
  run : ∀ stop rest, follow rest → parser stop (tokens ++ rest) = .ok value rest []

def Anything (_ : List Token) : Prop := True

def CommaNext (rest : List Token) : Prop := ∃ more, rest = comma :: more

def CloseNext (close : Symbol) (rest : List Token) : Prop := ∃ more, rest = mark close :: more

/-- Kinds of tokens that an entry may begin with. -/
def IsOpening : TokenKind → Prop
  | .symbol .comma | .symbol .colon | .symbol .rightBrace | .symbol .rightBracket => False
  | _ => True

/-- Another entry or the end of the group follows. -/
def EntryNext (rest : List Token) : Prop :=
  ∃ token more, rest = token :: more ∧ token.kind ≠ .symbol .comma ∧ token.kind ≠ .symbol .colon

/-- The parser takes one token, whatever follows. -/
structure Takes (parser : Parser α) (token : Token) (value : α) : Prop where
  legible : Legible token
  run : ∀ stop rest, parser stop (token :: rest) = .ok value rest []

/-! ## Single tokens -/

theorem kind_word_ne_symbol (name : String) (symbol : Symbol) :
    (word name).kind ≠ .symbol symbol := by
  simp only [word, token, Lexeme.wordKind]
  split <;> simp

theorem kind_word_of_isName {name : String} (isName : IsName name) :
    (word name).kind.isName = true := by
  have notTrue := isName.2.1
  have notFalse := isName.2.2
  simp only [word, token, Lexeme.wordKind]
  cases found : Keyword.ofSpelling? name with
  | none => rfl
  | some keyword =>
    have same := spelling_of_ofSpelling? found
    cases keyword with
    | true => exact absurd same.symm notTrue
    | false => exact absurd same.symm notFalse
    | _ => rfl

theorem takes_symbol (symbol : Symbol) :
    Takes (Parser.expectSymbol symbol) (mark symbol) (mark symbol) where
  legible := legible_mark symbol
  run stop rest := Parser.accept_run (by simp [mark, token]) _ stop rest

theorem takes_name {name : String} (isName : IsName name) :
    Takes Parser.expectName (word name) (word name) where
  legible := legible_word isName.1
  run stop rest := Parser.accept_run (kind_word_of_isName isName) _ stop rest

theorem takes_keyword (keyword : Keyword) (isWord : IsWord keyword.spelling.toList) :
    Takes (Parser.expect (.keyword keyword)) (word keyword.spelling) (word keyword.spelling) where
  legible := legible_word isWord
  run stop rest := by
    refine Parser.accept_run ?_ _ stop rest
    simp [word, token, Lexeme.wordKind, keyword_ofSpelling?]

theorem takes_text (content : String) : Takes Parser.expectText (quoted content) content where
  legible := legible_quoted content
  run stop rest := Parser.bind_run_clean (Parser.accept_run rfl _ stop rest) _

/-! ## Sequences -/

namespace Reads

variable {follow follow' : List Token → Prop}

theorem pure (value : α) : Reads follow (Pure.pure value) [] value where
  legible _ member := absurd member List.not_mem_nil
  run _ _ _ := rfl

theorem bind {first : Parser α} {next : α → Parser β} {tokens more : List Token} {value : α}
    {result : β} (firsts : Reads follow' first tokens value)
    (nexts : Reads follow (next value) more result)
    (fits : ∀ rest, follow rest → follow' (more ++ rest)) :
    Reads follow (first >>= next) (tokens ++ more) result where
  legible := List.forall_mem_append.mpr ⟨firsts.legible, nexts.legible⟩
  run stop rest follows := by
    rw [List.append_assoc, Parser.bind_run_clean (firsts.run stop _ (fits rest follows))]
    exact nexts.run stop rest follows

/-- A parser that takes tokens, before one that only looks at what follows. -/
theorem map {first : Parser α} {next : α → Parser β} {tokens : List Token} {value : α}
    {result : β} (firsts : Reads follow first tokens value)
    (nexts : Reads follow (next value) [] result) : Reads follow (first >>= next) tokens result := by
  have both := firsts.bind nexts fun rest fits => fits
  rwa [List.append_nil] at both

theorem take {first : Parser α} {next : α → Parser β} {token : Token} {more : List Token}
    {value : α} {result : β} (takes : Takes first token value)
    (nexts : Reads follow (next value) more result) :
    Reads follow (first >>= next) (token :: more) result where
  legible := List.forall_mem_cons.mpr ⟨takes.legible, nexts.legible⟩
  run stop rest follows := by
    rw [List.cons_append, Parser.bind_run_clean (takes.run stop _)]
    exact nexts.run stop rest follows

theorem ofTakes {parser : Parser α} {token : Token} {value : α} (takes : Takes parser token value) :
    Reads follow parser [token] value where
  legible := List.forall_mem_singleton.mpr takes.legible
  run stop rest _ := takes.run stop rest

theorem key {next : Token → Parser β} {name : String} {more : List Token} {result : β}
    (isName : IsName name) (nexts : Reads follow (next (word name)) more result) :
    Reads follow (Parser.expectKey >>= next) (word name :: mark .colon :: more) result := by
  unfold Parser.expectKey
  simp only [bind_assoc, pure_bind]
  exact take (takes_name isName) (take (takes_symbol .colon) nexts)

/-- Nothing is taken where a test does not hold. -/
theorem pass {length : Nat} {test : List Token → Bool} {next : Bool → Parser β}
    {tokens : List Token} {result : β} (nexts : Reads follow (next false) tokens result)
    (fails : ∀ rest, follow rest → test (tokens ++ rest) = false) :
    Reads follow (Parser.takeIf length test >>= next) tokens result where
  legible := nexts.legible
  run stop rest follows := by
    have run : Parser.takeIf length test stop (tokens ++ rest) = .ok false (tokens ++ rest) [] := by
      rw [Parser.takeIf_run, fails rest follows]
      rfl
    rw [Parser.bind_run_clean run]
    exact nexts.run stop rest follows

/-- The tokens of a test are taken where it holds. -/
theorem test {length : Nat} {test : List Token → Bool} {next : Bool → Parser β}
    {tokens more : List Token} {result : β} (nexts : Reads follow (next true) more result)
    (legible : ∀ token ∈ tokens, Legible token) (size : tokens.length = length)
    (holds : ∀ rest, follow rest → test (tokens ++ (more ++ rest)) = true) :
    Reads follow (Parser.takeIf length test >>= next) (tokens ++ more) result where
  legible := List.forall_mem_append.mpr ⟨legible, nexts.legible⟩
  run stop rest follows := by
    have run : Parser.takeIf length test stop (tokens ++ (more ++ rest)) =
        .ok true (more ++ rest) [] := by
      rw [Parser.takeIf_run, holds rest follows, ← size, List.drop_left]
      rfl
    rw [List.append_assoc, Parser.bind_run_clean run]
    exact nexts.run stop rest follows

theorem taken {length : Nat} {test : List Token → Bool} {next : Bool → Parser β}
    {tokens : List Token} {result : β} (nexts : Reads follow (next true) [] result)
    (legible : ∀ token ∈ tokens, Legible token) (size : tokens.length = length)
    (holds : ∀ rest, follow rest → test (tokens ++ rest) = true) :
    Reads follow (Parser.takeIf length test >>= next) tokens result := by
  have reads := Reads.test nexts legible size holds
  rwa [List.append_nil] at reads

/-! ## Commas -/

theorem afterCommas_of_entryNext {rest : List Token} (next : EntryNext rest) :
    Parser.afterCommas rest = rest := by
  obtain ⟨token, more, rfl, notComma, _⟩ := next
  simp [Parser.afterCommas, notComma]

theorem afterCommas_comma (rest : List Token) :
    Parser.afterCommas (comma :: rest) = Parser.afterCommas rest := by
  simp [Parser.afterCommas, comma, mark, token]

theorem commas : Reads EntryNext Parser.skipCommas [Written.comma] () where
  legible := List.forall_mem_singleton.mpr (legible_mark .comma)
  run stop rest follows := by
    rw [List.singleton_append, Parser.skipCommas, Parser.skip, afterCommas_comma,
      afterCommas_of_entryNext follows]

/-- The comma after a content is passed over. -/
theorem comma {parser : Parser α} {next : α → Parser β} {tokens : List Token} {value : α}
    {result : β} (contents : Reads CommaNext parser tokens value)
    (nexts : Reads EntryNext (next value) [] result) :
    Reads EntryNext (parser >>= fun value => Parser.skipCommas >>= fun _ => next value)
      (tokens ++ [Written.comma]) result :=
  contents.bind (commas.map nexts) fun rest _ => ⟨rest, rfl⟩

end Reads

/-! ## Groups -/

/-- A row of tokens that an entry may consist of. -/
def Opens (tokens : List Token) : Prop :=
  ∃ first others, tokens = first :: others ∧ IsOpening first.kind

theorem Opens.append {tokens : List Token} (opens : Opens tokens) (more : List Token) :
    Opens (tokens ++ more) := by
  obtain ⟨first, others, rfl, isOpening⟩ := opens
  exact ⟨first, others ++ more, rfl, isOpening⟩

theorem Opens.entryNext {tokens : List Token} (opens : Opens tokens) (rest : List Token) :
    EntryNext (tokens ++ rest) := by
  obtain ⟨first, others, rfl, isOpening⟩ := opens
  refine ⟨first, _, rfl, ?_, ?_⟩
  · intro isComma
    simp [isComma, IsOpening] at isOpening
  · intro isColon
    simp [isColon, IsOpening] at isOpening

theorem isOpening_word (name : String) : IsOpening (word name).kind := by
  simp only [word, token, Lexeme.wordKind]
  split <;> trivial

theorem opens_word (name : String) (others : List Token) : Opens (word name :: others) :=
  ⟨_, _, rfl, isOpening_word name⟩

theorem opens_quoted (content : String) (others : List Token) : Opens (quoted content :: others) :=
  ⟨_, _, rfl, trivial⟩

theorem opens_brace (others : List Token) : Opens (mark .leftBrace :: others) :=
  ⟨_, _, rfl, trivial⟩

theorem opens_bracket (others : List Token) : Opens (mark .leftBracket :: others) :=
  ⟨_, _, rfl, trivial⟩

def Closing (close : Symbol) : Prop := close = .rightBrace ∨ close = .rightBracket

theorem closing_brace : Closing .rightBrace := .inl rfl

theorem closing_bracket : Closing .rightBracket := .inr rfl

theorem entryNext_of_closeNext {close : Symbol} (closes : Closing close) {rest : List Token}
    (ends : CloseNext close rest) : EntryNext rest := by
  obtain ⟨later, rfl⟩ := ends
  rcases closes with rfl | rfl <;> exact ⟨_, _, rfl, by simp [mark, token]⟩

/-- A step of a repetition takes an entry, and the repetition does not stop before it. -/
structure IsEntry (follow : List Token → Prop) (more : σ → List Token → Bool)
    (step : σ → Parser σ) (state : σ) (tokens : List Token) (next : σ) : Prop where
  reads : Reads follow (step state) tokens next
  opens : Opens tokens
  goesOn : ∀ rest, more state (tokens ++ rest) = true

/-- Entries in a row, up to an end. -/
inductive Entries (ending : List Token → Prop) (more : σ → List Token → Bool)
    (step : σ → Parser σ) : σ → List Token → σ → Prop where
  | none {state : σ} : Entries ending more step state [] state
  | entry {follow : List Token → Prop} {state next final : σ} {tokens others : List Token}
    (first : IsEntry follow more step state tokens next)
    (fits : ∀ rest, ending rest → follow (others ++ rest))
    (tail : Entries ending more step next others final) :
    Entries ending more step state (tokens ++ others) final

namespace Entries

variable {ending : List Token → Prop} {close : Symbol} {more : σ → List Token → Bool}
  {step : σ → Parser σ} {state middle final : σ} {tokens others : List Token}

theorem legible (entries : Entries ending more step state tokens final) :
    ∀ token ∈ tokens, Legible token := by
  induction entries with
  | none => exact fun _ member => absurd member List.not_mem_nil
  | entry first _ _ ih => exact List.forall_mem_append.mpr ⟨first.reads.legible, ih⟩

/-- A repetition takes all entries and stops at the end. -/
theorem reads (entries : Entries ending more step state tokens final)
    (stops : ∀ rest, ending rest → more final rest = false) :
    Reads ending (Parser.loop more step state) tokens final where
  legible := entries.legible
  run stop rest follows := by
    induction entries with
    | none => exact Parser.loop_stop (stops rest follows)
    | @entry _ state next final tokens others first fits _ ih =>
      have shorter : (others ++ rest).length < (tokens ++ (others ++ rest)).length := by
        obtain ⟨opening, _, rfl, _⟩ := first.opens
        simp only [List.length_append, List.length_cons]
        omega
      rw [List.append_assoc, Parser.loop_step (first.goesOn _)
        (first.reads.run stop _ (fits rest follows)) shorter, Outcome.after_nil]
      exact ih stops

theorem entryNext (closes : Closing close)
    (entries : Entries (CloseNext close) more step state tokens final) {rest : List Token}
    (ends : CloseNext close rest) : EntryNext (tokens ++ rest) := by
  cases entries with
  | none => exact entryNext_of_closeNext closes ends
  | entry first => exact (first.opens.append _).entryNext _

theorem cons (closes : Closing close)
    (first : IsEntry EntryNext more step state tokens middle)
    (tail : Entries (CloseNext close) more step middle others final) :
    Entries (CloseNext close) more step state (tokens ++ others) final :=
  .entry first (fun _ ends => tail.entryNext closes ends) tail

theorem single (closes : Closing close)
    (only : IsEntry EntryNext more step state tokens final) :
    Entries (CloseNext close) more step state tokens final := by
  have entries := cons closes only none
  rwa [List.append_nil] at entries

/-- An entry that may be left out. -/
theorem option {α : Type} (set : Option α → σ) {follow : List Token → Prop}
    {write : α → List Token} {content : Option α}
    (first : ∀ value ∈ content,
      IsEntry follow more step (set Option.none) (write value) (set (some value)))
    (fits : ∀ rest, ending rest → follow (others ++ rest))
    (tail : Entries ending more step (set content) others final) :
    Entries ending more step (set Option.none) (optionally write content ++ others) final := by
  cases content with
  | none => exact tail
  | some value => exact .entry (first value rfl) fits tail

theorem optional {α : Type} (set : Option α → σ) {write : α → List Token} {content : Option α}
    (closes : Closing close) (first : ∀ value ∈ content,
      IsEntry EntryNext more step (set Option.none) (write value) (set (some value)))
    (tail : Entries (CloseNext close) more step (set content) others final) :
    Entries (CloseNext close) more step (set Option.none) (optionally write content ++ others)
      final :=
  option set first (fun _ ends => tail.entryNext closes ends) tail

theorem lastOption {α : Type} (set : Option α → σ) {follow : List Token → Prop}
    {write : α → List Token} {content : Option α}
    (last : ∀ value ∈ content,
      IsEntry follow more step (set Option.none) (write value) (set (some value)))
    (fits : ∀ rest, ending rest → follow rest) :
    Entries ending more step (set Option.none) (optionally write content) (set content) := by
  have entries := option set last fits none
  rwa [List.append_nil] at entries

theorem lastOptional {α : Type} (set : Option α → σ) {write : α → List Token}
    {content : Option α} (closes : Closing close) (last : ∀ value ∈ content,
      IsEntry EntryNext more step (set Option.none) (write value) (set (some value))) :
    Entries (CloseNext close) more step (set Option.none) (optionally write content)
      (set content) :=
  lastOption set last fun _ ends => entryNext_of_closeNext closes ends

theorem part {α : Type} (set : Option α → σ) {write : α → List Token} {content : Option α}
    (first : ∀ value ∈ content,
      IsEntry Anything more step (set Option.none) (write value) (set (some value)))
    (tail : Entries ending more step (set content) others final) :
    Entries ending more step (set Option.none) (optionally write content ++ others) final :=
  option set first (fun _ _ => trivial) tail

theorem lastPart {α : Type} (set : Option α → σ) {write : α → List Token} {content : Option α}
    (last : ∀ value ∈ content,
      IsEntry Anything more step (set Option.none) (write value) (set (some value))) :
    Entries ending more step (set Option.none) (optionally write content) (set content) :=
  lastOption set last fun _ _ => trivial

/-- Entries for the items of a list, after those for earlier ones. -/
theorem list {α : Type} (set : List α → σ) {write : α → List Token} {items : List α}
    (each : ∀ item ∈ items, ∀ earlier,
      IsEntry Anything more step (set earlier) (write item) (set (earlier ++ [item])))
    (earlier : List α) (tail : Entries ending more step (set (earlier ++ items)) others final) :
    Entries ending more step (set earlier) (items.flatMap write ++ others) final := by
  induction items generalizing earlier with
  | nil =>
    rw [List.append_nil] at tail
    exact tail
  | cons item items ih =>
    rw [List.append_cons] at tail
    rw [List.flatMap_cons, List.append_assoc]
    exact .entry (each item List.mem_cons_self earlier) (fun _ _ => trivial)
      (ih (fun other later => each other (List.mem_cons_of_mem item later)) _ tail)

theorem flag (set : Bool → σ) {holds : Bool} {name : String} (closes : Closing close)
    (first : IsEntry EntryNext more step (set false) [word name] (set true))
    (tail : Entries (CloseNext close) more step (set holds) others final) :
    Entries (CloseNext close) more step (set false) (Written.flag holds name ++ others) final := by
  cases holds with
  | false => exact tail
  | true => exact cons closes first tail

end Entries

theorem stillOpen_of_opens {close : Symbol} (closes : Closing close) {tokens : List Token}
    (opens : Opens tokens) (rest : List Token) :
    Parser.stillOpen close (tokens ++ rest) = true := by
  obtain ⟨first, others, rfl, isOpening⟩ := opens
  rw [List.cons_append, Parser.stillOpen, bne_iff_ne]
  rintro same
  rcases closes with rfl | rfl <;> simp [same, IsOpening] at isOpening

theorem stillOpen_closed {close : Symbol} {rest : List Token} (ends : CloseNext close rest) :
    Parser.stillOpen close rest = false := by
  obtain ⟨later, rfl⟩ := ends
  simp [Parser.stillOpen, mark, token]

theorem elements_cons (write : α → List Token) (item : α) (items : List α) :
    elements write (item :: items) = (write item ++ [comma]) ++ elements write items := by
  simp [elements]

/-- A value that is read where a comma follows, and that may begin an entry. -/
def ReadsItem (item : Parser α) (write : α → List Token) (value : α) : Prop :=
  Reads CommaNext item (write value) value ∧ Opens (write value)

namespace Entries

theorem items {close : Symbol} (closes : Closing close) {item : Parser α} {write : α → List Token}
    {items : List α} (each : ∀ value ∈ items, ReadsItem item write value) (earlier : List α) :
    Entries (CloseNext close) (fun _ tokens => Parser.stillOpen close tokens)
      (fun items => item >>= fun next => Parser.skipCommas >>= fun _ => pure (items ++ [next]))
      earlier (elements write items) (earlier ++ items) := by
  induction items generalizing earlier with
  | nil =>
    rw [List.append_nil]
    exact .none
  | cons value items ih =>
    obtain ⟨reads, opens⟩ := each value List.mem_cons_self
    rw [elements_cons, List.append_cons earlier value items]
    refine .cons closes ⟨.comma reads (.pure _), opens.append _, fun rest => ?_⟩
      (ih (fun other later => each other (List.mem_cons_of_mem value later)) _)
    exact stillOpen_of_opens closes (opens.append _) rest

theorem separated {item : Parser α} {write : α → List Token} {items : List α}
    (each : ∀ value ∈ items, ReadsItem item write value) (earlier : List α) :
    Entries (CloseNext .rightBracket) (fun state tokens => state.2 && Parser.stillOpen .rightBracket tokens)
      (fun state => item >>= fun next => Parser.option (.symbol .comma) >>= fun more =>
        pure (state.1 ++ [next], more))
      (earlier, true) (elements write items) (earlier ++ items, true) := by
  induction items generalizing earlier with
  | nil =>
    rw [List.append_nil]
    exact .none
  | cons value items ih =>
    obtain ⟨reads, opens⟩ := each value List.mem_cons_self
    rw [elements_cons, List.append_cons earlier value items]
    refine .cons closing_bracket ⟨?_, opens.append _, fun rest => ?_⟩
      (ih (fun other later => each other (List.mem_cons_of_mem value later)) _)
    · have taken : Reads EntryNext (Parser.option (.symbol .comma) >>= fun more =>
          (pure (earlier ++ [value], more) : Parser (List α × Bool))) [comma]
          (earlier ++ [value], true) :=
        .taken (.pure _) (List.forall_mem_singleton.mpr (legible_mark .comma)) rfl fun _ _ => rfl
      exact reads.bind taken fun rest _ => ⟨rest, rfl⟩
    · exact stillOpen_of_opens closing_bracket (opens.append _) rest

end Entries

namespace Reads

variable {follow : List Token → Prop}

/-- A group up to its closing mark. -/
theorem closed {close : Symbol} {content : Parser α} {next : α → Token → Parser β}
    {tokens : List Token} {value : α} {result : β}
    (contents : Reads (CloseNext close) content tokens value)
    (nexts : Reads follow (next value (mark close)) [] result) :
    Reads follow (content >>= fun value => Parser.expectSymbol close >>= next value)
      (tokens ++ [mark close]) result :=
  contents.bind (take (takes_symbol close) nexts) fun rest _ => ⟨rest, rfl⟩

theorem untilClosed {close : Symbol} {step : σ → Parser σ} {state final : σ} {tokens : List Token}
    (entries : Entries (CloseNext close) (fun _ tokens => Parser.stillOpen close tokens) step state
      tokens final) : Reads (CloseNext close) (Parser.untilClosed close step state) tokens final :=
  entries.reads fun _ ends => stillOpen_closed ends

theorem itemsUntil {close : Symbol} (closes : Closing close) {item : Parser α}
    {write : α → List Token} {items : List α} (each : ∀ value ∈ items, ReadsItem item write value) :
    Reads (CloseNext close) (Parser.itemsUntil close item) (elements write items) items :=
  untilClosed (.items closes each [])

theorem commaSeparated {item : Parser α} {write : α → List Token} {items : List α}
    (each : ∀ value ∈ items, ReadsItem item write value) :
    Reads (CloseNext .rightBracket) (Parser.commaSeparated item) (elements write items) items :=
  ((Entries.separated each []).reads fun _ ends => stillOpen_closed ends).map (pure _)

end Reads

/-! ## Fields -/

/-- Entries that set fields of distinct names, after any that were read before. -/
theorem Entries.fields {γ : Type} {close : Symbol} (closes : Closing close)
    {more : Fields γ → List Token → Bool} {step : Fields γ → Parser (Fields γ)}
    {write : String × γ → List Token} {fields : Fields γ}
    (each : ∀ field ∈ fields, ∀ earlier,
      IsEntry EntryNext more step earlier (write field) (Fields.insert field.1 field.2 earlier))
    (earlier : Fields γ) (distinct : (earlier ++ fields).Distinct) :
    Entries (CloseNext close) more step earlier (fields.flatMap write) (earlier ++ fields) := by
  induction fields generalizing earlier with
  | nil =>
    rw [List.append_nil]
    exact .none
  | cons field fields ih =>
    have fresh : field.1 ∉ earlier.names := by
      intro member
      simp only [Fields.Distinct, Fields.names, List.map_append, List.map_cons] at distinct
      exact (List.nodup_append.mp distinct).2.2 _ member _ List.mem_cons_self rfl
    have first := each field List.mem_cons_self earlier
    rw [Fields.insert_fresh fresh] at first
    rw [List.append_cons earlier field fields] at distinct ⊢
    rw [List.flatMap_cons]
    exact .cons closes first
      (ih (fun other later => each other (List.mem_cons_of_mem field later)) _ distinct)

end Blueprint
