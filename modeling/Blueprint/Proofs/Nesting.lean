import Blueprint.Document.Parse
import Blueprint.Proofs.ParserLaws

/-!
What every routine of the grammar inherits from the parsers that it is made of. A property of tokens
and outcomes is `Inherited` if it passes on along sequences and from the inside of a group to the
group; then every routine below a statement has it. The rows of tokens that routines take are `Nested`:
tokens that the language knows, in which braces and brackets match.
-/
set_option autoImplicit false

namespace Blueprint

/-- Kinds of tokens that neither open nor close anything and that the language knows. -/
def TokenKind.isLevel : TokenKind → Bool
  | .symbol .comma | .symbol .colon | .symbol .dot => true
  | .symbol _ | .unknown | .eof => false
  | _ => true

/-- The marks around a group. -/
inductive Pair : Symbol → Symbol → Prop where
  | braces : Pair .leftBrace .rightBrace
  | brackets : Pair .leftBracket .rightBracket

/-- Rows of known tokens, none of them a parenthesis, in which braces and brackets are properly nested
and balanced. -/
inductive Nested : List Token → Prop where
  | nil : Nested []
  | level {token : Token} {rest : List Token} (isLevel : token.kind.isLevel = true)
    (tail : Nested rest) : Nested (token :: rest)
  | group {first last : Token} {opening closing : Symbol} {inside rest : List Token}
    (pair : Pair opening closing) (opens : first.kind = .symbol opening)
    (closes : last.kind = .symbol closing) (content : Nested inside) (tail : Nested rest) :
    Nested (first :: (inside ++ last :: rest))

namespace Nested

theorem append {tokens more : List Token} (first : Nested tokens) (second : Nested more) :
    Nested (tokens ++ more) := by
  induction first with
  | nil => exact second
  | level isLevel _ ih => exact .level isLevel ih
  | @group first last opening closing inside rest pair opens closes content _ _ ih =>
    rw [List.cons_append, List.append_assoc, List.cons_append]
    exact .group pair opens closes content ih

theorem single {token : Token} (isLevel : token.kind.isLevel = true) : Nested [token] :=
  .level isLevel .nil

theorem ofLevel {tokens : List Token} (levels : ∀ token ∈ tokens, token.kind.isLevel = true) :
    Nested tokens := by
  induction tokens with
  | nil => exact .nil
  | cons token tokens ih =>
    exact .level (levels token List.mem_cons_self)
      (ih fun other later => levels other (List.mem_cons_of_mem token later))

end Nested

theorem isLevel_of_isName {kind : TokenKind} (isName : kind.isName = true) :
    kind.isLevel = true := by
  cases kind with
  | keyword | identifier => rfl
  | symbol | string | number | unknown | eof => contradiction

/-- Whether a parser has a property of tokens and outcomes wherever it begins. -/
def Keeps (P : ∀ α : Type, List Token → Outcome α → Prop) {α : Type} (parser : Parser α) : Prop :=
  ∀ (stop : Position) (tokens : List Token), P α tokens (parser stop tokens)

/-- A property of an outcome, given the tokens that a parser began with, which passes on along a
sequence of parsers. -/
structure Composable (P : ∀ α : Type, List Token → Outcome α → Prop) : Prop where
  /-- Nothing is taken. -/
  still {α : Type} (value : α) (tokens : List Token) (reports : List SyntaxDiagnostic) :
    P α tokens (.ok value tokens reports)
  /-- The first token does not fit. -/
  misfit {α : Type} (diagnostic : SyntaxDiagnostic) (tokens : List Token) :
    P α tokens (.failed (.syntaxError diagnostic) tokens [])
  /-- A nested row is taken. -/
  taken {α : Type} (value : α) {row : List Token} (nested : Nested row) (rest : List Token) :
    P α (row ++ rest) (.ok value rest [])
  onward {α β : Type} {tokens between : List Token} {value : α} {earlier : List SyntaxDiagnostic}
    {outcome : Outcome β} (first : P α tokens (.ok value between earlier))
    (second : P β between outcome) : P β tokens (outcome.after earlier)
  failed {α β : Type} {tokens rest : List Token} {failure : Failure}
    {reports : List SyntaxDiagnostic} (first : P α tokens (.failed failure rest reports)) :
    P β tokens (.failed failure rest reports)

namespace Composable

variable {P : ∀ α : Type, List Token → Outcome α → Prop} (composable : Composable P)
variable {α β σ : Type}
include composable

theorem pure (value : α) : Keeps P (Pure.pure value) :=
  fun _ tokens => composable.still value tokens []

theorem fail (problem : SyntaxProblem) (place : Position) :
    Keeps P (Parser.fail problem place : Parser α) :=
  fun _ tokens => composable.misfit _ tokens

theorem report (problem : SyntaxProblem) (place : Position) :
    Keeps P (Parser.report problem place) :=
  fun _ tokens => composable.still () tokens _

theorem unexpected (expected : Expectation) :
    Keeps P (Parser.unexpected expected : Parser α) :=
  fun _ tokens => composable.misfit _ tokens

theorem current : Keeps P Parser.current :=
  fun _ tokens => composable.still _ tokens []

theorem bind {first : Parser α} {next : α → Parser β} (firsts : Keeps P first)
    (nexts : ∀ value, Keeps P (next value)) : Keeps P (first >>= next) := by
  intro stop tokens
  have begun := firsts stop tokens
  rw [Parser.bind_run]
  cases run : first stop tokens with
  | ok value rest reports =>
    rw [run] at begun
    exact composable.onward begun (nexts value stop rest)
  | failed failure rest reports =>
    rw [run] at begun
    exact composable.failed begun

theorem isAt (kind : TokenKind) : Keeps P (Parser.isAt kind) :=
  composable.bind composable.current fun _ => composable.pure _

theorem accept {allowed : TokenKind → Bool} {expected : Expectation}
    (levels : ∀ kind, allowed kind = true → kind.isLevel = true) :
    Keeps P (Parser.accept allowed expected) := by
  intro stop tokens
  have notAtEnd : allowed .eof = false := by
    cases atEnd : allowed .eof with
    | false => rfl
    | true => exact absurd (levels .eof atEnd) (by decide)
  rcases Parser.accept_outcome notAtEnd expected stop tokens with
    ⟨token, rest, rfl, isAllowed, run⟩ | ⟨diagnostic, run⟩
  · rw [run]
    exact composable.taken token (.single (levels _ isAllowed)) rest
  · rw [run]
    exact composable.misfit diagnostic tokens

theorem expect {kind : TokenKind} (level : kind.isLevel = true) :
    Keeps P (Parser.expect kind) := by
  refine composable.accept fun other isKind => ?_
  obtain rfl : other = kind := by simpa using isKind
  exact level

theorem expectName : Keeps P Parser.expectName :=
  composable.accept fun _ isName => isLevel_of_isName isName

theorem expectText : Keeps P Parser.expectText :=
  composable.bind (composable.expect rfl) fun _ => composable.pure _

theorem expectFlag : Keeps P Parser.expectFlag := by
  refine composable.bind (composable.accept fun kind isFlag => ?_) fun _ => composable.pure _
  simp only [List.contains_eq_mem, List.mem_cons, List.not_mem_nil, or_false,
    decide_eq_true_eq] at isFlag
  rcases isFlag with rfl | rfl <;> rfl

theorem expectKey : Keeps P Parser.expectKey :=
  composable.bind composable.expectName fun _ => composable.bind (composable.expect rfl) fun _ =>
    composable.pure _

theorem takeFound {find : List Token → Option α} {length : α → Nat}
    (takes : ∀ {tokens found}, find tokens = some found →
      ∃ row rest, tokens = row ++ rest ∧ row.length = length found ∧ Nested row) :
    Keeps P (Parser.takeFound find length) := by
  intro stop tokens
  unfold Parser.takeFound
  split
  · next found call =>
    obtain ⟨row, rest, rfl, size, nested⟩ := takes call
    rw [← size, List.drop_left]
    exact composable.taken _ nested rest
  · exact composable.still _ tokens []

theorem takeIf {length : Nat} {test : List Token → Bool}
    (takes : ∀ {tokens}, test tokens = true →
      ∃ row rest, tokens = row ++ rest ∧ row.length = length ∧ Nested row) :
    Keeps P (Parser.takeIf length test) := by
  refine composable.bind (composable.takeFound ?_) fun _ => composable.pure _
  intro tokens found call
  split at call
  · next holds => exact takes holds
  · contradiction

theorem option {kind : TokenKind} (level : kind.isLevel = true) :
    Keeps P (Parser.option kind) := by
  refine composable.takeIf fun {tokens} holds => ?_
  cases tokens with
  | nil => contradiction
  | cons token rest =>
    have isKind : token.kind = kind := beq_iff_eq.mp holds
    exact ⟨[token], rest, rfl, rfl, .single (isKind ▸ level)⟩

theorem flag (word : String) : Keeps P (Parser.flag word) := by
  refine composable.takeIf fun {tokens} holds => ?_
  cases tokens with
  | nil => contradiction
  | cons token rest =>
    simp only [Parser.startsWithFlag, Bool.and_eq_true] at holds
    exact ⟨[token], rest, rfl, rfl, .single (isLevel_of_isName holds.1.1)⟩

theorem skipCommas : Keeps P Parser.skipCommas := by
  intro stop tokens
  have commas : Nested (tokens.takeWhile fun token => token.kind == .symbol .comma) := by
    refine .ofLevel fun token member => ?_
    have isComma := List.all_eq_true.mp List.all_takeWhile token member
    rw [beq_iff_eq.mp isComma]
    rfl
  have taken := composable.taken () commas (Parser.afterCommas tokens)
  rw [Parser.afterCommas, List.takeWhile_append_dropWhile] at taken
  exact taken

theorem loop {more : σ → List Token → Bool} {step : σ → Parser σ}
    (steps : ∀ state, Keeps P (step state)) (state : σ) :
    Keeps P (Parser.loop more step state) := by
  intro stop tokens
  refine Parser.loop_induct (motive := fun _ tokens outcome => P σ tokens outcome)
    ?_ ?_ ?_ state tokens
  · exact fun state tokens _ => composable.still state tokens []
  · exact fun state tokens _ _ => steps state stop tokens
  · intro state next tokens rest reports outcome _ run later
    have begun := steps state stop tokens
    rw [run] at begun
    exact composable.onward begun later

theorem untilClosed (close : Symbol) {step : σ → Parser σ}
    (steps : ∀ state, Keeps P (step state)) (state : σ) :
    Keeps P (Parser.untilClosed close step state) :=
  composable.loop steps state

theorem itemsUntil (close : Symbol) {item : Parser α} (items : Keeps P item) :
    Keeps P (Parser.itemsUntil close item) :=
  composable.untilClosed close (fun _ => composable.bind items fun _ =>
    composable.bind composable.skipCommas fun _ => composable.pure _) []

theorem commaSeparated {item : Parser α} (items : Keeps P item) :
    Keeps P (Parser.commaSeparated item) :=
  composable.bind (composable.loop (fun _ => composable.bind items fun _ =>
    composable.bind (composable.option rfl) fun _ => composable.pure _) _) fun _ => composable.pure _

theorem mapM {γ : Type} {f : γ → Parser α} (items : ∀ item, Keeps P (f item)) (list : List γ) :
    Keeps P (list.mapM f) := by
  induction list with
  | nil => exact composable.pure _
  | cons item list ih =>
    rw [List.mapM_cons]
    exact composable.bind (items item) fun _ => composable.bind ih fun _ => composable.pure _

theorem forM {γ : Type} {f : γ → Parser PUnit} (items : ∀ item, Keeps P (f item))
    (list : List γ) : Keeps P (list.forM f) := by
  induction list with
  | nil => exact composable.pure _
  | cons item list ih => exact composable.bind (items item) fun _ => ih

end Composable

/-- Such a property that also passes from the inside of a group to the group, and that numbers have. -/
structure Inherited (P : ∀ α : Type, List Token → Outcome α → Prop) : Prop extends Composable P where
  group {α β : Type} {opening closing : Symbol} {inner : Token → Parser α}
    {next : Token → α → Token → Parser β} (pair : Pair opening closing)
    (inners : ∀ token, Keeps P (inner token))
    (nexts : ∀ token value token', Keeps P (next token value token')) :
    Keeps P (Parser.expectSymbol opening >>= fun token => inner token >>= fun value =>
      Parser.expectSymbol closing >>= next token value)
  number : Keeps P (Parser.expect .number >>= fun token => Grammar.number token.value)

namespace Inherited

open Grammar

variable {P : ∀ α : Type, List Token → Outcome α → Prop} (inherited : Inherited P)
include inherited

/-! ## Values -/

theorem dottedName : Keeps P Grammar.dottedName := by
  refine inherited.bind inherited.expectName fun first =>
    inherited.bind (inherited.loop (fun parts => ?_) _) fun _ => inherited.pure _
  exact inherited.bind (inherited.expect rfl) fun _ =>
    inherited.bind inherited.expectName fun _ => inherited.pure _

theorem objectKey : Keeps P Grammar.objectKey := by
  refine inherited.bind (inherited.isAt .string) fun isText => ?_
  cases isText with
  | true => exact inherited.expectText
  | false => exact inherited.bind inherited.expectName fun _ => inherited.pure _

section Inner

variable {inner : Parser Value} (inners : Keeps P inner)
include inners

theorem entryContent : Keeps P (Grammar.entryContent inner) := by
  refine inherited.bind (inherited.option rfl) fun hasContent => ?_
  cases hasContent with
  | true => exact inners
  | false => exact inherited.pure _

theorem objectOf : Keeps P (Grammar.objectOf inner) := by
  refine inherited.group .braces (fun _ => inherited.untilClosed .rightBrace (fun fields => ?_) _)
    fun _ _ _ => inherited.pure _
  exact inherited.bind inherited.objectKey fun key =>
    inherited.bind (inherited.entryContent inners) fun content =>
      inherited.bind inherited.skipCommas fun _ => inherited.pure _

theorem listOf : Keeps P (Grammar.listOf inner) :=
  inherited.group .brackets (fun _ => inherited.commaSeparated inners) fun _ _ _ =>
    inherited.pure _

theorem valueOf : Keeps P (Grammar.valueOf inner) := by
  refine inherited.bind inherited.current fun token => ?_
  split
  · exact inherited.bind inherited.expectText fun _ => inherited.pure _
  · exact inherited.number
  · exact inherited.bind inherited.expectFlag fun _ => inherited.pure _
  · exact inherited.bind inherited.expectFlag fun _ => inherited.pure _
  · exact inherited.bind (inherited.objectOf inners) fun _ => inherited.pure _
  · exact inherited.bind (inherited.listOf inners) fun _ => inherited.pure _
  · split
    · exact inherited.bind inherited.dottedName fun _ => inherited.pure _
    · exact inherited.unexpected _

end Inner

theorem valueWithin (depth : Nat) : Keeps P (Grammar.valueWithin depth) := by
  induction depth with
  | zero => exact inherited.unexpected _
  | succ depth ih => exact inherited.valueOf ih

theorem value : Keeps P Grammar.value :=
  fun stop tokens => inherited.valueWithin (tokens.length + 1) stop tokens

theorem object : Keeps P Grammar.object :=
  inherited.objectOf inherited.value

theorem objectList : Keeps P Grammar.objectList :=
  inherited.group .brackets (fun _ => inherited.itemsUntil .rightBracket inherited.object)
    fun _ _ _ => inherited.pure _

/-! ## Models -/

omit inherited in
theorem brackets_of_starts {tokens : List Token} (starts : startsWithBrackets tokens = true) :
    ∃ opening closing rest, tokens = opening :: closing :: rest ∧
      opening.kind = .symbol .leftBracket ∧ closing.kind = .symbol .rightBracket := by
  match tokens with
  | [] | [_] => contradiction
  | opening :: closing :: rest =>
    simp only [startsWithBrackets, Bool.and_eq_true, beq_iff_eq] at starts
    exact ⟨opening, closing, rest, rfl, starts⟩

theorem typeRef : Keeps P Grammar.typeRef := by
  refine inherited.bind inherited.expectName fun name =>
    inherited.bind (inherited.takeIf fun holds => ?_) fun _ => inherited.pure _
  obtain ⟨opening, closing, rest, rfl, opens, closes⟩ := brackets_of_starts holds
  exact ⟨[opening, closing], rest, rfl, rfl, .group .brackets opens closes .nil .nil⟩

theorem scalarText : Keeps P Grammar.scalarText := by
  refine inherited.bind (inherited.accept fun kind scalar => ?_) fun _ => inherited.pure _
  simp only [isScalar, List.contains_eq_mem, List.mem_cons, List.not_mem_nil, or_false,
    Bool.or_eq_true, decide_eq_true_eq] at scalar
  rcases scalar with (rfl | rfl | rfl | rfl) | isName
  · rfl
  · rfl
  · rfl
  · rfl
  · exact isLevel_of_isName isName

theorem enumValues : Keeps P Grammar.enumValues :=
  inherited.group .brackets (fun _ => inherited.commaSeparated inherited.scalarText)
    fun _ _ _ => inherited.pure _

omit inherited in
/-- A feature is marked by its word, with a colon after it or without one. -/
theorem featureAt?_levels {tokens : List Token} {found : Feature}
    (isFeature : featureAt? tokens = some found) : ∃ row rest, tokens = row ++ rest ∧
      row.length = found.markLength ∧ ∀ token ∈ row, token.kind.isLevel = true := by
  cases tokens with
  | nil => contradiction
  | cons word rest =>
    unfold featureAt? at isFeature
    simp only at isFeature
    split at isFeature
    · contradiction
    · next isName =>
      have level : word.kind.isLevel = true := isLevel_of_isName (by simpa using isName)
      have marked (starts : Parser.startsWith (.symbol .colon) rest = true) :
          ∃ row rest', word :: rest = row ++ rest' ∧ row.length = 2 ∧
            ∀ token ∈ row, token.kind.isLevel = true := by
        cases rest with
        | nil => contradiction
        | cons colon rest =>
          have isColon : colon.kind = .symbol .colon := beq_iff_eq.mp starts
          exact ⟨[word, colon], rest, rfl, rfl,
            List.forall_mem_cons.mpr ⟨level, List.forall_mem_singleton.mpr (isColon ▸ rfl)⟩⟩
      split at isFeature
      · obtain rfl := Option.some.inj isFeature
        exact ⟨[word], rest, rfl, rfl, by simp [level]⟩
      · split at isFeature
        · next atDefault =>
          obtain rfl := Option.some.inj isFeature
          exact marked (Bool.and_eq_true_iff.mp atDefault).2
        · split at isFeature
          · next atEnum =>
            obtain rfl := Option.some.inj isFeature
            exact marked (Bool.and_eq_true_iff.mp atEnum).2
          · contradiction

theorem feature (property : Property) : Keeps P (Grammar.feature property) := by
  refine inherited.bind (inherited.takeFound fun isFeature => ?_) fun found => ?_
  · obtain ⟨row, rest, whole, size, levels⟩ := featureAt?_levels isFeature
    exact ⟨row, rest, whole, size, .ofLevel levels⟩
  match found with
  | none => exact inherited.pure _
  | some .required => exact inherited.pure _
  | some .default => exact inherited.bind inherited.scalarText fun _ => inherited.pure _
  | some .enumeration => exact inherited.bind inherited.enumValues fun _ => inherited.pure _

theorem property : Keeps P Grammar.property := by
  refine inherited.bind inherited.expectKey fun name => inherited.bind inherited.typeRef fun type =>
    inherited.loop (fun property => ?_) _
  exact inherited.bind (inherited.feature property) fun _ =>
    inherited.bind inherited.skipCommas fun _ => inherited.pure _

/-! ## Screens -/

theorem screenParameters : Keeps P Grammar.screenParameters := by
  refine inherited.group .braces (fun _ => inherited.itemsUntil .rightBrace ?_)
    fun _ _ _ => inherited.pure _
  exact inherited.bind inherited.expectKey fun _ => inherited.bind inherited.typeRef fun _ =>
    inherited.bind (inherited.flag _) fun _ => inherited.pure _

theorem componentOf (place : Position) (fields : Fields Value) :
    Keeps P (Grammar.componentOf place fields) := by
  unfold Grammar.componentOf
  split
  · exact inherited.pure _
  · exact inherited.fail _ _

theorem formFieldOf (place : Position) (fields : Fields Value) :
    Keeps P (Grammar.formFieldOf place fields) := by
  unfold Grammar.formFieldOf
  split
  · exact inherited.pure _
  · exact inherited.fail _ _

theorem actions : Keeps P Grammar.actions := by
  refine inherited.group .braces (fun _ => inherited.itemsUntil .rightBrace ?_)
    fun _ _ _ => inherited.pure _
  exact inherited.bind inherited.expectKey fun _ => inherited.bind inherited.object fun _ =>
    inherited.pure _

theorem layoutAttribute (key : Token) (layout : Layout) :
    Keeps P (Grammar.layoutAttribute key layout) := by
  unfold Grammar.layoutAttribute
  split
  · refine inherited.bind inherited.expectName fun kind => ?_
    split
    · exact inherited.pure _
    · exact inherited.fail _ _
  · exact inherited.bind inherited.objectList fun objects =>
      inherited.bind (inherited.mapM (inherited.componentOf _) objects) fun _ => inherited.pure _
  · exact inherited.bind inherited.objectList fun objects =>
      inherited.bind (inherited.mapM (inherited.formFieldOf _) objects) fun _ => inherited.pure _
  · exact inherited.bind inherited.actions fun _ => inherited.pure _
  · exact inherited.bind inherited.expectText fun _ => inherited.pure _
  · exact inherited.bind inherited.expectText fun _ => inherited.pure _
  · exact inherited.fail _ _

theorem layout : Keeps P Grammar.layout := by
  refine inherited.group .braces (fun _ => inherited.untilClosed .rightBrace (fun state => ?_) _)
    fun opening state _ => ?_
  · exact inherited.bind inherited.expectKey fun key =>
      inherited.bind (inherited.layoutAttribute key _) fun _ =>
        inherited.bind inherited.skipCommas fun _ => inherited.pure _
  · split
    · exact inherited.pure _
    · exact inherited.fail _ _

theorem screenAttribute (key : Token) (screen : OpenScreen) :
    Keeps P (Grammar.screenAttribute key screen) := by
  unfold Grammar.screenAttribute
  split
  · exact inherited.bind inherited.expectText fun _ => inherited.pure _
  · exact inherited.bind inherited.screenParameters fun _ => inherited.pure _
  · exact inherited.bind inherited.layout fun _ => inherited.pure _
  · exact inherited.fail _ _

theorem screenEntry (screen : OpenScreen) : Keeps P (Grammar.screenEntry screen) := by
  refine inherited.bind (inherited.flag "initial") fun isInitial => ?_
  split
  · exact inherited.pure _
  · exact inherited.bind inherited.expectKey fun key =>
      inherited.bind (inherited.screenAttribute key screen) fun _ =>
        inherited.bind inherited.skipCommas fun _ => inherited.pure _

/-! ## Navigation -/

theorem navItemOf (place : Position) (fields : Fields Value) :
    Keeps P (Grammar.navItemOf place fields) := by
  unfold Grammar.navItemOf
  split
  · exact inherited.pure _
  · exact inherited.fail _ _

theorem navigationAttribute (key : Token) (navigation : OpenNavigation) :
    Keeps P (Grammar.navigationAttribute key navigation) := by
  unfold Grammar.navigationAttribute
  split
  · refine inherited.bind inherited.expectName fun kind => ?_
    split
    · exact inherited.pure _
    · exact inherited.fail _ _
  · exact inherited.bind inherited.objectList fun objects =>
      inherited.bind (inherited.mapM (inherited.navItemOf _) objects) fun _ => inherited.pure _
  · exact inherited.fail _ _

theorem navigationEntry (navigation : OpenNavigation) :
    Keeps P (Grammar.navigationEntry navigation) :=
  inherited.bind inherited.expectKey fun key =>
    inherited.bind (inherited.navigationAttribute key navigation) fun _ =>
      inherited.bind inherited.skipCommas fun _ => inherited.pure _

/-! ## The interface -/

theorem parameterAttribute (key : Token) (parameter : OpenParameter) :
    Keeps P (Grammar.parameterAttribute key parameter) := by
  unfold Grammar.parameterAttribute
  split
  · exact inherited.bind inherited.expectName fun _ => inherited.pure _
  · exact inherited.bind inherited.typeRef fun _ => inherited.pure _
  · exact inherited.bind inherited.expectFlag fun _ => inherited.pure _
  · exact inherited.fail _ _

theorem parameterEntry (parameter : OpenParameter) :
    Keeps P (Grammar.parameterEntry parameter) := by
  refine inherited.bind (inherited.flag "required") fun required => ?_
  split
  · exact inherited.pure _
  · exact inherited.bind inherited.expectKey fun key =>
      inherited.bind (inherited.parameterAttribute key parameter) fun _ =>
        inherited.bind inherited.skipCommas fun _ => inherited.pure _

theorem endpointParameter : Keeps P Grammar.endpointParameter := by
  refine inherited.group .braces
    (fun _ => inherited.untilClosed .rightBrace inherited.parameterEntry _) fun _ body _ => ?_
  split
  · exact inherited.pure _
  · exact inherited.fail _ _

theorem endpointParameters : Keeps P Grammar.endpointParameters :=
  inherited.group .brackets
    (fun _ => inherited.itemsUntil .rightBracket inherited.endpointParameter)
    fun _ _ _ => inherited.pure _

theorem endpointAttribute (key : Token) (endpoint : OpenEndpoint) :
    Keeps P (Grammar.endpointAttribute key endpoint) := by
  unfold Grammar.endpointAttribute
  split
  · exact inherited.bind inherited.expectName fun _ => inherited.pure _
  · exact inherited.bind inherited.expectText fun _ => inherited.pure _
  · refine inherited.bind inherited.expectName fun method => ?_
    split
    · exact inherited.pure _
    · exact inherited.fail _ _
  · exact inherited.bind inherited.endpointParameters fun _ => inherited.pure _
  · exact inherited.bind inherited.expectName fun _ => inherited.pure _
  · exact inherited.bind inherited.typeRef fun _ => inherited.pure _
  · exact inherited.fail _ _

theorem endpointBody (id : Option String) : Keeps P (Grammar.endpointBody id) := by
  refine inherited.group .braces (fun _ => inherited.untilClosed .rightBrace (fun endpoint => ?_) _)
    fun _ body _ => ?_
  · exact inherited.bind inherited.expectKey fun key =>
      inherited.bind (inherited.endpointAttribute key endpoint) fun _ =>
        inherited.bind inherited.skipCommas fun _ => inherited.pure _
  · split
    · exact inherited.fail _ _
    · exact inherited.fail _ _
    · exact inherited.fail _ _
    · exact inherited.pure _

theorem apiAttribute (key : Token) (api : OpenApi) :
    Keeps P (Grammar.apiAttribute key api) := by
  unfold Grammar.apiAttribute
  split
  · exact inherited.bind inherited.expectText fun _ => inherited.pure _
  · exact inherited.bind inherited.expectFlag fun _ => inherited.pure _
  · exact inherited.group .brackets
      (fun _ => inherited.commaSeparated (inherited.endpointBody none))
      fun _ _ _ => inherited.pure _
  · exact inherited.fail _ _

theorem apiEntry (api : OpenApi) : Keeps P (Grammar.apiEntry api) := by
  refine inherited.bind (inherited.flag "mock") fun isMock => ?_
  split
  · exact inherited.pure _
  · refine inherited.bind (inherited.option rfl) fun isEndpoint => ?_
    split
    · exact inherited.bind inherited.expectName fun _ =>
        inherited.bind (inherited.endpointBody _) fun _ => inherited.pure _
    · exact inherited.bind inherited.expectKey fun key =>
        inherited.bind (inherited.apiAttribute key api) fun _ =>
          inherited.bind inherited.skipCommas fun _ => inherited.pure _

/-! ## The header and mock data -/

theorem platforms : Keeps P Grammar.platforms := by
  refine inherited.group .brackets (fun _ => inherited.commaSeparated ?_)
    fun _ _ _ => inherited.pure _
  refine inherited.bind inherited.expectName fun name => ?_
  simp only
  split
  · exact inherited.bind (inherited.report _ _) fun _ => inherited.pure _
  · exact inherited.pure _

theorem theme : Keeps P Grammar.theme := by
  refine inherited.group .braces (fun _ => inherited.untilClosed .rightBrace (fun fields => ?_) _)
    fun _ _ _ => inherited.pure _
  exact inherited.bind inherited.expectKey fun _ => inherited.bind inherited.expectText fun _ =>
    inherited.bind inherited.skipCommas fun _ => inherited.pure _

theorem headerAttribute (key : Token) (header : Header) :
    Keeps P (Grammar.headerAttribute key header) := by
  unfold Grammar.headerAttribute
  split
  · exact inherited.bind inherited.expectText fun _ => inherited.pure _
  · exact inherited.bind inherited.expectText fun _ => inherited.pure _
  · exact inherited.bind inherited.expectText fun _ => inherited.pure _
  · exact inherited.bind inherited.platforms fun _ => inherited.pure _
  · exact inherited.bind inherited.theme fun _ => inherited.pure _
  · exact inherited.fail _ _

theorem mockEntry (sections : Fields (List (Fields Value))) :
    Keeps P (Parser.expectKey >>= fun key => Grammar.objectList >>= fun records =>
      Parser.skipCommas >>= fun _ => Pure.pure (Fields.insert key.value records sections)) :=
  inherited.bind inherited.expectKey fun _ => inherited.bind inherited.objectList fun _ =>
    inherited.bind inherited.skipCommas fun _ => inherited.pure _

end Inherited

end Blueprint
