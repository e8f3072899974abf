import Blueprint.Proofs.Oversized

/-!
Groups that are open. A routine takes a nested row, or it fails in a row that begins one; in front
of a closing mark that closes one group too many, it comes to an end.
-/
set_option autoImplicit false

namespace Blueprint

open Grammar

/-! ## Marks that are open -/

/-- What a token does to the number of open groups. -/
def weight (token : Token) : Int :=
  match token.kind with
  | .symbol .leftBrace | .symbol .leftBracket => 1
  | .symbol .rightBrace | .symbol .rightBracket => -1
  | _ => 0

/-- By how many a row opens more groups than it closes. -/
def excess : List Token → Int
  | [] => 0
  | token :: row => weight token + excess row

theorem excess_append (row more : List Token) :
    excess (row ++ more) = excess row + excess more := by
  induction row with
  | nil => simp [excess]
  | cons token row ih => simp only [List.cons_append, excess, ih]; omega

theorem weight_level {token : Token} (isLevel : token.kind.isLevel = true) : weight token = 0 := by
  unfold weight
  split <;> simp_all [TokenKind.isLevel]

theorem Pair.weights {opening closing : Symbol} (pair : Pair opening closing) {first last : Token}
    (opens : first.kind = .symbol opening) (closes : last.kind = .symbol closing) :
    weight first = 1 ∧ weight last = -1 := by
  cases pair <;> simp [weight, opens, closes]

theorem Nested.excess_eq {row : List Token} (nested : Nested row) : excess row = 0 := by
  induction nested with
  | nil => rfl
  | level isLevel _ ih => rw [excess, weight_level isLevel, ih]; rfl
  | group pair opens closes _ _ ih ih' =>
    obtain ⟨first, last⟩ := pair.weights opens closes
    rw [excess, excess_append, excess, first, last, ih, ih']
    rfl

/-- Rows that begin a nested row. -/
def Begun (row : List Token) : Prop := ∃ more, Nested (row ++ more)

theorem Nested.begun {row : List Token} (nested : Nested row) : Begun row :=
  ⟨[], by rwa [List.append_nil]⟩

theorem Begun.left {row more : List Token} (begun : Begun (row ++ more)) : Begun row := by
  obtain ⟨rest, nested⟩ := begun
  exact ⟨more ++ rest, by rwa [← List.append_assoc]⟩

/-- What begins a nested row closes nothing that it has not opened. -/
theorem Begun.excess_nonneg {row : List Token} (begun : Begun row) : 0 ≤ excess row := by
  obtain ⟨more, nested⟩ := begun
  generalize whole : row ++ more = tokens at nested
  induction nested generalizing row more with
  | nil =>
    obtain ⟨rfl, _⟩ := List.append_eq_nil_iff.mp whole
    exact le_rfl
  | @level token rest isLevel _ ih =>
    cases row with
    | nil => exact le_rfl
    | cons first row =>
      obtain ⟨rfl, tails⟩ := List.cons.inj whole
      have behind := ih _ tails
      rw [excess, weight_level isLevel]
      omega
  | @group first last opening closing inside rest pair opens closes content _ ih ih' =>
    cases row with
    | nil => exact le_rfl
    | cons token row =>
      obtain ⟨rfl, tails⟩ := List.cons.inj whole
      obtain ⟨up, down⟩ := pair.weights opens closes
      rw [excess, up]
      rcases List.append_eq_append_iff.mp tails with ⟨others, rfl, _⟩ | ⟨others, rfl, behind⟩
      · have within := ih _ rfl
        omega
      · cases others with
        | nil =>
          rw [List.append_nil, content.excess_eq]
          omega
        | cons mark others =>
          obtain ⟨rfl, others'⟩ := List.cons.inj behind
          have later := ih' _ others'.symm
          rw [excess_append, excess, content.excess_eq, down]
          omega

/-- The end of a nested row opens nothing that it does not close. -/
theorem Nested.excess_right {row more : List Token} (nested : Nested (row ++ more)) :
    excess more ≤ 0 := by
  have whole := nested.excess_eq
  have front := Begun.excess_nonneg ⟨more, nested⟩
  rw [excess_append] at whole
  omega

/-- What begins a nested row ends before the mark that closes one group too many. -/
theorem Begun.confined {inside row rest back : List Token} {last : Token}
    (begun : Begun row) (low : excess inside ≤ 0) (closes : last.kind = .symbol .rightBrace)
    (same : inside ++ last :: back = row ++ rest) :
    ∃ left, inside = row ++ left ∧ rest = left ++ last :: back := by
  rcases List.append_eq_append_iff.mp same with ⟨beyond, rfl, behind⟩ | ⟨left, rfl, behind⟩
  · cases beyond with
    | nil => exact ⟨[], by simp, by simpa using behind.symm⟩
    | cons mark beyond =>
      obtain ⟨rfl, _⟩ := List.cons.inj behind
      rw [List.append_cons] at begun
      have bound := begun.left.excess_nonneg
      rw [excess_append, excess, excess] at bound
      simp only [weight, closes] at bound
      omega
  · exact ⟨left, rfl, behind⟩

/-! ## What routines take -/

/-- An outcome takes a nested row, or begins one and fails in it, over an oversized literal only if
it has met one. -/
inductive Outcome.Nests (tokens : List Token) : {α : Type} → Outcome α → Prop where
  | ok {α : Type} {value : α} (row : List Token) {rest : List Token}
    {reports : List SyntaxDiagnostic} (whole : tokens = row ++ rest) (nested : Nested row) :
    Nests tokens (.ok value rest reports)
  | failed {α : Type} {failure : Failure} (row : List Token) {rest : List Token}
    {reports : List SyntaxDiagnostic} (whole : tokens = row ++ rest) (begun : Begun row)
    (overflow : failure = .oversizedInteger → ∃ token ∈ row, Oversized token) :
    Nests tokens (.failed failure rest reports : Outcome α)

def Nests (α : Type) (tokens : List Token) (outcome : Outcome α) : Prop :=
  outcome.Nests tokens

theorem Outcome.Nests.after {α : Type} {row tokens : List Token} {outcome : Outcome α}
    (nests : outcome.Nests tokens) (nested : Nested row) (earlier : List SyntaxDiagnostic) :
    (outcome.after earlier).Nests (row ++ tokens) := by
  cases nests with
  | ok row' whole nested' =>
    exact .ok (row ++ row') (by rw [whole, List.append_assoc]) (nested.append nested')
  | failed row' whole begun overflow =>
    obtain ⟨more, nested'⟩ := begun
    refine .failed (row ++ row') (by rw [whole, List.append_assoc])
      ⟨more, by rw [List.append_assoc]; exact nested.append nested'⟩ fun isOversized => ?_
    obtain ⟨token, member, oversized⟩ := overflow isOversized
    exact ⟨token, List.mem_append_right row member, oversized⟩

theorem Outcome.Nests.misfit {α : Type} (diagnostic : SyntaxDiagnostic) (tokens : List Token) :
    Outcome.Nests tokens (.failed (.syntaxError diagnostic) tokens [] : Outcome α) :=
  .failed [] rfl Nested.nil.begun nofun

theorem composable_nests : Composable Nests where
  still _ tokens _ := .ok [] rfl .nil
  misfit diagnostic tokens := .misfit diagnostic tokens
  taken _ row nested rest := .ok row rfl nested
  onward first second := by
    cases first with
    | ok row whole nested =>
      rw [whole]
      exact Outcome.Nests.after second nested _
  failed first := by
    cases first with
    | failed row whole begun overflow => exact .failed row whole begun overflow

/-- Where a mark is asked for, it is taken or nothing is. -/
theorem expectSymbol_outcome (mark : Symbol) (stop : Position) (tokens : List Token) :
    (∃ token rest, tokens = token :: rest ∧ token.kind = .symbol mark ∧
      Parser.expectSymbol mark stop tokens = .ok token rest []) ∨
    ∃ diagnostic, Parser.expectSymbol mark stop tokens =
      .failed (.syntaxError diagnostic) tokens [] :=
  @Parser.expect_outcome (.symbol mark) nofun stop tokens

theorem expectName_outcome (stop : Position) (tokens : List Token) :
    (∃ token rest, tokens = token :: rest ∧ token.kind.isName = true ∧
      Parser.expectName stop tokens = .ok token rest []) ∨
    ∃ diagnostic, Parser.expectName stop tokens = .failed (.syntaxError diagnostic) tokens [] :=
  Parser.accept_outcome rfl .name stop tokens

/-- The row of a group that is not closed yet. -/
theorem Begun.group {opening closing : Symbol} (pair : Pair opening closing) {first : Token}
    (opens : first.kind = .symbol opening) {row : List Token} (begun : Begun row) :
    Begun (first :: row) := by
  obtain ⟨more, nested⟩ := begun
  have last : (Token.mk (.symbol closing) "" .start).kind = .symbol closing := rfl
  refine ⟨more ++ [⟨.symbol closing, "", .start⟩], ?_⟩
  rw [List.cons_append, ← List.append_assoc]
  exact .group pair opens last nested .nil

namespace Nests

variable {α β : Type}

/-- A group that is not closed has begun a nested row; one that is closed is such a row. -/
theorem group {opening closing : Symbol} (pair : Pair opening closing) {inner : Token → Parser α}
    {next : Token → α → Token → Parser β} (inners : ∀ token, Keeps Nests (inner token))
    (nexts : ∀ token value token', Keeps Nests (next token value token')) :
    Keeps Nests (Parser.expectSymbol opening >>= fun token => inner token >>= fun value =>
      Parser.expectSymbol closing >>= next token value) := by
  intro stop tokens
  rcases expectSymbol_outcome opening stop tokens with
    ⟨first, rest, rfl, opens, run⟩ | ⟨diagnostic, run⟩
  · rw [Parser.bind_run_clean run]
    have filled := inners first stop rest
    cases content : inner first stop rest with
    | failed failure rest' reports =>
      rw [Parser.bind_run_failed content]
      rw [content] at filled
      cases filled with
      | failed row whole begun overflow =>
        refine .failed (first :: row) (by rw [whole]; rfl) (begun.group pair opens) ?_
        intro isOversized
        obtain ⟨token, member, oversized⟩ := overflow isOversized
        exact ⟨token, List.mem_cons_of_mem first member, oversized⟩
    | ok value rest' reports =>
      rw [Parser.bind_run_ok content]
      rw [content] at filled
      cases filled with
      | ok row whole nested =>
        rcases expectSymbol_outcome closing stop rest' with
          ⟨last, others, rfl, closes, run'⟩ | ⟨diagnostic, run'⟩
        · rw [Parser.bind_run_clean run']
          have group : Nested (first :: (row ++ [last])) := .group pair opens closes nested .nil
          have later := (nexts first value last stop others).after group reports
          rw [whole]
          simpa [Nests] using later
        · rw [Parser.bind_run_failed run']
          exact .failed (first :: row) (by rw [whole]; rfl) (nested.begun.group pair opens) nofun
  · rw [Parser.bind_run_failed run]
    exact .misfit diagnostic tokens

theorem number :
    Keeps Nests (Parser.expect .number >>= fun token => Grammar.number token.value) := by
  intro stop tokens
  rcases number_outcome stop tokens with
    ⟨token, rest, rfl, isNumber, outcome⟩ | ⟨diagnostic, run⟩
  · have single : Nested [token] := .single (by rw [isNumber]; rfl)
    rcases outcome with ⟨value, run⟩ | ⟨isOversized, run⟩
    · rw [run]
      exact .ok [token] rfl single
    · rw [run]
      exact .failed [token] rfl single.begun fun _ => ⟨token, List.mem_cons_self, isOversized⟩
  · rw [run]
    exact .misfit diagnostic tokens

end Nests

theorem inherited_nests : Inherited Nests where
  toComposable := composable_nests
  group pair inners nexts := Nests.group pair inners nexts
  number := Nests.number

end Blueprint
