import Blueprint.Proofs.Recovery

/-!
Tokens between statements. Where a row of tokens of which none could begin a statement stands behind
statements that are read without a diagnostic, it is reported once, at its first token, and passed
over: `stray_tokens_reported_once` says that all else is read as if the row were not there.
-/
set_option autoImplicit false

namespace Blueprint

open Grammar

/-- Kinds of tokens that a statement begins with. -/
def TokenKind.beginsStatement : TokenKind → Bool
  | .keyword .app | .keyword .model | .keyword .screen => true
  | .keyword .navigation | .keyword .api | .keyword .mockData => true
  | _ => false

theorem beginsStatement_of_startsStatement {token : Token} {rest : List Token}
    (starts : startsStatement (token :: rest) = true) : token.kind.beginsStatement = true := by
  unfold startsStatement at starts
  simp only [List.getElem?_cons_zero, Option.map_some, Option.getD_some] at starts
  split at starts
  all_goals first | contradiction | simp_all [TokenKind.beginsStatement]

/-- Tokens that neither begin a statement nor end the source. -/
def Stray (row : List Token) : Prop :=
  ∀ token ∈ row, token.kind.beginsStatement = false ∧ token.kind ≠ .eof

/-- Recovery passes over stray tokens, up to where it can resume. -/
theorem Stray.toStatement {row rest : List Token} (stray : Stray row) (resumes : Resumes rest) :
    toStatement (row ++ rest) = rest := by
  induction row with
  | nil =>
    rcases resumes with rfl | starts
    · rfl
    · cases rest with
      | nil => rfl
      | cons token rest => rw [List.nil_append, Grammar.toStatement, if_pos starts]
  | cons token row ih =>
    have notHead : startsStatement (token :: (row ++ rest)) ≠ true := by
      intro starts
      have begins := beginsStatement_of_startsStatement starts
      rw [(stray token List.mem_cons_self).1] at begins
      contradiction
    rw [List.cons_append, Grammar.toStatement, if_neg notHead]
    exact ih fun other later => stray other (List.mem_cons_of_mem token later)

/-- What is said of a stray row: its first token is none that a statement begins with. -/
def strayReport (first : Token) : SyntaxDiagnostic :=
  ⟨.unexpected .statement (some first.value), first.place⟩

/-- Whether a parser gives up at a token, because no statement begins with it. -/
def RejectedBy (first : Token) (parser : Parser Document) : Prop :=
  ∀ stop rest, parser stop (first :: rest) =
    .failed (.syntaxError (strayReport first)) (first :: rest) []

section Row

variable {first : Token} {others rest : List Token} (stray : Stray (first :: others))
include stray

theorem Stray.rejected (document : Document) : RejectedBy first (statement document) := by
  obtain ⟨notKeyword, notEnd⟩ := stray first List.mem_cons_self
  intro stop rest
  unfold statement
  rw [Parser.bind_run_clean rfl]
  simp only [List.head?_cons, Option.getD_some]
  refine (?_ : RejectedBy first _) stop rest
  unfold TokenKind.beginsStatement at notKeyword
  split
  · simp_all
  · simp_all
  · simp_all
  · simp_all
  · simp_all
  · simp_all
  · intro stop rest
    have quoted : SyntaxDiagnostic.unexpected .statement first = strayReport first := by
      simp [SyntaxDiagnostic.unexpected, strayReport, notEnd]
    rw [← quoted]
    rfl

/-- A stray row is one entry of a document, which changes nothing. -/
theorem Stray.documentEntry_run (resumes : Resumes rest) (state : OpenDocument) (stop : Position) :
    documentEntry state stop (first :: (others ++ rest)) = .ok state rest [strayReport first] := by
  have passed := Stray.toStatement
    (fun other later => stray other (List.mem_cons_of_mem first later)) resumes
  have resumed : resynchronize (first :: (others ++ rest)) stop (first :: (others ++ rest)) =
      .ok () rest [] := by
    simp only [resynchronize, Parser.skip, BEq.rfl, if_true, List.drop_succ_cons, List.drop_zero,
      passed]
  have notApp : Parser.startsWith (.keyword .app) (first :: (others ++ rest)) = false := by
    rw [Parser.startsWith, beq_eq_false_iff_ne]
    intro isApp
    have notKeyword := (stray first List.mem_cons_self).1
    rw [isApp] at notKeyword
    contradiction
  rw [documentEntry_of_next stop (nextStatement_failed_run (stray.rejected _ stop _) resumed),
    notApp, Bool.or_false]
  rfl

theorem Stray.statements_run (resumes : Resumes rest) (state : OpenDocument) (stop : Position) :
    Parser.loop moreStatements documentEntry state stop (first :: (others ++ rest)) =
      (Parser.loop moreStatements documentEntry state stop rest).after [strayReport first] :=
  Parser.loop_step rfl (stray.documentEntry_run resumes state stop)
    (by simp only [List.length_cons, List.length_append]; omega)

end Row

/-! ## Behind a source without a diagnostic -/

/-- What reading the statements of a source with a header comes to. -/
def readFrom : Outcome OpenDocument → Except ParseError ParseResult
  | .ok state _ reports => .ok ⟨some state.document, reports⟩
  | .failed .oversizedInteger _ _ => .error .oversizedInteger
  | .failed (.syntaxError diagnostic) _ reports => .ok ⟨none, reports ++ [diagnostic]⟩

/-- A result with a diagnostic in front of its own. -/
def ParseResult.withReport (diagnostic : SyntaxDiagnostic) (result : ParseResult) : ParseResult :=
  { result with diagnostics := diagnostic :: result.diagnostics }

theorem readFrom_after (diagnostic : SyntaxDiagnostic) (outcome : Outcome OpenDocument) :
    readFrom (outcome.after [diagnostic]) =
      (readFrom outcome).map (ParseResult.withReport diagnostic) := by
  cases outcome with
  | ok => rfl
  | failed failure => cases failure <;> rfl

/-- Whatever stands behind statements with a header among them, no header is found missing. -/
theorem parseTokens_behind {clean : List Token} {stop : Position} {result : ParseResult}
    (parsed : Document.parseTokens clean stop = .ok result) (isClean : result.isClean = true) :
    ∃ state, ∀ stop' more, Document.parseTokens (clean ++ more) stop' =
      readFrom (Parser.loop moreStatements documentEntry state stop' more) := by
  obtain ⟨state, left, statements, isDocument, hasHeader⟩ := statements_of_clean parsed isClean
  refine ⟨state, fun stop' more => ?_⟩
  cases clean with
  | nil =>
    rw [Document.parseTokens, Except.ok.injEq] at parsed
    rw [← parsed] at isDocument
    contradiction
  | cons word clean =>
    have continued := (statements_append statements).2 stop' more
    have after : StateAfter state.document {} state := (Document.followedBy_empty _).symm
    have beside := statements_after hasHeader after stop' more
    rw [List.cons_append] at continued ⊢
    rw [Document.parseTokens, documentBody_eq, continued]
    generalize Parser.loop moreStatements documentEntry {} stop' more = alone at beside
    generalize Parser.loop moreStatements documentEntry state stop' more = both at beside
    cases beside with
    | @failed failure => cases failure <;> rfl
    | @ok _ final _ _ _ follows =>
      have kept : final.document.header.isNone = false := by
        rw [follows, Document.followedBy]
        exact Option.isNone_eq_false_iff.mpr hasHeader
      simp only [kept, Bool.false_and, Bool.false_eq_true, if_false, List.nil_append]
      rfl

/-- Behind a source without a diagnostic, a row of tokens that neither begin a statement nor end the
source, up to the head of a statement or the end, costs one diagnostic at its first token: the
document, the other diagnostics, and whether there is a result at all, are those without the row. -/
theorem stray_tokens_reported_once {clean rest : List Token} {stop : Position} {result : ParseResult}
    (parsed : Document.parseTokens clean stop = .ok result) (isClean : result.isClean = true)
    {first : Token} {others : List Token} (stray : Stray (first :: others)) (resumes : Resumes rest)
    (stop' : Position) :
    Document.parseTokens (clean ++ (first :: others) ++ rest) stop' =
      (Document.parseTokens (clean ++ rest) stop').map
        (ParseResult.withReport ⟨.unexpected .statement (some first.value), first.place⟩) := by
  obtain ⟨state, behind⟩ := parseTokens_behind parsed isClean
  rw [List.append_assoc, List.cons_append, behind, behind, stray.statements_run resumes state stop',
    readFrom_after]
  rfl

/-- Closing marks and an unfinished head behind a header, in front of a model that does not fit. -/
theorem stray_tokens_reported_once_marks :
    ∃ clean first others rest result,
      clean = tokensOf "app A \x7bname: 'a' id: 'b' version: '1'\x7d" ∧
      first :: others = tokensOf "\x7d @ [ x \x7b" ∧ rest = tokensOf "model M \x7bx\x7d" ∧
      Document.parseTokens clean ⟨1, 39⟩ = .ok result ∧ result.isClean = true ∧
      Stray (first :: others) ∧ Resumes rest ∧
      Document.parseTokens (clean ++ (first :: others) ++ rest) ⟨1, 12⟩ =
        (Document.parseTokens (clean ++ rest) ⟨1, 12⟩).map
          (ParseResult.withReport ⟨.unexpected .statement (some first.value), first.place⟩) := by
  let shop : Header := { name := "A", displayName := "a", appId := "b", version := "1" }
  have parsed : Document.parseTokens (tokensOf "app A \x7bname: 'a' id: 'b' version: '1'\x7d")
      ⟨1, 39⟩ = .ok ⟨some { header := some shop }, []⟩ := by cbv
  have row : tokensOf "\x7d @ [ x \x7b" = ⟨.symbol .rightBrace, "\x7d", ⟨1, 1⟩⟩ ::
      [⟨.unknown, "@", ⟨1, 3⟩⟩, ⟨.symbol .leftBracket, "[", ⟨1, 5⟩⟩, ⟨.identifier, "x", ⟨1, 7⟩⟩,
        ⟨.symbol .leftBrace, "\x7b", ⟨1, 9⟩⟩] := by
    decide +kernel
  have stray : Stray (tokensOf "\x7d @ [ x \x7b") := by
    rw [row, Stray]
    decide
  have resumes : Resumes (tokensOf "model M \x7bx\x7d") := .inr (by decide +kernel)
  rw [row] at stray
  exact ⟨_, _, _, _, _, rfl, row.symm, rfl, parsed, rfl, stray, resumes,
    stray_tokens_reported_once parsed rfl stray resumes ⟨1, 12⟩⟩

end Blueprint
