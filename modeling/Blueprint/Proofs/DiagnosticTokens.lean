import Blueprint.Proofs.ReportOrder
import Blueprint.Proofs.TokenPlaces

/-!
Every diagnostic of a source is about one of its tokens. A token that is named in a report, or whose
place is remembered for a later one, has been the current token once; so all that is reported while a
row of tokens is read, in recovery too, points into the row and its end.
-/
set_option autoImplicit false

namespace Blueprint

open Grammar

/-! ## Outcomes that point into a row -/

/-- An outcome that leaves some of the tokens, and of which every report, and a failure over the
grammar, is about one of them. -/
inductive Outcome.Within (all : List Token) : {α : Type} → Outcome α → Prop where
  | ok {α : Type} {value : α} {rest : List Token} {reports : List SyntaxDiagnostic}
    (left : rest ⊆ all) (about : ∀ diagnostic ∈ reports, PointsInto all diagnostic) :
    Within all (.ok value rest reports)
  | failed {α : Type} {diagnostic : SyntaxDiagnostic} {rest : List Token}
    {reports : List SyntaxDiagnostic} (left : rest ⊆ all)
    (about : ∀ earlier ∈ reports ++ [diagnostic], PointsInto all earlier) :
    Within all (.failed (.syntaxError diagnostic) rest reports : Outcome α)
  | oversized {α : Type} {rest : List Token} {reports : List SyntaxDiagnostic} :
    Within all (.failed .oversizedInteger rest reports : Outcome α)

theorem Outcome.Within.after {α : Type} {all : List Token} {outcome : Outcome α}
    {earlier : List SyntaxDiagnostic} (within : outcome.Within all)
    (about : ∀ diagnostic ∈ earlier, PointsInto all diagnostic) :
    (outcome.after earlier).Within all := by
  cases within with
  | ok left about' => exact .ok left (List.forall_mem_append.mpr ⟨about, about'⟩)
  | oversized => exact .oversized
  | failed left about' =>
    refine .failed left ?_
    rw [List.append_assoc]
    exact List.forall_mem_append.mpr ⟨about, about'⟩

/-- Whether a parser points into the given tokens, wherever it begins among them. -/
def PointsWithin (stop : Position) (all : List Token) {α : Type} (parser : Parser α) : Prop :=
  ∀ tokens, tokens ⊆ all → (parser stop tokens).Within all

namespace PointsWithin

variable {α β σ γ : Type} {stop : Position} {all : List Token}

theorem passes {parser : Parser α} (passes : PassesOver parser) : PointsWithin stop all parser := by
  intro tokens inside
  obtain ⟨value, rest, run, left⟩ := passes stop tokens
  rw [run]
  exact .ok (List.Subset.trans left.subset inside) nofun

theorem pure (value : α) : PointsWithin stop all (Pure.pure value) :=
  passes (.pure value)

/-- What is reported at a token, and says nothing of what was found there. -/
theorem report {problem : SyntaxProblem} (own : problem.IsOwn) {token : Token} (member : token ∈ all) :
    PointsWithin stop all (Parser.report problem token.place) := by
  intro tokens inside
  refine .ok inside fun diagnostic isReported => ?_
  rw [List.mem_singleton.mp isReported]
  exact ⟨token, member, own.pointsAt token⟩

theorem bind {first : Parser α} {next : α → Parser β} (firsts : PointsWithin stop all first)
    (nexts : ∀ value, PointsWithin stop all (next value)) :
    PointsWithin stop all (first >>= next) := by
  intro tokens inside
  have begun := firsts tokens inside
  rw [Parser.bind_run]
  generalize first stop tokens = outcome at begun ⊢
  cases begun with
  | ok left about => exact (nexts _ _ left).after about
  | failed left about => exact .failed left about
  | oversized => exact .oversized

theorem loop {more : σ → List Token → Bool} {step : σ → Parser σ}
    (steps : ∀ state, PointsWithin stop all (step state)) (state : σ) :
    PointsWithin stop all (Parser.loop more step state) := by
  intro tokens
  refine Parser.loop_induct (motive := fun _ tokens outcome => tokens ⊆ all → outcome.Within all)
    ?_ ?_ ?_ state tokens
  · exact fun _ _ _ inside => .ok inside nofun
  · exact fun state tokens _ _ inside => steps state tokens inside
  · intro state next tokens rest reports outcome _ run later inside
    have begun := steps state tokens inside
    rw [run] at begun
    cases begun with
    | ok left about => exact (later left).after about

theorem orResume {first : Parser α} {recover : List Token → Parser α}
    (firsts : PointsWithin stop all first)
    (recovers : ∀ began, began ⊆ all → PointsWithin stop all (recover began)) :
    PointsWithin stop all (Parser.orResume first recover) := by
  intro tokens inside
  have begun := firsts tokens inside
  unfold Parser.orResume
  generalize first stop tokens = outcome at begun ⊢
  cases begun with
  | ok left about => exact .ok left about
  | failed left about => exact (recovers tokens inside _ left).after about
  | oversized => exact .oversized

theorem orRetry {first second : Parser α} (firsts : PointsWithin stop all first)
    (seconds : PointsWithin stop all second) : PointsWithin stop all (Parser.orRetry first second) := by
  rw [Parser.orRetry_eq_orResume]
  exact firsts.orResume fun began inside _ _ => seconds began inside

section AtEnd

variable (atEnd : Parser.endToken stop ∈ all)
include atEnd

theorem currentToken_mem {tokens : List Token} (inside : tokens ⊆ all) :
    currentToken stop tokens ∈ all := by
  cases tokens with
  | nil => exact atEnd
  | cons token rest => exact inside List.mem_cons_self

/-- The current token may be remembered for a later report. -/
theorem current_bind {next : Token → Parser β}
    (nexts : ∀ token ∈ all, PointsWithin stop all (next token)) :
    PointsWithin stop all (Parser.current >>= next) := by
  intro tokens inside
  rw [Parser.bind_run_clean rfl]
  exact nexts _ (currentToken_mem atEnd inside) tokens inside

/-- A parser that points does so into the given tokens, if it is told of some of them. -/
theorem of_points {known : List Token} {parser : Parser α} (points : Points known parser)
    (knowns : known ⊆ all) : PointsWithin stop all parser := by
  intro tokens inside
  have pointed := points stop tokens
  generalize parser stop tokens = outcome at pointed ⊢
  cases pointed with
  | oversized row whole => exact .oversized
  | ok row whole =>
    rw [whole, List.append_subset] at inside
    exact .ok inside.2 nofun
  | @failed diagnostic row rest whole points =>
    rw [whole, List.append_subset] at inside
    obtain ⟨taken, left⟩ := inside
    refine .failed left fun earlier member => ?_
    rw [List.mem_singleton.mp member]
    refine points.mono ?_
    simp only [List.append_subset, List.cons_subset, List.nil_subset, and_true]
    exact ⟨⟨knowns, taken⟩, currentToken_mem atEnd left⟩

theorem plain {parser : Parser α} (points : Points [] parser) : PointsWithin stop all parser :=
  of_points atEnd points (List.nil_subset all)

/-- A token that is taken may be remembered for a later report. -/
theorem accept_bind {allowed : TokenKind → Bool} (notAtEnd : allowed .eof = false)
    (expected : Expectation) {next : Token → Parser β}
    (nexts : ∀ token ∈ all, PointsWithin stop all (next token)) :
    PointsWithin stop all (Parser.accept allowed expected >>= next) := by
  intro tokens inside
  have taken : PointsWithin stop all (Parser.accept allowed expected) :=
    plain atEnd (.accept notAtEnd expected)
  rcases accept_cases notAtEnd expected stop tokens with ⟨token, rest, rfl, _, run⟩ | run
  · rw [Parser.bind_run_clean run]
    exact nexts token (inside List.mem_cons_self) rest (List.subset_of_cons_subset inside)
  · have refused := taken tokens inside
    rw [run] at refused
    rw [Parser.bind_run_failed run]
    cases refused with
    | failed left about => exact .failed left about

/-! ### The parts of a header -/

theorem platforms : PointsWithin stop all Grammar.platforms := by
  refine (plain atEnd .expectSymbol).bind fun _ => (bind (loop (fun _ => bind ?_ fun _ =>
    (plain atEnd (.option _)).bind fun _ => pure _) _) fun _ => pure _).bind fun _ =>
      (plain atEnd .expectSymbol).bind fun _ => pure _
  refine accept_bind atEnd rfl _ fun name member => ?_
  simp only
  split
  · exact (report (by nofun) member).bind fun _ => pure _
  · exact pure _

theorem headerAttribute {key : Token} (member : key ∈ all) (header : Header) :
    PointsWithin stop all (Grammar.headerAttribute key header) := by
  by_cases isPlatforms : key.value = "platforms"
  · have same : Grammar.headerAttribute key header =
        Grammar.platforms >>= fun found => Pure.pure { header with platforms := found } := by
      simp [Grammar.headerAttribute, isPlatforms]
    rw [same]
    exact (platforms atEnd).bind fun _ => pure _
  · exact of_points atEnd (Points.headerAttribute List.mem_cons_self isPlatforms header)
      (List.cons_subset.mpr ⟨member, List.nil_subset all⟩)

theorem headerContent {key : Token} (member : key ∈ all) (header : Header) :
    PointsWithin stop all (Grammar.headerContent key header) :=
  (headerAttribute atEnd member header).orRetry ((passes .skipValue).bind fun _ => pure _)

theorem headerEntry (body : OpenHeader) : PointsWithin stop all (Grammar.headerEntry body) := by
  intro tokens inside
  unfold Grammar.headerEntry
  rcases headerKey_cases stop tokens with ⟨key, colon, rest, rfl, _, _, found⟩ |
    ⟨expected, blamed, left, first, recovered, suffix⟩
  · rw [Parser.bind_run_clean found]
    simp only [List.cons_subset] at inside
    obtain ⟨member, _, left⟩ := inside
    have content := (headerContent atEnd member body.header).bind fun next =>
      (passes .skipCommas).bind fun _ => pure (OpenHeader.mk next (key.value :: body.seen))
    exact content rest left
  · rw [Parser.bind_run_ok recovered]
    have later : tokens.drop 1 ⊆ all := List.Subset.trans (List.drop_subset 1 tokens) inside
    have member : blamed ∈ all := by
      rcases first with rfl | rfl
      · exact currentToken_mem atEnd inside
      · exact currentToken_mem atEnd later
    have commas : PointsWithin stop all (Parser.skipCommas >>= fun _ => Pure.pure body) :=
      (passes .skipCommas).bind fun _ => pure body
    refine (commas left (List.Subset.trans suffix.subset later)).after fun diagnostic reported => ?_
    rw [List.mem_singleton.mp reported]
    exact ⟨blamed, member, SyntaxDiagnostic.unexpected_pointsAt expected blamed⟩

theorem closeHeader (app : String) : PointsWithin stop all (Grammar.closeHeader app) := by
  refine (plain atEnd (.option _)).bind fun closed => ?_
  split
  · exact current_bind atEnd fun token member => report (by nofun) member
  · exact pure _

omit atEnd in
theorem reportMissing (app : String) {token : Token} (member : token ∈ all) (seen : List String) :
    PointsWithin stop all (Grammar.reportMissing app token.place seen) := by
  intro tokens inside
  rw [reportMissing_reports]
  refine .ok inside fun diagnostic isReported => ?_
  obtain ⟨required, _, rfl⟩ := List.mem_map.mp isReported
  exact ⟨token, member, SyntaxProblem.IsOwn.pointsAt (by nofun) token⟩

theorem header : PointsWithin stop all Grammar.header := by
  refine accept_bind atEnd rfl _ fun keyword member => ?_
  refine (plain atEnd .expectName).bind fun name => (plain atEnd .expectSymbol).bind fun _ =>
    (loop (headerEntry atEnd) _).bind fun body => (closeHeader atEnd _).bind fun _ => ?_
  exact (reportMissing _ member _).bind fun _ => pure _

/-! ### Statements -/

theorem screen : PointsWithin stop all Grammar.screen := by
  refine accept_bind atEnd rfl _ fun keyword member => ?_
  refine (plain atEnd .expectName).bind fun name => (plain atEnd .expectSymbol).bind fun _ =>
    (plain atEnd (.untilClosed _ .screenEntry _)).bind fun body =>
      (plain atEnd .expectSymbol).bind fun _ => ?_
  simp only
  split
  · exact (report (by nofun) member).bind fun _ => pure _
  · exact pure _

omit atEnd in
theorem setOnce (old : Option α) {duplicate : SyntaxProblem} (own : duplicate.IsOwn) {token : Token}
    (member : token ∈ all) (set : α → Document) (document : Document) (part : α) :
    PointsWithin stop all (Grammar.setOnce old duplicate token.place set document part) := by
  cases old with
  | none => exact pure _
  | some _ => exact (report own member).bind fun _ => pure _

theorem statement (document : Document) : PointsWithin stop all (Grammar.statement document) := by
  refine current_bind atEnd fun token member => ?_
  split
  · exact (header atEnd).bind fun found => setOnce _ (by nofun) member _ _ found
  · exact (plain atEnd .model).bind fun _ => pure _
  · exact (screen atEnd).bind fun _ => pure _
  · exact (plain atEnd .navigation).bind fun found => setOnce _ (by nofun) member _ _ found
  · exact (plain atEnd .api).bind fun found => setOnce _ (by nofun) member _ _ found
  · exact (plain atEnd .mockData).bind fun found => setOnce _ (by nofun) member _ _ found
  · exact plain atEnd (.unexpected _)

theorem documentBody : PointsWithin stop all Grammar.documentBody := by
  refine loop (fun state => (plain atEnd (.isAt _)).bind fun _ => bind ?_ fun _ => pure _) _
  exact (statement atEnd _).orResume fun began _ =>
    (passes (.resynchronize began)).bind fun _ => pure _

end AtEnd

end PointsWithin

theorem parseTokens_points {tokens : List Token} {stop : Position} {result : ParseResult}
    (read : Document.parseTokens tokens stop = .ok result) :
    ∀ diagnostic ∈ result.diagnostics, PointsInto (tokens ++ [Parser.endToken stop]) diagnostic := by
  cases tokens with
  | nil =>
    rw [Document.parseTokens, Except.ok.injEq] at read
    rw [← read]
    exact List.forall_mem_nil _
  | cons first tokens =>
    have atEnd : Parser.endToken stop ∈ first :: tokens ++ [Parser.endToken stop] := by simp
    have within := PointsWithin.documentBody atEnd (first :: tokens) (List.subset_append_left _ _)
    rw [Document.parseTokens] at read
    generalize Grammar.documentBody stop (first :: tokens) = outcome at within read
    cases within with
    | oversized => contradiction
    | failed left about =>
      rw [Except.ok.injEq] at read
      rwa [← read]
    | ok left about =>
      simp only [Except.ok.injEq] at read
      rw [← read]
      refine List.forall_mem_append.mpr ⟨fun diagnostic reported => ?_, about⟩
      split at reported
      · rw [List.mem_singleton.mp reported]
        have own : SyntaxProblem.missingApp.IsOwn := by simp [SyntaxProblem.IsOwn]
        exact ⟨first, by simp, own.pointsAt first⟩
      · contradiction

/-! ## The tokens of a source -/

theorem tokenize_split (source : String) :
    tokenize source = tokensOf source ++ [Parser.endToken (stopOf source)] := by
  obtain ⟨tiles, last, whole, tiled⟩ := exists_tiled source.toList
  rw [tokensOf_tiled whole tiled, stopOf, tokenize, Cursor.ofSource, whole, tokens_tiled tiled,
    splitEnd_tokensAt_stop tiled]
  exact tokensAt_placed .start tiles last

/-- No two tokens of a source stand at one place. -/
theorem eq_of_place {source : String} {token other : Token} (member : token ∈ tokenize source)
    (member' : other ∈ tokenize source) (same : token.place = other.place) : token = other := by
  obtain ⟨tiles, last, whole, tiled⟩ := exists_tiled source.toList
  have tokens : tokenize source = tokensAt .start tiles last := by
    rw [tokenize, Cursor.ofSource, whole]
    exact tokens_tiled tiled .start
  rw [tokens] at member member'
  have ascending := (tokensAt_ascending tiled .start).1
  have apart : ((tokensAt .start tiles last).map Token.place).Nodup :=
    List.pairwise_map.mpr (ascending.imp fun less => less.ne)
  exact List.inj_on_of_nodup_map apart member member' same

/-- How a token is named where another one was expected. -/
def Token.shown (token : Token) : String :=
  if token.kind = .eof then "end of input" else Text.quoted token.value

theorem Text.quoted_ne_end (text : String) : Text.quoted text ≠ "end of input" := by
  intro same
  have first := congrArg (fun shown => shown.toList.head?) same
  have mark : Text.quoteMark text.toList = 'e' := by
    simpa [Text.quoted, Text.quoteChars] using first
  unfold Text.quoteMark at mark
  split at mark
  · contradiction
  · contradiction

theorem Token.shown_eq_end_iff (token : Token) : token.shown = "end of input" ↔ token.kind = .eof := by
  unfold Token.shown
  split
  · next isEnd => simp [isEnd]
  · next notEnd => simp [notEnd, Text.quoted_ne_end]

theorem SyntaxDiagnostic.PointsAt.message {diagnostic : SyntaxDiagnostic} {token : Token}
    {expected : Expectation} {found : Option String} (points : diagnostic.PointsAt token)
    (unexpected : diagnostic.problem = .unexpected expected found) :
    diagnostic.message = s!"Expected {expected.text}, got {token.shown}" := by
  rw [SyntaxDiagnostic.message, unexpected, points.found expected found unexpected, Token.shown]
  split
  · rfl
  · rfl

/-- Every diagnostic of a source is about one of its tokens: it has the place of the token, at which no
other token stands; and if it says what was found in place of something else, then that is this token,
quoted, or the end of the input if the token is the end. -/
theorem diagnostics_point {source : String} {result : ParseResult}
    (parsed : Document.parse source = .ok result) {diagnostic : SyntaxDiagnostic}
    (member : diagnostic ∈ result.diagnostics) :
    ∃ token ∈ tokenize source, diagnostic.place = token.place ∧
      (∀ other ∈ tokenize source, other.place = diagnostic.place → other = token) ∧
      ∀ expected found, diagnostic.problem = .unexpected expected found →
        found = (if token.kind = .eof then none else some token.value) ∧
          diagnostic.message = s!"Expected {expected.text}, got {token.shown}" ∧
          (token.shown = "end of input" ↔ token.kind = .eof) := by
  have points := parseTokens_points parsed diagnostic member
  change PointsInto (tokensOf source ++ [Parser.endToken (stopOf source)]) diagnostic at points
  rw [← tokenize_split] at points
  obtain ⟨token, inside, pointsAt⟩ := points
  refine ⟨token, inside, pointsAt.place, fun other inside' same => ?_,
    fun expected found unexpected => ?_⟩
  · exact eq_of_place inside' inside (same.trans pointsAt.place)
  · exact ⟨pointsAt.found expected found unexpected, pointsAt.message unexpected,
      token.shown_eq_end_iff⟩

/-- A model that breaks off: the last diagnostic is about the end, behind two that are about the first
token. -/
theorem diagnostics_point_unclosed : ∃ result diagnostic,
    Document.parse "screen S \x7b \x7d\nmodel M \x7b x" = .ok result ∧
      diagnostic ∈ result.diagnostics ∧ result.diagnostics.length = 3 ∧
      diagnostic.problem = .unexpected (.kinds [.symbol .colon]) none ∧
      ∃ token ∈ tokenize "screen S \x7b \x7d\nmodel M \x7b x",
        diagnostic.place = token.place ∧ token.kind = .eof := by
  have parsed : Document.parse "screen S \x7b \x7d\nmodel M \x7b x" =
      .ok ⟨some { screens := [{ name := "S", title := "S" }] },
        [⟨.missingApp, ⟨1, 1⟩⟩, ⟨.untitledScreen "S", ⟨1, 1⟩⟩,
          ⟨.unexpected (.kinds [.symbol .colon]) none, ⟨2, 12⟩⟩]⟩ := by cbv
  have member : (⟨.unexpected (.kinds [.symbol .colon]) none, ⟨2, 12⟩⟩ : SyntaxDiagnostic) ∈
      [⟨.missingApp, ⟨1, 1⟩⟩, ⟨.untitledScreen "S", ⟨1, 1⟩⟩,
        ⟨.unexpected (.kinds [.symbol .colon]) none, ⟨2, 12⟩⟩] := @List.mem_of_getElem? _ _ 2 _ rfl
  obtain ⟨token, inside, place, _, about⟩ := diagnostics_point parsed member
  refine ⟨_, _, parsed, member, rfl, rfl, token, inside, place, ?_⟩
  have found := (about _ _ rfl).1
  split at found
  · next isEnd => exact isEnd
  · contradiction

end Blueprint
