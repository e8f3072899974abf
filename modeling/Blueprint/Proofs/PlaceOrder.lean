import Blueprint.Proofs.HeaderParts
import Blueprint.Proofs.Removal
import Mathlib.Data.Prod.Lex

/-!
The order of places. The tokens of a source stand in the order of their places, and what a routine
reports lies, in order, between the place where it begins and the place where it ends: so for every
routine below a statement, and for the parts of a header with the recovery between them.
-/
set_option autoImplicit false

namespace Blueprint

open Grammar

/-! ## Places -/

/-- Places in the order of a source: by line, and in a line by column. -/
instance : PartialOrder Position :=
  PartialOrder.lift (fun place => toLex (place.line, place.column)) fun first second same => by
    cases first
    cases second
    simpa using same

theorem Position.le_iff {first second : Position} : first ≤ second ↔
    first.line < second.line ∨ first.line = second.line ∧ first.column ≤ second.column :=
  Prod.Lex.toLex_le_toLex

theorem Position.le_after (place : Position) (text : List Char) : place ≤ place.after text := by
  have moves := place.after_moves text
  rw [Position.le_iff]
  omega

/-- Tokens that stand in the order of their places, up to the place where they stop. -/
def Ascending (stop : Position) (tokens : List Token) : Prop :=
  (tokens ++ [Parser.endToken stop]).Pairwise fun first second => first.place ≤ second.place

theorem ascending_placed (place : Position) (tiles : List Tile) (last : List Char) :
    Ascending ((placeAfter place tiles).after last) (placed place tiles) ∧
      ∀ token ∈ placed place tiles ++ [Parser.endToken ((placeAfter place tiles).after last)],
        place ≤ token.place := by
  induction tiles generalizing place with
  | nil =>
    refine ⟨List.pairwise_singleton _ _, ?_⟩
    rintro token member
    rw [List.mem_singleton.mp member]
    exact place.le_after last
  | cons tile tiles ih =>
    obtain ⟨ascending, behind⟩ := ih ((place.after tile.gap).after tile.spelling)
    have start := place.le_after tile.gap
    have later (token : Token) (member : token ∈ placed ((place.after tile.gap).after tile.spelling)
        tiles ++ [Parser.endToken ((placeAfter place (tile :: tiles)).after last)]) :
        place.after tile.gap ≤ token.place :=
      ((place.after tile.gap).le_after tile.spelling).trans (behind token member)
    refine ⟨List.pairwise_cons.mpr ⟨later, ascending⟩, ?_⟩
    rintro token member
    rcases List.mem_cons.mp member with rfl | member
    · exact start
    · exact start.trans (later token member)

/-- The place where a source stops. -/
def stopOf (source : String) : Position :=
  (Document.splitEnd (tokenize source)).2

theorem splitEnd_tokensAt_stop {tiles : List Tile} {last : List Char} (tiled : Tiled tiles last)
    (place : Position) :
    (Document.splitEnd (tokensAt place tiles last)).2 = (placeAfter place tiles).after last := by
  induction tiled generalizing place with
  | last isLast => rfl
  | tile isGap spelled _ ih =>
    have notEnd := ne_eof_of_spelled spelled
    simp only [tokensAt, placeAfter, Document.splitEnd, beq_iff_eq, notEnd, if_false, ih]

theorem ascending_tokensOf (source : String) : Ascending (stopOf source) (tokensOf source) := by
  obtain ⟨tiles, last, whole, tiled⟩ := exists_tiled source.toList
  rw [tokensOf_tiled whole tiled, stopOf, tokenize, Cursor.ofSource, whole, tokens_tiled tiled,
    splitEnd_tokensAt_stop tiled]
  exact (ascending_placed _ _ _).1

/-- The place where a parser stands. -/
def here (stop : Position) (tokens : List Token) : Position :=
  (currentToken stop tokens).place

namespace Ascending

variable {stop : Position} {row rest : List Token}

theorem behind (ascending : Ascending stop (row ++ rest)) : Ascending stop rest := by
  rw [Ascending, List.append_assoc, List.pairwise_append] at ascending
  exact ascending.2.1

theorem here_le (ascending : Ascending stop rest) {token : Token}
    (member : token ∈ rest ++ [Parser.endToken stop]) : here stop rest ≤ token.place := by
  cases rest with
  | nil =>
    rw [List.mem_singleton.mp member]
    exact le_rfl
  | cons first rest =>
    rcases List.mem_cons.mp member with rfl | member
    · exact le_rfl
    · exact (List.pairwise_cons.mp ascending).1 token member

theorem currentToken_mem (stop : Position) (rest : List Token) :
    currentToken stop rest ∈ rest ++ [Parser.endToken stop] := by
  cases rest <;> simp [currentToken]

/-- Of tokens in order, those taken stand between the place before and the place behind. -/
theorem between (ascending : Ascending stop (row ++ rest)) {token : Token}
    (member : token ∈ row ++ [currentToken stop rest]) :
    here stop (row ++ rest) ≤ token.place ∧ token.place ≤ here stop rest := by
  have inside : token ∈ row ++ rest ++ [Parser.endToken stop] := by
    rcases List.mem_append.mp member with member | member
    · simp [member]
    · rw [List.mem_singleton.mp member, List.append_assoc]
      exact List.mem_append_right row (currentToken_mem stop rest)
  refine ⟨ascending.here_le inside, ?_⟩
  rcases List.mem_append.mp member with member | member
  · rw [Ascending, List.append_assoc, List.pairwise_append] at ascending
    exact ascending.2.2 token member _ (currentToken_mem stop rest)
  · rw [List.mem_singleton.mp member]
    exact le_rfl

theorem here_mono (ascending : Ascending stop (row ++ rest)) :
    here stop (row ++ rest) ≤ here stop rest :=
  (ascending.between (List.mem_append_right row List.mem_cons_self)).1

end Ascending

/-! ## Diagnostics between two places -/

/-- Diagnostics in the order of their places, none before or behind two given ones. -/
structure Spans (low high : Position) (diagnostics : List SyntaxDiagnostic) : Prop where
  bounded : ∀ diagnostic ∈ diagnostics, low ≤ diagnostic.place ∧ diagnostic.place ≤ high
  ordered : diagnostics.Pairwise fun earlier later => earlier.place ≤ later.place

namespace Spans

variable {low middle high : Position} {diagnostics more : List SyntaxDiagnostic}

theorem nil : Spans low high [] :=
  ⟨nofun, .nil⟩

theorem single {diagnostic : SyntaxDiagnostic} (above : low ≤ diagnostic.place)
    (below : diagnostic.place ≤ high) : Spans low high [diagnostic] :=
  ⟨by simpa using ⟨above, below⟩, List.pairwise_singleton _ _⟩

theorem widen {low' high' : Position} (spans : Spans low high diagnostics) (below : low' ≤ low)
    (above : high ≤ high') : Spans low' high' diagnostics :=
  ⟨fun diagnostic member => ⟨below.trans (spans.bounded diagnostic member).1,
    (spans.bounded diagnostic member).2.trans above⟩, spans.ordered⟩

theorem append (first : Spans low middle diagnostics) (second : Spans middle high more)
    (below : low ≤ middle) (above : middle ≤ high) : Spans low high (diagnostics ++ more) where
  bounded := by
    intro diagnostic member
    rcases List.mem_append.mp member with member | member
    · exact (first.widen le_rfl above).bounded diagnostic member
    · exact (second.widen below le_rfl).bounded diagnostic member
  ordered := List.pairwise_append.mpr ⟨first.ordered, second.ordered,
    fun earlier member later member' =>
      (first.bounded earlier member).2.trans (second.bounded later member').1⟩

/-- Diagnostics at one place. -/
theorem at_place {place : Position} (same : ∀ diagnostic ∈ diagnostics, diagnostic.place = place) :
    Spans place place diagnostics where
  bounded diagnostic member := by rw [same diagnostic member]; exact ⟨le_rfl, le_rfl⟩
  ordered := List.pairwise_of_forall_mem_list fun earlier member later member' => by
    rw [same earlier member, same later member']

end Spans

/-! ## Routines that report in order -/

/-- What an outcome reports, its failure included, stands in order between a place and the place where
it ends. -/
inductive Outcome.InOrder (low stop : Position) (tokens : List Token) :
    {α : Type} → Outcome α → Prop where
  | ok {α : Type} {value : α} (row : List Token) {rest : List Token}
    {reports : List SyntaxDiagnostic} (whole : tokens = row ++ rest)
    (spans : Spans low (here stop rest) reports) : InOrder low stop tokens (.ok value rest reports)
  | failed {α : Type} {diagnostic : SyntaxDiagnostic} (row : List Token) {rest : List Token}
    {reports : List SyntaxDiagnostic} (whole : tokens = row ++ rest)
    (spans : Spans low (here stop rest) (reports ++ [diagnostic])) :
    InOrder low stop tokens (.failed (.syntaxError diagnostic) rest reports : Outcome α)
  | oversized {α : Type} (row : List Token) {rest : List Token} {reports : List SyntaxDiagnostic}
    (whole : tokens = row ++ rest) :
    InOrder low stop tokens (.failed .oversizedInteger rest reports : Outcome α)

/-- Whether a parser that begins behind a place reports in order. -/
def InOrder (low : Position) {α : Type} (parser : Parser α) : Prop :=
  ∀ stop tokens, Ascending stop tokens → low ≤ here stop tokens →
    (parser stop tokens).InOrder low stop tokens

theorem Outcome.InOrder.after {α : Type} {low stop : Position} {row rest : List Token}
    {outcome : Outcome α} {earlier : List SyntaxDiagnostic}
    (later : outcome.InOrder (here stop rest) stop rest)
    (ascending : Ascending stop (row ++ rest)) (behind : low ≤ here stop (row ++ rest))
    (spans : Spans low (here stop rest) earlier) :
    (outcome.after earlier).InOrder low stop (row ++ rest) := by
  have below : low ≤ here stop rest := behind.trans ascending.here_mono
  cases later with
  | ok row' whole spans' =>
    refine .ok (row ++ row') (by rw [whole, List.append_assoc])
      (spans.append spans' below ?_)
    rw [whole] at ascending ⊢
    exact ascending.behind.here_mono
  | failed row' whole spans' =>
    refine .failed (row ++ row') (by rw [whole, List.append_assoc]) ?_
    rw [List.append_assoc]
    refine spans.append spans' below ?_
    rw [whole] at ascending ⊢
    exact ascending.behind.here_mono
  | oversized row' whole => exact .oversized (row ++ row') (by rw [whole, List.append_assoc])

/-- What is in order from a later place on is so from an earlier one on, with tokens in front. -/
theorem Outcome.InOrder.behind {α : Type} {low low' stop : Position} {rest : List Token}
    {outcome : Outcome α} (inOrder : outcome.InOrder low' stop rest) (row : List Token)
    (below : low ≤ low') : outcome.InOrder low stop (row ++ rest) := by
  cases inOrder with
  | ok row' whole spans =>
    exact .ok (row ++ row') (by rw [whole, List.append_assoc]) (spans.widen below le_rfl)
  | failed row' whole spans =>
    exact .failed (row ++ row') (by rw [whole, List.append_assoc]) (spans.widen below le_rfl)
  | oversized row' whole => exact .oversized (row ++ row') (by rw [whole, List.append_assoc])

namespace InOrder

variable {α β σ : Type} {low : Position}

/-- A parser that points reports in order, if the tokens that it is told of stand at the place. -/
theorem of_points {known : List Token} {parser : Parser α} (points : Points known parser)
    (stands : ∀ token ∈ known, token.place = low) : InOrder low parser := by
  intro stop tokens ascending behind
  have pointed := points stop tokens
  generalize parser stop tokens = outcome at pointed ⊢
  cases pointed with
  | ok row whole => exact .ok row whole .nil
  | oversized row whole => exact .oversized row whole
  | failed row whole points =>
    obtain ⟨token, member, isAbout⟩ := points
    subst whole
    refine .failed row rfl (.single ?_ ?_) <;> rw [isAbout.place]
    all_goals
      rw [List.append_assoc] at member
      rcases List.mem_append.mp member with isKnown | member
    · rw [stands token isKnown]
    · exact behind.trans (ascending.between member).1
    · rw [stands token isKnown]
      exact behind.trans ascending.here_mono
    · exact (ascending.between member).2

theorem plain {parser : Parser α} (points : Points [] parser) : InOrder low parser :=
  of_points points nofun

theorem passes {parser : Parser α} (passes : PassesOver parser) : InOrder low parser := by
  intro stop tokens _ _
  obtain ⟨value, rest, run, row, rfl⟩ := passes stop tokens
  rw [run]
  exact .ok row rfl .nil

theorem bind {first : Parser α} {next : α → Parser β} (firsts : InOrder low first)
    (nexts : ∀ value place, InOrder place (next value)) : InOrder low (first >>= next) := by
  intro stop tokens ascending behind
  have begun := firsts stop tokens ascending behind
  rw [Parser.bind_run]
  cases run : first stop tokens with
  | ok value rest reports =>
    rw [run] at begun
    cases begun with
    | ok row whole spans =>
      subst whole
      exact (nexts value _ stop rest ascending.behind le_rfl).after ascending behind spans
  | failed failure rest reports =>
    rw [run] at begun
    cases begun with
    | failed row whole spans => exact .failed row whole spans
    | oversized row whole => exact .oversized row whole

theorem pure (value : α) : InOrder low (Pure.pure value) :=
  passes (.pure value)

theorem loop {more : σ → List Token → Bool} {step : σ → Parser σ}
    (steps : ∀ state place, InOrder place (step state)) (state : σ) :
    InOrder low (Parser.loop more step state) := by
  intro stop tokens
  refine Parser.loop_induct (motive := fun _ tokens outcome => ∀ {low : Position},
    Ascending stop tokens → low ≤ here stop tokens → outcome.InOrder low stop tokens)
    ?_ ?_ ?_ state tokens
  · exact fun _ _ _ _ _ _ => .ok [] rfl .nil
  · exact fun state tokens _ _ low ascending behind => steps state low stop tokens ascending behind
  · intro state next tokens rest reports outcome _ run later low ascending behind
    have begun := steps state low stop tokens ascending behind
    rw [run] at begun
    cases begun with
    | ok row whole spans =>
      subst whole
      exact (later ascending.behind le_rfl).after ascending behind spans

/-! ### The parts of a header -/

/-- A name that is reported at its own place. -/
theorem reportedName {use : Token → Parser α}
    (uses : ∀ name stop rest, ∃ value reports, use name stop rest = .ok value rest reports ∧
      ∀ diagnostic ∈ reports, diagnostic.place = name.place) :
    InOrder low (Parser.expectName >>= use) := by
  intro stop tokens ascending behind
  have notName : TokenKind.isName .eof = false := rfl
  rcases accept_cases notName .name stop tokens with ⟨name, rest, rfl, _, run⟩ | run
  · obtain ⟨value, reports, used, same⟩ := uses name stop rest
    rw [Parser.expectName, Parser.bind_run_clean run, used]
    have inOrder : Ascending stop ([name] ++ rest) := ascending
    exact .ok [name] rfl ((Spans.at_place same).widen behind
      (inOrder.between List.mem_cons_self).2)
  · rw [Parser.expectName, Parser.bind_run_failed run]
    exact .failed [] rfl (.single behind le_rfl)

theorem platforms : InOrder low Grammar.platforms := by
  have symbol (mark : Symbol) (place : Position) : InOrder place (Parser.expectSymbol mark) :=
    plain .expectSymbol
  refine (symbol _ _).bind fun _ _ => (bind (loop (fun _ _ => bind (reportedName ?_) fun _ _ =>
    bind (plain (.option _)) fun _ _ => pure _) _) fun _ _ => pure _).bind
      fun _ _ => (symbol _ _).bind fun _ _ => pure _
  intro name stop rest
  simp only
  split
  · exact ⟨_, _, rfl, by simp⟩
  · exact ⟨_, _, rfl, nofun⟩

theorem headerAttribute (key : Token) (header : Header) :
    InOrder key.place (Grammar.headerAttribute key header) := by
  by_cases isPlatforms : key.value = "platforms"
  · have same : Grammar.headerAttribute key header =
        Grammar.platforms >>= fun found => Pure.pure { header with platforms := found } := by
      simp [Grammar.headerAttribute, isPlatforms]
    rw [same]
    exact platforms.bind fun _ _ => pure _
  · exact of_points (Points.headerAttribute List.mem_cons_self isPlatforms header)
      fun token member => by rw [List.mem_singleton.mp member]

/-- Where an attribute fails, reading goes on behind the place of the failure. -/
theorem headerContent (key : Token) (header : Header) :
    InOrder key.place (Grammar.headerContent key header) := by
  intro stop tokens ascending behind
  have begun := headerAttribute key header stop tokens ascending behind
  have overtaken := Overtaken.headerAttribute key header stop tokens
  unfold Grammar.headerContent Parser.orRetry
  generalize Grammar.headerAttribute key header stop tokens = outcome at begun overtaken ⊢
  cases begun with
  | ok row whole spans => exact .ok row whole spans
  | oversized row whole => exact .oversized row whole
  | @failed diagnostic row rest reports whole spans =>
    obtain ⟨passed, left⟩ := overtaken _ _ _ rfl
    have skipped : (skipValue >>= fun _ => Pure.pure header) stop tokens =
        .ok header (afterValue 0 tokens) [] := rfl
    have between : here stop rest ≤ here stop (afterValue 0 tokens) := by
      rw [← left]
      rw [whole, ← left] at ascending
      exact ascending.behind.here_mono
    simp only [skipped, Outcome.after_ok, List.append_nil]
    exact .ok (row ++ passed) (by rw [List.append_assoc, left, whole])
      (spans.widen le_rfl between)

/-- Recovery from what is no key leads behind the second token, which a failure may be about. -/
theorem headerEntry (body : OpenHeader) : InOrder low (Grammar.headerEntry body) := by
  intro stop tokens ascending behind
  unfold Grammar.headerEntry
  rcases headerKey_cases stop tokens with ⟨key, colon, rest, rfl, _, _, found⟩ |
    ⟨expected, blamed, left, first, recovered, passed, whole⟩
  · rw [Parser.bind_run_clean found]
    have inOrder : Ascending stop ([key, colon] ++ rest) := ascending
    have later := ((headerContent key body.header).bind fun next _ =>
      bind (passes .skipCommas) fun _ _ => pure (OpenHeader.mk next (key.value :: body.seen)))
        stop rest inOrder.behind (inOrder.between List.mem_cons_self).2
    exact later.behind [key, colon] behind
  · rw [Parser.bind_run_ok recovered]
    have split : tokens = tokens.take 1 ++ passed ++ left := by
      rw [List.append_assoc, whole, List.take_append_drop]
    have second : here stop tokens ≤ here stop (tokens.drop 1) := by
      rw [← tokens.take_append_drop 1] at ascending
      simpa only [List.take_append_drop] using ascending.here_mono
    have reached : here stop (tokens.drop 1) ≤ here stop left := by
      rw [← whole]
      refine Ascending.here_mono ?_
      rw [← tokens.take_append_drop 1, ← whole] at ascending
      exact ascending.behind
    have between : here stop tokens ≤ blamed.place ∧ blamed.place ≤ here stop left := by
      rcases first with rfl | rfl
      · exact ⟨le_rfl, second.trans reached⟩
      · exact ⟨second, reached⟩
    have later : ((Parser.skipCommas >>= fun _ => Pure.pure body) stop left).InOrder
        (here stop left) stop left := by
      rw [split] at ascending
      exact (bind (passes .skipCommas) fun _ _ => pure _) stop left ascending.behind le_rfl
    have reported : Spans low (here stop left) [SyntaxDiagnostic.unexpected expected blamed] :=
      .single (behind.trans between.1) between.2
    rw [split] at ascending behind ⊢
    exact later.after ascending behind reported

theorem closeHeader (app : String) : InOrder low (Grammar.closeHeader app) := by
  refine bind (plain (.option _)) fun closed place => ?_
  split
  · intro stop tokens _ behind
    exact .ok [] rfl (.single behind le_rfl)
  · exact pure _

end InOrder

/-! ### Reports about what has begun -/

/-- An outcome that reports only at one place, and where it fails, reports only the failure. -/
inductive Outcome.Late (place stop : Position) (tokens : List Token) :
    {α : Type} → Outcome α → Prop where
  | ok {α : Type} {value : α} (row : List Token) {rest : List Token}
    {reports : List SyntaxDiagnostic} (whole : tokens = row ++ rest)
    (same : ∀ diagnostic ∈ reports, diagnostic.place = place) :
    Late place stop tokens (.ok value rest reports)
  | failed {α : Type} {diagnostic : SyntaxDiagnostic} (row : List Token) {rest : List Token}
    (whole : tokens = row ++ rest) (above : place ≤ diagnostic.place)
    (below : diagnostic.place ≤ here stop rest) :
    Late place stop tokens (.failed (.syntaxError diagnostic) rest [] : Outcome α)
  | oversized {α : Type} (row : List Token) {rest : List Token} (whole : tokens = row ++ rest) :
    Late place stop tokens (.failed .oversizedInteger rest [] : Outcome α)

/-- Whether a parser that begins behind a place reports, when all is read, at that place only. -/
def Late (place : Position) {α : Type} (parser : Parser α) : Prop :=
  ∀ stop tokens, Ascending stop tokens → place ≤ here stop tokens →
    (parser stop tokens).Late place stop tokens

theorem Outcome.Late.behind {α : Type} {place stop : Position} {rest : List Token}
    {outcome : Outcome α} (late : outcome.Late place stop rest) (row : List Token) :
    outcome.Late place stop (row ++ rest) := by
  cases late with
  | ok row' whole same => exact .ok (row ++ row') (by rw [whole, List.append_assoc]) same
  | failed row' whole above below =>
    exact .failed (row ++ row') (by rw [whole, List.append_assoc]) above below
  | oversized row' whole => exact .oversized (row ++ row') (by rw [whole, List.append_assoc])

namespace Late

variable {α β : Type} {place : Position}

theorem report {parser : Parser α}
    (reports : ∀ stop tokens, ∃ value reports, parser stop tokens = .ok value tokens reports ∧
      ∀ diagnostic ∈ reports, diagnostic.place = place) : Late place parser := by
  intro stop tokens _ _
  obtain ⟨value, reports, run, same⟩ := reports stop tokens
  rw [run]
  exact .ok [] rfl same

theorem bind {first : Parser α} {next : α → Parser β} (points : Points [] first)
    (nexts : ∀ value, Late place (next value)) : Late place (first >>= next) := by
  intro stop tokens ascending behind
  have pointed := points stop tokens
  rw [Parser.bind_run]
  generalize first stop tokens = outcome at pointed ⊢
  cases pointed with
  | oversized row whole => exact .oversized row whole
  | failed row whole points =>
    obtain ⟨token, member, isAbout⟩ := points
    subst whole
    have between := ascending.between member
    rw [← isAbout.place] at between
    exact .failed row rfl (behind.trans between.1) between.2
  | ok row whole =>
    subst whole
    simp only [Outcome.after_nil]
    exact (nexts _ stop _ ascending.behind (behind.trans ascending.here_mono)).behind row

theorem inOrder {parser : Parser α} (late : Late place parser) : InOrder place parser := by
  intro stop tokens ascending behind
  have told := late stop tokens ascending behind
  generalize parser stop tokens = outcome at told ⊢
  cases told with
  | ok row whole same =>
    subst whole
    exact .ok row rfl ((Spans.at_place same).widen le_rfl (behind.trans ascending.here_mono))
  | failed row whole above below => exact .failed row whole (.single above below)
  | oversized row whole => exact .oversized row whole

end Late

theorem InOrder.screen {low : Position} : InOrder low Grammar.screen := by
  intro stop tokens ascending behind
  have noEnd : [TokenKind.keyword .screen].contains .eof = false := rfl
  unfold Grammar.screen
  rcases accept_cases noEnd (.kinds [.keyword .screen]) stop tokens with
    ⟨keyword, rest, rfl, _, run⟩ | run
  · rw [Parser.expect, Parser.expectOneOf, Parser.bind_run_clean run]
    have inOrder : Ascending stop ([keyword] ++ rest) := ascending
    refine Outcome.InOrder.behind (Late.inOrder ?_ stop rest inOrder.behind
      (inOrder.between List.mem_cons_self).2) [keyword] behind
    refine .bind .expectName fun name => .bind .expectSymbol fun _ =>
      .bind (.untilClosed _ .screenEntry _) fun body => .bind .expectSymbol fun _ =>
        .report fun stop tokens => ?_
    split
    · exact ⟨_, _, rfl, by simp⟩
    · exact ⟨_, _, rfl, by simp⟩
  · rw [Parser.expect, Parser.expectOneOf, Parser.bind_run_failed run]
    exact .failed [] rfl (.single behind le_rfl)

end Blueprint
