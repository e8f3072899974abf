import Blueprint.Proofs.HeaderValues
import Blueprint.Proofs.Heads

/-!
Headers survive. A header whose opening brace has been read is delivered whatever follows. Where its
body is a row of attributes, each of which either fits or has any value that can be passed over, the
header is made of the attributes that fit, and one diagnostic tells of each that does not.
-/
set_option autoImplicit false

namespace Blueprint

open Grammar

/-! ## Attributes in rows -/

/-- What an attribute sets in a header. -/
inductive HeaderSetting where
  | displayName (text : String)
  | appId (text : String)
  | version (text : String)
  | platforms (found : List Platform)
  | theme (fields : Fields String)

namespace HeaderSetting

def key : HeaderSetting → String
  | .displayName _ => "name"
  | .appId _ => "id"
  | .version _ => "version"
  | .platforms _ => "platforms"
  | .theme _ => "theme"

/-- The header with an attribute; a later one replaces what was said before. -/
def set (header : Header) : HeaderSetting → Header
  | .displayName text => { header with displayName := text }
  | .appId text => { header with appId := text }
  | .version text => { header with version := text }
  | .platforms found => { header with platforms := found }
  | .theme fields => { header with theme := some fields }

/-- Whether a row of tokens is the value of an attribute that sets something. -/
inductive Written : HeaderSetting → List Token → Prop where
  | displayName {token : Token} (isText : token.kind = .string) :
    Written (.displayName token.value) [token]
  | appId {token : Token} (isText : token.kind = .string) : Written (.appId token.value) [token]
  | version {token : Token} (isText : token.kind = .string) : Written (.version token.value) [token]
  | platforms {found : List Platform} {row : List Token} (listed : PlatformGroup found row) :
    Written (.platforms found) row
  | theme {fields : Fields String} {row : List Token} (group : ThemeGroup fields row) :
    Written (.theme fields) row

end HeaderSetting

/-- Keywords of sections, which a brace may follow behind a colon. -/
def TokenKind.beginsSection : TokenKind → Bool
  | .keyword .navigation | .keyword .api | .keyword .mockData => true
  | _ => false

/-- An attribute of a header: a key, a colon and a value, with any commas behind it. It sets what its
value says; or it sets nothing, because no attribute has its key or because its key does not go with
its value, which is one token or one group. -/
structure AttributeRow where
  key : Token
  colon : Token
  value : List Token
  commas : List Token
  setting : Option HeaderSetting
  isName : key.kind.isName = true
  isColon : colon.kind = .symbol .colon
  areCommas : Commas commas
  opensNothing : key.kind.beginsSection = true →
    Parser.startsWith (.symbol .leftBrace) value = false
  fits : ∀ sets ∈ setting, sets.key = key.value ∧ sets.Written value
  misfits : setting = none → IsValue value ∧ key.value ≠ "platforms" ∧
    ∀ sets : HeaderSetting, sets.key = key.value → ¬ sets.Written value

namespace AttributeRow

def tokens (row : AttributeRow) : List Token :=
  row.key :: row.colon :: (row.value ++ row.commas)

/-- What an attribute leaves of a header. -/
def set (header : Header) (row : AttributeRow) : Header :=
  (row.setting.map (HeaderSetting.set header)).getD header

/-- What is reported of an attribute: one diagnostic, about its key or its value, if it sets nothing. -/
inductive Reported (row : AttributeRow) : List SyntaxDiagnostic → Prop where
  | fit (sets : row.setting.isNone = false) : Reported row []
  | misfit {diagnostic : SyntaxDiagnostic} (sets : row.setting.isNone = true)
    (points : PointsInto (row.key :: row.value) diagnostic) : Reported row [diagnostic]

end AttributeRow

/-! ## Reading the value of an attribute -/

theorem HeaderSetting.Written.run {sets : HeaderSetting} {value : List Token}
    (written : sets.Written value) {key : Token} (isKey : sets.key = key.value) (header : Header)
    (stop : Position) (rest : List Token) :
    headerAttribute key header stop (value ++ rest) = .ok (sets.set header) rest [] := by
  unfold headerAttribute
  rw [← isKey]
  cases written with
  | displayName isText => exact Parser.bind_run_clean (expectText_run isText stop rest) _
  | appId isText => exact Parser.bind_run_clean (expectText_run isText stop rest) _
  | version isText => exact Parser.bind_run_clean (expectText_run isText stop rest) _
  | platforms listed => exact Parser.bind_run_clean (listed.run stop rest) _
  | theme group => exact Parser.bind_run_clean (group.run stop rest) _

/-- Whether a parser fails at a value, wherever it stands, without a report before. -/
def Refuses (blamed value : List Token) {α : Type} (parser : Parser α) : Prop :=
  ∀ stop rest, ∃ diagnostic left,
    parser stop (value ++ rest) = .failed (.syntaxError diagnostic) left [] ∧
      PointsInto blamed diagnostic

/-- Where a theme fails at a value, it has not come to the end of the value. -/
theorem IsValue.stops {value row rest left : List Token} (isValue : IsValue value)
    (same : value ++ rest = row ++ left)
    (stopped : left = value ++ rest ∨ ∃ first taken, value ++ rest = first :: (taken ++ left) ∧
      first.kind = .symbol .leftBrace ∧ Begun taken) :
    ∃ head others, value = row ++ head :: others ∧ left = head :: (others ++ rest) := by
  rcases stopped with rfl | ⟨first, taken, whole, opens, begun⟩
  · have noRow : row = [] := List.append_left_eq_self.mp same.symm
    subst noRow
    cases isValue with
    | token => exact ⟨_, [], rfl, rfl⟩
    | group => exact ⟨_, _, rfl, rfl⟩
  · have isRow : row = first :: taken :=
      List.append_cancel_right (same.symm.trans (by rw [whole]; rfl))
    subst isRow
    cases isValue with
    | token isPlain =>
      obtain ⟨rfl, _⟩ := List.cons.inj whole
      rw [opens] at isPlain
      contradiction
    | @group first' last opening closing inside pair opens' closes content =>
      obtain ⟨rfl, behind⟩ := List.cons.inj whole
      obtain rfl : .leftBrace = opening := TokenKind.symbol.inj (opens.symm.trans opens')
      cases pair with
      | braces =>
        have behind' : inside ++ last :: rest = taken ++ left := by
          rw [← behind]
          exact (List.append_assoc inside [last] rest).symm
        obtain ⟨within, rfl, rfl⟩ := begun.confined content.excess_eq.le closes behind'
        cases within with
        | nil => exact ⟨last, [], by simp, by simp⟩
        | cons head others => exact ⟨head, others ++ [last], by simp, by simp⟩

namespace Refuses

variable {blamed value : List Token} {α β : Type}

theorem map {first : Parser α} {use : α → β} (refuses : Refuses blamed value first) :
    Refuses blamed value (first >>= fun found => pure (use found)) := by
  intro stop rest
  obtain ⟨diagnostic, left, run, points⟩ := refuses stop rest
  exact ⟨diagnostic, left, Parser.bind_run_failed run _, points⟩

theorem expectText (isValue : IsValue value) (notText : ∀ token, value = [token] → token.kind ≠ .string)
    (blames : value ⊆ blamed) : Refuses blamed value Parser.expectText := by
  intro stop rest
  obtain ⟨head, others, rfl, notString⟩ :
      ∃ head others, value = head :: others ∧ head.kind ≠ .string := by
    cases isValue with
    | token => exact ⟨_, [], rfl, notText _ rfl⟩
    | group _ opens => exact ⟨_, _, rfl, by simp [opens]⟩
  have other : [TokenKind.string].contains (currentToken stop (head :: others ++ rest)).kind = false := by
    simpa [currentToken] using notString
  exact ⟨_, _, Parser.bind_run_failed (accept_refused other (.kinds [.string])) _, head, blames List.mem_cons_self,
    SyntaxDiagnostic.unexpected_pointsAt _ head⟩

/-- A theme that fails does so at a token of the value, since it would have to leave a group that is
not closed. -/
theorem theme (isValue : IsValue value) (notTheme : ∀ fields, ¬ ThemeGroup fields value)
    (blames : value ⊆ blamed) : Refuses blamed value Grammar.theme := by
  intro stop rest
  have points : (Grammar.theme stop (value ++ rest)).Points [] stop (value ++ rest) :=
    Points.theme stop _
  have onGrammar := OnGrammar.theme stop (value ++ rest)
  cases run : Grammar.theme stop (value ++ rest) with
  | ok fields left reports =>
    obtain ⟨row, same, group⟩ := themeGroup_of_ok run
    rw [isValue.unique group.isValue same] at notTheme
    exact absurd group (notTheme fields)
  | failed failure left reports =>
    have stopped := theme_failed run
    rw [run] at points onGrammar
    cases points with
    | oversized row whole => exact absurd rfl (onGrammar left [])
    | @failed diagnostic row _ whole points =>
      refine ⟨diagnostic, left, rfl, points.mono fun token member => blames ?_⟩
      obtain ⟨head, others, rfl, rfl⟩ := isValue.stops whole stopped
      simp only [List.nil_append, currentToken, List.head?_cons, Option.getD_some,
        List.mem_append, List.mem_singleton] at member
      rcases member with member | rfl
      · exact List.mem_append_left _ member
      · exact List.mem_append_right _ List.mem_cons_self

end Refuses

/-- An attribute that sets nothing is refused. -/
theorem AttributeRow.refused (row : AttributeRow) (sets : row.setting = none) (header : Header) :
    Refuses (row.key :: row.value) row.value (headerAttribute row.key header) := by
  obtain ⟨isValue, notPlatforms, notWritten⟩ := row.misfits sets
  have blames : row.value ⊆ row.key :: row.value := List.subset_cons_self _ _
  unfold headerAttribute
  split
  · next isKey =>
    refine (Refuses.expectText isValue (fun token whole isText => ?_) blames).map
    have written : (HeaderSetting.displayName token.value).Written row.value := whole ▸ .displayName isText
    exact notWritten (.displayName token.value) isKey.symm written
  · next isKey =>
    refine (Refuses.expectText isValue (fun token whole isText => ?_) blames).map
    have written : (HeaderSetting.appId token.value).Written row.value := whole ▸ .appId isText
    exact notWritten (.appId token.value) isKey.symm written
  · next isKey =>
    refine (Refuses.expectText isValue (fun token whole isText => ?_) blames).map
    have written : (HeaderSetting.version token.value).Written row.value := whole ▸ .version isText
    exact notWritten (.version token.value) isKey.symm written
  · contradiction
  · next isKey =>
    refine (Refuses.theme isValue (fun fields group => ?_) blames).map
    exact notWritten (.theme fields) isKey.symm (.theme group)
  · intro stop rest
    exact ⟨_, _, rfl, row.key, List.mem_cons_self,
      SyntaxProblem.IsOwn.pointsAt (by nofun) row.key⟩

/-- An attribute is read into a header, or its value is passed over. -/
theorem AttributeRow.content (row : AttributeRow) (header : Header) (stop : Position)
    (rest : List Token) : ∃ reports, headerContent row.key header stop (row.value ++ rest) =
      .ok (row.set header) rest reports ∧ row.Reported reports := by
  cases sets : row.setting with
  | some setting =>
    obtain ⟨isKey, written⟩ := row.fits setting sets
    have run := written.run isKey header stop rest
    refine ⟨[], ?_, .fit (by rw [sets]; rfl)⟩
    rw [headerContent, Parser.orRetry_run_ok run, AttributeRow.set, sets]
    rfl
  | none =>
    obtain ⟨diagnostic, left, run, points⟩ := row.refused sets header stop rest
    have passed := (row.misfits sets).1.afterValue rest
    have skipped : (skipValue >>= fun _ => pure header) stop (row.value ++ rest) =
        .ok header rest [] := by
      rw [Parser.bind_run_clean rfl, passed]
      rfl
    refine ⟨[diagnostic], ?_, .misfit (by rw [sets]; rfl) points⟩
    unfold headerContent Parser.orRetry
    simp only [run, skipped]
    rw [AttributeRow.set, sets]
    rfl

theorem AttributeRow.entry (row : AttributeRow) (body : OpenHeader) (stop : Position)
    {rest : List Token} (ends : Parser.startsWith (.symbol .comma) rest = false) :
    ∃ reports, headerEntry body stop (row.tokens ++ rest) =
      .ok ⟨row.set body.header, row.key.value :: body.seen⟩ rest reports ∧ row.Reported reports := by
  obtain ⟨reports, read, reported⟩ := row.content body.header stop (row.commas ++ rest)
  have found : headerKey stop (row.key :: row.colon :: (row.value ++ (row.commas ++ rest))) =
      .ok (some row.key) (row.value ++ (row.commas ++ rest)) [] :=
    Parser.orRetry_run_ok (Parser.bind_run_clean (expectKey_run row.isName row.isColon stop _) _) _
  have skipped : Parser.skipCommas stop (row.commas ++ rest) = .ok () rest [] := by
    rw [Parser.skipCommas, Parser.skip, afterCommas_append row.areCommas ends]
  refine ⟨reports, ?_, reported⟩
  have whole : row.tokens ++ rest =
      row.key :: row.colon :: (row.value ++ (row.commas ++ rest)) := by
    simp [AttributeRow.tokens]
  rw [whole]
  refine (Parser.bind_run_clean found _).trans ((Parser.bind_run_ok read _).trans ?_)
  rw [Parser.bind_run_clean skipped, Parser.pure_run, Outcome.after_ok, List.append_nil]

/-! ## Reading the rows of a header -/

theorem IsValue.eq_cons {value : List Token} (isValue : IsValue value) :
    ∃ head others, value = head :: others := by
  cases isValue <;> exact ⟨_, _, rfl⟩

theorem HeaderSetting.Written.eq_cons {sets : HeaderSetting} {value : List Token}
    (written : sets.Written value) : ∃ head others, value = head :: others := by
  cases written with
  | displayName | appId | version => exact ⟨_, _, rfl⟩
  | platforms listed => cases listed; exact ⟨_, _, rfl⟩
  | theme group => exact group.isValue.eq_cons

theorem AttributeRow.value_eq_cons (row : AttributeRow) :
    ∃ head others, row.value = head :: others := by
  cases sets : row.setting with
  | none => exact (row.misfits sets).1.eq_cons
  | some setting => exact (row.fits setting sets).2.eq_cons

/-- An attribute neither closes a header nor begins a statement. -/
theorem AttributeRow.goesOn (row : AttributeRow) (rest : List Token) :
    endsHeader (row.tokens ++ rest) = false := by
  obtain ⟨head, others, isValue⟩ := row.value_eq_cons
  have whole : row.tokens ++ rest =
      row.key :: row.colon :: head :: (others ++ row.commas ++ rest) := by
    simp [AttributeRow.tokens, isValue]
  have isOpen : row.key.kind ≠ .symbol .rightBrace := by
    intro isBrace
    have isName := row.isName
    rw [isBrace] at isName
    contradiction
  have noBrace := row.opensNothing
  rw [isValue] at noBrace
  have open' : Parser.stillOpen .rightBrace (row.key :: row.colon :: head ::
      (others ++ row.commas ++ rest)) = true := by
    simpa [Parser.stillOpen] using isOpen
  rw [whole, endsHeader, open', Bool.not_true, Bool.false_or]
  unfold startsStatement
  simp only [List.getElem?_cons_zero, List.getElem?_cons_succ, Option.map_some, Option.getD_some,
    row.isColon]
  split
  · rfl
  · rfl
  · rfl
  all_goals simp_all [TokenKind.beginsSection, Parser.startsWith]

/-- No comma stands where the next attribute of a header or its closing brace does. -/
theorem startsWith_rows (rows : List AttributeRow) {last : Token}
    (closes : last.kind = .symbol .rightBrace) (rest : List Token) :
    Parser.startsWith (.symbol .comma) (rows.flatMap AttributeRow.tokens ++ last :: rest) = false := by
  cases rows with
  | nil => simp [Parser.startsWith, closes]
  | cons row rows =>
    have notComma : row.key.kind ≠ .symbol .comma := by
      intro isComma
      have isName := row.isName
      rw [isComma] at isName
      contradiction
    simp [AttributeRow.tokens, Parser.startsWith, notComma]

/-- One diagnostic for each attribute that sets nothing, in their order. -/
def ReportedAll (rows : List AttributeRow) (reports : List SyntaxDiagnostic) : Prop :=
  List.Forall₂ (fun row report => PointsInto (row.key :: row.value) report)
    (rows.filter fun row => row.setting.isNone) reports

theorem AttributeRow.Reported.cons {row : AttributeRow} {rows : List AttributeRow}
    {reports more : List SyntaxDiagnostic} (reported : row.Reported reports)
    (others : ReportedAll rows more) : ReportedAll (row :: rows) (reports ++ more) := by
  cases reported with
  | fit sets => simpa [ReportedAll, sets] using others
  | misfit sets points =>
    rw [ReportedAll, List.filter_cons, if_pos sets]
    exact .cons points others

theorem rows_run (rows : List AttributeRow) {last : Token} (closes : last.kind = .symbol .rightBrace)
    (stop : Position) (rest : List Token) (body : OpenHeader) :
    ∃ reports, Parser.loop (fun _ tokens => !endsHeader tokens) headerEntry body stop
        (rows.flatMap AttributeRow.tokens ++ last :: rest) =
      .ok ⟨rows.foldl AttributeRow.set body.header,
        (rows.map fun row => row.key.value).reverse ++ body.seen⟩ (last :: rest) reports ∧
      ReportedAll rows reports := by
  induction rows generalizing body with
  | nil => exact ⟨[], Parser.loop_stop (by simp [endsHeader, Parser.stillOpen, closes]), .nil⟩
  | cons row rows ih =>
    obtain ⟨reports, read, reported⟩ := row.entry body stop (startsWith_rows rows closes rest)
    obtain ⟨more, run, others⟩ :=
      ih ⟨row.set body.header, row.key.value :: body.seen⟩
    refine ⟨reports ++ more, ?_, reported.cons others⟩
    have shorter : (rows.flatMap AttributeRow.tokens ++ last :: rest).length <
        (row.tokens ++ (rows.flatMap AttributeRow.tokens ++ last :: rest)).length := by
      simp only [AttributeRow.tokens, List.length_append, List.length_cons]
      omega
    rw [List.flatMap_cons, List.append_assoc,
      Parser.loop_step (by rw [row.goesOn]; rfl) read shorter, run]
    simp

theorem foldl_set (rows : List AttributeRow) (header : Header) :
    rows.foldl AttributeRow.set header =
      (rows.filterMap AttributeRow.setting).foldl HeaderSetting.set header := by
  induction rows generalizing header with
  | nil => rfl
  | cons row rows ih =>
    rw [List.foldl_cons, ih, AttributeRow.set, List.filterMap_cons]
    cases row.setting <;> rfl

/-- What is reported as missing depends on which keys have been met, not on their order. -/
theorem missingReports_congr {seen seen' : List String} (same : ∀ key, key ∈ seen ↔ key ∈ seen')
    (app : String) (place : Position) :
    missingReports app place seen = missingReports app place seen' := by
  unfold missingReports
  congr 2
  funext required
  simp [same required]

theorem closeHeader_run {last : Token} (closes : last.kind = .symbol .rightBrace) (app : String)
    (stop : Position) (rest : List Token) :
    closeHeader app stop (last :: rest) = .ok () rest [] := by
  have closed : Parser.option (.symbol .rightBrace) stop (last :: rest) = .ok true rest [] := by
    rw [Parser.option, Parser.takeIf_run, if_pos (by simp [Parser.startsWith, closes])]
    rfl
  exact Parser.bind_run_clean closed _

/-! ## Headers that go on in any way -/

/-- Whether all that a parser delivers, with reports or without, has a property. -/
def Produces {α : Type} (property : α → Prop) (parser : Parser α) : Prop :=
  ∀ stop tokens value rest reports, parser stop tokens = .ok value rest reports → property value

theorem Produces.map {α β : Type} {property : β → Prop} {first : Parser α} {use : α → β}
    (holds : ∀ found, property (use found)) :
    Produces property (first >>= fun found => pure (use found)) := by
  intro stop tokens value rest reports success
  obtain ⟨found, _, _, _, _, delivered, _⟩ := Parser.bind_eq_ok success
  rw [Parser.pure_run, Outcome.ok.injEq] at delivered
  exact delivered.1 ▸ holds found

/-- No attribute changes the name of a header. -/
theorem produces_headerAttribute (key : Token) (header : Header) :
    Produces (fun next => next.name = header.name) (headerAttribute key header) := by
  unfold headerAttribute
  split
  · exact .map fun _ => rfl
  · exact .map fun _ => rfl
  · exact .map fun _ => rfl
  · exact .map fun _ => rfl
  · exact .map fun _ => rfl
  · intro stop tokens value rest reports success
    contradiction

/-- Whether a parser delivers, whatever it reads, a value with a property. -/
def Survives {α : Type} (property : α → Prop) (parser : Parser α) : Prop :=
  ∀ stop tokens, ∃ value rest reports, parser stop tokens = .ok value rest reports ∧ property value

namespace Survives

variable {α β : Type} {property : α → Prop} {later : β → Prop}

theorem of_passesOver {parser : Parser α} (passes : PassesOver parser) :
    Survives (fun _ => True) parser := by
  intro stop tokens
  obtain ⟨value, rest, run, _⟩ := passes stop tokens
  exact ⟨value, rest, [], run, trivial⟩

theorem pure {value : α} (holds : property value) : Survives property (Pure.pure value) :=
  fun _ tokens => ⟨value, tokens, [], rfl, holds⟩

theorem bind {first : Parser α} {next : α → Parser β} (firsts : Survives property first)
    (nexts : ∀ value, property value → Survives later (next value)) :
    Survives later (first >>= next) := by
  intro stop tokens
  obtain ⟨middle, between, earlier, run, holds⟩ := firsts stop tokens
  obtain ⟨value, rest, reports, run', holds'⟩ := nexts middle holds stop between
  exact ⟨value, rest, earlier ++ reports, by rw [Parser.bind_run_ok run, run', Outcome.after_ok],
    holds'⟩

/-- A second attempt survives what the first one fails over. -/
theorem orRetry {first second : Parser α} (onGrammar : Keeps OnGrammar first)
    (produces : Produces property first) (seconds : Survives property second) :
    Survives property (Parser.orRetry first second) := by
  intro stop tokens
  have grammatical := onGrammar stop tokens
  unfold Parser.orRetry
  cases run : first stop tokens with
  | ok value rest reports =>
    exact ⟨value, rest, reports, rfl, produces stop tokens value rest reports run⟩
  | failed failure rest reports =>
    rw [run] at grammatical
    cases failure with
    | oversizedInteger => exact absurd rfl (grammatical rest reports)
    | syntaxError diagnostic =>
      obtain ⟨value, left, more, run', holds⟩ := seconds stop tokens
      exact ⟨value, left, _, by simp only [run']; rfl, holds⟩

theorem loop {more : α → List Token → Bool} {step : α → Parser α}
    (steps : ∀ state, property state → Survives property (step state)) {state : α}
    (holds : property state) : Survives property (Parser.loop more step state) := by
  intro stop tokens
  refine Parser.loop_induct (motive := fun state _ outcome => property state →
    ∃ value rest reports, outcome = .ok value rest reports ∧ property value) ?_ ?_ ?_ state tokens holds
  · exact fun state tokens _ holds => ⟨state, tokens, [], rfl, holds⟩
  · exact fun state tokens _ _ holds => steps state holds stop tokens
  · intro state next tokens rest reports outcome _ run later holds
    obtain ⟨next', rest', reports', run', holds'⟩ := steps state holds stop tokens
    rw [run, Outcome.ok.injEq] at run'
    obtain ⟨rfl, rfl, rfl⟩ := run'
    obtain ⟨value, left, more, rfl, holds''⟩ := later holds'
    exact ⟨value, left, _, rfl, holds''⟩

theorem headerKey : Survives (fun _ => True) Grammar.headerKey := by
  refine .orRetry (composable_onGrammar.bind composable_onGrammar.expectKey fun _ =>
    composable_onGrammar.pure _) (fun _ _ _ _ _ _ => trivial) ?_
  have skips : Survives (fun _ => True) skipToAttribute := by
    intro stop tokens
    obtain ⟨rest, run, _⟩ := skipToAttribute_run stop tokens
    exact ⟨(), rest, [], run, trivial⟩
  exact skips.bind fun _ _ => pure trivial

end Survives

/-- An attribute fails over the grammar only. -/
theorem onGrammar_headerAttribute (key : Token) (header : Header) :
    Keeps OnGrammar (headerAttribute key header) := by
  unfold headerAttribute
  split
  · exact composable_onGrammar.bind composable_onGrammar.expectText fun _ =>
      composable_onGrammar.pure _
  · exact composable_onGrammar.bind composable_onGrammar.expectText fun _ =>
      composable_onGrammar.pure _
  · exact composable_onGrammar.bind composable_onGrammar.expectText fun _ =>
      composable_onGrammar.pure _
  · exact composable_onGrammar.bind OnGrammar.platforms fun _ => composable_onGrammar.pure _
  · exact composable_onGrammar.bind OnGrammar.theme fun _ => composable_onGrammar.pure _
  · exact composable_onGrammar.fail _ _

theorem Survives.headerEntry {name : String} {body : OpenHeader} (opened : Opened name body) :
    Survives (Opened name) (Grammar.headerEntry body) := by
  refine headerKey.bind fun found _ => ?_
  match found with
  | none => exact (of_passesOver .skipCommas).bind fun _ _ => pure opened
  | some key =>
    have content : Survives (fun header => header.name = name) (headerContent key body.header) :=
      .orRetry (onGrammar_headerAttribute key body.header)
        (fun _ _ _ _ _ success => (produces_headerAttribute _ _ _ _ _ _ _ success).trans opened)
        ((of_passesOver .skipValue).bind fun _ _ => pure opened)
    exact content.bind fun header kept => (of_passesOver .skipCommas).bind fun _ _ => pure kept

theorem Survives.closeHeader (app : String) : Survives (fun _ => True) (Grammar.closeHeader app) := by
  have looked : Survives (fun _ => True) (Parser.option (.symbol .rightBrace)) := by
    intro stop tokens
    rw [Parser.option, Parser.takeIf_run]
    split <;> exact ⟨_, _, _, rfl, trivial⟩
  refine looked.bind fun closed _ => ?_
  split
  · exact fun _ _ => ⟨_, _, _, rfl, trivial⟩
  · exact pure trivial

section Header

variable {keyword name first : Token} (isKeyword : keyword.kind = .keyword .app)
  (isName : name.kind.isName = true) (opens : first.kind = .symbol .leftBrace)
include isKeyword isName opens

/-- Behind its opening brace a header is its body, the brace that closes it, and what it lacks. -/
theorem header_opened (stop : Position) (more : List Token) :
    Grammar.header stop (keyword :: name :: first :: more) =
      (Parser.loop (fun _ tokens => !endsHeader tokens) headerEntry
          { header := { name := name.value } } >>= fun body => closeHeader name.value >>= fun _ =>
            reportMissing name.value keyword.place body.seen >>= fun _ => pure body.header)
        stop more := by
  refine (Parser.bind_run_clean (Parser.accept_run (by simp [isKeyword]) _ stop _) _).trans ?_
  refine (Parser.bind_run_clean (Parser.accept_run isName _ stop _) _).trans ?_
  exact Parser.bind_run_clean (expectSymbol_run opens stop more) _

theorem header_rows (rows : List AttributeRow) {last : Token}
    (closes : last.kind = .symbol .rightBrace) (stop : Position) (rest : List Token) :
    ∃ reports, Grammar.header stop (keyword :: name :: first ::
        (rows.flatMap AttributeRow.tokens ++ last :: rest)) =
      .ok ((rows.filterMap AttributeRow.setting).foldl HeaderSetting.set { name := name.value }) rest
        (reports ++ missingReports name.value keyword.place (rows.map fun row => row.key.value)) ∧
      ReportedAll rows reports := by
  obtain ⟨reports, run, reported⟩ := rows_run rows closes stop rest { header := { name := name.value } }
  refine ⟨reports, ?_, reported⟩
  rw [header_opened isKeyword isName opens, Parser.bind_run_ok run,
    Parser.bind_run_clean (closeHeader_run closes name.value stop rest),
    Parser.bind_run_ok (reportMissing_reports ..), Parser.pure_run, foldl_set]
  simp only [Outcome.after_ok, List.append_nil]
  rw [missingReports_congr fun key => List.mem_reverse]

theorem header_delivered (stop : Position) (more : List Token) :
    ∃ header rest reports, Grammar.header stop (keyword :: name :: first :: more) =
      .ok header rest reports ∧ header.name = name.value := by
  rw [header_opened isKeyword isName opens]
  have body : Survives (Opened name.value) (Parser.loop (fun _ tokens => !endsHeader tokens)
      headerEntry { header := { name := name.value } }) :=
    .loop (fun _ opened => .headerEntry opened) rfl
  refine Survives.bind body (fun body opened => (Survives.closeHeader _).bind fun _ _ => ?_) stop more
  intro stop tokens
  exact ⟨body.header, tokens, _, Parser.bind_run_ok (reportMissing_reports ..) _, opened⟩

/-- A header survives whatever follows its opening brace. Where attributes and a closing brace follow,
it is made of the attributes that fit, as if the others were not there, and what is reported is one
diagnostic for each of the others, in order, and then each attribute that it should have and of which
no key is there; what stands behind the brace is left. -/
theorem header_survives (stop : Position) :
    (∀ more, ∃ header rest reports, Grammar.header stop (keyword :: name :: first :: more) =
      .ok header rest reports ∧ header.name = name.value) ∧
    ∀ (rows : List AttributeRow) (last : Token), last.kind = .symbol .rightBrace → ∀ rest,
      ∃ header reports others,
        header = (rows.filterMap AttributeRow.setting).foldl HeaderSetting.set { name := name.value } ∧
        Grammar.header stop (keyword :: name :: first ::
            (rows.flatMap AttributeRow.tokens ++ last :: rest)) =
          .ok header rest (reports ++
            missingReports name.value keyword.place (rows.map fun row => row.key.value)) ∧
        ReportedAll rows reports ∧
        Grammar.header stop (keyword :: name :: first ::
            ((rows.filter fun row => row.setting.isSome).flatMap AttributeRow.tokens ++ last :: rest)) =
          .ok header rest others := by
  refine ⟨header_delivered isKeyword isName opens stop, fun rows last closes rest => ?_⟩
  obtain ⟨reports, read, reported⟩ := header_rows isKeyword isName opens rows closes stop rest
  obtain ⟨others, readAlone, _⟩ := header_rows isKeyword isName opens
    (rows.filter fun row => row.setting.isSome) closes stop rest
  have alone : (rows.filter fun row => row.setting.isSome).filterMap AttributeRow.setting =
      rows.filterMap AttributeRow.setting := by
    rw [List.filterMap_filter]
    refine List.filterMap_congr fun row _ => ?_
    cases row.setting <;> rfl
  rw [alone] at readAlone
  exact ⟨_, reports, _, rfl, read, reported, readAlone⟩

end Header

/-- An attribute with an unknown key and a list, a name that fits, and an id that is a number. -/
theorem header_survives_misfits : ∃ (rows : List AttributeRow) (first second : SyntaxDiagnostic),
    rows.flatMap AttributeRow.tokens =
      [⟨.identifier, "x", ⟨1, 8⟩⟩, ⟨.symbol .colon, ":", ⟨1, 9⟩⟩, ⟨.symbol .leftBracket, "[", ⟨1, 11⟩⟩,
        ⟨.symbol .comma, ",", ⟨1, 12⟩⟩, ⟨.symbol .rightBracket, "]", ⟨1, 13⟩⟩,
        ⟨.identifier, "name", ⟨1, 15⟩⟩, ⟨.symbol .colon, ":", ⟨1, 19⟩⟩, ⟨.string, "a", ⟨1, 21⟩⟩,
        ⟨.identifier, "id", ⟨1, 25⟩⟩, ⟨.symbol .colon, ":", ⟨1, 27⟩⟩, ⟨.number, "3", ⟨1, 29⟩⟩] ∧
    Grammar.header ⟨1, 31⟩ (⟨.keyword .app, "app", ⟨1, 1⟩⟩ :: ⟨.identifier, "A", ⟨1, 5⟩⟩ ::
        ⟨.symbol .leftBrace, "\x7b", ⟨1, 7⟩⟩ :: (rows.flatMap AttributeRow.tokens ++
          ⟨.symbol .rightBrace, "\x7d", ⟨1, 30⟩⟩ :: [])) =
      .ok { name := "A", displayName := "a" } []
        ([first, second] ++ [⟨.incompleteApp "A" "version", ⟨1, 1⟩⟩]) := by
  let misfit (key colon : Token) (value : List Token) (isName : key.kind.isName = true)
      (isColon : colon.kind = .symbol .colon) (isPlain : key.kind.beginsSection = false)
      (misfits : IsValue value ∧ key.value ≠ "platforms" ∧
        ∀ sets : HeaderSetting, sets.key = key.value → ¬ sets.Written value) : AttributeRow :=
    { key, colon, value, commas := [], setting := none, isName, isColon, areCommas := nofun
      opensNothing := fun begins => absurd begins (by simp [isPlain]), fits := nofun
      misfits := fun _ => misfits }
  have isList : IsValue [⟨.symbol .leftBracket, "[", ⟨1, 11⟩⟩, ⟨.symbol .comma, ",", ⟨1, 12⟩⟩,
      ⟨.symbol .rightBracket, "]", ⟨1, 13⟩⟩] :=
    @IsValue.group _ _ _ _ [⟨.symbol .comma, ",", ⟨1, 12⟩⟩] .brackets rfl rfl (.plain rfl .nil)
  let x : AttributeRow := misfit ⟨.identifier, "x", ⟨1, 8⟩⟩ ⟨.symbol .colon, ":", ⟨1, 9⟩⟩
    _ rfl rfl rfl ⟨isList, by decide, fun sets isKey => by
      cases sets <;> simp [HeaderSetting.key] at isKey⟩
  let id : AttributeRow := misfit ⟨.identifier, "id", ⟨1, 25⟩⟩ ⟨.symbol .colon, ":", ⟨1, 27⟩⟩
    [⟨.number, "3", ⟨1, 29⟩⟩] rfl rfl rfl ⟨.token rfl, by decide, fun sets isKey written => by
      cases written <;> simp_all [HeaderSetting.key]⟩
  let name : AttributeRow :=
    { key := ⟨.identifier, "name", ⟨1, 15⟩⟩, colon := ⟨.symbol .colon, ":", ⟨1, 19⟩⟩
      value := [⟨.string, "a", ⟨1, 21⟩⟩], commas := [], setting := some (.displayName "a"), isName := rfl
      isColon := rfl, areCommas := nofun, opensNothing := nofun
      fits := by
        rintro sets ⟨⟩
        exact ⟨rfl, @HeaderSetting.Written.displayName ⟨.string, "a", ⟨1, 21⟩⟩ rfl⟩
      misfits := nofun }
  obtain ⟨header, reports, others, isHeader, read, reported, _⟩ :=
    (@header_survives ⟨.keyword .app, "app", ⟨1, 1⟩⟩ ⟨.identifier, "A", ⟨1, 5⟩⟩
      ⟨.symbol .leftBrace, "\x7b", ⟨1, 7⟩⟩ rfl rfl rfl ⟨1, 31⟩).2 [x, name, id]
        ⟨.symbol .rightBrace, "\x7d", ⟨1, 30⟩⟩ rfl []
  change List.Forall₂ _ [x, id] reports at reported
  cases reported with
  | @cons _ first _ _ _ tail =>
    cases tail with
    | @cons _ second _ _ _ tail =>
      cases tail
      rw [isHeader] at read
      exact ⟨[x, name, id], first, second, rfl, read⟩

end Blueprint
