import Blueprint.Proofs.Composition
import Blueprint.Proofs.PlaceOrder

/-!
The order of the diagnostics of a source. Only what is said of a header as a whole comes late: it is
reported when the header has been read, at its keyword. With these reports moved in front of the others
of their header, all diagnostics are in the order of the source.
-/
set_option autoImplicit false

namespace Blueprint

open Grammar

/-! ## Statements -/

/-- Whether a problem is one of a header as a whole: an attribute that it lacks, or a header before. -/
def SyntaxProblem.isAboutHeader : SyntaxProblem → Bool
  | .incompleteApp .. | .duplicateApp => true
  | _ => false

/-- Diagnostics as they are reported, and with what is said of a header as a whole, at one place, moved
in front of what is said of its parts. -/
inductive Arranged : List SyntaxDiagnostic → List SyntaxDiagnostic → Prop where
  | nil : Arranged [] []
  | header {inside own reported ordered : List SyntaxDiagnostic} {place : Position}
    (about : ∀ diagnostic ∈ own, diagnostic.place = place ∧ diagnostic.problem.isAboutHeader = true)
    (tail : Arranged reported ordered) :
    Arranged (inside ++ own ++ reported) (own ++ inside ++ ordered)

namespace Arranged

variable {reported ordered more more' : List SyntaxDiagnostic}

theorem of_inside (inside : List SyntaxDiagnostic) : Arranged inside inside := by
  have arranged : Arranged (inside ++ [] ++ []) ([] ++ inside ++ []) :=
    @Arranged.header inside [] [] [] .start nofun .nil
  simpa using arranged

theorem append (first : Arranged reported ordered) (second : Arranged more more') :
    Arranged (reported ++ more) (ordered ++ more') := by
  induction first with
  | nil => exact second
  | @header inside own reported ordered place about _ ih =>
    have arranged : Arranged (inside ++ own ++ (reported ++ more)) (own ++ inside ++ (ordered ++ more')) :=
      .header about ih
    simpa only [List.append_assoc] using arranged

/-- Where nothing is said of a header as a whole, nothing moves. -/
theorem eq_of_none (arranged : Arranged reported ordered)
    (none : ∀ diagnostic ∈ reported, diagnostic.problem.isAboutHeader = false) :
    reported = ordered := by
  induction arranged with
  | nil => rfl
  | @header inside own reported ordered place about _ ih =>
    have noOwn : own = [] := List.eq_nil_iff_forall_not_mem.mpr fun diagnostic member => by
      have isAbout := (about diagnostic member).2
      rw [none diagnostic (by simp [member])] at isAbout
      contradiction
    rw [noOwn, ih fun diagnostic member => none diagnostic (by simp [member])]
    simp

end Arranged

/-- What an outcome reports is in order from a place on, once it is arranged. -/
inductive Outcome.Arranges (low stop : Position) (tokens : List Token) :
    {α : Type} → Outcome α → Prop where
  | ok {α : Type} {value : α} (row : List Token) {rest : List Token}
    {reports ordered : List SyntaxDiagnostic} (whole : tokens = row ++ rest)
    (arranged : Arranged reports ordered) (spans : Spans low (here stop rest) ordered) :
    Arranges low stop tokens (.ok value rest reports)
  | failed {α : Type} {diagnostic : SyntaxDiagnostic} (row : List Token) {rest : List Token}
    {reports ordered : List SyntaxDiagnostic} (whole : tokens = row ++ rest)
    (arranged : Arranged (reports ++ [diagnostic]) ordered)
    (spans : Spans low (here stop rest) ordered) :
    Arranges low stop tokens (.failed (.syntaxError diagnostic) rest reports : Outcome α)
  | oversized {α : Type} (row : List Token) {rest : List Token} {reports : List SyntaxDiagnostic}
    (whole : tokens = row ++ rest) :
    Arranges low stop tokens (.failed .oversizedInteger rest reports : Outcome α)

theorem Outcome.InOrder.arranges {α : Type} {low stop : Position} {tokens : List Token}
    {outcome : Outcome α} (inOrder : outcome.InOrder low stop tokens) :
    outcome.Arranges low stop tokens := by
  cases inOrder with
  | ok row whole spans => exact .ok row whole (.of_inside _) spans
  | failed row whole spans => exact .failed row whole (.of_inside _) spans
  | oversized row whole => exact .oversized row whole

/-- Whether a parser that begins at a place reports in order from there on, once it is arranged. -/
def ArrangesAt (place : Position) {α : Type} (parser : Parser α) : Prop :=
  ∀ stop tokens, Ascending stop tokens → here stop tokens = place →
    (parser stop tokens).Arranges place stop tokens

theorem InOrder.arrangesAt {α : Type} {place : Position} {parser : Parser α}
    (inOrder : InOrder place parser) : ArrangesAt place parser :=
  fun stop tokens ascending stands => (inOrder stop tokens ascending stands.ge).arranges

/-! ### Headers -/

/-- Diagnostics about a header as a whole, at one place. -/
def AboutHeader (place : Position) (diagnostics : List SyntaxDiagnostic) : Prop :=
  ∀ diagnostic ∈ diagnostics, diagnostic.place = place ∧ diagnostic.problem.isAboutHeader = true

/-- What an outcome reports is in order from a place on, up to what it says of a header as a whole. -/
inductive Outcome.EndsLate (place low stop : Position) (tokens : List Token) :
    {α : Type} → Outcome α → Prop where
  | ok {α : Type} {value : α} (row : List Token) {rest : List Token}
    {inside own : List SyntaxDiagnostic} (whole : tokens = row ++ rest)
    (spans : Spans low (here stop rest) inside) (about : AboutHeader place own) :
    EndsLate place low stop tokens (.ok value rest (inside ++ own))
  | failed {α : Type} {failure : Failure} {rest : List Token} {reports : List SyntaxDiagnostic}
    (inOrder : Outcome.InOrder low stop tokens (.failed failure rest reports : Outcome α)) :
    EndsLate place low stop tokens (.failed failure rest reports : Outcome α)

def EndsLate (place low : Position) {α : Type} (parser : Parser α) : Prop :=
  ∀ stop tokens, Ascending stop tokens → low ≤ here stop tokens →
    (parser stop tokens).EndsLate place low stop tokens

theorem Outcome.EndsLate.after {α : Type} {place low stop : Position} {row rest : List Token}
    {outcome : Outcome α} {earlier : List SyntaxDiagnostic}
    (later : outcome.EndsLate place (here stop rest) stop rest)
    (ascending : Ascending stop (row ++ rest)) (behind : low ≤ here stop (row ++ rest))
    (spans : Spans low (here stop rest) earlier) :
    (outcome.after earlier).EndsLate place low stop (row ++ rest) := by
  cases later with
  | @ok value row' rest' inside own whole spans' about =>
    have inner : (Outcome.ok value rest' inside).InOrder (here stop rest) stop rest :=
      .ok row' whole spans'
    have joined := inner.after ascending behind spans
    rw [Outcome.after_ok] at joined
    rw [Outcome.after_ok, ← List.append_assoc]
    cases joined with
    | ok row whole spans => exact .ok row whole spans about
  | failed inOrder => exact .failed (inOrder.after ascending behind spans)

theorem Outcome.EndsLate.behind {α : Type} {place low low' stop : Position} {rest : List Token}
    {outcome : Outcome α} (late : outcome.EndsLate place low' stop rest) (row : List Token)
    (below : low ≤ low') : outcome.EndsLate place low stop (row ++ rest) := by
  cases late with
  | ok row' whole spans about =>
    exact .ok (row ++ row') (by rw [whole, List.append_assoc]) (spans.widen below le_rfl) about
  | failed inOrder => exact .failed (inOrder.behind row below)

theorem Outcome.EndsLate.arranges {α : Type} {place stop : Position} {tokens : List Token}
    {outcome : Outcome α} (late : outcome.EndsLate place place stop tokens)
    (ascending : Ascending stop tokens) (behind : place ≤ here stop tokens) :
    outcome.Arranges place stop tokens := by
  cases late with
  | failed inOrder => exact inOrder.arranges
  | @ok value row rest inside own whole spans about =>
    have arranged : Arranged (inside ++ own ++ []) (own ++ inside ++ []) := .header about .nil
    rw [List.append_nil, List.append_nil] at arranged
    subst whole
    exact .ok row rfl arranged ((Spans.at_place fun diagnostic member =>
      (about diagnostic member).1).append spans le_rfl (behind.trans ascending.here_mono))

namespace EndsLate

variable {α β : Type} {place low : Position}

/-- What only says something of a header as a whole. -/
theorem report {parser : Parser α} (reports : ∀ stop tokens, ∃ value reports,
    parser stop tokens = .ok value tokens reports ∧ AboutHeader place reports) :
    EndsLate place low parser := by
  intro stop tokens _ _
  obtain ⟨value, own, run, about⟩ := reports stop tokens
  rw [run]
  exact @Outcome.EndsLate.ok place low stop tokens α value [] tokens [] own rfl .nil about

theorem bind {first : Parser α} {next : α → Parser β} (firsts : InOrder low first)
    (nexts : ∀ value place', EndsLate place place' (next value)) :
    EndsLate place low (first >>= next) := by
  intro stop tokens ascending behind
  have begun := firsts stop tokens ascending behind
  rw [Parser.bind_run]
  generalize first stop tokens = outcome at begun ⊢
  cases begun with
  | ok row whole spans =>
    subst whole
    exact (nexts _ _ stop _ ascending.behind le_rfl).after ascending behind spans
  | failed row whole spans => exact .failed (.failed row whole spans)
  | oversized row whole => exact .failed (.oversized row whole)

/-- More may be said of the header when it has been read. -/
theorem andThen {first : Parser α} {use : α → Parser β} (late : EndsLate place low first)
    (uses : ∀ found stop tokens, ∃ value reports,
      use found stop tokens = .ok value tokens reports ∧ AboutHeader place reports) :
    EndsLate place low (first >>= use) := by
  intro stop tokens ascending behind
  have begun := late stop tokens ascending behind
  rw [Parser.bind_run]
  generalize first stop tokens = outcome at begun ⊢
  cases begun with
  | @ok found row rest inside own whole spans about =>
    obtain ⟨value, reports, used, about'⟩ := uses found stop rest
    simp only [used, Outcome.after_ok, List.append_assoc]
    exact .ok row whole spans fun diagnostic member =>
      (List.mem_append.mp member).elim (about diagnostic) (about' diagnostic)
  | failed inOrder =>
    cases inOrder with
    | failed row whole spans => exact .failed (.failed row whole spans)
    | oversized row whole => exact .failed (.oversized row whole)

end EndsLate

theorem missingReports_about (app : String) (place : Position) (seen : List String) :
    AboutHeader place (missingReports app place seen) := by
  intro diagnostic member
  obtain ⟨required, _, rfl⟩ := List.mem_map.mp member
  exact ⟨rfl, rfl⟩

theorem setOnce_reports {α : Type} (old : Option α) (duplicate : SyntaxProblem) (place : Position)
    (set : α → Document) (document : Document) (part : α) (stop : Position) (tokens : List Token) :
    ∃ value reports, setOnce old duplicate place set document part stop tokens =
      .ok value tokens reports ∧
      ∀ diagnostic ∈ reports, diagnostic.place = place ∧ diagnostic.problem = duplicate := by
  cases old with
  | none => exact ⟨_, _, rfl, nofun⟩
  | some _ => exact ⟨_, _, rfl, by simp⟩

/-- A header is read in order, and what it lacks, and that there has been one before, is reported in
the end. -/
theorem arrangesAt_header {α : Type} {place : Position} {use : Header → Parser α}
    (uses : ∀ found stop tokens, ∃ value reports, use found stop tokens = .ok value tokens reports ∧
      AboutHeader place reports) : ArrangesAt place (Grammar.header >>= use) := by
  intro stop tokens ascending stands
  have noEnd : [TokenKind.keyword .app].contains .eof = false := rfl
  rcases accept_cases noEnd (.kinds [.keyword .app]) stop tokens with
    ⟨keyword, rest, rfl, _, run⟩ | run
  · have inOrder : Ascending stop ([keyword] ++ rest) := ascending
    have behind : place ≤ here stop rest := stands ▸ (inOrder.between List.mem_cons_self).2
    have afterKeyword : Grammar.header stop (keyword :: rest) = _ := Parser.bind_run_clean run _
    rw [Parser.bind_run_congr afterKeyword]
    refine Outcome.EndsLate.arranges ?_ ascending stands.ge
    refine Outcome.EndsLate.behind (EndsLate.andThen ?_ uses stop rest
      inOrder.behind behind) [keyword] le_rfl
    refine .bind (.plain .expectName) fun name _ => .bind (.plain .expectSymbol) fun _ _ =>
      .bind (.loop (fun body _ => .headerEntry body) _) fun body _ =>
        .bind (.closeHeader _) fun _ _ => .report fun stop tokens => ?_
    refine ⟨_, _, Parser.bind_run_ok (reportMissing_reports _ _ _ stop tokens) _, ?_⟩
    rw [← stands]
    exact (List.append_nil (missingReports ..)).symm ▸ missingReports_about _ _ _
  · have fails : Grammar.header stop tokens = .failed _ tokens [] := Parser.bind_run_failed run _
    rw [Parser.bind_run_failed fails]
    exact Outcome.InOrder.arranges (.failed [] rfl (.single stands.ge le_rfl))

/-! ## Documents -/

/-- A section of which there may be one is reported at its keyword if it is the second one. -/
theorem arrangesAt_section {α : Type} {place : Position} {part : Parser α} (points : Points [] part)
    (old : Option α) (duplicate : SyntaxProblem) (set : α → Document) (document : Document) :
    ArrangesAt place (part >>= setOnce old duplicate place set document) := by
  refine (Late.inOrder (.bind points fun found => .report fun stop tokens => ?_)).arrangesAt
  obtain ⟨value, reports, run, about⟩ :=
    setOnce_reports old duplicate place set document found stop tokens
  exact ⟨value, reports, run, fun diagnostic member => (about diagnostic member).1⟩

theorem statement_arranges (document : Document) (stop : Position) (tokens : List Token)
    (ascending : Ascending stop tokens) :
    (statement document stop tokens).Arranges (here stop tokens) stop tokens := by
  unfold statement
  rw [Parser.bind_run_clean rfl]
  refine (?_ : ArrangesAt (tokens.head?.getD (Parser.endToken stop)).place _) stop tokens ascending rfl
  generalize tokens.head?.getD (Parser.endToken stop) = token
  split
  · refine arrangesAt_header fun header stop tokens => ?_
    obtain ⟨value, reports, run, about⟩ :=
      setOnce_reports document.header .duplicateApp token.place _ document header stop tokens
    refine ⟨value, reports, run, fun diagnostic member => ⟨(about diagnostic member).1, ?_⟩⟩
    rw [(about diagnostic member).2]
    rfl
  · exact ((InOrder.plain .model).bind fun _ _ => .pure _).arrangesAt
  · exact (InOrder.screen.bind fun _ _ => .pure _).arrangesAt
  · exact arrangesAt_section .navigation _ _ _ _
  · exact arrangesAt_section .api _ _ _ _
  · exact arrangesAt_section .mockData _ _ _ _
  · exact (InOrder.plain (.unexpected _)).arrangesAt

theorem PassesOver.resynchronize (began : List Token) : PassesOver (Grammar.resynchronize began) :=
  .skip (scans_onwardTo.suffix (some began))

/-- Whether all that a parser reports before it succeeds is in order, once it is arranged. -/
def ReportsArranged {α : Type} (parser : Parser α) : Prop :=
  ∀ stop tokens value rest reports, Ascending stop tokens →
    parser stop tokens = .ok value rest reports →
      ∃ row ordered, tokens = row ++ rest ∧ Arranged reports ordered ∧
        Spans (here stop tokens) (here stop rest) ordered

theorem nextStatement_arranged (document : Document) : ReportsArranged (nextStatement document) := by
  intro stop tokens next left reports ascending success
  have begun := statement_arranges document stop tokens ascending
  unfold nextStatement Parser.orResume at success
  generalize statement document stop tokens = outcome at begun success
  cases begun with
  | oversized row whole => contradiction
  | @ok value row rest reports ordered whole arranged spans =>
    simp only [Outcome.ok.injEq] at success
    obtain ⟨_, rfl, rfl⟩ := success
    exact ⟨row, ordered, whole, arranged, spans⟩
  | @failed diagnostic row rest reports ordered whole arranged spans =>
    obtain ⟨value, left, run, passed, whole'⟩ :=
      (PassesOver.resynchronize tokens).bind (fun _ => .pure document) stop rest
    simp only [run, Outcome.after_ok, List.append_nil, Outcome.ok.injEq] at success
    obtain ⟨_, rfl, rfl⟩ := success
    refine ⟨row ++ passed, ordered, by rw [List.append_assoc, whole', whole], arranged, ?_⟩
    refine spans.widen le_rfl ?_
    rw [whole, ← whole'] at ascending
    rw [← whole']
    exact ascending.behind.here_mono

theorem documentEntry_arranged (state : OpenDocument) : ReportsArranged (documentEntry state) := by
  intro stop tokens next rest reports ascending success
  obtain ⟨run, _⟩ := documentEntry_eq_ok success
  exact nextStatement_arranged _ stop tokens next.document rest reports ascending run

/-- What is reported of statements one after the other is in order, once it is arranged. -/
theorem statements_arranged (state : OpenDocument) :
    ReportsArranged (Parser.loop moreStatements documentEntry state) := by
  intro stop tokens
  refine Parser.loop_induct (motive := fun _ tokens outcome => ∀ final left reports,
    Ascending stop tokens → outcome = .ok final left reports →
      ∃ row ordered, tokens = row ++ left ∧ Arranged reports ordered ∧
        Spans (here stop tokens) (here stop left) ordered) ?_ ?_ ?_ state tokens
  · rintro state tokens _ _ _ _ _ ⟨⟩
    exact ⟨[], [], rfl, .nil, .nil⟩
  · exact fun state tokens _ _ => documentEntry_arranged state stop tokens
  · intro state next tokens rest earlier outcome _ run later final left reports ascending success
    obtain ⟨row, ordered, rfl, arranged, spans⟩ :=
      documentEntry_arranged state stop tokens next rest earlier ascending run
    obtain ⟨others, run', rfl⟩ := Outcome.after_eq_ok success
    obtain ⟨row', ordered', rfl, arranged', spans'⟩ :=
      later final left others ascending.behind run'
    refine ⟨row ++ row', ordered ++ ordered', (List.append_assoc ..).symm,
      arranged.append arranged', spans.append spans' ascending.here_mono ?_⟩
    exact ascending.behind.here_mono

theorem parseTokens_arranged {tokens : List Token} {stop : Position} {result : ParseResult}
    (ascending : Ascending stop tokens) (read : Document.parseTokens tokens stop = .ok result) :
    ∃ ordered, Arranged result.diagnostics ordered ∧
      ordered.Pairwise fun earlier later => earlier.place ≤ later.place := by
  cases tokens with
  | nil =>
    rw [Document.parseTokens, Except.ok.injEq] at read
    rw [← read]
    exact ⟨[], .nil, .nil⟩
  | cons first tokens =>
    rw [Document.parseTokens, documentBody_eq] at read
    cases run : Parser.loop moreStatements documentEntry {} stop (first :: tokens) with
    | failed failure rest reports =>
      rw [run, statements_failed run] at read
      contradiction
    | ok state rest reports =>
      simp only [run, Except.ok.injEq] at read
      obtain ⟨row, ordered, whole, arranged, spans⟩ :=
        statements_arranged {} stop (first :: tokens) state rest reports ascending run
      rw [← read]
      simp only
      split
      · have missing : Spans first.place first.place [⟨.missingApp, first.place⟩] :=
          .single le_rfl le_rfl
        have above : first.place ≤ here stop rest := by
          rw [whole] at ascending
          have mono := ascending.here_mono
          rwa [← whole] at mono
        exact ⟨_, (Arranged.of_inside _).append arranged,
          (missing.append spans le_rfl above).ordered⟩
      · exact ⟨ordered, arranged, spans.ordered⟩

/-- The diagnostics of a source are in order, by line and in a line by column, once what is said of a
header as a whole is moved in front of what is said of its parts. -/
theorem diagnostics_arranged {source : String} {result : ParseResult}
    (parsed : Document.parse source = .ok result) :
    ∃ ordered, Arranged result.diagnostics ordered ∧
      ordered.Pairwise fun earlier later => earlier.place ≤ later.place :=
  parseTokens_arranged (ascending_tokensOf source) parsed

/-- Two headers with attributes that do not fit and without some that they should have, and between
them a model that does not fit. -/
theorem diagnostics_arranged_headers : ∃ result ordered,
    Document.parse "app A \x7b foo: 1 \x7d model M \x7bx\x7d app B \x7bname: 2\x7d" = .ok result ∧
      result.diagnostics.length = 9 ∧ Arranged result.diagnostics ordered ∧
      ordered.Pairwise fun earlier later => earlier.place ≤ later.place := by
  have parsed : Document.parse "app A \x7b foo: 1 \x7d model M \x7bx\x7d app B \x7bname: 2\x7d" =
      .ok ⟨some { header := some { name := "A" } },
        [⟨.unknownAttribute .app "foo", ⟨1, 9⟩⟩, ⟨.incompleteApp "A" "name", ⟨1, 1⟩⟩,
          ⟨.incompleteApp "A" "id", ⟨1, 1⟩⟩, ⟨.incompleteApp "A" "version", ⟨1, 1⟩⟩,
          ⟨.unexpected (.kinds [.symbol .colon]) (some "\x7d"), ⟨1, 28⟩⟩,
          ⟨.unexpected (.kinds [.string]) (some "2"), ⟨1, 43⟩⟩,
          ⟨.incompleteApp "B" "id", ⟨1, 30⟩⟩, ⟨.incompleteApp "B" "version", ⟨1, 30⟩⟩,
          ⟨.duplicateApp, ⟨1, 30⟩⟩]⟩ := by cbv
  obtain ⟨ordered, arranged, inOrder⟩ := diagnostics_arranged parsed
  exact ⟨_, ordered, parsed, rfl, arranged, inOrder⟩

/-- That a header lacks its name is reported behind an attribute in it that is none, but stands before
it. -/
theorem missing_name_reported_late : ∃ result,
    Document.parse "app A \x7b foo: 1 \x7d" = .ok result ∧
      ¬ result.diagnostics.Pairwise fun earlier later => earlier.place ≤ later.place := by
  have parsed : Document.parse "app A \x7b foo: 1 \x7d" =
      .ok ⟨some { header := some { name := "A" } },
        [⟨.unknownAttribute .app "foo", ⟨1, 9⟩⟩, ⟨.incompleteApp "A" "name", ⟨1, 1⟩⟩,
          ⟨.incompleteApp "A" "id", ⟨1, 1⟩⟩, ⟨.incompleteApp "A" "version", ⟨1, 1⟩⟩]⟩ := by cbv
  refine ⟨_, parsed, fun inOrder => ?_⟩
  have first := (List.pairwise_cons.mp inOrder).1 ⟨.incompleteApp "A" "name", ⟨1, 1⟩⟩
    List.mem_cons_self
  rw [Position.le_iff] at first
  contradiction

/-- Where nothing is said of a header as a whole, the diagnostics are in order as they are. -/
theorem diagnostics_in_order {source : String} {result : ParseResult}
    (parsed : Document.parse source = .ok result)
    (none : ∀ diagnostic ∈ result.diagnostics, diagnostic.problem.isAboutHeader = false) :
    result.diagnostics.Pairwise fun earlier later => earlier.place ≤ later.place := by
  obtain ⟨ordered, arranged, inOrder⟩ := parseTokens_arranged (ascending_tokensOf source) parsed
  rwa [arranged.eq_of_none none]

end Blueprint
