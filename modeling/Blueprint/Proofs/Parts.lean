import Blueprint.Proofs.Openings

/-!
Documents as rows of parts. A statement that is read without a diagnostic contributes one part, and
does so wherever it stands, as long as the document has none of the parts that there may be only one
of. So a source that is read without a diagnostic is a row of statements, its document is put
together from their parts, and leaving statements out leaves their parts out.
-/
set_option autoImplicit false

namespace Blueprint

open Grammar

/-- What one statement contributes to a document. -/
inductive Part where
  | header (header : Header)
  | model (model : Model)
  | screen (screen : Screen)
  | navigation (navigation : Navigation)
  | api (api : Api)
  | mockData (mockData : MockData)

namespace Part

/-- The head of the statement that contributes a part. -/
def head : Part → Head
  | .header value => .app value.name
  | .model value => .model value.name
  | .screen value => .screen value.name
  | .navigation _ => .navigation
  | .api _ => .api
  | .mockData _ => .mockData

def header? : Part → Option Header
  | .header value => some value
  | _ => none

def model? : Part → Option Model
  | .model value => some value
  | _ => none

def screen? : Part → Option Screen
  | .screen value => some value
  | _ => none

def navigation? : Part → Option Navigation
  | .navigation value => some value
  | _ => none

def api? : Part → Option Api
  | .api value => some value
  | _ => none

def mockData? : Part → Option MockData
  | .mockData value => some value
  | _ => none

/-- Whether a document may have both parts: it may have several models and several screens. -/
def Compatible (first second : Part) : Prop :=
  first.head.keyword = second.head.keyword →
    first.head.keyword = .model ∨ first.head.keyword = .screen

end Part

namespace Document

/-- The document with the given parts, in their order. -/
def ofParts (parts : List Part) : Document where
  header := parts.findSome? Part.header?
  models := parts.filterMap Part.model?
  screens := parts.filterMap Part.screen?
  navigation := parts.findSome? Part.navigation?
  api := parts.findSome? Part.api?
  mockData := parts.findSome? Part.mockData?

/-- A document with one part more, in place of one that there may be only one of. -/
def add (document : Document) : Part → Document
  | .header header => { document with header := some header }
  | .model model => { document with models := document.models ++ [model] }
  | .screen screen => { document with screens := document.screens ++ [screen] }
  | .navigation navigation => { document with navigation := some navigation }
  | .api api => { document with api := some api }
  | .mockData mockData => { document with mockData := some mockData }

/-- Whether a part can be added without taking the place of another. -/
def Lacks (document : Document) : Part → Prop
  | .header _ => document.header = none
  | .model _ | .screen _ => True
  | .navigation _ => document.navigation = none
  | .api _ => document.api = none
  | .mockData _ => document.mockData = none

theorem lacks_iff (parts : List Part) (part : Part) :
    (ofParts parts).Lacks part ↔ ∀ other ∈ parts, other.Compatible part := by
  cases part with
  | model => exact iff_of_true trivial fun _ _ same => .inl same
  | screen => exact iff_of_true trivial fun _ _ same => .inr same
  | header | navigation | api | mockData =>
    simp only [Lacks, ofParts, List.findSome?_eq_none_iff]
    refine forall₂_congr fun other _ => ?_
    cases other <;> simp [Part.Compatible, Part.head, Head.keyword, Part.header?, Part.navigation?,
      Part.api?, Part.mockData?]

theorem ofParts_concat {parts : List Part} {part : Part}
    (lacks : (ofParts parts).Lacks part) :
    ofParts (parts ++ [part]) = (ofParts parts).add part := by
  cases part with
  | model | screen =>
    simp [ofParts, add, List.findSome?_append, Part.header?, Part.model?, Part.screen?,
      Part.navigation?, Part.api?, Part.mockData?]
  | header | navigation | api | mockData =>
    have none : List.findSome? _ parts = none := lacks
    simp [ofParts, add, List.findSome?_append, none, Part.header?, Part.model?, Part.screen?,
      Part.navigation?, Part.api?, Part.mockData?]

end Document

/-! ## Statements as parts -/

/-- Whether the routine for parts of this kind delivers the part, and leaves the rest. -/
def Part.IsRead (stop : Position) (tokens rest : List Token) : Part → Prop
  | .header value => Grammar.header stop tokens = .ok value rest []
  | .model value => Grammar.model stop tokens = .ok value rest []
  | .screen value => Grammar.screen stop tokens = .ok value rest []
  | .navigation value => Grammar.navigation stop tokens = .ok value rest []
  | .api value => Grammar.api stop tokens = .ok value rest []
  | .mockData value => Grammar.mockData stop tokens = .ok value rest []

/-- A row of tokens that is a statement, and contributes a part wherever it stands. -/
structure Contributes (part : Part) (row : List Token) : Prop where
  grouped : Grouped Inside part.head row
  read (stop : Position) (rest : List Token) : part.IsRead stop (row ++ rest) rest

section Statements

variable {document next : Document} {stop : Position} {tokens rest row : List Token} {part : Part}

/-- Whether all that a parser delivers without a report is a document with one part more, of a kind
that the document may have. -/
def AddsPart (document : Document) (parser : Parser Document) : Prop :=
  ∀ (stop : Position) (tokens rest : List Token) (next : Document),
    parser stop tokens = .ok next rest [] →
      ∃ part : Part, part.IsRead stop tokens rest ∧ document.Lacks part ∧ next = document.add part

/-- A part that a document may have several of. -/
theorem AddsPart.several {α : Type} {parser : Parser α} (part : α → Part)
    (reads : ∀ {stop tokens rest value}, parser stop tokens = .ok value rest [] →
      (part value).IsRead stop tokens rest)
    (lacks : ∀ value, document.Lacks (part value)) :
    AddsPart document (parser >>= fun value => pure (document.add (part value))) := by
  intro stop tokens rest next success
  obtain ⟨value, between, read, added⟩ := Parser.bind_eq_clean success
  simp only [Parser.pure_run, Outcome.ok.injEq, and_true] at added
  obtain ⟨rfl, rfl⟩ := added
  exact ⟨part value, reads read, lacks value, rfl⟩

/-- A part that a document has at most one of. -/
theorem AddsPart.once {α : Type} {parser : Parser α} (part : α → Part) {old : Option α}
    {duplicate : SyntaxProblem} {place : Position}
    (reads : ∀ {stop tokens rest value}, parser stop tokens = .ok value rest [] →
      (part value).IsRead stop tokens rest)
    (lacks : ∀ value, old = none → document.Lacks (part value)) :
    AddsPart document (parser >>=
      setOnce old duplicate place (fun value => document.add (part value)) document) := by
  intro stop tokens rest next success
  obtain ⟨value, between, read, set⟩ := Parser.bind_eq_clean success
  obtain ⟨free, rfl, rfl⟩ := setOnce_eq_clean set
  exact ⟨part value, reads read, lacks value free, rfl⟩

/-- A statement that is read without a report adds a part, of a kind that the document may have. -/
theorem addsPart_statement (document : Document) : AddsPart document (statement document) := by
  intro stop tokens rest next success
  obtain ⟨token, between, looked, afterLook⟩ := Parser.bind_eq_clean success
  obtain rfl : tokens = between := by
    simp only [Parser.current, Outcome.ok.injEq] at looked
    exact looked.2.1
  refine (?_ : AddsPart document _) stop tokens rest next afterLook
  split
  · exact .once .header id fun _ free => free
  · exact .several .model id fun _ => trivial
  · exact .several .screen id fun _ => trivial
  · exact .once .navigation id fun _ free => free
  · exact .once .api id fun _ free => free
  · exact .once .mockData id fun _ free => free
  · intro stop tokens rest value success
    contradiction

theorem Part.IsRead.grouped (read : part.IsRead stop tokens rest) :
    ∃ row, tokens = row ++ rest ∧ Grouped Inside part.head row := by
  cases part with
  | header => exact header_eq_clean bodies_inside read
  | model => exact model_eq_clean bodies_inside read
  | screen => exact screen_eq_clean bodies_inside read
  | navigation => exact navigation_eq_clean bodies_inside read
  | api => exact api_eq_clean bodies_inside read
  | mockData => exact mockData_eq_clean bodies_inside read

/-- What is read as a part is so whatever follows. -/
theorem Closes.again {α : Type} {parser : Parser α} (closes : Closes parser) {value : α}
    (read : parser stop (row ++ rest) = .ok value rest []) (stop' : Position)
    (rest' : List Token) : parser stop' (row ++ rest') = .ok value rest' [] := by
  obtain ⟨taken, whole, _, _, again⟩ := closes stop (row ++ rest) rest value read
  obtain rfl := List.append_cancel_right whole
  exact again stop' rest'

theorem Part.IsRead.again (read : part.IsRead stop (row ++ rest) rest) (stop' : Position)
    (rest' : List Token) : part.IsRead stop' (row ++ rest') rest' := by
  cases part with
  | header => exact Closes.header.again read stop' rest'
  | model => exact Closes.model.again read stop' rest'
  | screen => exact Closes.screen.again read stop' rest'
  | navigation => exact Closes.navigation.again read stop' rest'
  | api => exact Closes.api.again read stop' rest'
  | mockData => exact Closes.mockData.again read stop' rest'

theorem Part.IsRead.contributes (read : part.IsRead stop tokens rest) :
    ∃ row, tokens = row ++ rest ∧ Contributes part row := by
  obtain ⟨row, rfl, grouped⟩ := read.grouped
  exact ⟨row, rfl, grouped, read.again⟩

theorem IsHead.starts {head : Head} {front : List Token} (isHead : IsHead head front) :
    ∃ keyword others, front = keyword :: others ∧ keyword.kind = .keyword head.keyword := by
  cases isHead with
  | named isKeyword => exact ⟨_, _, rfl, isKeyword⟩
  | plain isKeyword => exact ⟨_, _, rfl, isKeyword⟩
  | colon isKeyword => exact ⟨_, _, rfl, isKeyword⟩

theorem Grouped.starts {content : List Token → Prop} {head : Head}
    (grouped : Grouped content head row) :
    ∃ keyword others, row = keyword :: others ∧ keyword.kind = .keyword head.keyword := by
  obtain ⟨isHead, _, _, _⟩ := grouped
  obtain ⟨keyword, others, rfl, isKeyword⟩ := isHead.starts
  exact ⟨keyword, _, rfl, isKeyword⟩

/-- Setting a part that there is none of yet. -/
theorem setOnce_free {α : Type} {old : Option α} (free : old = none) (duplicate : SyntaxProblem)
    (place : Position) (set : α → Document) (document : Document) (part : α) :
    setOnce old duplicate place set document part = pure (set part) := by
  rw [free]
  rfl

/-- A statement adds its part to every document that may have it. -/
theorem Contributes.statement_run (contributes : Contributes part row) (lacks : document.Lacks part)
    (stop : Position) (rest : List Token) :
    statement document stop (row ++ rest) = .ok (document.add part) rest [] := by
  have read := contributes.read stop rest
  obtain ⟨keyword, others, rfl, isKeyword⟩ := contributes.grouped.starts
  unfold statement
  rw [Parser.bind_run_clean rfl]
  simp only [List.cons_append, List.head?_cons, Option.getD_some, isKeyword]
  cases part with
  | model | screen => exact Parser.bind_run_clean read _
  | header | navigation | api | mockData =>
    refine (Parser.bind_run_clean read _).trans ?_
    rw [setOnce_free lacks]
    rfl

/-- A statement is an entry of a document, with its part added. -/
theorem Contributes.entry {state : OpenDocument} (contributes : Contributes part row)
    (lacks : state.document.Lacks part) : ∃ next : OpenDocument,
      next.document = state.document.add part ∧
        ∀ stop rest, documentEntry state stop (row ++ rest) = .ok next rest [] := by
  obtain ⟨keyword, others, rfl, _⟩ := contributes.grouped.starts
  exact ⟨⟨state.document.add part, state.sawApp || keyword.kind == .keyword .app⟩, rfl,
    fun stop rest => documentEntry_of_next stop
      (Parser.orResume_run_ok (contributes.statement_run lacks stop rest) _)⟩

theorem statement_eq_part (read : statement document stop tokens = .ok next rest []) :
    ∃ part row, tokens = row ++ rest ∧ Contributes part row ∧ document.Lacks part ∧
      next = document.add part := by
  obtain ⟨part, isRead, lacks, same⟩ := addsPart_statement document stop tokens rest next read
  obtain ⟨row, whole, contributes⟩ := isRead.contributes
  exact ⟨part, row, whole, contributes, lacks, same⟩

end Statements

/-! ## Statements are told apart -/

/-- Tokens up to the first that is not level. -/
theorem levels_unique {front front' more more' : List Token} {first first' : Token}
    (levels : ∀ token ∈ front, token.kind.isLevel = true)
    (levels' : ∀ token ∈ front', token.kind.isLevel = true) (ends : first.kind.isLevel = false)
    (ends' : first'.kind.isLevel = false)
    (same : front ++ first :: more = front' ++ first' :: more') :
    front = front' ∧ first = first' ∧ more = more' := by
  induction front generalizing front' with
  | nil =>
    cases front' with
    | nil =>
      obtain ⟨rfl, rfl⟩ := List.cons.inj same
      exact ⟨rfl, rfl, rfl⟩
    | cons token front' =>
      obtain ⟨rfl, _⟩ := List.cons.inj same
      rw [levels' _ List.mem_cons_self] at ends
      contradiction
  | cons token front ih =>
    cases front' with
    | nil =>
      obtain ⟨rfl, _⟩ := List.cons.inj same
      rw [levels _ List.mem_cons_self] at ends'
      contradiction
    | cons token' front' =>
      obtain ⟨rfl, tails⟩ := List.cons.inj same
      obtain ⟨rfl, rest⟩ := ih (fun other later => levels other (List.mem_cons_of_mem _ later))
        (fun other later => levels' other (List.mem_cons_of_mem _ later)) tails
      exact ⟨rfl, rest⟩

/-- Whether a kind of tokens closes a group. -/
def TokenKind.Closing (kind : TokenKind) : Prop :=
  kind = .symbol .rightBrace ∨ kind = .symbol .rightBracket

theorem Pair.closing {opening closing : Symbol} (pair : Pair opening closing) {token : Token}
    (closes : token.kind = .symbol closing) : token.kind.Closing := by
  cases pair with
  | braces => exact .inl closes
  | brackets => exact .inr closes

theorem not_nested_of_closing {token : Token} {rest : List Token} (closing : token.kind.Closing) :
    ¬ Nested (token :: rest) := by
  generalize whole : token :: rest = row
  intro nested
  cases nested with
  | nil => contradiction
  | level isLevel =>
    obtain ⟨rfl, _⟩ := List.cons.inj whole
    rcases closing with closes | closes <;> simp [closes, TokenKind.isLevel] at isLevel
  | group pair opens =>
    obtain ⟨rfl, _⟩ := List.cons.inj whole
    rcases closing with closes | closes <;> cases pair <;> simp [closes] at opens

/-- A nested row ends where the first mark closes what it has not opened. -/
theorem Nested.unique {row row' rest rest' : List Token} {last last' : Token} (nested : Nested row)
    (nested' : Nested row') (closing : last.kind.Closing) (closing' : last'.kind.Closing)
    (same : row ++ last :: rest = row' ++ last' :: rest') :
    row = row' ∧ last = last' ∧ rest = rest' := by
  induction nested generalizing row' last last' rest rest' with
  | nil =>
    cases row' with
    | nil =>
      obtain ⟨rfl, rfl⟩ := List.cons.inj same
      exact ⟨rfl, rfl, rfl⟩
    | cons token row' =>
      obtain ⟨rfl, _⟩ := List.cons.inj same
      exact absurd nested' (not_nested_of_closing closing)
  | @level token row isLevel _ ih =>
    cases nested' with
    | nil =>
      obtain ⟨rfl, _⟩ := List.cons.inj same
      exact absurd (Nested.single isLevel) (not_nested_of_closing closing')
    | level _ tail' =>
      obtain ⟨rfl, tails⟩ := List.cons.inj same
      obtain ⟨rfl, others⟩ := ih tail' closing closing' tails
      exact ⟨rfl, others⟩
    | group pair opens =>
      obtain ⟨rfl, _⟩ := List.cons.inj same
      cases pair <;> simp [opens, TokenKind.isLevel] at isLevel
  | @group first mark opening closes inside row pair opens shuts content tail ih ih' =>
    cases nested' with
    | nil =>
      obtain ⟨rfl, _⟩ := List.cons.inj same
      exact absurd (Nested.group pair opens shuts content tail) (not_nested_of_closing closing')
    | level isLevel =>
      obtain ⟨rfl, _⟩ := List.cons.inj same
      cases pair <;> simp [opens, TokenKind.isLevel] at isLevel
    | group pair' opens' shuts' content' tail' =>
      simp only [List.cons_append, List.append_assoc] at same
      obtain ⟨rfl, tails⟩ := List.cons.inj same
      obtain ⟨rfl, rfl, afterMark⟩ := ih content' (pair.closing shuts) (pair'.closing shuts') tails
      obtain ⟨rfl, others⟩ := ih' tail' closing closing' afterMark
      exact ⟨rfl, others⟩

theorem IsHead.unique {head head' : Head} {front : List Token} (isHead : IsHead head front)
    (isHead' : IsHead head' front) : head = head' := by
  have keywords : head.keyword = head'.keyword := by
    obtain ⟨keyword, others, rfl, isKeyword⟩ := isHead.starts
    obtain ⟨_, _, same, isKeyword'⟩ := isHead'.starts
    obtain ⟨rfl, _⟩ := List.cons.inj same
    rw [isKeyword] at isKeyword'
    exact TokenKind.keyword.inj isKeyword'
  have names : head.name? = head'.name? := by
    cases isHead with
    | named _ isName named =>
      cases isHead' with
      | named _ _ named' => rw [named, named']
      | colon _ isColon => simp [isColon, TokenKind.isName] at isName
    | plain _ unnamed => cases isHead' with | plain _ unnamed' => rw [unnamed, unnamed']
    | colon _ isColon unnamed =>
      cases isHead' with
      | named _ isName => simp [isColon, TokenKind.isName] at isName
      | colon _ _ unnamed' => rw [unnamed, unnamed']
  cases head <;> cases head' <;> simp_all [Head.keyword, Head.name?]

/-- What begins with a statement begins with no other one. -/
theorem IsStatement.unique {head head' : Head} {row row' rest rest' : List Token}
    (isStatement : IsStatement head row) (isStatement' : IsStatement head' row')
    (same : row ++ rest = row' ++ rest') : head = head' ∧ row = row' ∧ rest = rest' := by
  obtain ⟨isHead, opens, content, closes⟩ := isStatement
  obtain ⟨isHead', opens', content', closes'⟩ := isStatement'
  simp only [List.cons_append, List.append_assoc, List.nil_append] at same
  obtain ⟨rfl, rfl, groups⟩ := levels_unique isHead.levels isHead'.levels
    (by rw [opens]; rfl) (by rw [opens']; rfl) same
  obtain ⟨rfl, rfl, rfl⟩ := content.unique content' (.inl closes) (.inl closes') groups
  exact ⟨isHead.unique isHead', rfl, rfl⟩

/-! ## Rows of statements -/

/-- A row of tokens that is made up of statements which contribute the parts of a list. -/
inductive Composed : List Part → List Token → Prop where
  | nil : Composed [] []
  | cons {part : Part} {row : List Token} {parts : List Part} {rest : List Token}
    (first : Contributes part row) (tail : Composed parts rest) :
    Composed (part :: parts) (row ++ rest)

/-- Parts that one document may have together. -/
def Coexist (parts : List Part) : Prop := parts.Pairwise Part.Compatible

section Rows

variable {stop : Position} {tokens rest row : List Token} {state final : OpenDocument}
  {earlier later parts : List Part}

theorem Coexist.concat {part : Part} (coexist : Coexist parts)
    (lacks : (Document.ofParts parts).Lacks part) : Coexist (parts ++ [part]) := by
  refine List.pairwise_append.mpr ⟨coexist, List.pairwise_singleton _ _, ?_⟩
  intro other member last isLast
  rw [List.mem_singleton.mp isLast]
  exact (Document.lacks_iff parts part).mp lacks other member

theorem Coexist.lacks {part : Part} (coexist : Coexist (parts ++ part :: later)) :
    (Document.ofParts parts).Lacks part :=
  (Document.lacks_iff parts part).mpr fun other member =>
    (List.pairwise_append.mp coexist).2.2 other member part List.mem_cons_self

/-- Statements that are read without a report take all tokens, and the document is put together from
their parts. -/
theorem statements_composed (success :
      Parser.loop moreStatements documentEntry state stop tokens = .ok final rest [])
    (begun : state.document = .ofParts earlier) (coexist : Coexist earlier) :
    ∃ later, Composed later tokens ∧ Coexist (earlier ++ later) ∧
      final.document = .ofParts (earlier ++ later) := by
  refine statements_induct (motive := fun state tokens => ∀ earlier,
    state.document = .ofParts earlier → Coexist earlier → ∃ later, Composed later tokens ∧
      Coexist (earlier ++ later) ∧ final.document = .ofParts (earlier ++ later))
    ?_ ?_ success earlier begun coexist
  · intro earlier begun coexist
    exact ⟨[], .nil, by rwa [List.append_nil], by rwa [List.append_nil]⟩
  · intro state next tokens rest run goesOn earlier begun coexist
    obtain ⟨part, row, rfl, contributes, lacks, added⟩ :=
      statement_eq_part (statement_of_documentEntry run)
    rw [begun] at lacks added
    rw [← Document.ofParts_concat lacks] at added
    obtain ⟨later, composed, coexist', same⟩ := goesOn _ added (coexist.concat lacks)
    rw [List.append_assoc] at coexist' same
    exact ⟨part :: later, .cons contributes composed, coexist', same⟩

/-- The entry of a statement is a step of the loop over all of them. -/
theorem Contributes.loop_step {part : Part} {next : OpenDocument}
    {reports : List SyntaxDiagnostic} (contributes : Contributes part row)
    (run : documentEntry state stop (row ++ rest) = .ok next rest reports) :
    Parser.loop moreStatements documentEntry state stop (row ++ rest) =
      (Parser.loop moreStatements documentEntry next stop rest).after reports := by
  obtain ⟨keyword, others, rfl, _⟩ := contributes.grouped.starts
  exact Parser.loop_step rfl run (by simp)

/-- A row of statements is read from every document that may have their parts. -/
theorem Composed.statements (composed : Composed parts row)
    (begun : state.document = .ofParts earlier) (coexist : Coexist (earlier ++ parts)) :
    ∃ next : OpenDocument, next.document = .ofParts (earlier ++ parts) ∧
      ∀ stop rest, Parser.loop moreStatements documentEntry state stop (row ++ rest) =
        Parser.loop moreStatements documentEntry next stop rest := by
  induction composed generalizing state earlier with
  | nil => exact ⟨state, by rw [List.append_nil, begun], fun _ _ => rfl⟩
  | @cons part first parts others contributes _ ih =>
    have lacks := coexist.lacks
    obtain ⟨between, added, run⟩ := contributes.entry (begun ▸ lacks)
    rw [begun, ← Document.ofParts_concat lacks] at added
    obtain ⟨next, same, goesOn⟩ := ih added (by rwa [List.append_assoc])
    refine ⟨next, by rwa [List.append_assoc] at same, fun stop rest => ?_⟩
    rw [List.append_assoc, contributes.loop_step (run stop _), Outcome.after_nil, goesOn]

theorem Contributes.isStatement {part : Part} (contributes : Contributes part row) :
    IsStatement part.head row := by
  obtain ⟨isHead, opens, inside, closes⟩ := contributes.grouped
  exact .group isHead opens inside.nested closes

/-- The statement that a row begins with contributes the first part. -/
theorem Composed.first {head : Head} {back : List Token} (composed : Composed parts (row ++ back))
    (isStatement : IsStatement head row) : ∃ part later, parts = part :: later ∧ part.head = head ∧
      Contributes part row ∧ Composed later back := by
  generalize whole : row ++ back = tokens at composed
  cases composed with
  | nil =>
    obtain ⟨isHead, _, _, _⟩ := isStatement
    obtain ⟨keyword, others, rfl, _⟩ := isHead.starts
    contradiction
  | cons contributes tail =>
    obtain ⟨same, rfl, rfl⟩ := isStatement.unique contributes.isStatement whole
    exact ⟨_, _, rfl, same.symm, contributes, tail⟩

/-- The statements that a row begins with contribute the first parts. -/
theorem Composed.split {heads : List Head} {front back : List Token}
    (composed : Composed parts (front ++ back)) (splits : Splits IsStatement heads front) :
    ∃ earlier later, parts = earlier ++ later ∧ earlier.map Part.head = heads ∧
      Composed earlier front ∧ Composed later back := by
  induction splits generalizing parts with
  | nil => exact ⟨[], parts, rfl, rfl, .nil, composed⟩
  | cons first _ ih =>
    rw [List.append_assoc] at composed
    obtain ⟨part, others, rfl, same, contributes, tail⟩ := composed.first first
    obtain ⟨earlier, later, rfl, heads', composed, composed'⟩ := ih tail
    exact ⟨part :: earlier, later, rfl, by rw [List.map_cons, heads', same],
      .cons contributes composed, composed'⟩

/-- Statements that contribute parts have the heads of these. -/
theorem Composed.splits (composed : Composed parts tokens) :
    Splits IsStatement (parts.map Part.head) tokens := by
  induction composed with
  | nil => exact .nil
  | cons contributes _ ih => exact .cons contributes.isStatement ih

end Rows

end Blueprint
