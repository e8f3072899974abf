import Mathlib
import Blueprint.Proofs.EntrySearch

/-!
Which endpoints are extracted, and whether a block gives them. A block of an endpoint is meant to have
its path and its method, in this order, before the brace that closes it; any other block is to be
skipped. The extraction looks on beyond that brace, so that it takes an endpoint for such a block too
if a path and a method stand somewhere behind it. Up to the first time that this happens, the endpoints
are those of the blocks that have both.
-/
set_option autoImplicit false

namespace Blueprint

open Text Extraction

variable {α : Type}

/-! ## The text of a block -/

/-- A place in a block: the mark of the quotation it stands in, and how many braces are open. -/
structure PlaceInBlock where
  quote : Option Char := none
  depth : Nat := 0

/-- The place behind a character, unless this is the brace that closes the block. -/
def PlaceInBlock.next (c : Char) : PlaceInBlock → Option PlaceInBlock
  | ⟨some mark, depth⟩ => some ⟨if c == mark then none else some mark, depth⟩
  | ⟨none, depth⟩ =>
    if c == '"' || c == '\'' then some ⟨some c, depth⟩
    else if c == '\x7b' then some ⟨none, depth + 1⟩
    else if c == '\x7d' then
      match depth with
      | 0 => none
      | depth + 1 => some ⟨none, depth⟩
    else some ⟨none, depth⟩

/-- The characters up to the brace that closes a block. -/
def blockTextFrom : PlaceInBlock → List Char → List Char
  | _, [] => []
  | place, c :: text =>
    match place.next c with
    | none => []
    | some place => c :: blockTextFrom place text

/-- The text of a block, from behind its opening brace up to the brace, outside of quotation marks,
that closes it. -/
def blockText (text : List Char) : List Char :=
  blockTextFrom {} text

/-- What follows on the text of a block, with the brace that closes it. -/
def afterBlock (text : List Char) : List Char :=
  text.drop (blockText text).length

/-- Inner braces come in pairs, and braces in quotation marks do not count. -/
example : blockText "p: \x7b \x7d q: '\x7d' \x7d r".toList =
    "p: \x7b \x7d q: '\x7d' ".toList := by decide

theorem PlaceInBlock.next_eq_none {c : Char} {place : PlaceInBlock} (closes : place.next c = none) :
    c = '\x7d' := by
  obtain ⟨_ | mark, depth⟩ := place
  · simp only [next] at closes
    split_ifs at closes with _ _ isBrace
    exact beq_iff_eq.mp isBrace
  · contradiction

theorem blockTextFrom_split (place : PlaceInBlock) (text : List Char) :
    ∃ behind, text = blockTextFrom place text ++ behind ∧ AtClosing behind := by
  induction text generalizing place with
  | nil => exact ⟨[], rfl, nofun⟩
  | cons c text ih =>
    rw [blockTextFrom]
    split
    · next closes =>
      refine ⟨c :: text, rfl, fun d member => ?_⟩
      obtain rfl := Option.some.inj member
      exact PlaceInBlock.next_eq_none closes
    · next place' _ =>
      obtain ⟨behind, whole, closing⟩ := ih place'
      exact ⟨behind, congrArg (c :: ·) whole, closing⟩

/-- A text is that of a block, and a closing brace or the end of the text follows. -/
theorem afterBlock_eq (text : List Char) :
    text = blockText text ++ afterBlock text ∧ AtClosing (afterBlock text) := by
  obtain ⟨behind, whole, closing⟩ := blockTextFrom_split {} text
  have left : (blockText text ++ behind).drop (blockText text).length = behind := List.drop_left
  rw [show blockText text ++ behind = text from whole.symm] at left
  rw [afterBlock, left]
  exact ⟨whole, closing⟩

/-! ## The blocks of endpoints -/

/-- The text that opens the block of an endpoint: the keyword, blanks, a name and a brace. -/
inductive OpensEndpoint (id : String) : List Char → Prop where
  | opening {gap run gap' : List Char} (blank : Blank gap) (apart : gap ≠ [])
    (letters : ∀ c ∈ run, isWordChar c = true) (some : run ≠ []) (named : id = String.ofList run)
    (blank' : Blank gap') :
    OpensEndpoint id ("endpoint".toList ++ (gap ++ (run ++ (gap' ++ ['\x7b']))))

/-- Reads the name of an endpoint, up to the brace that opens its block. -/
def endpointOpening? : WordReader String := fun insideWord text => do
  if insideWord then failure
  let rest ← afterSomeBlanks? (← afterLiteral? "endpoint" text)
  let (id, rest) ← word? rest
  let rest ← afterMark? '\x7b' rest
  return (String.ofList id, rest)

theorem endpointOpening?_eq_some_iff {insideWord : Bool} {text rest : List Char} {id : String} :
    endpointOpening? insideWord text = some (id, rest) ↔
      insideWord = false ∧ ∃ opening, OpensEndpoint id opening ∧ text = opening ++ rest := by
  constructor
  · intro found
    cases insideWord with
    | true => simp [endpointOpening?, failure] at found
    | false =>
      simp only [endpointOpening?, Bool.false_eq_true, if_false, Option.bind_eq_bind,
        Option.bind_eq_some_iff] at found
      obtain ⟨_, literal, _, blanks, ⟨run, _⟩, named, _, brace, same⟩ := found
      obtain rfl := afterLiteral?_eq_some literal
      obtain ⟨gap, blank, apart, rfl⟩ := afterSomeBlanks?_eq_some blanks
      obtain ⟨rfl, some, letters, _⟩ := word?_eq_some_iff.mp named
      obtain ⟨gap', blank', rfl⟩ := afterMark?_eq_some brace
      cases same
      exact ⟨rfl, _, .opening blank apart letters some rfl blank', by
        simp only [List.append_assoc, List.cons_append, List.nil_append]⟩
  · rintro ⟨rfl, _, @⟨gap, run, gap', blank, apart, letters, some, rfl, blank'⟩, rfl⟩
    have whole : "endpoint".toList ++ (gap ++ (run ++ (gap' ++ ['\x7b']))) ++ rest =
        "endpoint".toList ++ (gap ++ (run ++ (gap' ++ '\x7b' :: rest))) := by
      simp only [List.append_assoc, List.cons_append, List.nil_append]
    have word : word? (run ++ (gap' ++ '\x7b' :: rest)) = Option.some (run, gap' ++ '\x7b' :: rest) :=
      word?_eq_some_iff.mpr ⟨rfl, some, letters, blank'.wordEnds (by decide) rest⟩
    have mark : afterMark? '\x7b' (gap' ++ '\x7b' :: rest) = Option.some rest :=
      afterMark?_gap (by decide) blank' rest
    simp only [endpointOpening?, Bool.false_eq_true, if_false, Option.bind_eq_bind, whole,
      afterLiteral?_append, Option.bind_some,
      afterSomeBlanks?_gap blank apart (begins_run some letters _), word, mark]
    rfl

/-- The endpoint of a block with a name, a path and a method. -/
def inlineEndpoint (id : String) (found : String × String) : Endpoint :=
  ⟨id, found.1, found.2, [], none, none⟩

theorem firstMatch_endpoint (id : String) (text : List Char) :
    firstMatch (fun place => ( quotedEntry? "path" place).bind fun path =>
        (firstMatch methodWord? path.2).bind fun method =>
          some ((⟨id, String.ofList path.1, String.ofList method.1, [], none, none⟩ : Endpoint),
            method.2)) text =
      (pathAndMethod? text).map fun found => (inlineEndpoint id found.1, found.2) := by
  refine (firstMatch_path fun path rest => ?_).trans ?_
  · cases firstMatch methodWord? rest <;> simp
  · unfold pathAndMethod?
    cases firstMatch ( quotedEntry? "path") text with
    | none => rfl
    | some path =>
      show (firstMatch methodWord? path.2).bind _ = ((firstMatch methodWord? path.2).bind _).map _
      cases firstMatch methodWord? path.2 <;> rfl

/-- An endpoint is read from the opening of a block, the first path behind it and the first method
behind that path. -/
theorem endpointBlock_eq (insideWord : Bool) (text : List Char) :
    endpointBlock insideWord text = (endpointOpening? insideWord text).bind fun opened =>
      (pathAndMethod? opened.2).map fun found => (inlineEndpoint opened.1 found.1, found.2) := by
  cases insideWord with
  | true => rfl
  | false =>
    simp only [endpointBlock, endpointOpening?, Bool.false_eq_true, if_false, Option.bind_eq_bind,
      Option.pure_def, Option.bind_assoc, firstMatch_endpoint, Option.bind_some]

/-! ## Reading within a block -/

/-- Reads an endpoint from the text of its own block. -/
def ownBlock : WordReader Endpoint := fun insideWord text =>
  (endpointOpening? insideWord text).bind fun opened =>
    (pathAndMethod? (blockText opened.2)).map fun found =>
      (inlineEndpoint opened.1 found.1, found.2 ++ afterBlock opened.2)

/-- The endpoints of all blocks that have a path and behind it a method. -/
def ownEndpoints (source : String) : List Endpoint :=
  allMatches ownBlock source.toList

/-- A block of an endpoint in a source: what stands before it, its name, its text, and what stands
behind that. -/
structure BlockAt (source : String) (before : List Char) (id : String) (inside behind : List Char) :
    Prop where
  outside : endsInWord false before = false
  opened : ∃ opening, OpensEndpoint id opening ∧
    source.toList = before ++ (opening ++ (inside ++ behind))
  closed : blockText (inside ++ behind) = inside

/-- A block has a path and behind it a method, which with its name are the endpoint; the rest of the
source follows on the method. -/
def GivesEndpoint (source : String) (before : List Char) (endpoint : Endpoint) (rest : List Char) :
    Prop :=
  ∃ id inside behind found more, BlockAt source before id inside behind ∧
    pathAndMethod? inside = some (found, more) ∧ endpoint = inlineEndpoint id found ∧
    rest = more ++ behind

/-- A block has not both a path and behind it a method, but with the text behind the block a path and
a method are found, which with its name are the endpoint. -/
def StraysFromBlock (source : String) (before : List Char) (endpoint : Endpoint) (rest : List Char) :
    Prop :=
  ∃ id inside behind found, BlockAt source before id inside behind ∧
    pathAndMethod? inside = none ∧ pathAndMethod? (inside ++ behind) = some (found, rest) ∧
    endpoint = inlineEndpoint id found

/-- An endpoint is given by a block at a place of a source, or strays from it. -/
def TakenAt (source : String) (before : List Char) (endpoint : Endpoint) (rest : List Char) : Prop :=
  GivesEndpoint source before endpoint rest ∨ StraysFromBlock source before endpoint rest

section Places

variable {source : String} {before text rest : List Char} {endpoint : Endpoint}

/-- A path and a method that a block has are those that are found behind its opening. -/
theorem pathAndMethod?_block {pair : String × String} {more : List Char}
    (found : pathAndMethod? (blockText text) = some (pair, more)) :
    pathAndMethod? text = some (pair, more ++ afterBlock text) := by
  obtain ⟨whole, closing⟩ := afterBlock_eq text
  conv_lhs => rw [whole]
  exact pathAndMethod?_append closing found

theorem ownBlock_endpointBlock {insideWord : Bool} {answer : Endpoint × List Char}
    (found : ownBlock insideWord text = some answer) : endpointBlock insideWord text = some answer := by
  obtain ⟨⟨id, body⟩, opened, found⟩ := Option.bind_eq_some_iff.mp found
  obtain ⟨⟨pair, more⟩, inside, rfl⟩ := Option.map_eq_some_iff.mp found
  rw [endpointBlock_eq, opened, Option.bind_some, pathAndMethod?_block inside]
  rfl

theorem blockAt_of_opening {id : String} {body : List Char} (whole : source.toList = before ++ text)
    (opened : endpointOpening? (endsInWord false before) text = some (id, body)) :
    BlockAt source before id (blockText body) (afterBlock body) := by
  obtain ⟨outside, opening, opens, rfl⟩ := endpointOpening?_eq_some_iff.mp opened
  obtain ⟨split, _⟩ := afterBlock_eq body
  exact ⟨outside, ⟨opening, opens, by rw [whole, ← split]⟩, by rw [← split]⟩

theorem BlockAt.opening {id : String} {inside behind : List Char}
    (block : BlockAt source before id inside behind) (whole : source.toList = before ++ text) :
    endpointOpening? (endsInWord false before) text = some (id, inside ++ behind) := by
  obtain ⟨opening, opens, whole'⟩ := block.opened
  exact endpointOpening?_eq_some_iff.mpr
    ⟨block.outside, opening, opens, List.append_cancel_left (whole.symm.trans whole')⟩

/-- What is read from the text of a block is what the block gives. -/
theorem ownBlock_eq_some_iff (whole : source.toList = before ++ text) :
    ownBlock (endsInWord false before) text = some (endpoint, rest) ↔
      GivesEndpoint source before endpoint rest := by
  constructor
  · intro found
    obtain ⟨⟨id, body⟩, opened, found⟩ := Option.bind_eq_some_iff.mp found
    obtain ⟨⟨pair, more⟩, inside, same⟩ := Option.map_eq_some_iff.mp found
    obtain ⟨rfl, rfl⟩ := Prod.mk.inj same
    exact ⟨id, _, _, pair, more, blockAt_of_opening whole opened, inside, rfl, rfl⟩
  · rintro ⟨id, inside, behind, pair, more, block, found, rfl, rfl⟩
    have left : afterBlock (inside ++ behind) = behind := by
      rw [afterBlock, block.closed]
      exact List.drop_left
    rw [ownBlock, block.opening whole, Option.bind_some, block.closed, found, left]
    rfl

/-- What is read at a block, though not from its text, strays from it. -/
theorem strays_iff (whole : source.toList = before ++ text) :
    ownBlock (endsInWord false before) text = none ∧
        endpointBlock (endsInWord false before) text = some (endpoint, rest) ↔
      StraysFromBlock source before endpoint rest := by
  constructor
  · rintro ⟨silent, read⟩
    rw [endpointBlock_eq] at read
    obtain ⟨⟨id, body⟩, opened, read⟩ := Option.bind_eq_some_iff.mp read
    obtain ⟨⟨pair, more⟩, all, same⟩ := Option.map_eq_some_iff.mp read
    obtain ⟨rfl, rfl⟩ := Prod.mk.inj same
    rw [ownBlock, opened, Option.bind_some, Option.map_eq_none_iff] at silent
    rw [(afterBlock_eq body).1] at all
    exact ⟨id, _, _, pair, blockAt_of_opening whole opened, silent, all, rfl⟩
  · rintro ⟨id, inside, behind, pair, block, silent, found, rfl⟩
    have opened := block.opening whole
    constructor
    · rw [ownBlock, opened, Option.bind_some, block.closed, silent]
      rfl
    · rw [endpointBlock_eq, opened, Option.bind_some, found]
      rfl

/-- What is read at a block is given by it or strays from it. -/
theorem endpointBlock_eq_some_iff (whole : source.toList = before ++ text) :
    endpointBlock (endsInWord false before) text = some (endpoint, rest) ↔
      TakenAt source before endpoint rest := by
  rw [TakenAt, ← ownBlock_eq_some_iff whole, ← strays_iff whole]
  constructor
  · intro read
    cases own : ownBlock (endsInWord false before) text with
    | none => exact .inr ⟨rfl, read⟩
    | some found => exact .inl ((ownBlock_endpointBlock own).symm.trans read)
  · rintro (own | ⟨_, read⟩)
    · exact ownBlock_endpointBlock own
    · exact read

end Places

/-! ## All places -/

/-- The answers at the places of a text, behind what stands before it: the first one is found at the
first place that has one, and the others are those of the text that it leaves. -/
inductive Listing (found : List Char → α → List Char → Prop) :
    List Char → List Char → List α → Prop where
  | none {before text : List Char}
    (silent : ∀ gap more answer rest, text = gap ++ more → ¬ found (before ++ gap) answer rest) :
    Listing found before text []
  | next {before gap taken rest : List Char} {answer : α} {answers : List α}
    (silent : ∀ gap' more answer rest, gap = gap' ++ more → more ≠ [] →
      ¬ found (before ++ gap') answer rest)
    (here : found (before ++ gap) answer rest) (some : taken ≠ [])
    (tail : Listing found (before ++ gap ++ taken) rest answers) :
    Listing found before (gap ++ (taken ++ rest)) (answer :: answers)

/-- A place without an answer is passed over. -/
theorem Listing.later {found : List Char → α → List Char → Prop} {before text : List Char}
    {answers : List α} {c : Char} (silent : ∀ answer rest, ¬ found before answer rest)
    (listing : Listing found (before ++ [c]) text answers) :
    Listing found before (c :: text) answers := by
  have behind (gap : List Char) : before ++ [c] ++ gap = before ++ c :: gap := by simp
  cases listing with
  | none later =>
    refine .none fun gap more answer rest whole => ?_
    cases gap with
    | nil => simpa using silent answer rest
    | cons d gap =>
      obtain ⟨rfl, rfl⟩ := List.cons.inj whole
      exact behind gap ▸ later gap more answer rest rfl
  | @next _ gap taken rest answer answers later here some tail =>
    rw [behind] at here tail
    refine @next _ found before (c :: gap) taken rest answer answers ?_ here some tail
    intro gap' more answer rest whole notNil
    cases gap' with
    | nil => simpa using silent answer rest
    | cons d gap' =>
      obtain ⟨rfl, rfl⟩ := List.cons.inj whole
      exact behind gap' ▸ later gap' more answer rest rfl notNil

section Readers

variable {read strict : WordReader α} {insideWord : Bool} {taken : Nat} {text : List Char}

/-- A reader whose answers at the places of a text are those found there lists them. -/
theorem listing_matchesFrom {whole before : List Char} {found : List Char → α → List Char → Prop}
    (reads : ∀ {before text : List Char} {answer : α} {rest : List Char}, whole = before ++ text →
      (read (endsInWord false before) text = some (answer, rest) ↔ found before answer rest))
    (takes : ∀ {insideWord : Bool} {text : List Char} {answer : α} {rest : List Char},
      read insideWord text = some (answer, rest) → ∃ taken, taken ≠ [] ∧ text = taken ++ rest)
    (parts : whole = before ++ text) :
    Listing found before text (matchesFrom read (endsInWord false before) 0 text) := by
  -- an answer takes some of the text, so that what it leaves is shorter
  induction length : text.length using Nat.strongRecOn generalizing before text with
  | ind size ih =>
    subst length
    cases start : read (endsInWord false before) text with
    | some first =>
      obtain ⟨answer, rest⟩ := first
      obtain ⟨taken, some, rfl⟩ := takes start
      have shorter : rest.length < (taken ++ rest).length := by
        have notNil := List.length_pos_iff.mpr some
        rw [List.length_append]
        omega
      have tail : Listing found (before ++ taken) rest _ :=
        ih _ shorter (by rw [parts, List.append_assoc]) rfl
      rw [matchesFrom_found some start, ← endsInWord_parts]
      refine @Listing.next _ found before [] taken rest _ _ ?_ ?_ some ?_
      · intro gap more _ _ whole notNil
        exact absurd (List.nil_eq_append_iff.mp whole).2 notNil
      · rw [List.append_nil]
        exact (reads parts).mp start
      · rwa [List.append_nil]
    | none =>
      have silent (answer : α) (rest : List Char) : ¬ found before answer rest := by
        rw [← reads parts, start]
        nofun
      cases text with
      | nil =>
        refine .none fun gap more answer rest whole => ?_
        obtain ⟨rfl, rfl⟩ := List.nil_eq_append_iff.mp whole
        simpa using silent answer rest
      | cons c text =>
        have tail : Listing found (before ++ [c]) text _ :=
          ih _ (Nat.lt_succ_self _) (by simpa using parts) rfl
        rw [matchesFrom_none start, ← endsInWord_append false before c]
        exact tail.later silent

/-- Two lists of answers are the same, or they part where only the first reader answers. -/
inductive SameUntil (read strict : WordReader α) (insideWord : Bool) (text : List Char) :
    List α → List α → Prop where
  | same (answers : List α) : SameUntil read strict insideWord text answers answers
  | parting {shared others others' : List α} {before after rest : List Char} {answer : α}
    (whole : text = before ++ after)
    (answered : read (endsInWord insideWord before) after = some (answer, rest))
    (silent : strict (endsInWord insideWord before) after = none) :
    SameUntil read strict insideWord text (shared ++ answer :: others) (shared ++ others')

namespace SameUntil

variable {answers answers' : List α}

theorem later {c : Char} (rest : SameUntil read strict (isWordChar c) text answers answers') :
    SameUntil read strict insideWord (c :: text) answers answers' := by
  cases rest with
  | same => exact .same _
  | @parting shared others others' before after rest answer whole answered silent =>
    exact @parting _ _ _ _ _ shared others others' (c :: before) after rest answer
      (congrArg (c :: ·) whole) answered silent

theorem cons (first : α) (rest : SameUntil read strict insideWord text answers answers') :
    SameUntil read strict insideWord text (first :: answers) (first :: answers') := by
  cases rest with
  | same => exact .same _
  | @parting shared others others' before after rest answer whole answered silent =>
    exact @parting _ _ _ _ _ (first :: shared) others others' before after rest answer whole
      answered silent

end SameUntil

/-- A reader and a stricter one have the same answers until the less strict one alone answers. -/
theorem sameUntil_matchesFrom
    (refines : ∀ {insideWord : Bool} {text : List Char} {found : α × List Char},
      strict insideWord text = some found → read insideWord text = some found) :
    SameUntil read strict insideWord text (matchesFrom read insideWord taken text)
      (matchesFrom strict insideWord taken text) := by
  induction text generalizing insideWord taken with
  | nil => exact .same []
  | cons c text ih =>
    cases taken with
    | succ taken => exact ih.later
    | zero =>
      rw [matchesFrom, matchesFrom]
      cases strictly : strict insideWord (c :: text) with
      | some found =>
        rw [refines strictly]
        exact ih.later.cons found.1
      | none =>
        cases loosely : read insideWord (c :: text) with
        | some found =>
          exact @SameUntil.parting _ _ _ _ _ [] _ _ [] (c :: text) found.2 found.1 rfl loosely
            strictly
        | none => exact ih.later

end Readers

/-! ## The endpoints of a source -/

theorem endpointBlock_takes {insideWord : Bool} {text rest : List Char} {endpoint : Endpoint}
    (read : endpointBlock insideWord text = some (endpoint, rest)) :
    ∃ taken, taken ≠ [] ∧ text = taken ++ rest := by
  rw [endpointBlock_eq] at read
  obtain ⟨⟨id, body⟩, opened, read⟩ := Option.bind_eq_some_iff.mp read
  obtain ⟨⟨pair, more⟩, found, same⟩ := Option.map_eq_some_iff.mp read
  obtain ⟨rfl, rfl⟩ := Prod.mk.inj same
  obtain ⟨_, opening, opens, rfl⟩ := endpointOpening?_eq_some_iff.mp opened
  obtain ⟨taken, rfl⟩ := pathAndMethod?_suffix found
  refine ⟨opening ++ taken, ?_, (List.append_assoc _ _ _).symm⟩
  obtain ⟨⟩ := opens
  exact List.cons_ne_nil _ _

/-- An extracted interface has the endpoints that are given by blocks or stray from them, from left to
right. Up to the first one that strays, its endpoints are those that are given by blocks, where blocks
that have not a path and behind it a method are passed over. -/
theorem endpoints_of_own_blocks {source : String} {api : Api} (found : apiOf? source = some api) :
    Listing (TakenAt source) [] source.toList api.endpoints ∧
      Listing (GivesEndpoint source) [] source.toList (ownEndpoints source) ∧
      (api.endpoints = ownEndpoints source ∨ ∃ shared strayed others others' before rest,
        api.endpoints = shared ++ strayed :: others ∧ ownEndpoints source = shared ++ others' ∧
          StraysFromBlock source before strayed rest) := by
  obtain ⟨baseUrl, _, rfl⟩ := Option.map_eq_some_iff.mp found
  refine ⟨?_, ?_, ?_⟩
  · exact listing_matchesFrom endpointBlock_eq_some_iff endpointBlock_takes rfl
  · exact listing_matchesFrom ownBlock_eq_some_iff
      (fun read => endpointBlock_takes (ownBlock_endpointBlock read)) rfl
  · have parts : SameUntil endpointBlock ownBlock false source.toList (endpointsOf source)
        (ownEndpoints source) := sameUntil_matchesFrom ownBlock_endpointBlock
    show endpointsOf source = _ ∨ _
    generalize endpointsOf source = endpoints at parts
    generalize ownEndpoints source = owns at parts
    cases parts with
    | same => exact .inl rfl
    | @parting shared others others' before after rest strayed whole read silent =>
      exact .inr ⟨shared, strayed, others, others', before, rest, rfl, rfl,
        (strays_iff whole).mp ⟨silent, read⟩⟩

/-- An interface with a block that has its path and its method in the other order, behind one that
has them as expected. -/
def skippedSource : String :=
  "api \x7b baseUrl: \"u\" endpoint B \x7b path: \"/b\" method: GET \x7d\n" ++
    "endpoint A \x7b method: GET path: \"/a\" \x7d \x7d"

set_option maxRecDepth 4000 in
theorem endpoints_of_own_blocks_skipped : ∃ api, apiOf? skippedSource = some api ∧
    api.endpoints = [inlineEndpoint "B" ("/b", "GET")] ∧
    Listing (GivesEndpoint skippedSource) [] skippedSource.toList api.endpoints := by
  have found : apiOf? skippedSource =
      some ⟨"u", false, [inlineEndpoint "B" ("/b", "GET")]⟩ := by cbv
  have owns : ownEndpoints skippedSource = [inlineEndpoint "B" ("/b", "GET")] := by cbv
  obtain ⟨_, given, _⟩ := endpoints_of_own_blocks found
  rw [owns] at given
  exact ⟨_, found, rfl, given⟩

/-- An interface with a block that has no method, before one that has a path and a method. -/
def strayingSource : String :=
  "api \x7b baseUrl: \"u\" endpoint A \x7b path: \"/a\" \x7d " ++
    "endpoint B \x7b path: \"/b\" method: GET \x7d \x7d"

set_option maxRecDepth 4000 in
/-- An endpoint may take its method from another block, which is then missing. -/
theorem endpoint_of_two_blocks : ∃ api, apiOf? strayingSource = some api ∧
    api.endpoints = [inlineEndpoint "A" ("/a", "GET")] ∧
    ownEndpoints strayingSource = [inlineEndpoint "B" ("/b", "GET")] ∧
    ∀ endpoint ∈ api.endpoints, ¬ ∃ before rest, GivesEndpoint strayingSource before endpoint rest := by
  have found : apiOf? strayingSource =
      some ⟨"u", false, [inlineEndpoint "A" ("/a", "GET")]⟩ := by cbv
  have owns : ownEndpoints strayingSource = [inlineEndpoint "B" ("/b", "GET")] := by cbv
  refine ⟨_, found, rfl, owns, ?_⟩
  rintro endpoint member ⟨before, rest, gives⟩
  obtain rfl := List.mem_singleton.mp member
  have given := gives
  obtain ⟨_, _, _, _, _, ⟨_, ⟨opening, _, whole⟩, _⟩, _⟩ := given
  have read := (ownBlock_eq_some_iff whole).mpr gives
  -- no place of the source has a block of this name with a method in it
  have silent : ∀ place ∈ List.range (strayingSource.toList.length + 1),
      (ownBlock (endsInWord false (strayingSource.toList.take place))
        (strayingSource.toList.drop place)).map (fun found => found.1.id) ≠ some "A" := by
    decide +kernel
  have inside : before.length < strayingSource.toList.length + 1 := by
    rw [whole, List.length_append]
    omega
  apply silent before.length (List.mem_range.mpr inside)
  rw [whole, List.take_left, List.drop_left, read]
  rfl

end Blueprint
