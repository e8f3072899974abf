import Blueprint.Token.Stream
import Blueprint.Proofs.Heads

/-!
Readers over one source do not disturb each other. What a schedule asks of one reader is followed
from the step that opens it on: a step of the schedule either asks that reader something or leaves
it where it stands, so that the answers it gives are the ones it would give alone.
-/
set_option autoImplicit false

namespace Blueprint

/-- What can be asked of one reader. -/
inductive ReaderRequest where
  /-- Draw up to `count` tokens. -/
  | draw (count : Nat)
  /-- Draw all that is left. -/
  | drain
  deriving DecidableEq, Repr

namespace StreamAnswer

def delivered : StreamAnswer → List Token
  | .reader _ => []
  | .tokens given _ => given

end StreamAnswer

/-- The tokens that answers deliver, one after the other. -/
def delivered (answers : List StreamAnswer) : List Token :=
  answers.flatMap StreamAnswer.delivered

theorem delivered_cons (answer : StreamAnswer) (answers : List StreamAnswer) :
    delivered (answer :: answers) = answer.delivered ++ delivered answers :=
  List.flatMap_cons

theorem delivered_append (earlier later : List StreamAnswer) :
    delivered (earlier ++ later) = delivered earlier ++ delivered later :=
  List.flatMap_append

/-! ## One reader alone -/

namespace Reader

def answer (reader : Reader) : ReaderRequest → StreamAnswer × Reader
  | .draw count =>
    let (given, ranOut, after) := reader.draw count
    (.tokens given ranOut, after)
  | .drain => (.tokens reader.remaining false, none)

/-- The answers of a reader to one request after the other. -/
def serve : Reader → List ReaderRequest → List StreamAnswer
  | _, [] => []
  | reader, request :: requests =>
    (reader.answer request).1 :: serve (reader.answer request).2 requests

theorem remaining_next (cursor : Cursor) :
    remaining (some cursor) = cursor.next.1 :: remaining cursor.next.2 := by
  rw [remaining, Cursor.tokens]
  split
  · next token step => rw [step, remaining]
  · next token after step => rw [step, remaining]

theorem remaining_draw (count : Nat) (reader : Reader) :
    (reader.draw count).1 ++ remaining (reader.draw count).2.2 = reader.remaining := by
  induction count generalizing reader with
  | zero => rw [draw, List.nil_append]
  | succ count ih =>
    cases reader with
    | none => rw [draw, List.nil_append]
    | some cursor =>
      rw [remaining_next, ← ih cursor.next.2]
      rfl

/-- An answer delivers the next tokens of a reader and leaves it the ones after them. -/
theorem remaining_answer (reader : Reader) (request : ReaderRequest) :
    (reader.answer request).1.delivered ++ remaining (reader.answer request).2 =
      reader.remaining := by
  cases request with
  | draw count => exact remaining_draw count reader
  | drain => exact List.append_nil reader.remaining

theorem delivered_serve_begins (reader : Reader) (requests : List ReaderRequest) :
    delivered (reader.serve requests) <+: reader.remaining := by
  induction requests generalizing reader with
  | nil => exact List.nil_prefix
  | cons request requests ih =>
    rw [serve, delivered_cons, ← remaining_answer reader request]
    exact (List.prefix_append_right_inj _).mpr (ih _)

theorem delivered_serve_of_drain (reader : Reader) {requests : List ReaderRequest}
    (drains : .drain ∈ requests) : delivered (reader.serve requests) = reader.remaining := by
  induction requests generalizing reader with
  | nil => contradiction
  | cons request requests ih =>
    rw [serve, delivered_cons, ← remaining_answer reader request, List.append_cancel_left_eq]
    rcases List.mem_cons.mp drains with rfl | later
    · exact List.prefix_nil.mp (delivered_serve_begins none requests)
    · exact ih _ later

end Reader

/-! ## The end of a source -/

theorem ne_eof_of_mem_splitEnd {tokens : List Token} {token : Token}
    (member : token ∈ (Document.splitEnd tokens).1) : token.kind ≠ .eof := by
  induction tokens with
  | nil => contradiction
  | cons first tokens ih =>
    rw [Document.splitEnd] at member
    split at member
    · contradiction
    · next inside =>
      rcases List.mem_cons.mp member with rfl | later
      · simpa using inside
      · exact ih later

/-- Nothing of a source is left once its end was among what was delivered. -/
theorem nothing_after_end {source : String} {earlier later : List Token}
    (start : earlier ++ later <+: tokenize source) {token : Token} (among : token ∈ earlier)
    (ends : token.kind = .eof) : later = [] := by
  obtain ⟨stop, whole⟩ := tokenize_eq source
  rw [whole, List.prefix_concat_iff] at start
  rcases start with all | inner
  · rcases List.eq_nil_or_concat later with none | ⟨front, final, rfl⟩
    · exact none
    · rw [List.concat_eq_append, ← List.append_assoc] at all
      have front := (List.append_inj_left' all rfl) ▸ List.mem_append_left _ among
      exact absurd ends (ne_eof_of_mem_splitEnd front)
  · exact absurd ends (ne_eof_of_mem_splitEnd (inner.subset (List.mem_append_left _ among)))

/-! ## One reader among others -/

/-- What a step asks of the reader with an index. -/
def StreamStep.asks? (index : Nat) : StreamStep → Option ReaderRequest
  | .drawn reader count => if reader = index then some (.draw count) else none
  | .drained reader => if reader = index then some .drain else none
  | .opened | .passed => none

/-- The number of steps up to the one that opens the reader with an index, that one included, or of
all steps if that reader is never opened. -/
def opening : Nat → List StreamStep → Nat
  | _, [] => 0
  | 0, .opened :: _ => 1
  | index + 1, .opened :: steps => opening index steps + 1
  | index, _ :: steps => opening index steps + 1

theorem opening_cons {step : StreamStep} (opens : step ≠ .opened) (index : Nat)
    (steps : List StreamStep) : opening index (step :: steps) = opening index steps + 1 := by
  cases step with
  | opened => contradiction
  | _ => cases index <;> rfl

/-- What a schedule asks of the reader with an index once that reader is open. -/
def requestsTo (index : Nat) (steps : List StreamStep) : List ReaderRequest :=
  (steps.drop (opening index steps)).filterMap (StreamStep.asks? index)

/-- The answers that stand beside the steps that ask something of a reader. -/
def answersBeside (index : Nat) (entries : List (StreamStep × StreamAnswer)) :
    List StreamAnswer :=
  entries.filterMap fun (step, answer) => (step.asks? index).map fun _ => answer

/-- The answers to what a schedule asks of the reader with an index once that reader is open. -/
def answersOf (index : Nat) (steps : List StreamStep) (answers : List StreamAnswer) :
    List StreamAnswer :=
  answersBeside index ((steps.zip answers).drop (opening index steps))

namespace TokenStream

@[simp] theorem source_step (stream : TokenStream) (step : StreamStep) :
    (stream.step step).2.source = stream.source := by
  cases step <;> rfl

theorem length_readers_step (stream : TokenStream) {step : StreamStep} (opens : step ≠ .opened) :
    (stream.step step).2.readers.length = stream.readers.length := by
  cases step with
  | opened => contradiction
  | passed => rfl
  | drawn reader count => exact List.length_set
  | drained reader => exact List.length_set

/-- A step that asks something of a reader is answered by it and moves it on. -/
theorem step_of_asks {stream : TokenStream} {step : StreamStep} {index : Nat} {reader : Reader}
    {request : ReaderRequest} (stands : stream.readers[index]? = some reader)
    (asks : step.asks? index = some request) :
    (stream.step step).1 = (reader.answer request).1 ∧
      (stream.step step).2.readers[index]? = some (reader.answer request).2 := by
  have bound : index < stream.readers.length := (List.getElem?_eq_some_iff.mp stands).1
  cases step with
  | opened => contradiction
  | passed => contradiction
  | drawn other count =>
    simp only [StreamStep.asks?, Option.ite_none_right_eq_some, Option.some.injEq] at asks
    obtain ⟨rfl, rfl⟩ := asks
    simp only [step, stands, Option.getD_some, Reader.answer, List.getElem?_set_self bound,
      and_self]
  | drained other =>
    simp only [StreamStep.asks?, Option.ite_none_right_eq_some, Option.some.injEq] at asks
    obtain ⟨rfl, rfl⟩ := asks
    simp only [step, stands, Option.getD_some, Reader.answer, List.getElem?_set_self bound,
      and_self]

/-- Any other step leaves the reader where it stands. -/
theorem step_of_not_asks {stream : TokenStream} {step : StreamStep} {index : Nat} {reader : Reader}
    (stands : stream.readers[index]? = some reader) (asks : step.asks? index = none) :
    (stream.step step).2.readers[index]? = some reader := by
  cases step with
  | opened => exact List.getElem?_append_left (List.getElem?_eq_some_iff.mp stands).1 ▸ stands
  | passed => exact stands
  | drawn other count =>
    simp only [StreamStep.asks?, ite_eq_right_iff, reduceCtorEq, imp_false] at asks
    simpa only [step, List.getElem?_set_ne asks] using stands
  | drained other =>
    simp only [StreamStep.asks?, ite_eq_right_iff, reduceCtorEq, imp_false] at asks
    simpa only [step, List.getElem?_set_ne asks] using stands

/-- A reader that is open answers in a run what it would answer alone. -/
theorem run_serves {stream : TokenStream} {index : Nat} {reader : Reader}
    (stands : stream.readers[index]? = some reader) (steps : List StreamStep) :
    answersBeside index (steps.zip (stream.run steps)) =
      reader.serve (steps.filterMap (StreamStep.asks? index)) := by
  induction steps generalizing stream reader with
  | nil => rfl
  | cons step steps ih =>
    rw [run, List.zip_cons_cons, answersBeside]
    cases asks : step.asks? index with
    | none =>
      rw [List.filterMap_cons_none (by simp [asks]), List.filterMap_cons_none asks]
      exact ih (step_of_not_asks stands asks)
    | some request =>
      obtain ⟨answers, moves⟩ := step_of_asks stands asks
      rw [List.filterMap_cons_some (b := (stream.step step).1) (by simp [asks]),
        List.filterMap_cons_some asks, Reader.serve, answers]
      exact congrArg _ (ih moves)

/-- So does a reader that the run opens after `index` others. -/
theorem run_serves_opened (stream : TokenStream) (index : Nat) (steps : List StreamStep) :
    answersBeside (stream.readers.length + index)
        ((steps.zip (stream.run steps)).drop (opening index steps)) =
      (Reader.ofSource stream.source).serve
        ((steps.drop (opening index steps)).filterMap
          (StreamStep.asks? (stream.readers.length + index))) := by
  induction steps generalizing stream index with
  | nil => rfl
  | cons step steps ih =>
    by_cases opens : step = .opened
    · subst opens
      cases index with
      | zero =>
        have stands : (stream.step .opened).2.readers[stream.readers.length]? =
            some (Reader.ofSource stream.source) := List.getElem?_concat_length
        exact run_serves stands steps
      | succ index =>
        have count : (stream.step .opened).2.readers.length = stream.readers.length + 1 :=
          List.length_append
        have rest := ih (stream.step .opened).2 index
        rw [source_step, count, Nat.add_assoc, Nat.add_comm 1] at rest
        exact rest
    · have rest := ih (stream.step step).2 index
      rw [source_step, length_readers_step stream opens] at rest
      rw [opening_cons opens, run, List.zip_cons_cons, List.drop_succ_cons, List.drop_succ_cons]
      exact rest

/-- Every full pass delivers the whole source. -/
theorem run_passes (stream : TokenStream) {steps : List StreamStep} {answer : StreamAnswer}
    (among : (.passed, answer) ∈ steps.zip (stream.run steps)) :
    answer = .tokens (tokenize stream.source) false := by
  induction steps generalizing stream with
  | nil => contradiction
  | cons step steps ih =>
    rcases List.mem_cons.mp among with here | later
    · obtain ⟨rfl, rfl⟩ := Prod.mk.inj here
      rfl
    · rw [← source_step stream step]
      exact ih _ later

end TokenStream

/-- Readers over one source are independent. In every run every full pass delivers all tokens of the
source, and what is asked of a reader from its opening on is answered as if nothing else were asked
of anyone. The tokens it delivers are in order the first ones of the source, all of them if it is
drained, and none after the end. -/
theorem readers_independent (source : String) (steps : List StreamStep) :
    let answers := (TokenStream.ofSource source).run steps
    (∀ answer, (.passed, answer) ∈ steps.zip answers →
      answer = .tokens (tokenize source) false) ∧
    ∀ index,
      answersOf index steps answers =
        (Reader.ofSource source).serve (requestsTo index steps) ∧
      delivered (answersOf index steps answers) <+: tokenize source ∧
      (.drain ∈ requestsTo index steps →
        delivered (answersOf index steps answers) = tokenize source) ∧
      ∀ earlier later, answersOf index steps answers = earlier ++ later →
        (∃ token ∈ delivered earlier, token.kind = .eof) → delivered later = [] := by
  intro answers
  refine ⟨fun answer among => TokenStream.run_passes (.ofSource source) among, ?_⟩
  intro index
  have alone : answersOf index steps answers =
      (Reader.ofSource source).serve (requestsTo index steps) := by
    have opened := TokenStream.run_serves_opened (.ofSource source) index steps
    rw [show (TokenStream.ofSource source).readers.length = 0 from rfl, Nat.zero_add] at opened
    exact opened
  have start := Reader.delivered_serve_begins (.ofSource source) (requestsTo index steps)
  refine ⟨alone, alone ▸ start, ?_, ?_⟩
  · intro drains
    rw [alone]
    exact Reader.delivered_serve_of_drain (.ofSource source) drains
  · rintro earlier later split ⟨token, among, ends⟩
    rw [← alone, split, delivered_append] at start
    exact nothing_after_end start among ends

/-- Two readers take turns around a full pass; the first draws past the end. -/
def turns : List StreamStep :=
  [.opened, .drawn 0 1, .opened, .passed, .drained 1, .drawn 0 2, .drawn 0 1]

theorem readers_independent_turns :
    let answers := (TokenStream.ofSource "a").run turns
    delivered (answersOf 1 turns answers) = tokenize "a" ∧
      delivered (answersOf 0 turns answers) <+: tokenize "a" ∧
      answersOf 0 turns answers =
        [.tokens [⟨.identifier, "a", ⟨1, 1⟩⟩] false, .tokens [⟨.eof, "", ⟨1, 2⟩⟩] true] ++
          [.tokens [] true] ∧
      delivered [.tokens [] true] = [] := by
  intro answers
  obtain ⟨_, readers⟩ := readers_independent "a" turns
  obtain ⟨_, start, _, ended⟩ := readers 0
  have split : answersOf 0 turns answers =
      [.tokens [⟨.identifier, "a", ⟨1, 1⟩⟩] false, .tokens [⟨.eof, "", ⟨1, 2⟩⟩] true] ++
        [.tokens [] true] := by
    cbv
  exact ⟨(readers 1).2.2.1 (by decide), start, split,
    ended _ _ split ⟨⟨.eof, "", ⟨1, 2⟩⟩, by decide, rfl⟩⟩

end Blueprint
