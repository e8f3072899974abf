import Blueprint.Document.Values
import Blueprint.Proofs.Floats
import Blueprint.Proofs.Reading

/-!
Generic values are read as they were written, at any depth.
-/
set_option autoImplicit false

namespace Blueprint

open Written

namespace Reads

variable {follow : List Token → Prop}

theorem look {α : Type} {next : Token → Parser α} {first : Token} {more : List Token} {result : α}
    (nexts : Reads follow (next first) (first :: more) result) :
    Reads follow (Parser.current >>= next) (first :: more) result where
  legible := nexts.legible
  run stop rest follows := by
    rw [List.cons_append, Parser.bind_run_clean rfl]
    exact nexts.run stop rest follows

theorem number {digits : List Char} {value : Value} (isNumber : IsNumber digits)
    (valued : Grammar.number (String.ofList digits) = Pure.pure value) :
    Reads follow (Parser.expect .number >>= fun token => Grammar.number token.value)
      [numeral digits] value := by
  refine take ⟨legible_numeral isNumber, fun stop rest => Parser.accept_run rfl _ stop rest⟩ ?_
  change Reads follow (Grammar.number (String.ofList digits)) [] value
  rw [valued]
  exact pure value

theorem number_int {i : Int} (short : (Nat.toDigits 10 i.natAbs).length ≤ Numeral.maxDigits) :
    Grammar.number (String.ofList (integer i)) = Pure.pure (.int i) := by
  have whole : (integer i).contains '.' = false := by
    simpa using point_not_mem_integer i
  simp only [Grammar.number, String.toList_ofList, whole, Bool.false_eq_true, if_false,
    int?_integer short]

theorem number_float (negative : Bool) {significand : Nat} {exponent : Int}
    (canonical : CanonicalParts significand exponent) :
    Grammar.number (String.ofList (float (.finite negative significand exponent canonical))) =
      Pure.pure (.float (.finite negative significand exponent canonical)) := by
  have fractional : (float (.finite negative significand exponent canonical)).contains '.' = true := by
    simpa using point_mem_float negative canonical
  simp only [Grammar.number, String.toList_ofList, fractional, if_true,
    float_written negative canonical]

theorem values_eq (items : List Value) : values items = elements Written.value items := by
  induction items with
  | nil => rfl
  | cons item items ih =>
    rw [values, ih, elements_cons, List.append_assoc, List.singleton_append]

def field (field : String × Value) : List Token :=
  quoted field.1 :: mark .colon :: (Written.value field.2 ++ [Written.comma])

theorem fieldsOf_eq (fields : List (String × Value)) : fieldsOf fields = fields.flatMap field := by
  induction fields with
  | nil => rfl
  | cons first fields ih =>
    obtain ⟨key, content⟩ := first
    simp [fieldsOf, field, ih]

theorem opens_value {value : Value} (wellFormed : value.WellFormed) :
    Opens (Written.value value) := by
  cases wellFormed with
  | bool b => cases b <;> exact opens_word _ _
  | int _ => exact ⟨_, _, rfl, trivial⟩
  | float _ _ => exact ⟨_, _, rfl, trivial⟩
  | text _ => exact opens_quoted _ _
  | list _ => exact opens_bracket _
  | object _ _ => exact opens_brace _

theorem takes_objectKey (key : String) : Takes Grammar.objectKey (quoted key) key where
  legible := legible_quoted key
  run stop rest := by
    have atText : Parser.isAt .string stop (quoted key :: rest) = .ok true (quoted key :: rest) [] :=
      rfl
    exact (Parser.bind_run_clean atText _).trans ((takes_text key).run stop rest)

theorem entryContent {inner : Parser Value} {tokens : List Token} {value : Value}
    (contents : Reads follow inner tokens value) :
    Reads follow (Grammar.entryContent inner) (mark .colon :: tokens) value := by
  have reads : Reads follow (Grammar.entryContent inner) ([mark .colon] ++ tokens) value :=
    test contents (List.forall_mem_singleton.mpr (legible_mark .colon)) rfl fun _ _ => rfl
  exact reads

theorem objectOf {inner : Parser Value} {fields : Fields Value} (distinct : fields.Distinct)
    (contents : ∀ field ∈ fields, Reads CommaNext inner (Written.value field.2) field.2) :
    Reads follow (Grammar.objectOf inner) (braces (fieldsOf fields)) fields := by
  refine take (takes_symbol .leftBrace) (closed (untilClosed ?_) (pure _))
  rw [fieldsOf_eq]
  refine .fields closing_brace (fun field member earlier => ⟨?_, opens_quoted _ _, ?_⟩) [] distinct
  · exact take (takes_objectKey field.1) (comma (entryContent (contents field member)) (pure _))
  · exact stillOpen_of_opens closing_brace (opens_quoted _ _)

theorem listOf {inner : Parser Value} {items : List Value}
    (contents : ∀ item ∈ items, ReadsItem inner Written.value item) :
    Reads follow (Grammar.listOf inner) (brackets (values items)) items := by
  rw [values_eq]
  exact take (takes_symbol .leftBracket) (closed (commaSeparated contents) (pure _))

theorem takes_flag (holds : Bool) :
    Takes Parser.expectFlag (word (if holds then "true" else "false")) holds where
  legible := by cases holds <;> exact legible_word (by decide)
  run stop rest := by
    cases holds <;> exact Parser.bind_run_clean (Parser.accept_run rfl _ stop rest) _

theorem length_le_flatMap {α : Type} (write : α → List Token) {items : List α} {item : α}
    (member : item ∈ items) : (write item).length ≤ (items.flatMap write).length := by
  rw [List.flatMap_def]
  exact (List.sublist_flatten_of_mem (List.mem_map_of_mem member)).length_le

/-- A value is read at any depth that its tokens may need. -/
theorem valueWithin {value : Value} (wellFormed : value.WellFormed) :
    ∀ depth, (Written.value value).length ≤ depth →
      Reads CommaNext (Grammar.valueWithin depth) (Written.value value) value := by
  induction wellFormed with
  | bool b =>
    intro depth enough
    cases depth with
    | zero => cases b <;> simp [Written.value] at enough
    | succ depth =>
      cases b with
      | true => exact look (map (ofTakes (takes_flag true)) (pure _))
      | false => exact look (map (ofTakes (takes_flag false)) (pure _))
  | @int i short =>
    intro depth enough
    cases depth with
    | zero => simp [Written.value] at enough
    | succ depth => exact look (number (isNumber_integer i) (number_int short))
  | float negative canonical =>
    intro depth enough
    cases depth with
    | zero => simp [Written.value] at enough
    | succ depth =>
      exact look (number (isNumber_float negative canonical) (number_float negative canonical))
  | text s =>
    intro depth enough
    cases depth with
    | zero => simp [Written.value] at enough
    | succ depth => exact look (map (ofTakes (takes_text s)) (pure _))
  | @list items contents ih =>
    intro depth enough
    cases depth with
    | zero => simp [Written.value, brackets] at enough
    | succ depth =>
      refine look (map (listOf fun item member => ⟨ih item member depth ?_, ?_⟩) (pure _))
      · have within := length_le_flatMap (fun item => Written.value item ++ [Written.comma]) member
        rw [Written.value, brackets, values_eq, elements] at enough
        simp only [List.length_cons, List.length_append, List.length_nil] at enough within
        omega
      · exact opens_value (contents item member)
  | @object fields distinct contents ih =>
    intro depth enough
    cases depth with
    | zero => simp [Written.value, braces] at enough
    | succ depth =>
      refine look (map (objectOf distinct fun field member => ih field member depth ?_) (pure _))
      have within := length_le_flatMap Reads.field member
      rw [Written.value, braces, fieldsOf_eq] at enough
      simp only [List.length_cons, List.length_append, List.length_nil] at enough
      simp only [Reads.field, List.length_cons, List.length_append, List.length_nil] at within
      omega

theorem value {value : Value} (wellFormed : value.WellFormed) :
    Reads CommaNext Grammar.value (Written.value value) value where
  legible := (valueWithin wellFormed _ le_rfl).legible
  run stop rest follows := by
    refine (valueWithin wellFormed _ ?_).run stop rest follows
    rw [List.length_append]
    omega

/-! ## Objects -/

end Reads

theorem Fields.WellFormed.distinct {fields : Fields Value} (wellFormed : fields.WellFormed) :
    fields.Distinct := by
  cases wellFormed with
  | object distinct _ => exact distinct

theorem Fields.WellFormed.contents {fields : Fields Value} (wellFormed : fields.WellFormed) :
    ∀ field ∈ fields, field.2.WellFormed := by
  cases wellFormed with
  | object _ contents => exact contents

namespace Reads

variable {follow : List Token → Prop}

theorem object {fields : Fields Value} (wellFormed : fields.WellFormed) :
    Reads follow Grammar.object (Written.object fields) fields := by
  rw [Written.object, Written.value]
  exact objectOf wellFormed.distinct fun field member => value (wellFormed.contents field member)

theorem objectList {objects : List (Fields Value)} (wellFormed : ∀ fields ∈ objects, fields.WellFormed) :
    Reads follow Grammar.objectList (Written.objectList objects) objects := by
  refine take (takes_symbol .leftBracket) (closed (itemsUntil closing_bracket ?_) (pure _))
  intro fields member
  exact ⟨object (wellFormed fields member), opens_brace _⟩

end Reads

end Blueprint
