import Blueprint.Files.Path
import Blueprint.Proofs.Lines
import Blueprint.Proofs.Naming
import Blueprint.Text.Case

/-!
Paths as rows of segments. A segment leads one level down if no slash stands in it and not all of it
is dots; a path of such segments is split into them again, leads away from no directory, and is found
below it name by name. Names of word characters are such segments, and stay so in lower case.
-/
set_option autoImplicit false

namespace Blueprint

open Text

/-- A segment that leads one level down. -/
structure LeadsDown (segment : String) : Prop where
  free : '/' ∉ segment.toList
  solid : ∃ c ∈ segment.toList, c ≠ '.'

instance : DecidablePred LeadsDown := fun segment =>
  decidable_of_iff ('/' ∉ segment.toList ∧ segment.toList.any (· != '.') = true)
    ⟨fun ⟨free, solid⟩ => ⟨free, by simpa using solid⟩,
      fun leads => ⟨leads.free, by simpa using leads.solid⟩⟩

/-- The path through some segments. -/
def pathOf (segments : List String) : String := "/".intercalate segments

theorem pathOf_append {front rest : List String} (some : front ≠ []) (some' : rest ≠ []) :
    pathOf (front ++ rest) = pathOf front ++ "/" ++ pathOf rest := by
  induction front with
  | nil => contradiction
  | cons segment front ih =>
    cases front with
    | nil =>
      obtain ⟨other, others, rfl⟩ := List.exists_cons_of_ne_nil some'
      simp [pathOf, String.intercalate_cons_cons]
    | cons other others =>
      have later := ih (List.cons_ne_nil other others)
      simp only [pathOf, List.cons_append, String.intercalate_cons_cons] at later ⊢
      rw [later]
      simp [String.append_assoc]

theorem split_pathOf {segments : List String} (some : segments ≠ [])
    (free : ∀ segment ∈ segments, '/' ∉ segment.toList) : split '/' (pathOf segments) = segments := by
  induction segments with
  | nil => contradiction
  | cons segment segments ih =>
    have first := splitChars_free (free segment List.mem_cons_self)
    cases segments with
    | nil => simp [pathOf, split, first]
    | cons other others =>
      have later := ih (List.cons_ne_nil other others)
        fun segment member => free segment (List.mem_cons_of_mem _ member)
      have whole : (pathOf (segment :: other :: others)).toList =
          segment.toList ++ '/' :: (pathOf (other :: others)).toList := by
        simp [pathOf, String.intercalate_cons_cons]
      rw [split] at later ⊢
      rw [whole, splitChars_append, List.map_append, later, first]
      simp

theorem pathOf_injective {segments segments' : List String} (some : segments ≠ [])
    (some' : segments' ≠ []) (free : ∀ segment ∈ segments, '/' ∉ segment.toList)
    (free' : ∀ segment ∈ segments', '/' ∉ segment.toList)
    (same : pathOf segments = pathOf segments') : segments = segments' := by
  rw [← split_pathOf some free, same, split_pathOf some' free']

theorem LeadsDown.not_special {segment : String} (leads : LeadsDown segment) :
    segment ≠ "" ∧ segment ≠ "." ∧ segment ≠ ".." := by
  obtain ⟨c, member, solid⟩ := leads.solid
  refine ⟨?_, ?_, ?_⟩ <;> rintro rfl <;> simp_all

/-- Such segments are the names of the path. -/
theorem namesOf_pathOf {segments : List String} (some : segments ≠ [])
    (leads : ∀ segment ∈ segments, LeadsDown segment) :
    Path.namesOf (pathOf segments) = segments := by
  rw [Path.namesOf, split_pathOf some fun segment member => (leads segment member).free]
  refine List.filter_eq_self.mpr fun segment member => ?_
  have special := (leads segment member).not_special
  simp [special.1, special.2.1]

theorem relative_pathOf {segments : List String} (some : segments ≠ [])
    (leads : ∀ segment ∈ segments, LeadsDown segment) :
    (Path.ofText (pathOf segments)).isAbsolute = false := by
  obtain ⟨segment, others, rfl⟩ := List.exists_cons_of_ne_nil some
  have leadsDown := leads segment List.mem_cons_self
  have begins : ∃ rest, (pathOf (segment :: others)).toList = segment.toList ++ rest := by
    cases others with
    | nil => exact ⟨[], by simp [pathOf]⟩
    | cons other others => exact ⟨_, by simp [pathOf, String.intercalate_cons_cons]; rfl⟩
  obtain ⟨rest, whole⟩ := begins
  have noSlash : (pathOf (segment :: others)).toList.takeWhile (· == '/') = [] := by
    obtain ⟨c, member, _⟩ := leadsDown.solid
    cases letters : segment.toList with
    | nil => simp [letters] at member
    | cons d more =>
      have free := leadsDown.free
      rw [letters, List.mem_cons, not_or] at free
      rw [whole, letters, List.cons_append, List.takeWhile_cons, if_neg]
      simpa using Ne.symm free.1
  simp [Path.ofText, Path.isAbsolute, noSlash]

/-! ## Words as segments -/

/-- A character of a segment that is all names and no dots. -/
def Solid (c : Char) : Prop := c ≠ '/' ∧ c ≠ '.'

instance : DecidablePred Solid := fun c => inferInstanceAs (Decidable (c ≠ '/' ∧ c ≠ '.'))

theorem solid_of_isWordChar {c : Char} (member : isWordChar c = true) : Solid c := by
  constructor <;> rintro rfl <;> exact absurd member (by decide)

theorem leadsDown_of_solid {name : String} (some : name.toList ≠ [])
    (solid : ∀ c ∈ name.toList, Solid c) (ending : String) (free : '/' ∉ ending.toList) :
    LeadsDown (name ++ ending) where
  free := by
    rw [String.toList_append, List.mem_append, not_or]
    exact ⟨fun member => (solid _ member).1 rfl, free⟩
  solid := by
    obtain ⟨c, rest, letters⟩ := List.exists_cons_of_ne_nil some
    have member : c ∈ name.toList := by simp [letters]
    exact ⟨c, by simp [letters], (solid c member).2⟩

theorem IsRun.leadsDown {name : String} (isRun : IsRun name) {ending : String}
    (free : '/' ∉ ending.toList) : LeadsDown (name ++ ending) :=
  leadsDown_of_solid isRun.1 (fun c member => solid_of_isWordChar (isRun.2 c member)) ending free

/-! ## Lower case -/

/-- No code in the tables for lower case is one before the digits, and none is missing. -/
theorem lowerTables_above : (lowerRuns.all fun run => 0x2f < run.target) = true ∧
    (lowerExpansions.all fun expansion =>
      !expansion.2.isEmpty && expansion.2.all fun code => 0x2f < code) = true := by
  decide +kernel

theorem lowerChar_ne_nil (c : Char) : lowerChar c ≠ [] := by
  unfold lowerChar mapCase
  split
  · simp
  · split
    · next codes found =>
      obtain ⟨_, _, whole, _⟩ := List.lookup_eq_some_iff.mp found
      have inTable : (c.toNat, codes) ∈ lowerExpansions := by simp [whole]
      have known := List.all_eq_true.mp lowerTables_above.2 _ inTable
      simp only [Bool.and_eq_true, Bool.not_eq_true', List.isEmpty_eq_false_iff] at known
      simpa using known.1
    · split <;> simp

theorem lowerAfter_ne_nil (before : List Char) {text : List Char} (some : text ≠ []) :
    lowerAfter before text ≠ [] := by
  obtain ⟨c, rest, rfl⟩ := List.exists_cons_of_ne_nil some
  rw [lowerAfter]
  split
  · split <;> simp
  · simp [lowerChar_ne_nil]

section Marks

/-! A character before the digits is none that a case mapping makes of another one. -/

variable {mark : Char} (low : mark.toNat < 0x30) (some : mark ≠ '\x00')
include low

theorem toLower_eq_mark {c : Char} (ascii : c.toNat < 0x80) (same : c.toLower = mark) :
    c = mark := by
  have table : ∀ code < 0x80, (Char.ofNat code).toLower.toNat < 0x30 →
      (Char.ofNat code).toLower = Char.ofNat code := by
    decide +kernel
  have known := table c.toNat ascii
  rw [Char.ofNat_toNat, same] at known
  exact (known low).symm

include some

theorem ofNat_ne_mark {code : Nat} (above : 0x2f < code) : Char.ofNat code ≠ mark := by
  intro same
  have known := Char.toNat_ofNat code
  rw [same] at known
  split at known
  · omega
  · exact some (Char.toNat_inj.mp known)

theorem eq_mark_of_mem_lowerChar {c : Char} (member : mark ∈ lowerChar c) : c = mark := by
  unfold lowerChar mapCase at member
  split at member
  · next ascii => exact toLower_eq_mark low ascii (List.mem_singleton.mp member).symm
  · split at member
    · next codes found =>
      obtain ⟨_, _, whole, _⟩ := List.lookup_eq_some_iff.mp found
      have inTable : (c.toNat, codes) ∈ lowerExpansions := by simp [whole]
      have known := List.all_eq_true.mp lowerTables_above.2 _ inTable
      simp only [Bool.and_eq_true, List.all_eq_true, decide_eq_true_eq] at known
      obtain ⟨code, isCode, same⟩ := List.mem_map.mp member
      exact absurd same (ofNat_ne_mark low some (known.2 code isCode))
    · split at member
      · next code found =>
        obtain ⟨run, inTable, image⟩ := List.exists_of_findSome?_eq_some found
        have known := List.all_eq_true.mp lowerTables_above.1 run inTable
        rw [decide_eq_true_eq] at known
        rw [CaseRun.image?] at image
        split at image
        · cases image
          have above : 0x2f < run.target + (c.toNat - run.first) := by omega
          exact absurd (List.mem_singleton.mp member).symm (ofNat_ne_mark low some above)
        · contradiction
      · exact (List.mem_singleton.mp member).symm

theorem not_mem_lowerAfter (before : List Char) {text : List Char} (free : mark ∉ text) :
    mark ∉ lowerAfter before text := by
  induction text generalizing before with
  | nil => simp [lowerAfter]
  | cons c text ih =>
    obtain ⟨other, free⟩ := List.ne_and_not_mem_of_not_mem_cons free
    have later := ih (c :: before) free
    have sigma : mark ≠ 'ς' ∧ mark ≠ 'σ' := by
      constructor <;> rintro rfl <;> exact absurd low (by decide)
    rw [lowerAfter, List.mem_append, not_or]
    refine ⟨?_, later⟩
    split
    · split <;> simp [sigma]
    · exact fun member => other (eq_mark_of_mem_lowerChar low some member).symm

theorem lower_free {text : String} (free : mark ∉ text.toList) : mark ∉ (lower text).toList := by
  rw [lower, String.toList_ofList]
  exact not_mem_lowerAfter low some [] free

end Marks

/-- A name stays a segment that leads down in lower case. -/
theorem IsRun.lower {name : String} (isRun : IsRun name) :
    (lower name).toList ≠ [] ∧ ∀ c ∈ (lower name).toList, Solid c := by
  constructor
  · rw [Text.lower, String.toList_ofList]
    exact lowerAfter_ne_nil [] isRun.1
  · have slash : '/' ∉ name.toList := isRun.not_mem (by decide)
    have dot : '.' ∉ name.toList := isRun.not_mem (by decide)
    rintro c member
    constructor <;> rintro rfl
    · exact lower_free (by decide) (by decide) slash member
    · exact lower_free (by decide) (by decide) dot member

end Blueprint
