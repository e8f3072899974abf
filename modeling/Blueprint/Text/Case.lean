import Blueprint.Text.CaseRuns
import Blueprint.Text.CharClass

/-!
Lower and upper case of whole texts. A character may grow when its case changes, and a capital
sigma is lowered to its final form at the end of a word.
-/
set_option autoImplicit false

namespace Blueprint.Text

namespace CaseRun

/-- The code point that a run assigns to a member, if the code point is one. -/
def image? (run : CaseRun) (code : Nat) : Option Nat :=
  if run.first ≤ code && code ≤ run.last && (code - run.first) % run.stride == 0 then
    some (run.target + (code - run.first))
  else none

end CaseRun

/-- The image of a character beyond ASCII: an expansion, a member of a run, or the character. -/
def mapCase (runs : List CaseRun) (expansions : List (Nat × List Nat)) (c : Char) : List Char :=
  match expansions.lookup c.toNat with
  | some codes => codes.map Char.ofNat
  | none =>
    match runs.findSome? (·.image? c.toNat) with
    | some code => [Char.ofNat code]
    | none => [c]

/-- The lower-case form of one character, apart from its neighbours. -/
def lowerChar (c : Char) : List Char :=
  if c.toNat < 0x80 then [c.toLower] else mapCase lowerRuns lowerExpansions c

def upperChar (c : Char) : List Char :=
  if c.toNat < 0x80 then [c.toUpper] else mapCase upperRuns upperExpansions c

def isCaseIgnorable : Char → Bool :=
  inClass (fun c => c ∈ ['\'', '.', ':', '^', '\x60']) caseIgnorableRanges

def isCased : Char → Bool :=
  inClass Char.isAlpha casedRanges

def meetsCased (text : List Char) : Bool :=
  ((text.dropWhile isCaseIgnorable).head?.map isCased).getD false

/-- Lowers the characters of a text, given the ones already passed, nearest first. -/
def lowerAfter : List Char → List Char → List Char
  | _, [] => []
  | before, c :: rest =>
    (if c == 'Σ' then
      if meetsCased before && !meetsCased rest then ['ς'] else ['σ']
    else lowerChar c) ++ lowerAfter (c :: before) rest

def lower (text : String) : String :=
  String.ofList (lowerAfter [] text.toList)

def lowerFirst (text : String) : String :=
  match text.toList with
  | [] => ""
  | c :: rest => String.ofList (lowerChar c ++ rest)

def upperFirst (text : String) : String :=
  match text.toList with
  | [] => ""
  | c :: rest => String.ofList (upperChar c ++ rest)

end Blueprint.Text
