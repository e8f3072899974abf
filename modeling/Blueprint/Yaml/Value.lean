import Blueprint.Number.Numeral
import Blueprint.Yaml.Node
import Blueprint.Yaml.Plain

/-!
YAML values: what a document says once every node has its type. Texts, truth values and null are
told apart exactly; other scalars only count as what they are not.
-/
set_option autoImplicit false

namespace Blueprint.Yaml

inductive Value where
  | null
  | bool (value : Bool)
  | text (text : String)
  /-- A number, a date or bytes, or a pair of an ordered mapping. -/
  | atom
  | sequence (items : List Value)
  | mapping (entries : List (Value × Value))
  | set

namespace Value

def isKey : Value → Bool
  | .null | .bool _ | .text _ | .atom => true
  | .sequence _ | .mapping _ | .set => false

/-- The content of a key that is text; the last of several entries counts. -/
def get? (name : String) (entries : List (Value × Value)) : Option Value :=
  (entries.reverse.find? fun entry =>
    match entry.1 with
    | .text key => key == name
    | _ => false).map Prod.snd

end Value

namespace Scalar

def isDecimal (digits : List Char) : Bool :=
  !digits.isEmpty && digits.all Char.isDigit && digits.length ≤ Numeral.maxDigits

/-- Whether a text, underscores aside, names an integer. -/
def namesInt (text : List Char) : Bool :=
  match Plain.unsigned (text.filter (· != '_')) with
  | ['0'] => true
  | '0' :: 'b' :: digits => !digits.isEmpty && digits.all fun c => c == '0' || c == '1'
  | '0' :: 'x' :: digits => !digits.isEmpty && digits.all fun c => (Text.hexValue? c).isSome
  | '0' :: 'o' :: digits => !digits.isEmpty && digits.all fun c => '0' ≤ c && c ≤ '7'
  | '0' :: digits => digits.all fun c => '0' ≤ c && c ≤ '7'
  | digits => (Text.splitChars ':' digits).all isDecimal

/-- Whether a text is a decimal number, perhaps with a point and an exponent. -/
def isDecimalFloat (text : List Char) : Bool :=
  let whole := text.takeWhile Char.isDigit
  let (fraction, rest) := match text.drop whole.length with
    | '.' :: after => (after.takeWhile Char.isDigit, after.dropWhile Char.isDigit)
    | after => ([], after)
  let exponent := match rest with
    | mark :: after =>
      let digits := Plain.unsigned after
      (mark == 'e' || mark == 'E') && !digits.isEmpty && digits.all Char.isDigit
    | [] => true
  !(whole.isEmpty && fraction.isEmpty) && exponent

/-- Whether a text, underscores aside, names a number. -/
def namesFloat (text : List Char) : Bool :=
  let digits := Plain.unsigned ((text.filter (· != '_')).map Char.toLower)
  [".inf", ".nan", "inf", "infinity", "nan"].contains (String.ofList digits)
    || (Text.splitChars ':' digits).all isDecimalFloat

def isBase64 (c : Char) : Bool := c.isAlphanum || c == '+' || c == '/'

/-- Whether a text stands for bytes: its digits in base sixty-four come in fours, the last of which
may be filled up. Other characters do not count. -/
def namesBytes (digits fill : Nat) : List Char → Bool
  | [] => digits == 0
  | c :: rest =>
    if c == '=' then
      if digits < 2 then namesBytes digits fill rest
      else 4 ≤ digits + fill + 1 || namesBytes digits (fill + 1) rest
    else if isBase64 c then namesBytes ((digits + 1) % 4) 0 rest
    else namesBytes digits fill rest

def value (tag : Tag) (text : String) : Except Problem Value :=
  let atomIf (condition : Bool) (problem : Problem) : Except Problem Value :=
    if condition then .ok .atom else .error problem
  match tag with
  | .null => .ok .null
  | .bool =>
    match Plain.truths.lookup (String.ofList (text.toList.map Char.toLower)) with
    | some value => .ok (.bool value)
    | none => .error .unconvertible
  | .int => atomIf (namesInt text.toList) .unconvertible
  | .float => atomIf (namesFloat text.toList) .unconvertible
  | .binary => atomIf (text.toList.all (·.toNat < 0x80) && namesBytes 0 0 text.toList) .malformed
  | .timestamp =>
    atomIf (((Timestamp.ofText? text.toList).map Timestamp.occurs).getD false) .unconvertible
  | .text => .ok (.text text)
  | .sequence | .mapping | .set | .pairs | .merge | .whole => .error .malformed

end Scalar

namespace Node

/-- The tag of a node: as given, else by its form. -/
def tag? : Node → Option Tag
  | .scalar none text true | .scalar (some "!") text _ => some (Plain.tag text)
  | .scalar none _ false => some .text
  | .sequence none _ | .sequence (some "!") _ => some .sequence
  | .mapping none _ | .mapping (some "!") _ => some .mapping
  | .enclosing => some .mapping
  | .scalar (some name) _ _ | .sequence (some name) _ | .mapping (some name) _ => Tag.ofName? name

/-- The text of a scalar; a mapping may have one as its value as a whole. -/
def text? : Node → Option String
  | .scalar _ text _ => some text
  | .mapping _ entries => wholeText? entries
  | .sequence _ _ | .enclosing => none
where
  /-- The text under the key for the whole. -/
  wholeText? : List (Node × Node) → Option String
    | [] => none
    | (key, content) :: rest =>
      if key.tag? == some .whole then content.text? else wholeText? rest

mutual

def value : Node → Except Problem Value
  | .sequence tag items =>
    match (Node.sequence tag items).tag? with
    | some .sequence => return .sequence (← values items)
    | some .pairs => return .sequence (← pairs items)
    | _ => .error .malformed
  | .mapping tag entries =>
    match (Node.mapping tag entries).tag? with
    | some .mapping => return .mapping (← contents entries)
    | some .set => do
      let _ ← contents entries
      return .set
    | some found =>
      match (Node.mapping tag entries).text? with
      | some text => Scalar.value found text
      | none => .error .malformed
    | none => .error .malformed
  | .scalar tag text plain =>
    match (Node.scalar tag text plain).tag? with
    | some found => Scalar.value found text
    | none => .error .malformed
  | .enclosing => .ok (.mapping [])

def values : List Node → Except Problem (List Value)
  | [] => .ok []
  | node :: rest => do return (← value node) :: (← values rest)

/-- The items of an ordered mapping: mappings with one entry each. -/
def pairs : List Node → Except Problem (List Value)
  | [] => .ok []
  | .mapping _ [(key, content)] :: rest => do
    let _ ← value key
    let _ ← value content
    return .atom :: (← pairs rest)
  | _ :: _ => .error .malformed

/-- The entries of a mapping: first those merged into it, then its own. -/
def contents (entries : List (Node × Node)) : Except Problem (List (Value × Value)) := do
  return (← mergedEntries entries) ++ (← ownEntries entries)

def ownEntries : List (Node × Node) → Except Problem (List (Value × Value))
  | [] => .ok []
  | (key, content) :: rest =>
    match key.tag? with
    | some .merge => ownEntries rest
    | tag => do
      let key ← match tag with
        | some .whole => pure (.text (key.text?.getD ""))
        | _ => value key
      if !key.isKey then .error .malformed
      else return (key, ← value content) :: (← ownEntries rest)

/-- The entries merged into a mapping, in the order in which they are written. -/
def mergedEntries : List (Node × Node) → Except Problem (List (Value × Value))
  | [] => .ok []
  | (key, content) :: rest => do
    let merged ← if key.tag? == some .merge then merges content else pure []
    return merged ++ (← mergedEntries rest)

/-- The entries that a value to be merged brings: those of a mapping, or of the mappings in a
sequence, of which the first counts most. -/
def merges : Node → Except Problem (List (Value × Value))
  | .mapping _ entries => contents entries
  | .sequence _ items => mergesAll items
  | .enclosing => .ok []
  | .scalar .. => .error .malformed

/-- The entries that the mappings of a sequence bring, the last mapping first. -/
def mergesAll : List Node → Except Problem (List (Value × Value))
  | [] => .ok []
  | .mapping _ entries :: rest => do
    let first ← contents entries
    return (← mergesAll rest) ++ first
  | .enclosing :: rest => mergesAll rest
  | _ :: _ => .error .malformed

end

end Node

/-- The value that a text describes; an empty text describes null. -/
def Value.ofText (text : List Char) : Except Problem Value := do
  match ← Node.ofText text with
  | some node => node.value
  | none => return .null

end Blueprint.Yaml
