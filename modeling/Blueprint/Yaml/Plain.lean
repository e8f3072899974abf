import Blueprint.Text.Hex
import Blueprint.Text.Trim
import Blueprint.Yaml.Tag
import Blueprint.Yaml.Timestamp

/-!
What plain scalars mean: the types that YAML 1.1 gives to text without quotes by its form. Numbers
may hold underscores, and the parts of one may be in base sixty with colons between them.
-/
set_option autoImplicit false

namespace Blueprint.Yaml

namespace Plain

def truths : List (String × Bool) :=
  [("yes", true), ("Yes", true), ("YES", true), ("no", false), ("No", false), ("NO", false),
    ("true", true), ("True", true), ("TRUE", true), ("false", false), ("False", false),
    ("FALSE", false), ("on", true), ("On", true), ("ON", true), ("off", false), ("Off", false),
    ("OFF", false)]

def nulls : List String := ["", "~", "null", "Null", "NULL"]

def isSpacedDigit (c : Char) : Bool := c.isDigit || c == '_'

/-- A text without a sign in front. -/
def unsigned : List Char → List Char
  | c :: rest => if c == '+' || c == '-' then rest else c :: rest
  | [] => []

def isDigits : List Char → Bool
  | c :: rest => c.isDigit && rest.all isSpacedDigit
  | [] => false

/-- Whether a text is a part in base sixty after the first: one digit, or two of which the first is
below six. -/
def isSixtieth : List Char → Bool
  | [c] => c.isDigit
  | [c, d] => '0' ≤ c && c ≤ '5' && d.isDigit
  | _ => false

/-- Whether a text is an integer: binary, hexadecimal, octal, decimal, or in base sixty. -/
def isInt (text : List Char) : Bool :=
  match unsigned text with
  | '0' :: 'b' :: digits =>
    !digits.isEmpty && digits.all fun c => c == '0' || c == '1' || c == '_'
  | '0' :: 'x' :: digits =>
    !digits.isEmpty && digits.all fun c => (Text.hexValue? c).isSome || c == '_'
  | '0' :: digits => digits.all fun c => ('0' ≤ c && c ≤ '7') || c == '_'
  | digits =>
    match Text.splitChars ':' digits with
    | first :: sixtieths => isDigits first && sixtieths.all isSixtieth
    | [] => false

def isExponent : List Char → Bool
  | mark :: sign :: digits =>
    (mark == 'e' || mark == 'E') && (sign == '+' || sign == '-')
      && !digits.isEmpty && digits.all Char.isDigit
  | _ => false

/-- Whether a text is what may follow the point of a number: digits and perhaps an exponent. -/
def isFraction (text : List Char) : Bool :=
  let rest := text.dropWhile isSpacedDigit
  rest.isEmpty || isExponent rest

/-- Whether a text is a number with a point: without digits before it there is no sign and there are
digits after it; parts in base sixty before it exclude an exponent. -/
def isPointed (text : List Char) : Bool :=
  let digits := unsigned text
  let whole := digits.takeWhile (· != '.')
  match digits.drop whole.length with
  | '.' :: fraction =>
    if whole.isEmpty then
      digits == text && ((fraction.head?.map Char.isDigit).getD false) && isFraction fraction
    else
      match Text.splitChars ':' whole with
      | [single] => isDigits single && isFraction fraction
      | first :: sixtieths =>
        isDigits first && sixtieths.all isSixtieth && fraction.all isSpacedDigit
      | [] => false
  | _ => false

def isFloat (text : List Char) : Bool :=
  [".inf", ".Inf", ".INF"].contains (String.ofList (unsigned text))
    || [".nan", ".NaN", ".NAN"].contains (String.ofList text)
    || isPointed text

def tag (text : String) : Tag :=
  let chars := text.toList
  if (truths.lookup text).isSome then .bool
  else if isFloat chars then .float
  else if isInt chars then .int
  else if text == "<<" then .merge
  else if nulls.contains text then .null
  else if (Timestamp.ofPlain? chars).isSome then .timestamp
  else if text == "=" then .whole
  else .text

end Plain

end Blueprint.Yaml
