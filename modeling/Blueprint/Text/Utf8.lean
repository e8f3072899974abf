import Blueprint.Text.Hex

/-!
UTF-8: the bytes of characters, and reading bytes as text. Reading stops at the first bytes that are
no character, and says where they stand and what is wrong with them.
-/
set_option autoImplicit false

namespace Blueprint.Text

def utf8Bytes (c : Char) : List Nat :=
  let code := c.toNat
  if code < 0x80 then [code]
  else if code < 0x800 then [0xc0 + code / 0x40, 0x80 + code % 0x40]
  else if code < 0x10000 then
    [0xe0 + code / 0x1000, 0x80 + code / 0x40 % 0x40, 0x80 + code % 0x40]
  else
    [0xf0 + code / 0x40000, 0x80 + code / 0x1000 % 0x40, 0x80 + code / 0x40 % 0x40,
      0x80 + code % 0x40]

/-- What is wrong with bytes that are no character. -/
inductive Utf8Fault where
  | startByte
  | continuationByte
  | endOfData
  deriving DecidableEq, Repr

def Utf8Fault.text : Utf8Fault → String
  | .startByte => "invalid start byte"
  | .continuationByte => "invalid continuation byte"
  | .endOfData => "unexpected end of data"

/-- Bytes that are no character: the place and the value of the first, and their number. -/
structure Utf8Error where
  position : Nat
  first : Nat
  count : Nat
  fault : Utf8Fault
  deriving DecidableEq, Repr

/-- The wording of an error; several bytes are given by their range. -/
def Utf8Error.message (error : Utf8Error) : String :=
  if error.count == 1 then
    let byte := String.ofList (hexDigits 2 error.first)
    s!"'utf-8' codec can't decode byte 0x{byte} in position {error.position}: {error.fault.text}"
  else
    let last := error.position + error.count - 1
    s!"'utf-8' codec can't decode bytes in position {error.position}-{last}: {error.fault.text}"

def continues (byte : Nat) : Bool := 0x80 ≤ byte && byte < 0xc0

/-- Whether a byte may come second in a character: some leading bytes restrict it, so that every
character has one form and surrogates have none. -/
def mayFollow (lead byte : Nat) : Bool :=
  continues byte
    && !(lead == 0xe0 && byte < 0xa0) && !(lead == 0xed && 0xa0 ≤ byte)
    && !(lead == 0xf0 && byte < 0x90) && !(lead == 0xf4 && 0x90 ≤ byte)

/-- The number of bytes of a character, by the first of them. -/
def sequenceLength (lead : Nat) : Nat :=
  if lead < 0x80 then 1
  else if lead < 0xc2 then 0
  else if lead < 0xe0 then 2
  else if lead < 0xf0 then 3
  else if lead < 0xf5 then 4
  else 0

def joinBytes : List Nat → Nat
  | [a] => a
  | [a, b] => (a - 0xc0) * 0x40 + (b - 0x80)
  | [a, b, c] => (a - 0xe0) * 0x1000 + (b - 0x80) * 0x40 + (c - 0x80)
  | [a, b, c, d] => (a - 0xf0) * 0x40000 + (b - 0x80) * 0x1000 + (c - 0x80) * 0x40 + (d - 0x80)
  | _ => 0

/-- Reads the character with a leading byte: its code and the number of its further bytes, or the
number of bytes that are wrong and what is wrong with them. -/
def readCharacter (lead : Nat) (rest : List Nat) : Except (Nat × Utf8Fault) (Nat × Nat) :=
  let length := sequenceLength lead
  if length == 0 then .error (1, .startByte)
  else
    let wanted := rest.take (length - 1)
    let good := match wanted with
      | [] => 0
      | second :: more =>
        if mayFollow lead second then 1 + (more.takeWhile continues).length else 0
    if good < wanted.length then .error (1 + good, .continuationByte)
    else if wanted.length < length - 1 then .error (1 + wanted.length, .endOfData)
    else .ok (joinBytes (lead :: wanted), length - 1)

/-- Reads bytes as characters, from a position on; `pending` bytes belong to a character that was
already read. -/
def decodeFrom (position pending : Nat) : List Nat → Except Utf8Error (List Char)
  | [] => .ok []
  | byte :: rest =>
    match pending with
    | pending + 1 => decodeFrom (position + 1) pending rest
    | 0 =>
      match readCharacter byte rest with
      | .error (count, fault) => .error ⟨position, byte, count, fault⟩
      | .ok (code, more) => (decodeFrom (position + 1) more rest).map (Char.ofNat code :: ·)

def decodeUtf8 (bytes : List Nat) : Except Utf8Error (List Char) := decodeFrom 0 0 bytes

/-- Text with every kind of line end as a line feed: a carriage return, alone or before a line feed,
is one. -/
def universalNewlines : List Char → List Char
  | '\r' :: '\n' :: rest => '\n' :: universalNewlines rest
  | '\r' :: rest => '\n' :: universalNewlines rest
  | c :: rest => c :: universalNewlines rest
  | [] => []

end Blueprint.Text
