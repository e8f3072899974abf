import Blueprint.Text.Hex
import Blueprint.Text.Trim
import Blueprint.Text.Utf8

/-!
Paths: names separated by slashes, from the root or from a working directory. Empty names and single
dots do not count; double dots stay until a path is resolved.
-/
set_option autoImplicit false

namespace Blueprint

/-- A path. Exactly two slashes at the start are told apart from one, and more are one. -/
structure Path where
  slashes : Nat := 0
  names : List String := []
  deriving DecidableEq, Repr

namespace Path

/-- The names in a text: the parts between slashes that are neither empty nor a single dot. -/
def namesOf (text : String) : List String :=
  (Text.split '/' text).filter fun name => name != "" && name != "."

def ofText (text : String) : Path :=
  let slashes := (text.toList.takeWhile (· == '/')).length
  { slashes := if slashes ≤ 2 then slashes else 1, names := namesOf text }

def isAbsolute (path : Path) : Bool := path.slashes != 0

/-- The text of a path; the path without names is a dot. -/
def text (path : Path) : String :=
  if path.slashes == 0 && path.names.isEmpty then "."
  else String.ofList (List.replicate path.slashes '/') ++ "/".intercalate path.names

/-- Whether a name in a path holds the null character. -/
def hasNull (path : Path) : Bool := path.names.any fun name => name.toList.contains '\x00'

/-- A path followed from another one. One from the root stands for itself. -/
def join (base path : Path) : Path :=
  if path.isAbsolute then path else { base with names := base.names ++ path.names }

/-- The path of a name, or of several with slashes between them, below another path. -/
def below (base : Path) (relative : String) : Path :=
  { base with names := base.names ++ namesOf relative }

def parent (path : Path) : Path := { path with names := path.names.dropLast }

/-- A name with another extension: what follows its last dot, unless the dot is its first or last
character. A name without one gets it. -/
def changeExtension (extension name : String) : String :=
  let reversed := name.toList.reverse
  let suffix := reversed.takeWhile (· != '.')
  match reversed.drop suffix.length with
  | '.' :: stem =>
    if suffix.isEmpty || stem.isEmpty then s!"{name}.{extension}"
    else
      let stem := String.ofList stem.reverse
      s!"{stem}.{extension}"
  | _ => s!"{name}.{extension}"

def withExtension (path : Path) (extension : String) : Path :=
  match path.names.getLast? with
  | some name => { path with names := path.names.dropLast ++ [changeExtension extension name] }
  | none => path

/-- Names without double dots: each takes back the name before it, if there is one. -/
def normalize (names : List String) : List String :=
  names.foldl (fun passed name => if name == ".." then passed.dropLast else passed ++ [name]) []

def resolve (directory path : Path) : Path :=
  { slashes := 1, names := normalize (directory.join path).names }

def isUnreserved (c : Char) : Bool :=
  c.isAlphanum || ['_', '.', '-', '~', '/'].contains c

/-- The text of a path in an address: other characters are written by their bytes. -/
def encoded (path : Path) : String :=
  String.ofList (path.text.toList.flatMap fun c =>
    if isUnreserved c then [c]
    else (Text.utf8Bytes c).flatMap fun byte => '%' :: (Text.hexDigits 2 byte).map Char.toUpper)

def address (path : Path) : String := "file://" ++ path.encoded

end Path

end Blueprint
