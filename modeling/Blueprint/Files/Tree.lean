import Blueprint.Files.Path
import Blueprint.Text.Quoted

/-!
File trees: directories and files with their bytes, seen from a working directory. Reading and
writing follow a path name by name through directories that exist, and fail for the first reason on
the way. Making directories may go some way before it fails, so it delivers what it made in any case.
-/
set_option autoImplicit false

namespace Blueprint

/-- What stands at a place of a file tree. -/
inductive Entry where
  | directory
  | file (bytes : List Nat)
  deriving DecidableEq, Repr

/-- Why a place cannot be used. -/
inductive FileProblem where
  | notFound
  | exists
  | notDirectory
  | isDirectory
  /-- No name can have such a character, so the path is none. -/
  | nullCharacter
  | nameTooLong
  deriving DecidableEq, Repr

namespace FileProblem

def number : FileProblem → Nat
  | .notFound => 2
  | .exists => 17
  | .notDirectory => 20
  | .isDirectory => 21
  | .nullCharacter => 22
  | .nameTooLong => 36

def text : FileProblem → String
  | .notFound => "No such file or directory"
  | .exists => "File exists"
  | .notDirectory => "Not a directory"
  | .isDirectory => "Is a directory"
  | .nullCharacter => "Invalid argument"
  | .nameTooLong => "File name too long"

end FileProblem

/-- A problem with a path. -/
structure FileError where
  problem : FileProblem
  path : Path
  deriving DecidableEq, Repr

def FileError.message (error : FileError) : String :=
  let path := Text.quoted error.path.text
  s!"[Errno {error.problem.number}] {error.problem.text}: {path}"

/-- A place: the names on the way to it from the root. -/
abbrev Place := List String

/-- A file tree, seen from a directory. The root is always there. -/
structure FileTree where
  directory : Path := { slashes := 1 }
  entries : List (Place × Entry) := []

namespace FileTree

def get? (tree : FileTree) (place : Place) : Option Entry :=
  if place.isEmpty then some .directory else tree.entries.lookup place

def set (place : Place) (entry : Entry) : List (Place × Entry) → List (Place × Entry)
  | [] => [(place, entry)]
  | (other, old) :: rest =>
    if other == place then (place, entry) :: rest else (other, old) :: set place entry rest

def put (tree : FileTree) (place : Place) (entry : Entry) : FileTree :=
  { tree with entries := set place entry tree.entries }

def bytesOf (text : String) : List Nat := text.toList.flatMap Text.utf8Bytes

/-- The most bytes that a name may have. -/
def maxNameLength : Nat := 255

/-- The most bytes that the text of a path may have. -/
def maxPathLength : Nat := 4095

/-- Follows names from a place: every name is looked up in a directory. -/
def walk (tree : FileTree) : Place → List String → Except FileProblem Place
  | here, [] => .ok here
  | here, name :: rest =>
    match tree.get? here with
    | none => .error .notFound
    | some (.file _) => .error .notDirectory
    | some .directory =>
      if (bytesOf name).length > maxNameLength then .error .nameTooLong
      else if name == ".." then walk tree here.dropLast rest
      else walk tree (here ++ [name]) rest

/-- The place that a path leads to; whether anything stands there is open. -/
def locate (tree : FileTree) (path : Path) : Except FileProblem Place :=
  match path.hasNull with
  | true => .error .nullCharacter
  | false =>
    if (bytesOf path.text).length > maxPathLength then .error .nameTooLong
    else tree.walk (if path.isAbsolute then [] else tree.directory.names) path.names

def find (tree : FileTree) (path : Path) : Except FileProblem Entry := do
  match tree.get? (← tree.locate path) with
  | some entry => .ok entry
  | none => .error .notFound

def isDirectory (tree : FileTree) (path : Path) : Bool :=
  match tree.find path with
  | .ok .directory => true
  | _ => false

def read (tree : FileTree) (path : Path) : Except FileProblem (List Nat) := do
  match ← tree.find path with
  | .file bytes => .ok bytes
  | .directory => .error .isDirectory

/-- Makes a directory where nothing stands yet. -/
def makeDirectory (tree : FileTree) (path : Path) : Except FileProblem FileTree := do
  let place ← tree.locate path
  match tree.get? place with
  | some _ => .error .exists
  | none => .ok (tree.put place .directory)

/-- A tree after a step, and why the step failed if it did. -/
abbrev Changed := FileTree × Option FileError

/-- Makes a directory whose own directory exists; one that is there already will do. -/
def ensureDirectory (tree : FileTree) (path : Path) : Changed :=
  match tree.makeDirectory path with
  | .ok made => (made, none)
  | .error problem => (tree, if tree.isDirectory path then none else some ⟨problem, path⟩)

/-- Makes the directory at some names, given from the last to the first, after those that hold it. -/
def ensureNames (tree : FileTree) (slashes : Nat) : List String → Changed
  | [] => tree.ensureDirectory { slashes := slashes }
  | name :: outer =>
    let path : Path := { slashes := slashes, names := (name :: outer).reverse }
    match tree.makeDirectory path with
    | .error .notFound =>
      match ensureNames tree slashes outer with
      | (made, none) => made.ensureDirectory path
      | failed => failed
    | _ => tree.ensureDirectory path

/-- Makes a directory and those that hold it, as far as they are missing. -/
def ensureDirectories (tree : FileTree) (path : Path) : Changed :=
  tree.ensureNames path.slashes path.names.reverse

/-- Writes a file: a new one into a directory that exists, or in place of an old one. -/
def writeFile (tree : FileTree) (path : Path) (text : String) : Changed :=
  match tree.locate path with
  | .error problem => (tree, some ⟨problem, path⟩)
  | .ok place =>
    match tree.get? place with
    | some .directory => (tree, some ⟨.isDirectory, path⟩)
    | _ => (tree.put place (.file (bytesOf text)), none)

def writeBelow (tree : FileTree) (path : Path) (text : String) : Changed :=
  match tree.ensureDirectories path.parent with
  | (made, none) => made.writeFile path text
  | failed => failed

/-- The entries of a tree that another one does not have, or not with the same content. -/
def changesSince (tree before : FileTree) : List (Place × Entry) :=
  tree.entries.filter fun (place, entry) => before.get? place != some entry

/-- A tree without what stands at a place and below it. -/
def remove (tree : FileTree) (place : Place) : FileTree :=
  { tree with entries := tree.entries.filter fun entry => !place.isPrefixOf entry.1 }

end FileTree

end Blueprint
