import Blueprint.Number.Compare
import Blueprint.Number.Shortest
import Blueprint.Value

/-!
What the debug data is made from: trees of scalars, lists, objects and records, in which a
reference may stand for another tree of a graph. Graphs may share trees and be circular.
-/
set_option autoImplicit false

namespace Blueprint

/-- A value without parts. -/
inductive Scalar where
  | null
  | bool (b : Bool)
  | int (i : Int)
  | float (x : Binary64)
  | text (s : String)
  deriving DecidableEq

namespace Scalar

def toValue : Scalar → Value
  | .null => .null
  | .bool b => .bool b
  | .int i => .int i
  | .float x => .float x
  | .text s => .text s

def keyText : Scalar → String
  | .null => "None"
  | .bool true => "True"
  | .bool false => "False"
  | .int i => toString i
  | .float x => x.plainText
  | .text s => s

/-- The integer that a scalar equals as a key: truth values count as one and zero. -/
def toInt? : Scalar → Option Int
  | .bool b => some (if b then 1 else 0)
  | .int i => some i
  | .float x => x.toInt?
  | _ => none

/-- Whether two scalars are the same key: numbers by their value, whatever their kind. -/
def sameKey : Scalar → Scalar → Bool
  | .null, .null => true
  | .text a, .text b => a == b
  | .float a, .float b => a.sameValue b
  | a, b =>
    match a.toInt?, b.toInt? with
    | some i, some j => i == j
    | _, _ => false

end Scalar

/-- A tree of debug data, before it is unfolded. -/
inductive DebugItem where
  | scalar (s : Scalar)
  | list (items : List DebugItem)
  /-- An object, under the texts of its keys. -/
  | object (entries : List (String × DebugItem))
  /-- A record of a kind, with its fields. -/
  | record (kind : String) (fields : List (String × DebugItem))
  /-- The tree at a place of the graph. -/
  | ref (node : Nat)

namespace DebugItem

instance : Inhabited DebugItem := ⟨.scalar .null⟩

def ofText (s : String) : DebugItem := .scalar (.text s)

def optionalText : Option String → DebugItem
  | none => .scalar .null
  | some s => ofText s

def bool (b : Bool) : DebugItem := .scalar (.bool b)

def nat (n : Nat) : DebugItem := .scalar (.int n)

def optional {α : Type} (item : α → DebugItem) : Option α → DebugItem
  | none => .scalar .null
  | some a => item a

def listOf {α : Type} (item : α → DebugItem) (items : List α) : DebugItem :=
  .list (items.map item)

/-- Sets an entry of an object: the first key that is the same stays, with the new content. -/
def setEntry (key : Scalar) (content : DebugItem) :
    List (Scalar × DebugItem) → List (Scalar × DebugItem)
  | [] => [(key, content)]
  | (other, old) :: rest =>
    if other.sameKey key then (other, content) :: rest
    else (other, old) :: setEntry key content rest

def ofEntries (entries : List (Scalar × DebugItem)) : DebugItem :=
  let merged := entries.foldl (fun merged entry => setEntry entry.1 entry.2 merged) []
  .object (merged.map fun (key, content) => (key.keyText, content))

mutual

def ofValue : Value → DebugItem
  | .null => .scalar .null
  | .bool b => .scalar (.bool b)
  | .int i => .scalar (.int i)
  | .float x => .scalar (.float x)
  | .text s => .scalar (.text s)
  | .list items => .list (ofItems items)
  | .object fields => .object (ofFields fields)

def ofItems : List Value → List DebugItem
  | [] => []
  | value :: rest => ofValue value :: ofItems rest

def ofFields : List (String × Value) → List (String × DebugItem)
  | [] => []
  | (key, value) :: rest => (key, ofValue value) :: ofFields rest

end

end DebugItem

end Blueprint
