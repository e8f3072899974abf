/-!
Tags: the types of YAML nodes, by form or by name.
-/
set_option autoImplicit false

namespace Blueprint.Yaml

/-- The type of a node. -/
inductive Tag where
  | null
  | bool
  | int
  | float
  | binary
  | timestamp
  | text
  | sequence
  | mapping
  | set
  /-- A sequence of mappings with one entry each, whose order counts. -/
  | pairs
  /-- The key `<<`, whose value is merged into the mapping. -/
  | merge
  /-- The key `=`, which stands for the value of a mapping as a whole. -/
  | whole
  deriving DecidableEq, Repr

namespace Tag

def standard : String := "tag:yaml.org,2002:"

def names : List (String × Tag) :=
  [("null", .null), ("bool", .bool), ("int", .int), ("float", .float), ("binary", .binary),
    ("timestamp", .timestamp), ("str", .text), ("seq", .sequence), ("map", .mapping),
    ("set", .set), ("omap", .pairs), ("pairs", .pairs), ("merge", .merge), ("value", .whole)]

def ofName? (name : String) : Option Tag :=
  (names.find? fun entry => standard ++ entry.1 == name).map Prod.snd

end Tag

end Blueprint.Yaml
