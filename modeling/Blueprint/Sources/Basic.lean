import Blueprint.Application.Basic

/-!
Generated source files, and the small pieces that their texts are put together from.
-/
set_option autoImplicit false

namespace Blueprint

/-- Generated files: paths with their texts. A path that is given twice keeps its first place and its
last text. -/
abbrev SourceFiles := Fields String

namespace Sources

def remark : String := "Generated by FinApp - do not modify manually"

def lines (content : List String) : String :=
  String.join (content.map (· ++ "\n"))

/-- Lines that stand in a text only on a condition. -/
def onlyIf (condition : Bool) (content : List String) : List String :=
  if condition then content else []

def filled? : Option String → Option String
  | none => none
  | some text => if text.isEmpty then none else some text

/-- Lines about a text, if it is present and not empty. -/
def about (text : Option String) (content : String → List String) : List String :=
  match filled? text with
  | none => []
  | some text => content text

def flag (b : Bool) : String := if b then "true" else "false"

end Sources

end Blueprint
