import Blueprint.Application.Reconcile
import Blueprint.Document.Parse

/-!
From source text to application: the document is read, models, screens and the interface are
extracted from the same text, and the two are reconciled.
-/
set_option autoImplicit false

namespace Blueprint

/-- Why a source cannot be compiled. -/
inductive CompileError where
  | unreadable (error : ParseError)
  | incomplete (error : ReconcileError)
  deriving DecidableEq, Repr

structure Compilation where
  application : Application
  diagnostics : List SyntaxDiagnostic
  extraction : Extraction

def compile (source : String) (strategy : Strategy) : Except CompileError Compilation := do
  let parsed ← (Document.parse source).mapError .unreadable
  let extraction := Extraction.ofSource source
  let application ← (reconcile parsed.document extraction strategy).mapError .incomplete
  return { application := application, diagnostics := parsed.diagnostics, extraction := extraction }

end Blueprint
