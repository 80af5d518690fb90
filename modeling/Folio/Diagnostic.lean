import Folio.Document.Table
import Folio.Text.Quoted

/-!
# Diagnostics

A diagnostic says what kind of failure a conversion met, describes it, and may name the place in the
source. The error policy decides which diagnostics end a conversion: a strict policy ends it at any,
a policy that does not ignore errors at any that is reported as an error.
-/

namespace Folio

/-- The kind of a failure. -/
inductive DiagnosticKind where
  /-- The input cannot be read at all. -/
  | parse
  /-- A construct has no counterpart in the document. -/
  | unsupportedNode
  /-- The document refuses an edit. -/
  | modelMutation
  | io
  | config
  | cancelled
  /-- A format is unknown or cannot do what is asked of it. -/
  | format
  deriving DecidableEq, Repr

/-- The wording of a kind. -/
def DiagnosticKind.display : DiagnosticKind → String
  | .parse => "parse error"
  | .unsupportedNode => "unsupported node"
  | .modelMutation => "document model error"
  | .io => "i/o error"
  | .config => "configuration error"
  | .cancelled => "cancelled"
  | .format => "format error"

/-- A failure with its place in the source. -/
structure Diagnostic where
  kind : DiagnosticKind
  message : String
  line : Option Nat := none
  column : Option Nat := none
  deriving DecidableEq, Repr

namespace Diagnostic

/-- The place of a diagnostic, in words. -/
def placeSuffix (line column : Option Nat) : String :=
  match line, column with
  | some line, some column => " (line " ++ line.repr ++ ", column " ++ column.repr ++ ")"
  | some line, none => " (line " ++ line.repr ++ ")"
  | none, _ => ""

/-- The whole wording of a diagnostic. -/
def display (d : Diagnostic) : String :=
  d.kind.display ++ ": " ++ d.message ++ placeSuffix d.line d.column

/-- The diagnostic at a place. -/
def placed (d : Diagnostic) (line column : Nat) : Diagnostic :=
  { d with line := some line, column := some column }

/-- A conversion that was cancelled. -/
def cancellation : Diagnostic := ⟨.cancelled, "operation was cancelled", none, none⟩

/-- A failure of an edit while something was being built. -/
def ofEdit (context : String) (e : EditError) : Diagnostic :=
  { kind := .modelMutation, message := context ++ ": " ++ e.message }

/-- A failure of an operation on a file, with the reason that the system gives. -/
def ofFile (operation path reason : String) : Diagnostic :=
  { kind := .io, message := "failed to " ++ operation ++ " '" ++ path ++ "': " ++ reason }

end Diagnostic

/-- What happens after a failure. -/
structure ErrorPolicy where
  /-- Every diagnostic ends the conversion. -/
  strict : Bool := false
  /-- Errors are reported and the conversion goes on. -/
  ignoreErrors : Bool := true
  deriving DecidableEq, Repr, Inhabited

namespace ErrorPolicy

/-- Reported errors end the conversion. -/
def aborts (policy : ErrorPolicy) : Bool := policy.strict || !policy.ignoreErrors

/-- A text for a flag. -/
def flagText (b : Bool) : String := if b then "true" else "false"

/-- The policy in words, for a log; `watched` says that someone receives the diagnostics. -/
def describe (policy : ErrorPolicy) (watched : Bool) : String :=
  "ErrorPolicy \x7b strict: " ++ flagText policy.strict ++ ", ignore_errors: " ++
    flagText policy.ignoreErrors ++ ", on_error: " ++
    (if watched then "Some(" ++ Text.quote "<callback>" ++ ")" else "None") ++ " \x7d"

end ErrorPolicy
end Folio
