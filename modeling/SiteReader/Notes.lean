import SiteReader.Fault
import SiteReader.Path.Basic

/-!
# Notes taken while rules run

Rules are lenient: what they cannot use they skip with a warning.  A computation takes notes of its warnings and of the
calls of the script evaluator, in order, and keeps them when it fails.
-/

namespace SiteReader

/-- What was skipped or ignored. -/
inductive Warning where
  | skippedAlternative (defect : Path.Defect)
  | unreadableOptions (text : String)
  | invalidSelector (option : String)
  | invalidPattern (pattern : String)
  | unreadableHeader (source : String) (header : String)
deriving DecidableEq, Repr

/-- The text of a warning. -/
def Warning.message : Warning → String
  | skippedAlternative defect => "Rule: skipping alternative: " ++ defect.message
  | unreadableOptions text =>
    "Directive: could not parse request options " ++ quotedForm text ++ "; using the raw string as URL."
  | invalidSelector option => "HTML rule: invalid selector in " ++ quotedForm option
  | invalidPattern pattern => "HTML rule: invalid regex " ++ quotedForm pattern
  | unreadableHeader source header => "Source " ++ source ++ ": ignoring unparsable header " ++ quotedForm header

/-- Warnings and evaluator calls, each call with its script and the value it was given. -/
structure Notes where
  warnings : List Warning
  calls : List (String × Tree)

def Notes.empty : Notes := ⟨[], []⟩

/-- A computation that takes notes and may end in a fault. -/
abbrev Noted (α : Type) := ExceptT Fault (StateM Notes) α

/-- Takes note of a warning. -/
def warn (warning : Warning) : Noted Unit :=
  modify fun notes => ⟨notes.warnings ++ [warning], notes.calls⟩

/-- Takes note of an evaluator call. -/
def noteCall (script : String) (value : Tree) : Noted Unit :=
  modify fun notes => ⟨notes.warnings, notes.calls ++ [(script, value)]⟩

/-- A computation that may fail, without notes. -/
def Noted.ofExcept {α : Type} : Except Fault α → Noted α
  | .ok value => pure value
  | .error fault => throw fault

end SiteReader
