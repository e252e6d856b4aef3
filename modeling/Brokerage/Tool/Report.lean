import Brokerage.Json.Access
import Brokerage.Json.Printer

/-!
What a command leaves behind: text for its reader, text about what went wrong, and whether it
succeeded. Every command can report in plain text or in JSON, and can be told to be quiet, which
always silences its complaints about what it was given.
-/

set_option autoImplicit false

namespace Brokerage.Tool

inductive Format where
  | text
  | json
  deriving DecidableEq

/-- How a command reports. -/
structure Manner where
  format : Format := .text
  quiet : Bool := false
  deriving DecidableEq

structure Report where
  exitCode : Nat
  output : String
  complaint : String
  deriving DecidableEq

/-- Lines, each with its end. -/
def linesText (lines : List String) : String :=
  String.join (lines.map (· ++ "\n"))

namespace Report

/-- A success that shows some lines. -/
def success (lines : List String) : Report :=
  ⟨0, linesText lines, ""⟩

/-- A failure that shows some lines. -/
def failure (lines : List String) : Report :=
  ⟨1, "", linesText lines⟩

/-- A failure for one reason, unless the command is quiet. -/
def refusal (manner : Manner) (reason : String) : Report :=
  if manner.quiet then failure []
  else
    match manner.format with
    | .text => failure [reason]
    | .json => failure [(Json.record [("error", .string reason)]).text]

end Report

end Brokerage.Tool
