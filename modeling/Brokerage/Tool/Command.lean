import Brokerage.Config.Document
import Brokerage.Tool.Catalog
import Brokerage.Tool.Check
import Brokerage.Tool.Preview

/-!
The commands of the operator's tool. An invocation names one of them, how it reports, and the file
that holds the configuration; a configuration that cannot be loaded ends every command.
-/

set_option autoImplicit false

namespace Brokerage.Tool

inductive Command where
  | catalog
  | check
  | preview (prospect : Prospect)
  deriving DecidableEq

def Command.report (command : Command) (manner : Manner) (config : Config) : Report :=
  match command with
  | .catalog => showCatalog manner config
  | .check => Tool.check manner config
  | .preview prospect => Tool.preview manner prospect config

structure Invocation where
  manner : Manner := {}
  command : Command
  path : String
  deriving DecidableEq

/-- The report of an invocation, given what was found at its path and the identifier from the
environment. -/
def Invocation.report (invocation : Invocation) (found : Except Config.ReadFailure ByteArray)
    (identifier : Option String) : Report :=
  match Config.load invocation.path found identifier with
  | .error failure => .refusal invocation.manner s!"error: {failure.message}"
  | .ok config => invocation.command.report invocation.manner config

end Brokerage.Tool
