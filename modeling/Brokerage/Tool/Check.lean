import Brokerage.Tool.Report
import Brokerage.Config.Basic

/-!
Checking a configuration. A valid one is summed up; an invalid one is a failure that lists every
problem, in JSON even to the quiet.
-/

set_option autoImplicit false

namespace Brokerage.Tool

def summaryLines (format : Format) (config : Config) : List String :=
  let count := config.services.length
  match format with
  | .text =>
    let vault := if config.vault.enabled then "enabled" else "disabled"
    [s!"valid: {count} service(s), vault {vault}"]
  | .json =>
    [(Json.record [("valid", .bool true), ("services", .integer count),
      ("vault", .bool config.vault.enabled)]).text]

def problemLines (manner : Manner) (problems : List String) : List String :=
  match manner.format with
  | .text =>
    if manner.quiet then []
    else "invalid configuration" :: problems.map fun problem ↦ s!"  - {problem}"
  | .json =>
    [(Json.record [("valid", .bool false), ("errors", .ofTexts problems)]).indentedText]

def check (manner : Manner) (config : Config) : Report :=
  match config.problems with
  | [] => .success (if manner.quiet then [] else summaryLines manner.format config)
  | problems => .failure (problemLines manner problems)

end Brokerage.Tool
