import Brokerage.Tool.Arguments

/-!
The operator's tool as a program: it looks at the file and the environment that its arguments lead
to, and shows the report.
-/

set_option autoImplicit false

namespace Brokerage.Tool

/-- The error number of a read from a directory. -/
def directoryErrorNumber : UInt32 := 21

def readFailureOf : IO.Error → Config.ReadFailure
  | .noFileOrDirectory .. => .missing
  | .inappropriateType _ number details =>
    if number = directoryErrorNumber then .directory else .other details
  | e => .other (toString e)

/-- What there is at a path. -/
def look (path : String) : IO (Except Config.ReadFailure ByteArray) := do
  match ← (IO.FS.readBinFile path).toBaseIO with
  | .ok bytes => return .ok bytes
  | .error e => return .error (readFailureOf e)

def Report.show (report : Report) : IO UInt32 := do
  (← IO.getStdout).putStr report.output
  (← IO.getStderr).putStr report.complaint
  return report.exitCode.toUInt32

def run (arguments : List String) : IO UInt32 := do
  match Invocation.ofArguments arguments with
  | .error e => e.report.show
  | .ok invocation =>
    let found ← look invocation.path
    let identifier ← IO.getEnv clientIdentifierVariable
    (invocation.report found identifier).show

end Brokerage.Tool

def main (arguments : List String) : IO UInt32 :=
  Brokerage.Tool.run arguments
