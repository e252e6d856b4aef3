import Brokerage.Tool.Command

/-!
The arguments of the operator's tool. One word names the command; an option stands before or after
it, with its value behind an equals sign or as the next argument, and is given once.
-/

set_option autoImplicit false

namespace Brokerage.Tool

/-- The ways in which arguments are not an invocation. -/
inductive UsageError where
  | missingCommand
  | unexpected (argument : String)
  | missingOption (name : String)
  | missingValue (name : String)
  | repeatedOption (name : String)
  | unknownFormat (name : String)
  deriving DecidableEq

def UsageError.message : UsageError → String
  | .missingCommand => "error: one of the commands catalog, check and params is required"
  | .unexpected argument => s!"error: unexpected argument '{argument}'"
  | .missingOption name => s!"error: the option --{name} is required"
  | .missingValue name => s!"error: the option --{name} needs a value"
  | .repeatedOption name => s!"error: the option --{name} is given more than once"
  | .unknownFormat name => s!"error: '{name}' is no output format; there are text and json"

/-- Wrong arguments are reported with an exit code of their own. -/
def UsageError.report (e : UsageError) : Report :=
  ⟨2, "", linesText [e.message]⟩

/-- Arguments sorted by what they are. -/
structure Arguments where
  words : List String := []
  options : List (String × String) := []
  quiet : Bool := false
  deriving DecidableEq

/-- The name of an option, from an argument without a value. -/
def optionName? (argument : List Char) : Option String :=
  match argument with
  | '-' :: '-' :: name => some (String.ofList name)
  | _ => none

/-- The value that stands in the same argument as the name of its option. -/
def valueBehind? (argument : List Char) : Option String :=
  match argument.dropWhile (· ≠ '=') with
  | _ :: value => some (String.ofList value)
  | [] => none

namespace Arguments

def addOption (given : Arguments) (name value : String) : Except UsageError Arguments :=
  if (given.options.lookup name).isSome then .error (.repeatedOption name)
  else .ok { given with options := (name, value) :: given.options }

def addQuiet (given : Arguments) : Except UsageError Arguments :=
  if given.quiet then .error (.repeatedOption "quiet") else .ok { given with quiet := true }

/-- Sorts arguments behind those already sorted. -/
def sort (given : Arguments) : List String → Except UsageError Arguments
  | [] => .ok given
  | argument :: rest =>
    let chars := argument.toList
    match optionName? (chars.takeWhile (· ≠ '=')), valueBehind? chars with
    | none, _ => sort { given with words := given.words ++ [argument] } rest
    | some name, some value => (given.addOption name value).bind fun more ↦ sort more rest
    | some "quiet", none => given.addQuiet.bind fun more ↦ sort more rest
    | some name, none =>
      match rest with
      | [] => .error (.missingValue name)
      | value :: rest => (given.addOption name value).bind fun more ↦ sort more rest

def require (given : Arguments) (name : String) : Except UsageError String :=
  match given.options.lookup name with
  | some value => .ok value
  | none => .error (.missingOption name)

/-- Refuses options that have no meaning for a command. -/
def allow (given : Arguments) (names : List String) : Except UsageError Unit :=
  match given.options.find? fun option ↦ !names.contains option.1 with
  | some option => .error (.unexpected ("--" ++ option.1))
  | none => .ok ()

def format (given : Arguments) : Except UsageError Format :=
  match given.options.lookup "output" with
  | none | some "text" => .ok .text
  | some "json" => .ok .json
  | some other => .error (.unknownFormat other)

def prospect (given : Arguments) : Except UsageError Prospect := do
  let serviceId ← given.require "service"
  let planId ← given.require "plan"
  return { serviceId, planId, parameters := given.options.lookup "parameters"
           instanceId := (given.options.lookup "instance-id").getD defaultInstanceId }

def command (given : Arguments) : Except UsageError Command := do
  let everywhere := ["output", "config"]
  match given.words with
  | [] => .error .missingCommand
  | ["catalog"] =>
    given.allow everywhere
    return .catalog
  | ["check"] =>
    given.allow everywhere
    return .check
  | ["params"] =>
    given.allow (everywhere ++ ["service", "plan", "parameters", "instance-id"])
    return .preview (← given.prospect)
  | "catalog" :: word :: _ | "check" :: word :: _ | "params" :: word :: _ =>
    .error (.unexpected word)
  | word :: _ => .error (.unexpected word)

def invocation (given : Arguments) : Except UsageError Invocation := do
  let format ← given.format
  let command ← given.command
  let path ← given.require "config"
  return { manner := ⟨format, given.quiet⟩, command, path }

end Arguments

/-- The invocation that arguments ask for. -/
def Invocation.ofArguments (arguments : List String) : Except UsageError Invocation :=
  (Arguments.sort {} arguments).bind Arguments.invocation

end Brokerage.Tool
