import Brokerage.Catalog.Document
import Brokerage.Config.Basic
import Brokerage.Toml.Document

/-!
Configurations as documents. Every setting may be left out. A file is read, taken as text, taken
as a document and fitted to the shape of a configuration, in this order; the environment has
the last word on the identifier of the vault's client.
-/

set_option autoImplicit false

namespace Brokerage

instance : Shaped VaultSettings where
  shape := .record "VaultConfig"
    [("enabled", .filled (.bool false), .flag),
     ("client_identifier", .filled (.string defaultClientIdentifier), .text)]
  toJson settings := .record
    [("enabled", .bool settings.enabled),
     ("client_identifier", .string settings.clientIdentifier)]
  ofJson j := ⟨j.flagAt "enabled", j.textAt "client_identifier"⟩

instance : Shaped Config where
  shape := .record "BrokerConfig"
    [("vault", .filled (Shaped.toJson ({} : VaultSettings)), Shaped.shape VaultSettings),
     ("services", .filled (.list []), .listOf (Shaped.shape ServiceDefinition))]
  toJson config := .record
    [("vault", Shaped.toJson config.vault),
     ("services", .list (config.services.map Shaped.toJson))]
  ofJson j := ⟨Shaped.ofJson (j.field "vault"), (j.itemsAt "services").map Shaped.ofJson⟩

namespace Config

/-- Why a file has no content that could be taken as text. -/
inductive ReadFailure where
  | missing
  | directory
  | notText
  | other (reason : String)
  deriving DecidableEq

def ReadFailure.message : ReadFailure → String
  | .missing => "No such file or directory (os error 2)"
  | .directory => "Is a directory (os error 21)"
  | .notText => "stream did not contain valid UTF-8"
  | .other reason => reason

/-- Why a text is no configuration. -/
inductive ParseFailure where
  | malformed (problem : Text.Located Toml.Malformation)
  | mismatched (mismatch : Mismatch)
  deriving DecidableEq

def ParseFailure.message : ParseFailure → String
  | .malformed problem => problem.message Toml.Malformation.message
  | .mismatched mismatch => mismatch.message Dialect.document.realText

inductive Failure where
  | read (path : String) (failure : ReadFailure)
  | parse (failure : ParseFailure)
  deriving DecidableEq

def Failure.message : Failure → String
  | .read path failure => s!"could not read {path}: {failure.message}"
  | .parse failure => s!"could not parse broker configuration: {failure.message}"

def ofText (text : String) : Except ParseFailure Config :=
  match Toml.parse text with
  | .error problem => .error (.malformed problem)
  | .ok document =>
    match Shaped.ofValue Dialect.document document with
    | .error mismatch => .error (.mismatched mismatch)
    | .ok config => .ok config

/-- The text that bytes encode. -/
def textOf (bytes : ByteArray) : Except ReadFailure String :=
  match String.fromUTF8? bytes with
  | some text => .ok text
  | none => .error .notText

/-- The configuration in what was found at a path, with an identifier from the environment. -/
def load (path : String) (found : Except ReadFailure ByteArray) (identifier : Option String) :
    Except Failure Config :=
  match found.bind textOf with
  | .error failure => .error (.read path failure)
  | .ok text =>
    match ofText text with
    | .error failure => .error (.parse failure)
    | .ok config => .ok (config.withClientIdentifier identifier)

end Config

end Brokerage
