import Brokerage.Catalog.Definition
import Brokerage.Vault

/-!
The configuration of a broker: the services it offers and whether it vaults credentials. A
configuration may have problems and still be looked into; all of them are listed, those of each
service in order and after its repetition.
-/

set_option autoImplicit false

namespace Brokerage

structure VaultSettings where
  enabled : Bool := false
  clientIdentifier : String := defaultClientIdentifier
  deriving DecidableEq

structure Config where
  vault : VaultSettings := {}
  services : List ServiceDefinition := []
  deriving DecidableEq

/-- The environment variable that may replace the configured identifier. -/
def clientIdentifierVariable : String := "BROKER_VAULT_CLIENT_IDENTIFIER"

namespace Config

/-- The first service of an id. -/
def service? (config : Config) (serviceId : String) : Option ServiceDefinition :=
  config.services.find? fun service ↦ service.id == serviceId

/-- Replaces the identifier of the vault's client by one that is not blank. -/
def withClientIdentifier (config : Config) (identifier : Option String) : Config :=
  match identifier with
  | none => config
  | some identifier =>
    if Text.isBlank identifier then config
    else { config with vault := { config.vault with clientIdentifier := identifier } }

/-- What is wrong with services that follow those with the given ids. -/
def serviceProblems : (before : List String) → List ServiceDefinition → List String
  | _, [] => []
  | before, service :: rest =>
    (if before.contains service.id then
      [s!"service id {service.id} is defined more than once"] else []) ++
    service.problems ++ serviceProblems (service.id :: before) rest

def vaultProblems (settings : VaultSettings) : List String :=
  if settings.enabled && Text.isBlank settings.clientIdentifier then
    ["vault.client_identifier must not be empty"] else []

/-- Everything that is wrong with a configuration. -/
def problems (config : Config) : List String :=
  serviceProblems [] config.services ++ vaultProblems config.vault

end Config

end Brokerage
