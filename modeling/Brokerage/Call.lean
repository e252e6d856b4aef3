import Brokerage.Error
import Brokerage.Program
import Brokerage.Store.Request

/-!
Calls of the broker: programs that ask the record store, the credential vault and the providers.
-/

set_option autoImplicit false

namespace Brokerage

/-- One request to a collaborator. -/
inductive Action where
  | store (q : Store.Request)
  | vault (q : Vault.Request)
  | provider (q : Provider.Request)

abbrev Action.Reply : Action → Type
  | .store q => q.Reply
  | .vault q => q.Reply
  | .provider q => q.Reply

abbrev Call := Program Action.Reply BrokerError

namespace Call

def store (q : Store.Request) : Call q.Reply :=
  Program.request (Action.store q)

def vault (q : Vault.Request) : Call q.Reply :=
  Program.request (Action.vault q)

def provider (q : Provider.Request) : Call q.Reply :=
  Program.request (Action.provider q)

end Call

end Brokerage
