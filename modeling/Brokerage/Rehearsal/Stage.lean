import Brokerage.Call
import Brokerage.Rehearsal.Fault
import Brokerage.Rehearsal.Script

/-!
A stage on which calls of the broker are rehearsed: a store and a vault with planned faults,
providers with scripts, and a log of everything the broker asks for. What happens to the records
behind the broker's back is not logged and has no faults.
-/

set_option autoImplicit false

namespace Brokerage.Rehearsal

structure Stage where
  now : String
  services : List RegisteredService := []
  store : FaultyStore := {}
  vault : Vault := Vault.empty
  vaultPlans : Table Vault.Method (Plan Vault.Error) := []
  cues : Table (String × Provider.Method) (List Cue) := []
  log : List Action := []

namespace Stage

/-- Carries out a request behind the broker's back. -/
def behind (stage : Stage) (q : Store.Request) : q.Reply × Stage :=
  let (reply, store) := stage.store.store.answer stage.now q
  (reply, { stage with store := { stage.store with store } })

def allBehind (stage : Stage) (requests : List Store.Request) : Stage :=
  requests.foldl (fun s q ↦ (s.behind q).2) stage

/-- Carries out a request to the vault behind the broker's back. -/
def vaultBehind (stage : Stage) (q : Vault.Request) : q.Reply × Stage :=
  let (reply, vault) := stage.vault.answer q
  (reply, { stage with vault })

def askVault (stage : Stage) (q : Vault.Request) : q.Reply × Stage :=
  let (fault, vaultPlans) := takeFault stage.vaultPlans q.method
  let planned := { stage with vaultPlans }
  match fault with
  | some error => (.error error, planned)
  | none => planned.vaultBehind q

/-- The cue for a request, and the stage without it. -/
def takeCue (stage : Stage) (q : Provider.Request) : Cue × Stage :=
  match stage.cues.get? (q.serviceId, q.method) with
  | some (cue :: rest) =>
    (cue, { stage with cues := stage.cues.put (q.serviceId, q.method) rest })
  | _ => ({}, stage)

/-- The service of an id, with a provider that completes everything at once if there is none. -/
def service (stage : Stage) (serviceId : String) : RegisteredService :=
  (stage.services.find? fun service ↦ service.definition.id == serviceId).getD
    { definition := { id := serviceId, name := serviceId } }

def askProvider (stage : Stage) (q : Provider.Request) : q.Reply × Stage :=
  let (cue, cued) := stage.takeCue q
  (cueReply (stage.service q.serviceId) cue.reply q, cued.allBehind cue.meanwhile)

/-- Answers and logs one request of the broker. -/
def respond (stage : Stage) (action : Action) : action.Reply × Stage :=
  let logged := { stage with log := stage.log ++ [action] }
  match action with
  | .store q =>
    let (reply, store) := logged.store.answer logged.now q
    (reply, { logged with store })
  | .vault q => logged.askVault q
  | .provider q => logged.askProvider q

/-- Adds cues behind those that a provider still has. -/
def cue (stage : Stage) (serviceId : String) (method : Provider.Method) (cues : List Cue) :
    Stage :=
  let waiting := (stage.cues.get? (serviceId, method)).getD []
  { stage with cues := stage.cues.put (serviceId, method) (waiting ++ cues) }

/-- Runs a call of the broker; the log holds what it asks for and nothing else. -/
def rehearse {α : Type} (stage : Stage) (call : Call α) : Except BrokerError α × Stage :=
  call.run respond { stage with log := [] }

end Stage

end Brokerage.Rehearsal
