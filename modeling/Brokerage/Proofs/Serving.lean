import Brokerage.Broker.Deprovision
import Brokerage.Broker.LastOperation
import Brokerage.Broker.Bind
import Brokerage.Broker.Unbind
import Brokerage.Proofs.World

/-!
A broker serving requests. A request that was served is kept with its dialogue and its result; a
history is a chain of such requests, each served in the world that the ones before it left.
-/

set_option autoImplicit false

namespace Brokerage.Broker

/-- What a broker can be asked to do. -/
inductive Request where
  | provision (i : String) (details : ProvisionDetails) (acceptsIncomplete : Bool)
  | update (i : String) (details : UpdateDetails) (acceptsIncomplete : Bool)
  | deprovision (i : String) (details : DeprovisionDetails) (acceptsIncomplete : Bool)
  | lastOperation (i : String) (details : PollDetails)
  | bind (i b : String) (details : BindDetails)
  | unbind (i b : String) (details : UnbindDetails)

namespace Request

abbrev Answer : Request → Type
  | .provision _ _ _ => OperationResponse
  | .update _ _ _ => OperationResponse
  | .deprovision _ _ _ => OperationResponse
  | .lastOperation _ _ => LastOperation
  | .bind _ _ _ => Binding
  | .unbind _ _ _ => Unit

/-- What a request is made for. -/
def subject : Request → Subject
  | .provision i _ _ | .update i _ _ | .deprovision i _ _ | .lastOperation i _ => .instance i
  | .bind i b _ | .unbind i b _ => .binding i b

end Request

def serve (broker : Broker) : (q : Request) → Call q.Answer
  | .provision i details acceptsIncomplete => broker.provision i details acceptsIncomplete
  | .update i details acceptsIncomplete => broker.update i details acceptsIncomplete
  | .deprovision i details acceptsIncomplete => broker.deprovision i details acceptsIncomplete
  | .lastOperation i details => broker.lastOperation i details
  | .bind i b details => broker.bind i b details
  | .unbind i b details => broker.unbind i b details

/-- A request with what was asked to serve it and the result it was given. -/
structure Served where
  request : Request
  exchanges : Dialogue
  result : Except BrokerError request.Answer

/-- The caller was told that the provider, the vault and the records no longer agree. -/
def Served.isPartialFailure (call : Served) : Bool :=
  match call.result with
  | .ok _ => false
  | .error e => e.isPartialFailure

/-- A request is served in a world, which is left as the answers given leave it. -/
def Serves (broker : Broker) (setting : Setting) (w : World) (call : Served) (w' : World) : Prop :=
  (broker.serve call.request).Ends call.exchanges call.result ∧
    Steps setting.Allows w call.exchanges w'

/-- Where there is a reply to everything, every request can be served. -/
theorem Serves.exists_of_responds {setting : Setting} (h : setting.Responds) (broker : Broker)
    (request : Request) (w : World) :
    ∃ exchanges result w', broker.Serves setting w ⟨request, exchanges, result⟩ w' :=
  Program.exists_steps h (broker.serve request) w

theorem keyed_of_history {broker : Broker} {setting : Setting} {w w' : World} {calls : List Served}
    (hrun : Steps (broker.Serves setting) w calls w') (hw : w.store.Keyed) : w'.store.Keyed :=
  hrun.preserves (P := fun v ↦ v.store.Keyed) (fun _ _ _ _ hv h ↦ Setting.keyed_of_steps h.2 hv) hw

/-! ### What the provider does -/

/-- What a request has the provider of the service do, or tell of. -/
def Request.action : Request → Provider.Method
  | .provision _ _ _ => .provision
  | .update _ _ _ => .update
  | .deprovision _ _ _ => .deprovision
  | .lastOperation _ _ => .poll
  | .bind _ _ _ => .bind
  | .unbind _ _ _ => .unbind

end Broker

/-- What a provider has done that answers so. A poll counts when it finds an operation done. -/
def Exchange.did? : Exchange Action.Reply → Option Provider.Method
  | ⟨.provider (.poll _ _), .ok done⟩ => if done then some .poll else none
  | ⟨.provider q, .ok _⟩ => some q.method
  | _ => none

/-- The provider has done what the call is made for. -/
def Broker.Served.Acted (call : Broker.Served) : Prop :=
  ∃ x ∈ call.exchanges, x.did? = some call.request.action

/-! ### Settings that can be computed -/

/-- A faithful store, a vault in memory and providers that always answer alike. -/
def Setting.faithful (provider : (q : Provider.Request) → q.Reply) : Setting where
  storeFails _ := False
  vault v q reply after := v.answer q = (reply, after)
  provider q reply := provider q = reply

theorem Setting.responds_faithful (provider : (q : Provider.Request) → q.Reply) :
    (Setting.faithful provider).Responds := by
  intro w question
  cases question with
  | store q => exact ⟨_, _, .store (.inl ⟨"", rfl⟩)⟩
  | vault q => exact ⟨_, _, .vault rfl⟩
  | provider q => exact ⟨_, _, .provider rfl⟩

/-- Answers as a faithful setting does, always at one time. -/
def World.respond (now : String) (provider : (q : Provider.Request) → q.Reply) (w : World) :
    (action : Action) → action.Reply × World
  | .store q =>
    let (reply, store) := w.store.answer now q
    (reply, { w with store })
  | .vault q =>
    let (reply, vault) := w.vault.answer q
    (reply, { w with vault })
  | .provider q => (provider q, w)

/-- A faithful setting, except that the store may fail as a backend does. -/
def Setting.faulty (provider : (q : Provider.Request) → q.Reply) : Setting where
  storeFails e := ∃ message, e = .backend message
  vault v q reply after := v.answer q = (reply, after)
  provider q reply := provider q = reply

/-- Answers as a faithful setting does, except that the store fails the methods given. -/
def World.respondFailing (failing : List Store.Method) (now : String)
    (provider : (q : Provider.Request) → q.Reply) (w : World) :
    (action : Action) → action.Reply × World
  | .store q =>
    if failing.contains q.method then (q.refuse (.backend "out of reach"), w)
    else w.respond now provider (.store q)
  | .vault q => w.respond now provider (.vault q)
  | .provider q => w.respond now provider (.provider q)

namespace Broker

variable (now : String) (provider : (q : Provider.Request) → q.Reply)

/-! ### Histories in a faithful setting -/

theorem allows_of_respond {w w' : World} {x : Exchange Action.Reply}
    (h : w.respond now provider x.question = (x.reply, w')) :
    (Setting.faithful provider).Allows w x w' := by
  obtain ⟨question, reply⟩ := x
  cases question with
  | store q =>
    cases h
    exact .store (.inl ⟨now, rfl⟩)
  | vault q =>
    cases h
    exact .vault rfl
  | provider q =>
    cases h
    exact .provider rfl

/-- Serves requests one after another in a faithful setting. -/
def history (broker : Broker) : List Request → World → List Served × World
  | [], w => ([], w)
  | request :: rest, w =>
    let call := broker.serve request
    let respond := World.respond now provider
    let (result, after) := call.run respond w
    let (calls, last) := history broker rest after
    (⟨request, call.trace respond w, result⟩ :: calls, last)

theorem steps_history (broker : Broker) (requests : List Request) (w : World) :
    Steps (broker.Serves (.faithful provider)) w (broker.history now provider requests w).1
      (broker.history now provider requests w).2 := by
  induction requests generalizing w with
  | nil => exact .nil w
  | cons request rest ih =>
    refine .cons ⟨Program.ends_trace _ _ w, ?_⟩ (ih _)
    exact (Program.steps_trace _ _ w).mono fun _ _ _ h ↦ allows_of_respond now provider h

theorem request_of_history (broker : Broker) (requests : List Request) (w : World) :
    (broker.history now provider requests w).1.map Served.request = requests := by
  induction requests generalizing w with
  | nil => rfl
  | cons request rest ih =>
    rw [history]
    exact congrArg (request :: ·) (ih _)

/-! ### Histories beside a store that fails -/

theorem allows_of_respondFailing {failing : List Store.Method} {w w' : World}
    {x : Exchange Action.Reply}
    (h : w.respondFailing failing now provider x.question = (x.reply, w')) :
    (Setting.faulty provider).Allows w x w' := by
  obtain ⟨question, reply⟩ := x
  cases question with
  | store q =>
    simp only [World.respondFailing] at h
    split at h
    next =>
      cases h
      exact .store (.inr ⟨_, ⟨_, rfl⟩, rfl, rfl⟩)
    next =>
      cases h
      exact .store (.inl ⟨now, rfl⟩)
  | vault q =>
    cases h
    exact .vault rfl
  | provider q =>
    cases h
    exact .provider rfl

/-- Serves requests one after another, each beside a store that fails the methods given with it. -/
def faultyHistory (broker : Broker) : List (Request × List Store.Method) → World →
    List Served × World
  | [], w => ([], w)
  | (request, failing) :: rest, w =>
    let call := broker.serve request
    let respond := World.respondFailing failing now provider
    let (result, after) := call.run respond w
    let (calls, last) := faultyHistory broker rest after
    (⟨request, call.trace respond w, result⟩ :: calls, last)

theorem steps_faultyHistory (broker : Broker) (requests : List (Request × List Store.Method))
    (w : World) :
    Steps (broker.Serves (.faulty provider)) w (broker.faultyHistory now provider requests w).1
      (broker.faultyHistory now provider requests w).2 := by
  induction requests generalizing w with
  | nil => exact .nil w
  | cons request rest ih =>
    refine .cons ⟨Program.ends_trace _ _ w, ?_⟩ (ih _)
    exact (Program.steps_trace _ _ w).mono fun _ _ _ h ↦ allows_of_respondFailing now provider h

/-! ### A broker of one service -/

/-- A service with one plan that provisions and deprovisions in the background. -/
def databaseService : RegisteredService where
  definition := { id := "db", name := "database", plans := [{ id := "small", name := "small" }] }
  provisionsAsync := true
  deprovisionsAsync := true

def databaseBroker (hasVault : Bool) : Broker where
  registry := ⟨[databaseService]⟩
  hasVault := hasVault

/-- A provider that starts what it is asked for, reports it done when it is polled and issues
credentials that name the instance. -/
def databaseProvider : (q : Provider.Request) → q.Reply
  | .provision _ _ => .ok (.pending "op-1" .null)
  | .update _ _ => .ok (.completed ())
  | .deprovision _ _ _ => .ok (.pending "op-2" ())
  | .bind _ _ => .ok .null
  | .buildCredentials _ binding _ => .ok ⟨[("instance", .string binding.instanceId)]⟩
  | .unbind _ _ _ => .ok ()
  | .poll _ _ => .ok true
  | .refresh _ record => .ok record

/-- An instance of the database service, recorded and idle. -/
def databaseWorld : World where
  store := { instances := [("i-1", { id := "i-1", serviceId := "db", planId := "small" })] }

end Broker

end Brokerage
