import Brokerage.Program
import Brokerage.Record.Diagnostic
import Brokerage.Store.Request

/-!
Trials of a record store: programs of store requests that end well or with the reason why the
store does not do what it should.
-/

set_option autoImplicit false

namespace Brokerage.Conformance

open Program

abbrev Trial := Program Store.Request.Reply String

namespace Trial

def request (q : Store.Request) : Trial q.Reply :=
  Program.request q

/-- Asks for something that has to be answered. -/
def need (q : Store.Request) : Trial q.Answer := do
  orFail Store.Error.message (← request q)

/-- Asks for something that has to be answered, and says what it was when it is refused. -/
def needFor (what : String) (q : Store.Request) : Trial q.Answer := do
  orFail (fun e ↦ what ++ ": " ++ e.message) (← request q)

def failIf (condition : Bool) (reason : String) : Trial Unit :=
  refuseIf condition reason

end Trial

/-- A named trial. -/
structure Check where
  category : String
  name : String
  trial : Trial Unit

/-! ### Records for trials -/

def sampleInstance (id : String) : InstanceRecord :=
  { id, serviceId := "test-service", planId := "test-plan", spaceGuid := "space-1"
    organizationGuid := "org-1", otherDetails := "\x7b\"name\":\"db-1\"\x7d" }

def sampleBinding (instanceId bindingId : String) : BindingRecord :=
  { instanceId, bindingId, serviceId := "test-service"
    otherDetails := "\x7b\"username\":\"u\",\"password\":\"p\"\x7d" }

def sampleRequest (instanceId requestDetails : String) : RequestRecord :=
  { instanceId, requestDetails }

end Brokerage.Conformance
