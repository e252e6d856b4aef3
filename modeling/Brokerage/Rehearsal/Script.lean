import Brokerage.Catalog.Registry
import Brokerage.Json.Access
import Brokerage.Provider
import Brokerage.Store.Request

/-!
Providers that answer from a script. A cue may have others change the records first, and then fails,
gives what it says, or lets the provider answer as it does without a cue.
-/

set_option autoImplicit false

namespace Brokerage.Rehearsal

/-- What a cue gives; which parts of it count depends on what was asked. -/
structure Given where
  pending : Option String := none
  value : Option Json := none
  otherDetails : String := ""

inductive CueReply where
  | fail (error : Provider.Error)
  | usual
  | give (given : Given)

structure Cue where
  meanwhile : List Store.Request := []
  reply : CueReply := .usual

/-- An outcome that is pending when there is an operation id for it. -/
def outcomeOf {α : Type} (pending : Option String) (value : α) : Provider.Outcome α :=
  match pending with
  | some operationId => .pending operationId value
  | none => .completed value

/-- The id of an operation that is left pending if the provider works that way. -/
def pendingIf (isAsync : Bool) (operationId : String) : Option String :=
  if isAsync then some operationId else none

def usualInstance (vars : Variables) : Json :=
  .record [("host", .string "10.0.0.1"),
    ("name", (Json.object vars).field "instance_id"),
    ("tier", (Json.object vars).field "tier")]

def usualCredentials (vars : Variables) : Json :=
  let all := Json.object vars
  .record [("username", .string ("user-" ++ all.textAt "binding_id")),
    ("password", .string "s3cret"), ("host", (all.field "instance_details").field "host")]

/-- The details of a binding as its credentials. -/
def issuedCredentials (binding : BindingRecord) : Except Provider.Error Binding :=
  match binding.details with
  | .ok (.object members) => .ok ⟨members⟩
  | .ok other => .error (.failed s!"unexpected binding details {other.text}")
  | .error e => .error (.failed (e.message Json.Malformation.message))

/-- The details of an instance, marked as refreshed. -/
def refreshedDetails (record : InstanceRecord) : String :=
  let members := match record.details with
    | .ok details => details.membersOf
    | .error _ => []
  (Json.object (members.insert "refreshed" (.bool true))).text

/-- How a provider answers when it is not told otherwise. -/
def usualReply (service : RegisteredService) : (q : Provider.Request) → q.Reply
  | .provision _ vars =>
    .ok (outcomeOf (pendingIf service.provisionsAsync "op-provision") (usualInstance vars))
  | .update _ _ => .ok (outcomeOf (pendingIf service.provisionsAsync "op-update") ())
  | .deprovision _ _ _ =>
    .ok (outcomeOf (pendingIf service.deprovisionsAsync "op-deprovision") ())
  | .bind _ vars => .ok (usualCredentials vars)
  | .buildCredentials _ binding _ => issuedCredentials binding
  | .unbind _ _ _ => .ok ()
  | .poll _ _ => .ok true
  | .refresh _ record => .ok { record with otherDetails := refreshedDetails record }

/-- How a provider answers when it is told what to give. -/
def givenReply (given : Given) : (q : Provider.Request) → q.Reply
  | .provision _ vars =>
    .ok (outcomeOf given.pending (given.value.getD (usualInstance vars)))
  | .update _ _ => .ok (outcomeOf given.pending ())
  | .deprovision _ _ _ => .ok (outcomeOf given.pending ())
  | .bind _ _ => .ok (given.value.getD .null)
  | .buildCredentials _ _ _ => .ok ⟨(given.value.getD .null).membersOf⟩
  | .unbind _ _ _ => .ok ()
  | .poll _ _ => .ok (given.value.getD .null).flagOf
  | .refresh _ record => .ok { record with otherDetails := given.otherDetails }

def cueReply (service : RegisteredService) (reply : CueReply) (q : Provider.Request) : q.Reply :=
  match reply with
  | .fail error => .error error
  | .usual => usualReply service q
  | .give given => givenReply given q

end Brokerage.Rehearsal
