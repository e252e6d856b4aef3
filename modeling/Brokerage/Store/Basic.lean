import Brokerage.Store.Request
import Brokerage.Table

/-!
A record store: a table of instances, one of bindings and one of the requests made for each
instance, oldest first. Creating needs an absent key; saving, reading and deleting need a
present one. The store stamps what it writes with the time it is given, and an instance keeps
the stamp of its creation.
-/

set_option autoImplicit false

namespace Brokerage

structure Store where
  instances : Table String InstanceRecord := []
  bindings : Table (String × String) BindingRecord := []
  requests : Table String (List RequestRecord) := []
  deriving DecidableEq

namespace Store

def empty : Store := {}

/-- The requests made for an instance, oldest first. -/
def history (s : Store) (instanceId : String) : List RequestRecord :=
  (s.requests.get? instanceId).getD []

/-- A history with its latest entry replaced; an empty one gains the entry. -/
def replaceLatest (record : RequestRecord) : List RequestRecord → List RequestRecord
  | [] => [record]
  | [_] => [record]
  | first :: next :: rest => first :: replaceLatest record (next :: rest)

variable (s : Store) (now : String)

def getInstance (i : String) : Except Error InstanceRecord :=
  match s.instances.get? i with
  | some record => .ok record
  | none => .error (.instanceNotFound i)

def createInstance (record : InstanceRecord) : Except Error Store :=
  if s.instances.contains record.id then .error (.instanceAlreadyExists record.id)
  else
    let stamped := { record with createdAt := now, updatedAt := now }
    .ok { s with instances := s.instances.put record.id stamped }

def saveInstance (record : InstanceRecord) : Except Error Store :=
  match s.instances.get? record.id with
  | none => .error (.instanceNotFound record.id)
  | some existing =>
    let stamped := { record with createdAt := existing.createdAt, updatedAt := now }
    .ok { s with instances := s.instances.put record.id stamped }

def deleteInstance (i : String) : Except Error Store :=
  if s.instances.contains i then .ok { s with instances := s.instances.remove i }
  else .error (.instanceNotFound i)

def getBinding (i b : String) : Except Error BindingRecord :=
  match s.bindings.get? (i, b) with
  | some record => .ok record
  | none => .error (.bindingNotFound i b)

def createBinding (record : BindingRecord) : Except Error Store :=
  let key := (record.instanceId, record.bindingId)
  if s.bindings.contains key then
    .error (.bindingAlreadyExists record.instanceId record.bindingId)
  else .ok { s with bindings := s.bindings.put key { record with createdAt := now } }

def deleteBinding (i b : String) : Except Error Store :=
  if s.bindings.contains (i, b) then .ok { s with bindings := s.bindings.remove (i, b) }
  else .error (.bindingNotFound i b)

def createRequest (record : RequestRecord) : Store :=
  let entries := s.history record.instanceId ++ [{ record with updatedAt := now }]
  { s with requests := s.requests.put record.instanceId entries }

def saveRequest (record : RequestRecord) : Store :=
  let entries := replaceLatest { record with updatedAt := now } (s.history record.instanceId)
  { s with requests := s.requests.put record.instanceId entries }

def getRequest (i : String) : Except Error RequestRecord :=
  match (s.history i).getLast? with
  | some record => .ok record
  | none => .error (.requestNotFound i)

/-- The outcome of a write: a refusal leaves the store alone. -/
def written (s : Store) : Except Error Store → Except Error Unit × Store
  | .ok after => (.ok (), after)
  | .error error => (.error error, s)

/-- Answers one request. -/
def answer (now : String) (s : Store) : (q : Request) → q.Reply × Store
  | .instanceExists i => (.ok (s.instances.contains i), s)
  | .getInstance i => (s.getInstance i, s)
  | .createInstance record => s.written (s.createInstance now record)
  | .saveInstance record => s.written (s.saveInstance now record)
  | .deleteInstance i => s.written (s.deleteInstance i)
  | .bindingExists i b => (.ok (s.bindings.contains (i, b)), s)
  | .getBinding i b => (s.getBinding i b, s)
  | .createBinding record => s.written (s.createBinding now record)
  | .deleteBinding i b => s.written (s.deleteBinding i b)
  | .createRequest record => (.ok (), s.createRequest now record)
  | .saveRequest record => (.ok (), s.saveRequest now record)
  | .getRequest i => (s.getRequest i, s)

end Store

end Brokerage
