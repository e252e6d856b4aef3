import Brokerage.Record
import Brokerage.Store.Error

/-!
What can be asked of a record store, and what each request is answered with when it succeeds.
-/

set_option autoImplicit false

namespace Brokerage.Store

inductive Request where
  | instanceExists (instanceId : String)
  | getInstance (instanceId : String)
  | createInstance (record : InstanceRecord)
  | saveInstance (record : InstanceRecord)
  | deleteInstance (instanceId : String)
  | bindingExists (instanceId bindingId : String)
  | getBinding (instanceId bindingId : String)
  | createBinding (record : BindingRecord)
  | deleteBinding (instanceId bindingId : String)
  | createRequest (record : RequestRecord)
  | saveRequest (record : RequestRecord)
  | getRequest (instanceId : String)

/-- The requests without what they are about. -/
inductive Method where
  | instanceExists
  | getInstance
  | createInstance
  | saveInstance
  | deleteInstance
  | bindingExists
  | getBinding
  | createBinding
  | deleteBinding
  | createRequest
  | saveRequest
  | getRequest
  deriving DecidableEq

namespace Method

def all : List Method :=
  [.instanceExists, .getInstance, .createInstance, .saveInstance, .deleteInstance, .bindingExists,
   .getBinding, .createBinding, .deleteBinding, .createRequest, .saveRequest, .getRequest]

def name : Method → String
  | .instanceExists => "instance_exists"
  | .getInstance => "get_instance"
  | .createInstance => "create_instance"
  | .saveInstance => "save_instance"
  | .deleteInstance => "delete_instance"
  | .bindingExists => "binding_exists"
  | .getBinding => "get_binding"
  | .createBinding => "create_binding"
  | .deleteBinding => "delete_binding"
  | .createRequest => "create_provision_request"
  | .saveRequest => "save_provision_request"
  | .getRequest => "get_provision_request"

def ofName? (name : String) : Option Method :=
  all.find? fun method ↦ method.name == name

end Method

namespace Request

def method : Request → Method
  | .instanceExists _ => .instanceExists
  | .getInstance _ => .getInstance
  | .createInstance _ => .createInstance
  | .saveInstance _ => .saveInstance
  | .deleteInstance _ => .deleteInstance
  | .bindingExists _ _ => .bindingExists
  | .getBinding _ _ => .getBinding
  | .createBinding _ => .createBinding
  | .deleteBinding _ _ => .deleteBinding
  | .createRequest _ => .createRequest
  | .saveRequest _ => .saveRequest
  | .getRequest _ => .getRequest

abbrev Answer : Request → Type
  | .instanceExists _ => Bool
  | .getInstance _ => InstanceRecord
  | .bindingExists _ _ => Bool
  | .getBinding _ _ => BindingRecord
  | .getRequest _ => RequestRecord
  | .createInstance _ => Unit
  | .saveInstance _ => Unit
  | .deleteInstance _ => Unit
  | .createBinding _ => Unit
  | .deleteBinding _ _ => Unit
  | .createRequest _ => Unit
  | .saveRequest _ => Unit

abbrev Reply (q : Request) : Type :=
  Except Error q.Answer

/-- Whether a request may change the store. -/
def isWrite : Request → Bool
  | .instanceExists _ | .getInstance _ | .bindingExists _ _ | .getBinding _ _ | .getRequest _ =>
    false
  | _ => true

/-- The same refusal for whatever was asked. -/
def refuse (error : Error) (q : Request) : q.Reply :=
  .error error

/-- The instance that a request is about. -/
def instanceId : Request → String
  | .instanceExists i | .getInstance i | .deleteInstance i | .getRequest i => i
  | .bindingExists i _ | .getBinding i _ | .deleteBinding i _ => i
  | .createInstance record | .saveInstance record => record.id
  | .createBinding record => record.instanceId
  | .createRequest record | .saveRequest record => record.instanceId

/-- The binding that a request is about, if it is about one. -/
def bindingId? : Request → Option String
  | .bindingExists _ b | .getBinding _ b | .deleteBinding _ b => some b
  | .createBinding record => some record.bindingId
  | _ => none

end Request

end Brokerage.Store
