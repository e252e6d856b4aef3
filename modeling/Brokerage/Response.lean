import Brokerage.Shape.Shaped

/-!
What callers are answered with: whether an operation is still under way, the credentials of a
binding, and how the last operation on an instance went.
-/

set_option autoImplicit false

namespace Brokerage

structure OperationResponse where
  isAsync : Bool
  operationData : Option String := none
  deriving DecidableEq

namespace OperationResponse

def completed : OperationResponse := ⟨false, none⟩

def pending (operationId : String) : OperationResponse := ⟨true, some operationId⟩

end OperationResponse

/-- The credentials handed to an application, or a reference to them. -/
structure Binding where
  credentials : Members
  deriving DecidableEq

inductive OperationState where
  | inProgress
  | succeeded
  | failed
  deriving DecidableEq

namespace OperationState

def all : List OperationState := [.inProgress, .succeeded, .failed]

def name : OperationState → String
  | .inProgress => "in progress"
  | .succeeded => "succeeded"
  | .failed => "failed"

def ofName? (name : String) : Option OperationState :=
  all.find? fun state ↦ state.name == name

theorem ofName?_name (state : OperationState) : ofName? state.name = some state := by
  cases state <;> rfl

def isTerminal (state : OperationState) : Bool :=
  state != .inProgress

end OperationState

structure LastOperation where
  state : OperationState
  description : Option String := none
  deriving DecidableEq

/-! ### Responses as JSON -/

/-- A member that is left out when there is no text for it. -/
def memberIfPresent (name : String) : Option String → List (String × Json)
  | none => []
  | some text => [(name, .string text)]

instance : Shaped OperationResponse where
  shape := .record "OperationResponse"
    [("is_async", .refused, .flag), ("operation_data", .nullWhereNamed, .optional .text)]
  toJson response := .record
    (("is_async", .bool response.isAsync) ::
      memberIfPresent "operation_data" response.operationData)
  ofJson j := ⟨j.flagAt "is_async", j.textAt? "operation_data"⟩

instance : Shaped Binding where
  shape := .record "Binding" [("credentials", .refused, .table)]
  toJson binding := .record [("credentials", .object binding.credentials)]
  ofJson j := ⟨j.membersAt "credentials"⟩

instance : Shaped LastOperation where
  shape := .record "LastOperation"
    [("state", .refused, .choice (OperationState.all.map OperationState.name)),
     ("description", .nullWhereNamed, .optional .text)]
  toJson operation := .record
    (("state", .string operation.state.name) ::
      memberIfPresent "description" operation.description)
  ofJson j :=
    ⟨(OperationState.ofName? (j.textAt "state")).getD .inProgress, j.textAt? "description"⟩

end Brokerage
