/-!
The ways in which a record store refuses a request.
-/

set_option autoImplicit false

namespace Brokerage.Store

inductive Error where
  | instanceNotFound (instanceId : String)
  | bindingNotFound (instanceId bindingId : String)
  | requestNotFound (instanceId : String)
  | instanceAlreadyExists (instanceId : String)
  | bindingAlreadyExists (instanceId bindingId : String)
  | backend (message : String)
  deriving DecidableEq

namespace Error

def message : Error → String
  | .instanceNotFound i => s!"service instance not found: {i}"
  | .bindingNotFound i b => s!"service binding not found: {i}/{b}"
  | .requestNotFound i => s!"provision request not found: {i}"
  | .instanceAlreadyExists i => s!"service instance already exists: {i}"
  | .bindingAlreadyExists i b => s!"service binding already exists: {i}/{b}"
  | .backend message => s!"storage backend error: {message}"

/-- The record asked for is absent. -/
def isNotFound : Error → Bool
  | .instanceNotFound _ | .bindingNotFound _ _ | .requestNotFound _ => true
  | _ => false

/-- The record to be created is there already. -/
def isConflict : Error → Bool
  | .instanceAlreadyExists _ | .bindingAlreadyExists _ _ => true
  | _ => false

end Error

end Brokerage.Store
