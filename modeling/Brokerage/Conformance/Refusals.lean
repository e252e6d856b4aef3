import Brokerage.Conformance.Trial

/-!
What a store has to refuse, and how: what is absent is not found, and what is there already is a
conflict that changes nothing.
-/

set_option autoImplicit false

namespace Brokerage.Conformance.Refusals

open Program Trial

def getMissingInstanceIsNotFound : Trial Unit := do
  match ← Trial.request (.getInstance "nope") with
  | .ok _ => fail "expected InstanceNotFound, got Ok"
  | .error e =>
    failIf (e != .instanceNotFound "nope") s!"expected InstanceNotFound(nope), got {e.message}"

/-- An instance was not found, whichever is named. -/
def lacksInstance : Store.Error → Bool
  | .instanceNotFound _ => true
  | _ => false

def saveMissingInstanceIsNotFound : Trial Unit := do
  match ← Trial.request (.saveInstance (sampleInstance "ghost")) with
  | .ok _ => fail "save of a missing instance succeeded"
  | .error e => failIf (!lacksInstance e) s!"expected InstanceNotFound, got {e.message}"
  failIf (← need (.instanceExists "ghost")) "save of a missing instance created it"

def deleteMissingInstanceIsNotFound : Trial Unit := do
  match ← Trial.request (.deleteInstance "nope") with
  | .ok _ => fail "delete of a missing instance succeeded"
  | .error e => failIf (!lacksInstance e) s!"expected InstanceNotFound, got {e.message}"

def duplicateInstanceIsConflict : Trial Unit := do
  need (.createInstance (sampleInstance "i-1"))
  match ← Trial.request (.createInstance (sampleInstance "i-1")) with
  | .ok _ => fail "duplicate create succeeded"
  | .error e =>
    failIf (e != .instanceAlreadyExists "i-1")
      s!"expected InstanceAlreadyExists(i-1), got {e.message}"

def duplicateInstanceKeepsFirst : Trial Unit := do
  need (.createInstance (sampleInstance "i-1"))
  let _ ← Trial.request (.createInstance { sampleInstance "i-1" with planId := "other-plan" })
  let got ← need (.getInstance "i-1")
  failIf (got.planId != "test-plan")
    ("duplicate create overwrote plan: got '" ++ got.planId ++ "'")

def getMissingBindingIsNotFound : Trial Unit := do
  match ← Trial.request (.getBinding "i-1" "b-1") with
  | .ok _ => fail "expected BindingNotFound, got Ok"
  | .error e =>
    failIf (e != .bindingNotFound "i-1" "b-1")
      s!"expected BindingNotFound(i-1/b-1), got {e.message}"

def deleteMissingBindingIsNotFound : Trial Unit := do
  match ← Trial.request (.deleteBinding "i-1" "b-1") with
  | .ok _ => fail "delete of a missing binding succeeded"
  | .error (.bindingNotFound _ _) => pure ()
  | .error e => fail s!"expected BindingNotFound, got {e.message}"

def duplicateBindingIsConflict : Trial Unit := do
  need (.createInstance (sampleInstance "i-1"))
  need (.createBinding (sampleBinding "i-1" "b-1"))
  match ← Trial.request (.createBinding (sampleBinding "i-1" "b-1")) with
  | .ok _ => fail "duplicate binding create succeeded"
  | .error (.bindingAlreadyExists _ _) => pure ()
  | .error e => fail s!"expected BindingAlreadyExists, got {e.message}"

def getMissingRequestIsNotFound : Trial Unit := do
  match ← Trial.request (.getRequest "i-1") with
  | .ok _ => fail "expected ProvisionRequestNotFound, got Ok"
  | .error (.requestNotFound _) => pure ()
  | .error e => fail s!"expected ProvisionRequestNotFound, got {e.message}"

def checks : List Check :=
  [⟨"error", "get_missing_instance_is_not_found", getMissingInstanceIsNotFound⟩,
   ⟨"error", "save_missing_instance_is_not_found", saveMissingInstanceIsNotFound⟩,
   ⟨"error", "delete_missing_instance_is_not_found", deleteMissingInstanceIsNotFound⟩,
   ⟨"error", "duplicate_instance_is_conflict", duplicateInstanceIsConflict⟩,
   ⟨"error", "duplicate_instance_keeps_original", duplicateInstanceKeepsFirst⟩,
   ⟨"error", "get_missing_binding_is_not_found", getMissingBindingIsNotFound⟩,
   ⟨"error", "delete_missing_binding_is_not_found", deleteMissingBindingIsNotFound⟩,
   ⟨"error", "duplicate_binding_is_conflict", duplicateBindingIsConflict⟩,
   ⟨"error", "get_missing_provision_request_is_not_found", getMissingRequestIsNotFound⟩]

end Brokerage.Conformance.Refusals
