import Brokerage.Conformance.Trial

/-!
What a store has to do with the records of instances.
-/

set_option autoImplicit false

namespace Brokerage.Conformance.Instances

open Program Trial

def existsIsFalseForEmptyStore : Trial Unit := do
  failIf (← need (.instanceExists "i-1")) "expected no instance in a fresh store"

def createThenExists : Trial Unit := do
  need (.createInstance (sampleInstance "i-1"))
  failIf (!(← need (.instanceExists "i-1"))) "expected instance to exist after create"

/-- The fields that belong to the caller. -/
def sameContent (a b : InstanceRecord) : Bool :=
  a == { b with createdAt := a.createdAt, updatedAt := a.updatedAt }

def createThenGetRoundTripsFields : Trial Unit := do
  let record := { sampleInstance "i-1" with operation := some ⟨"op-7", .provision⟩ }
  need (.createInstance record)
  let got ← need (.getInstance "i-1")
  failIf (!sameContent got record)
    ("round trip mismatch: stored " ++ record.describe ++ ", read " ++ got.describe)

def createSetsTimestamps : Trial Unit := do
  need (.createInstance (sampleInstance "i-1"))
  let got ← need (.getInstance "i-1")
  failIf (got.createdAt.isEmpty || got.updatedAt.isEmpty)
    ("expected timestamps to be set, got created_at=" ++ Text.quoted got.createdAt ++
      " updated_at=" ++ Text.quoted got.updatedAt)

/-- Whether a run of characters occurs in another. -/
def occursIn (part : List Char) : List Char → Bool
  | [] => part.isEmpty
  | c :: rest => part.isPrefixOf (c :: rest) || occursIn part rest

def saveOverwritesMutableFields : Trial Unit := do
  need (.createInstance (sampleInstance "i-1"))
  let record ← need (.getInstance "i-1")
  let operation : PendingOperation := ⟨"op-1", .deprovision⟩
  need (.saveInstance { record with
    planId := "bigger-plan"
    otherDetails := "\x7b\"name\":\"db-1\",\"ip\":\"10.0.0.9\"\x7d"
    operation := some operation })
  let got ← need (.getInstance "i-1")
  failIf (got.planId != "bigger-plan")
    ("expected plan 'bigger-plan', got '" ++ got.planId ++ "'")
  failIf (!occursIn "10.0.0.9".toList got.otherDetails.toList)
    s!"details not saved: {got.otherDetails}"
  failIf (got.operation != some operation)
    ("operation not saved: " ++ PendingOperation.describe? got.operation)
  failIf (got.createdAt != record.createdAt) "save must not change created_at"

def saveCanClearPendingOperation : Trial Unit := do
  need (.createInstance { sampleInstance "i-1" with operation := some ⟨"op-1", .provision⟩ })
  let record ← need (.getInstance "i-1")
  need (.saveInstance { record with operation := none })
  let got ← need (.getInstance "i-1")
  failIf got.operation.isSome
    ("expected operation cleared, got " ++ PendingOperation.describe? got.operation)

def deleteRemovesRecord : Trial Unit := do
  need (.createInstance (sampleInstance "i-1"))
  need (.deleteInstance "i-1")
  failIf (← need (.instanceExists "i-1")) "instance still exists after delete"
  match ← Trial.request (.getInstance "i-1") with
  | .ok _ => fail "get succeeded after delete"
  | .error e =>
    failIf (!e.isNotFound) s!"expected not-found after delete, got {e.message}"

def instancesAreIndependent : Trial Unit := do
  need (.createInstance (sampleInstance "i-1"))
  need (.createInstance (sampleInstance "i-2"))
  need (.deleteInstance "i-1")
  failIf (!(← need (.instanceExists "i-2"))) "deleting i-1 removed i-2"

def recreateAfterDelete : Trial Unit := do
  need (.createInstance (sampleInstance "i-1"))
  need (.deleteInstance "i-1")
  needFor "re-create after delete failed" (.createInstance (sampleInstance "i-1"))

def checks : List Check :=
  [⟨"instance", "exists_is_false_for_empty_store", existsIsFalseForEmptyStore⟩,
   ⟨"instance", "create_then_exists", createThenExists⟩,
   ⟨"instance", "create_then_get_round_trips_fields", createThenGetRoundTripsFields⟩,
   ⟨"instance", "create_sets_timestamps", createSetsTimestamps⟩,
   ⟨"instance", "save_overwrites_mutable_fields", saveOverwritesMutableFields⟩,
   ⟨"instance", "save_can_clear_pending_operation", saveCanClearPendingOperation⟩,
   ⟨"instance", "delete_removes_record", deleteRemovesRecord⟩,
   ⟨"instance", "instances_are_independent", instancesAreIndependent⟩,
   ⟨"instance", "recreate_after_delete", recreateAfterDelete⟩]

end Brokerage.Conformance.Instances
