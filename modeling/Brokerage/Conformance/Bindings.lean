import Brokerage.Conformance.Trial

/-!
What a store has to do with the records of bindings. A binding id is unique on its instance only.
-/

set_option autoImplicit false

namespace Brokerage.Conformance.Bindings

open Program Trial

def sameContent (a b : BindingRecord) : Bool :=
  a == { b with createdAt := a.createdAt }

def createThenGetRoundTripsFields : Trial Unit := do
  need (.createInstance (sampleInstance "i-1"))
  let record := sampleBinding "i-1" "b-1"
  need (.createBinding record)
  let got ← need (.getBinding "i-1" "b-1")
  failIf (!sameContent got record)
    ("round trip mismatch: stored " ++ record.describe ++ ", read " ++ got.describe)
  failIf got.createdAt.isEmpty "expected created_at to be set"

def existsUsesCompositeKey : Trial Unit := do
  need (.createInstance (sampleInstance "i-1"))
  need (.createBinding (sampleBinding "i-1" "b-1"))
  let hit ← need (.bindingExists "i-1" "b-1")
  let wrongBinding ← need (.bindingExists "i-1" "b-2")
  let wrongInstance ← need (.bindingExists "i-2" "b-1")
  failIf (!hit || wrongBinding || wrongInstance)
    (s!"exists results: (i-1,b-1)={hit} (i-1,b-2)={wrongBinding} (i-2,b-1)={wrongInstance}")

def sameBindingIdOnDifferentInstances : Trial Unit := do
  need (.createInstance (sampleInstance "i-1"))
  needFor "create binding on i-1" (.createBinding (sampleBinding "i-1" "b-1"))
  need (.createInstance (sampleInstance "i-2"))
  needFor "create binding on i-2" (.createBinding (sampleBinding "i-2" "b-1"))

def deleteRemovesOnlyTarget : Trial Unit := do
  need (.createInstance (sampleInstance "i-1"))
  need (.createBinding (sampleBinding "i-1" "b-1"))
  need (.createBinding (sampleBinding "i-1" "b-2"))
  need (.deleteBinding "i-1" "b-1")
  failIf (← need (.bindingExists "i-1" "b-1")) "b-1 still exists after delete"
  failIf (!(← need (.bindingExists "i-1" "b-2"))) "deleting b-1 removed b-2"

def checks : List Check :=
  [⟨"binding", "create_then_get_round_trips_fields", createThenGetRoundTripsFields⟩,
   ⟨"binding", "exists_uses_composite_key", existsUsesCompositeKey⟩,
   ⟨"binding", "same_binding_id_on_different_instances", sameBindingIdOnDifferentInstances⟩,
   ⟨"binding", "delete_removes_only_target", deleteRemovesOnlyTarget⟩]

end Brokerage.Conformance.Bindings
