import Brokerage.Conformance.Trial

/-!
What a store has to do with the requests made for an instance: reads see the newest, and saving
replaces it.
-/

set_option autoImplicit false

namespace Brokerage.Conformance.Requests

open Program Trial

def sized (size : Nat) : String :=
  "\x7b\"size\":" ++ toString size ++ "\x7d"

def getReturnsLatestCreated : Trial Unit := do
  need (.createRequest (sampleRequest "i-1" (sized 1)))
  needFor "second create for same instance failed"
    (.createRequest (sampleRequest "i-1" (sized 2)))
  let got ← need (.getRequest "i-1")
  failIf (got.requestDetails != sized 2) s!"expected latest request, got {got.requestDetails}"

def saveOverwritesLatest : Trial Unit := do
  need (.createRequest (sampleRequest "i-1" (sized 1)))
  need (.saveRequest (sampleRequest "i-1" (sized 3)))
  let got ← need (.getRequest "i-1")
  failIf (got.requestDetails != sized 3)
    s!"expected overwritten request, got {got.requestDetails}"
  failIf got.updatedAt.isEmpty "expected updated_at to be set"

def saveInsertsWhenAbsent : Trial Unit := do
  need (.saveRequest (sampleRequest "i-9" "\x7b\x7d"))
  let _ ← needFor "save did not insert" (.getRequest "i-9")

def emptyRequestDetailsAllowed : Trial Unit := do
  need (.createRequest (sampleRequest "i-1" ""))
  let got ← need (.getRequest "i-1")
  failIf (!got.requestDetails.isEmpty) s!"expected empty details, got {got.requestDetails}"

def checks : List Check :=
  [⟨"provision_request", "get_returns_latest_created", getReturnsLatestCreated⟩,
   ⟨"provision_request", "save_overwrites_latest", saveOverwritesLatest⟩,
   ⟨"provision_request", "save_inserts_when_absent", saveInsertsWhenAbsent⟩,
   ⟨"provision_request", "empty_request_details_allowed", emptyRequestDetailsAllowed⟩]

end Brokerage.Conformance.Requests
