import Brokerage.Conformance.Bindings
import Brokerage.Conformance.Instances
import Brokerage.Conformance.Races
import Brokerage.Conformance.Refusals
import Brokerage.Conformance.Requests

/-!
The whole suite of checks against a store, and the report of how they went. Every check starts on a
fresh store.
-/

set_option autoImplicit false

namespace Brokerage.Conformance

/-- How one check went; it passed when there is no failure. -/
structure Finding where
  category : String
  name : String
  failure : Option String
  deriving DecidableEq

def Finding.passed (finding : Finding) : Bool :=
  finding.failure.isNone

abbrev Report := List Finding

namespace Report

def failures (report : Report) : List Finding :=
  report.filter fun finding ↦ !finding.passed

def isSuccess (report : Report) : Bool :=
  report.all Finding.passed

def text (report : Report) : String :=
  let heading :=
    s!"record store conformance: {report.failures.length} of {report.length} checks failed\n"
  heading ++ String.join (report.failures.map fun finding ↦
    s!"  {finding.category}::{finding.name}: " ++ finding.failure.getD "" ++ "\n")

end Report

def suite (schedule : Races.Schedule) : List Check :=
  Instances.checks ++ Bindings.checks ++ Requests.checks ++ Refusals.checks ++
    Races.checks schedule

/-- Runs a check on a fresh store. -/
def Check.run {σ : Type} (respond : σ → (q : Store.Request) → q.Reply × σ) (fresh : σ)
    (check : Check) : Finding :=
  match (check.trial.run respond fresh).1 with
  | .ok _ => ⟨check.category, check.name, none⟩
  | .error reason => ⟨check.category, check.name, some reason⟩

def run {σ : Type} (respond : σ → (q : Store.Request) → q.Reply × σ) (fresh : σ)
    (schedule : Races.Schedule) : Report :=
  (suite schedule).map (Check.run respond fresh)

end Brokerage.Conformance
