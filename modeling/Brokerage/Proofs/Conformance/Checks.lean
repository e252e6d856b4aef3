import Brokerage.Conformance.Report
import Brokerage.Proofs.Conformance.Backend

/-!
The checks that ask one thing after another. A store that conforms passes each: it is followed on
the store in memory from the first request on, and what the check insists on holds of what it is
told there, whatever the times.
-/

set_option autoImplicit false

namespace Brokerage.Conformance

variable {σ : Type} {respond : Backend σ} {fresh : σ}

namespace Instances

variable (h : Conforms respond fresh)
include h

theorem passes_existsIsFalseForEmptyStore : Passes respond fresh existsIsFalseForEmptyStore := by
  refine h.need (.start ..) (fun _ ↦ rfl) rfl fun s _ hs ↦ ?_
  exact .failIf rfl

theorem passes_createThenExists : Passes respond fresh createThenExists := by
  refine h.need (.start ..) (fun _ ↦ rfl) rfl fun s _ hs ↦ ?_
  refine h.need hs (fun _ ↦ rfl) rfl fun s _ hs ↦ ?_
  exact .failIf rfl

theorem passes_createThenGetRoundTripsFields :
    Passes respond fresh createThenGetRoundTripsFields := by
  refine h.need (.start ..) (fun _ ↦ rfl) rfl fun s _ hs ↦ ?_
  refine h.needInstance hs rfl fun created updated s _ _ _ hs ↦ ?_
  exact .failIf (by simp [sameContent])

theorem passes_createSetsTimestamps : Passes respond fresh createSetsTimestamps := by
  refine h.need (.start ..) (fun _ ↦ rfl) rfl fun s _ hs ↦ ?_
  refine h.needInstance hs rfl fun created updated s hcreated hupdated _ hs ↦ ?_
  exact .failIf (by simp [hcreated, hupdated])

/-- The one check that looks at a time again: it was the time of the creation before the save. -/
theorem passes_saveOverwritesMutableFields :
    Passes respond fresh saveOverwritesMutableFields := by
  refine h.need (.start ..) (fun _ ↦ rfl) rfl fun s _ hs ↦ ?_
  refine h.needInstance hs rfl fun created updated read _ _ hread hthen ↦ ?_
  refine h.need hthen (fun _ ↦ rfl) rfl fun written hsaved hthen ↦ ?_
  refine h.needInstance hthen rfl fun kept later reread _ _ hreread hthen ↦ ?_
  have hdetails : (!occursIn "10.0.0.9".toList
      "\x7b\"name\":\"db-1\",\"ip\":\"10.0.0.9\"\x7d".toList) = false := by decide
  have hkept : kept = created := h.keeps_created hs hread rfl hsaved hreread
  refine .failIf_bind rfl (.failIf_bind hdetails (.failIf_bind rfl (.failIf ?_)))
  simp [hkept]

theorem passes_saveCanClearPendingOperation :
    Passes respond fresh saveCanClearPendingOperation := by
  refine h.need (.start ..) (fun _ ↦ rfl) rfl fun s _ hs ↦ ?_
  refine h.needInstance hs rfl fun created updated s _ _ _ hs ↦ ?_
  refine h.need hs (fun _ ↦ rfl) rfl fun s _ hs ↦ ?_
  refine h.needInstance hs rfl fun kept later s _ _ _ hs ↦ ?_
  exact .failIf rfl

theorem passes_deleteRemovesRecord : Passes respond fresh deleteRemovesRecord := by
  refine h.need (.start ..) (fun _ ↦ rfl) rfl fun s _ hs ↦ ?_
  refine h.need hs (fun _ ↦ rfl) rfl fun s _ hs ↦ ?_
  refine h.need hs (fun _ ↦ rfl) rfl fun s _ hs ↦ ?_
  refine .failIf_bind rfl ?_
  refine h.refused hs rfl fun s hs ↦ ?_
  exact .failIf rfl

theorem passes_instancesAreIndependent : Passes respond fresh instancesAreIndependent := by
  refine h.need (.start ..) (fun _ ↦ rfl) rfl fun s _ hs ↦ ?_
  refine h.need hs (fun _ ↦ rfl) rfl fun s _ hs ↦ ?_
  refine h.need hs (fun _ ↦ rfl) rfl fun s _ hs ↦ ?_
  refine h.need hs (fun _ ↦ rfl) rfl fun s _ hs ↦ ?_
  exact .failIf rfl

theorem passes_recreateAfterDelete : Passes respond fresh recreateAfterDelete := by
  refine h.need (.start ..) (fun _ ↦ rfl) rfl fun s _ hs ↦ ?_
  refine h.need hs (fun _ ↦ rfl) rfl fun s _ hs ↦ ?_
  exact h.needLast hs rfl

end Instances

namespace Bindings

variable (h : Conforms respond fresh)
include h

theorem passes_createThenGetRoundTripsFields :
    Passes respond fresh createThenGetRoundTripsFields := by
  refine h.need (.start ..) (fun _ ↦ rfl) rfl fun s _ hs ↦ ?_
  refine h.need hs (fun _ ↦ rfl) rfl fun s _ hs ↦ ?_
  refine h.needBinding hs rfl fun created s hcreated hs ↦ ?_
  exact .failIf_bind (by simp [sameContent]) (.failIf (by simp [hcreated]))

theorem passes_existsUsesCompositeKey : Passes respond fresh existsUsesCompositeKey := by
  refine h.need (.start ..) (fun _ ↦ rfl) rfl fun s _ hs ↦ ?_
  refine h.need hs (fun _ ↦ rfl) rfl fun s _ hs ↦ ?_
  refine h.need hs (fun _ ↦ rfl) rfl fun s _ hs ↦ ?_
  refine h.need hs (fun _ ↦ rfl) rfl fun s _ hs ↦ ?_
  refine h.need hs (fun _ ↦ rfl) rfl fun s _ hs ↦ ?_
  exact .failIf rfl

theorem passes_sameBindingIdOnDifferentInstances :
    Passes respond fresh sameBindingIdOnDifferentInstances := by
  refine h.need (.start ..) (fun _ ↦ rfl) rfl fun s _ hs ↦ ?_
  refine h.need hs (fun _ ↦ rfl) rfl fun s _ hs ↦ ?_
  refine h.need hs (fun _ ↦ rfl) rfl fun s _ hs ↦ ?_
  exact h.needLast hs rfl

theorem passes_deleteRemovesOnlyTarget : Passes respond fresh deleteRemovesOnlyTarget := by
  refine h.need (.start ..) (fun _ ↦ rfl) rfl fun s _ hs ↦ ?_
  refine h.need hs (fun _ ↦ rfl) rfl fun s _ hs ↦ ?_
  refine h.need hs (fun _ ↦ rfl) rfl fun s _ hs ↦ ?_
  refine h.need hs (fun _ ↦ rfl) rfl fun s _ hs ↦ ?_
  refine h.need hs (fun _ ↦ rfl) rfl fun s _ hs ↦ ?_
  refine .failIf_bind rfl ?_
  refine h.need hs (fun _ ↦ rfl) rfl fun s _ hs ↦ ?_
  exact .failIf rfl

end Bindings

namespace Requests

variable (h : Conforms respond fresh)
include h

theorem passes_getReturnsLatestCreated : Passes respond fresh getReturnsLatestCreated := by
  refine h.need (.start ..) (fun _ ↦ rfl) rfl fun s _ hs ↦ ?_
  refine h.need hs (fun _ ↦ rfl) rfl fun s _ hs ↦ ?_
  refine h.needRequest hs rfl fun updated s _ hs ↦ ?_
  exact .failIf rfl

theorem passes_saveOverwritesLatest : Passes respond fresh saveOverwritesLatest := by
  refine h.need (.start ..) (fun _ ↦ rfl) rfl fun s _ hs ↦ ?_
  refine h.need hs (fun _ ↦ rfl) rfl fun s _ hs ↦ ?_
  refine h.needRequest hs rfl fun updated s hupdated hs ↦ ?_
  exact .failIf_bind rfl (.failIf (by simp [hupdated]))

theorem passes_saveInsertsWhenAbsent : Passes respond fresh saveInsertsWhenAbsent := by
  refine h.need (.start ..) (fun _ ↦ rfl) rfl fun s _ hs ↦ ?_
  refine h.needRequest hs rfl fun updated s _ hs ↦ ?_
  exact .done ..

theorem passes_emptyRequestDetailsAllowed : Passes respond fresh emptyRequestDetailsAllowed := by
  refine h.need (.start ..) (fun _ ↦ rfl) rfl fun s _ hs ↦ ?_
  refine h.needRequest hs rfl fun updated s _ hs ↦ ?_
  exact .failIf rfl

end Requests

namespace Refusals

variable (h : Conforms respond fresh)
include h

theorem passes_getMissingInstanceIsNotFound :
    Passes respond fresh getMissingInstanceIsNotFound := by
  refine h.refused (.start ..) rfl fun s hs ↦ ?_
  exact .failIf rfl

theorem passes_saveMissingInstanceIsNotFound :
    Passes respond fresh saveMissingInstanceIsNotFound := by
  refine h.refused (.start ..) rfl fun s hs ↦ ?_
  refine .failIf_bind rfl ?_
  refine h.need hs (fun _ ↦ rfl) rfl fun s _ hs ↦ ?_
  exact .failIf rfl

theorem passes_deleteMissingInstanceIsNotFound :
    Passes respond fresh deleteMissingInstanceIsNotFound := by
  refine h.refused (.start ..) rfl fun s hs ↦ ?_
  exact .failIf rfl

theorem passes_duplicateInstanceIsConflict :
    Passes respond fresh duplicateInstanceIsConflict := by
  refine h.need (.start ..) (fun _ ↦ rfl) rfl fun s _ hs ↦ ?_
  refine h.refused hs rfl fun s hs ↦ ?_
  exact .failIf rfl

theorem passes_duplicateInstanceKeepsFirst :
    Passes respond fresh duplicateInstanceKeepsFirst := by
  refine h.need (.start ..) (fun _ ↦ rfl) rfl fun s _ hs ↦ ?_
  refine h.refused hs rfl fun s hs ↦ ?_
  refine h.needInstance hs rfl fun created updated s _ _ _ hs ↦ ?_
  exact .failIf rfl

theorem passes_getMissingBindingIsNotFound :
    Passes respond fresh getMissingBindingIsNotFound := by
  refine h.refused (.start ..) rfl fun s hs ↦ ?_
  exact .failIf rfl

theorem passes_deleteMissingBindingIsNotFound :
    Passes respond fresh deleteMissingBindingIsNotFound := by
  refine h.refused (.start ..) rfl fun s hs ↦ ?_
  exact .done ..

theorem passes_duplicateBindingIsConflict : Passes respond fresh duplicateBindingIsConflict := by
  refine h.need (.start ..) (fun _ ↦ rfl) rfl fun s _ hs ↦ ?_
  refine h.need hs (fun _ ↦ rfl) rfl fun s _ hs ↦ ?_
  refine h.refused hs rfl fun s hs ↦ ?_
  exact .done ..

theorem passes_getMissingRequestIsNotFound :
    Passes respond fresh getMissingRequestIsNotFound := by
  refine h.refused (.start ..) rfl fun s hs ↦ ?_
  exact .done ..

end Refusals

end Brokerage.Conformance
