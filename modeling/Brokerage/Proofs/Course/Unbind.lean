import Brokerage.Broker.Unbind
import Brokerage.Proofs.Course.Load

/-!
The ways an unbind can go. A broker with a vault clears the name of the credentials before the
provider is asked; the record goes last.
-/

set_option autoImplicit false

namespace Brokerage.Broker

/-- The error of an unbind whose binding could not be read. -/
def unreadBinding (i b : String) (e : Store.Error) : BrokerError :=
  if e.isNotFound then .bindingNotFound i b else .storage e

/-- What is said to the vault to clear a name, and the error that the vault gives for it. -/
inductive Clearing (broker : Broker) (name : String) : Dialogue → Option Vault.Error → Prop
  | needless (hvault : broker.hasVault = false) : Clearing broker name [] none
  | cleared (hvault : broker.hasVault = true) (revoked deleted : Except Vault.Error Unit)
    (hdeleted : deleted = .ok () ∨ ∃ other, deleted = .error (.notFound other)) :
    Clearing broker name
      [.vault (.deletePermission name) revoked, .vault (.delete name) deleted] none
  | uncleared (hvault : broker.hasVault = true) (revoked : Except Vault.Error Unit)
    (message : String) :
    Clearing broker name
      [.vault (.deletePermission name) revoked, .vault (.delete name) (.error (.request message))]
      (some (.request message))

theorem ends_removeVaulted_bind {α : Type} {broker : Broker} {name : String}
    {next : Unit → Call α} {exchanges : Dialogue} {result : Except BrokerError α}
    (h : (if broker.hasVault then removeVaulted name >>= next else next ()).Ends
      exchanges result) :
    (∃ e, Clearing broker name exchanges (some e) ∧ result = .error (.vault e)) ∨
      ∃ clearing rest, exchanges = clearing ++ rest ∧ Clearing broker name clearing none ∧
        (next ()).Ends rest result := by
  cases hvault : broker.hasVault with
  | false =>
    simp only [hvault, Bool.false_eq_true, if_false] at h
    exact .inr ⟨[], exchanges, rfl, .needless hvault, h⟩
  | true =>
    simp only [hvault, if_true, removeVaulted, Call.vault_eq_ask, Program.ask_bind,
      Program.ok_bind, Program.ends_ask_iff] at h
    obtain ⟨revoked, rest, rfl, deleted, rest, rfl, h⟩ := h
    cases deleted with
    | ok value => exact .inr ⟨_, rest, rfl, .cleared hvault revoked (.ok ()) (.inl rfl), h⟩
    | error e =>
      cases e with
      | notFound other =>
        exact .inr ⟨_, rest, rfl, .cleared hvault revoked _ (.inr ⟨other, rfl⟩), h⟩
      | request message =>
        obtain ⟨rfl, rfl⟩ := Program.ends_done_iff.1 h
        exact .inl ⟨_, .uncleared hvault revoked message, rfl⟩

section Unbind

variable (broker : Broker) (i b : String)

inductive UnbindCourse : Dialogue → Except BrokerError Unit → Prop
  | unread (e : Store.Error) :
    UnbindCourse [.store (.getBinding i b) (.error e)] (.error (unreadBinding i b e))
  | instanceUnread (binding : BindingRecord) (e : Store.Error) :
    UnbindCourse [.store (.getBinding i b) (.ok binding), .store (.getInstance i) (.error e)]
      (.error (unreadInstance i e))
  | unresolved (binding : BindingRecord) (record : InstanceRecord) {e : BrokerError}
    (hresolve : broker.registry.resolve binding.serviceId = .error e) :
    UnbindCourse [.store (.getBinding i b) (.ok binding), .store (.getInstance i) (.ok record)]
      (.error e)
  | uncleared (binding : BindingRecord) (record : InstanceRecord) {service : RegisteredService}
    (hresolve : broker.registry.resolve binding.serviceId = .ok service) {clearing : Dialogue}
    {e : Vault.Error} (hclear : Clearing broker (broker.credentialNameFor service b) clearing
      (some e)) :
    UnbindCourse
      (.store (.getBinding i b) (.ok binding) :: .store (.getInstance i) (.ok record) :: clearing)
      (.error (.vault e))
  | declined (binding : BindingRecord) (record : InstanceRecord) {service : RegisteredService}
    (hresolve : broker.registry.resolve binding.serviceId = .ok service) {clearing : Dialogue}
    (hclear : Clearing broker (broker.credentialNameFor service b) clearing none)
    (e : Provider.Error) :
    UnbindCourse
      (.store (.getBinding i b) (.ok binding) :: .store (.getInstance i) (.ok record) ::
        (clearing ++ [.provider (.unbind service.definition.id record binding) (.error e)]))
      (.error (.provider e))
  | undeleted (binding : BindingRecord) (record : InstanceRecord) {service : RegisteredService}
    (hresolve : broker.registry.resolve binding.serviceId = .ok service) {clearing : Dialogue}
    (hclear : Clearing broker (broker.credentialNameFor service b) clearing none)
    (e : Store.Error) :
    UnbindCourse
      (.store (.getBinding i b) (.ok binding) :: .store (.getInstance i) (.ok record) ::
        (clearing ++
          [.provider (.unbind service.definition.id record binding) (.ok ()),
           .store (.deleteBinding i b) (.error e)]))
      (.error (.orphanedResource "unbind" "deleting the binding record" revokedButListed e))
  | unbound (binding : BindingRecord) (record : InstanceRecord) {service : RegisteredService}
    (hresolve : broker.registry.resolve binding.serviceId = .ok service) {clearing : Dialogue}
    (hclear : Clearing broker (broker.credentialNameFor service b) clearing none) :
    UnbindCourse
      (.store (.getBinding i b) (.ok binding) :: .store (.getInstance i) (.ok record) ::
        (clearing ++
          [.provider (.unbind service.definition.id record binding) (.ok ()),
           .store (.deleteBinding i b) (.ok ())]))
      (.ok ())

variable {broker i b} (details : UnbindDetails)

theorem UnbindCourse.of_ends {exchanges : Dialogue} {result : Except BrokerError Unit}
    (h : (broker.unbind i b details).Ends exchanges result) :
    UnbindCourse broker i b exchanges result := by
  simp only [unbind, loadBinding, Call.store_eq_ask, Program.ask_bind, Program.ok_bind,
    Program.ends_ask_iff] at h
  obtain ⟨reply, rest, rfl, h⟩ := h
  cases reply with
  | error e =>
    obtain ⟨rfl, rfl⟩ := Program.ends_done_iff.1 h
    exact .unread e
  | ok binding =>
    simp only [Program.pure_bind] at h
    rw [ends_loadInstance_bind_iff] at h
    rcases h with ⟨e, rfl, rfl⟩ | ⟨record, rest, rfl, h⟩
    · exact .instanceUnread binding e
    rw [Program.ends_ofExcept_bind_iff] at h
    rcases h with ⟨e, hresolve, rfl, rfl⟩ | ⟨service, hresolve, h⟩
    · exact .unresolved binding record hresolve
    rcases ends_removeVaulted_bind h with ⟨e, hclear, rfl⟩ | ⟨clearing, tail, rfl, hclear, htail⟩
    · exact .uncleared binding record hresolve hclear
    clear h
    simp only [Call.provider_eq_ask, Program.ask_bind, Program.ok_bind,
      Program.ends_ask_iff] at htail
    obtain ⟨revoked, rest, rfl, htail⟩ := htail
    rw [Program.ends_orFail_bind_iff] at htail
    rcases htail with ⟨e, rfl, rfl, rfl⟩ | ⟨_, rfl, htail⟩
    · exact .declined binding record hresolve hclear e
    rw [Program.ends_ask_iff] at htail
    obtain ⟨deleted, rest, rfl, htail⟩ := htail
    rw [Program.ends_orFail_iff] at htail
    rcases htail with ⟨e, rfl, rfl, rfl⟩ | ⟨_, rfl, rfl, rfl⟩
    · exact .undeleted binding record hresolve hclear e
    exact .unbound binding record hresolve hclear

end Unbind

end Brokerage.Broker
