import Brokerage.Proofs.World

/-!
What the answers of a vault leave behind. A request changes at most the entry under its name, and
what it makes of that entry depends on nothing else. A vault that fails may do so with or without
having changed the entry; how much is known of a vault decides what can be said of its entries.
-/

set_option autoImplicit false

namespace Brokerage

namespace Vault

/-- What a request makes of the entry under its name. -/
def Request.effect : Request → Option Entry → Option Entry
  | .put _ value, known => some (written known value)
  | .addPermission _ actor operations, known => known.map fun entry ↦ granted entry actor operations
  | .deletePermission _, known => known.map fun entry ↦ { entry with permissions := [] }
  | .delete _, _ => none

variable {v : Vault}

theorem onPresent_of_none {name : String} {change : Entry → Vault} (h : v.get? name = none) :
    v.onPresent name change = (.error (.notFound name), v) := by
  simp [onPresent, h]

theorem onPresent_of_some {name : String} {change : Entry → Vault} {entry : Entry}
    (h : v.get? name = some entry) : v.onPresent name change = (.ok (), change entry) := by
  simp [onPresent, h]

/-- An answer makes of the entry under the name of the request what the request makes of it. -/
theorem get?_answer (v : Vault) (q : Request) :
    (v.answer q).2.get? q.name = q.effect (v.get? q.name) := by
  cases q with
  | put name value => exact (Table.get?_put ..).trans (if_pos rfl)
  | addPermission name actor operations =>
    simp only [answer, Request.name, Request.effect]
    cases hfound : v.get? name with
    | none => rw [onPresent_of_none hfound, hfound, Option.map_none]
    | some entry =>
      rw [onPresent_of_some hfound, Table.get?_put, if_pos rfl, Option.map_some]
  | deletePermission name =>
    simp only [answer, Request.name, Request.effect]
    cases hfound : v.get? name with
    | none => rw [onPresent_of_none hfound, hfound, Option.map_none]
    | some entry =>
      rw [onPresent_of_some hfound, Table.get?_put, if_pos rfl, Option.map_some]
  | delete name =>
    simp only [answer, Request.name, Request.effect]
    cases hfound : v.get? name with
    | none => rw [onPresent_of_none hfound, hfound]
    | some entry => rw [onPresent_of_some hfound, Table.get?_remove, if_pos rfl]

/-- An answer leaves the entries under other names. -/
theorem get?_answer_of_ne {q : Request} {other : String} (h : other ≠ q.name) :
    (v.answer q).2.get? other = v.get? other := by
  cases q with
  | put name value => exact (Table.get?_put ..).trans (if_neg h)
  | addPermission name actor operations =>
    simp only [answer, Request.name] at h ⊢
    cases hfound : v.get? name with
    | none => rw [onPresent_of_none hfound]
    | some entry => rw [onPresent_of_some hfound, Table.get?_put, if_neg h]
  | deletePermission name =>
    simp only [answer, Request.name] at h ⊢
    cases hfound : v.get? name with
    | none => rw [onPresent_of_none hfound]
    | some entry => rw [onPresent_of_some hfound, Table.get?_put, if_neg h]
  | delete name =>
    simp only [answer, Request.name] at h ⊢
    cases hfound : v.get? name with
    | none => rw [onPresent_of_none hfound]
    | some entry => rw [onPresent_of_some hfound, Table.get?_remove, if_neg h]

theorem onPresent_ne_error {name : String} {change : Entry → Vault} {entry : Entry}
    (h : v.get? name = some entry) (e : Error) : (v.onPresent name change).1 ≠ .error e := by
  rw [onPresent_of_some h]
  simp

/-- What is asked about an entry that is there is not refused. -/
theorem answer_ne_error {q : Request} {entry : Entry} (h : v.get? q.name = some entry) (e : Error) :
    (v.answer q).1 ≠ .error e := by
  cases q with
  | put name value => simp [answer]
  | addPermission | deletePermission | delete => exact onPresent_ne_error h e

end Vault

namespace Setting

/-- Whatever a vault replies, it has done what it was asked to or nothing. -/
def VaultActsAsAsked (setting : Setting) : Prop :=
  ∀ v q reply after, setting.vault v q reply after → after = v ∨ after = (v.answer q).2

/-- A vault answers faithfully, or fails without effect. -/
def VaultFailsWithoutEffect (setting : Setting) : Prop :=
  ∀ v q reply after, setting.vault v q reply after →
    v.answer q = (reply, after) ∨ ∃ e, reply = .error e ∧ after = v

/-- A name that a vault does not find is absent. -/
def VaultFindsWhatIsThere (setting : Setting) : Prop :=
  ∀ v q name after, setting.vault v q (.error (.notFound name)) after → v.get? q.name = none

theorem VaultFailsWithoutEffect.actsAsAsked {setting : Setting}
    (h : setting.VaultFailsWithoutEffect) : setting.VaultActsAsAsked := by
  intro v q reply after hvault
  rcases h v q reply after hvault with hanswer | ⟨e, -, rfl⟩
  · exact .inr (by rw [hanswer])
  · exact .inl rfl

/-- A vault in memory does what it is asked to, and finds what is there. -/
theorem VaultInMemory.failsWithoutEffect {setting : Setting} (h : setting.VaultInMemory) :
    setting.VaultFailsWithoutEffect :=
  fun v q reply after hvault ↦ .inl (h v q reply after hvault)

theorem VaultInMemory.findsWhatIsThere {setting : Setting} (h : setting.VaultInMemory) :
    setting.VaultFindsWhatIsThere := by
  intro v q name after hvault
  have hanswer := h _ _ _ _ hvault
  cases hfound : v.get? q.name with
  | none => rfl
  | some entry => exact absurd (by rw [hanswer]) (Vault.answer_ne_error hfound (.notFound name))

/-- An exchange leaves what is under a name, or makes of it what a request about that name makes. -/
theorem Allows.entry_cases {setting : Setting} {w w' : World} {x : Exchange Action.Reply}
    (h : setting.Allows w x w') (hvault : setting.VaultActsAsAsked) (name : String) :
    w'.vault.get? name = w.vault.get? name ∨
      ∃ q reply, x = .vault q reply ∧ q.name = name ∧
        w'.vault.get? name = q.effect (w.vault.get? name) := by
  cases h with
  | store h => exact .inl rfl
  | provider h => exact .inl rfl
  | @vault q reply after h =>
    rcases hvault _ _ _ _ h with rfl | rfl
    · exact .inl rfl
    · by_cases hname : name = q.name
      · subst hname
        exact .inr ⟨q, reply, rfl, rfl, Vault.get?_answer ..⟩
      · exact .inl (Vault.get?_answer_of_ne hname)

end Setting

end Brokerage
