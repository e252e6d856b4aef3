import Brokerage.Proofs.HandOff

/-!
Whether vaulted credentials stay as they were handed off. Bindings are recorded under the instance
and the binding, but the vault knows them by a name that leaves the instance out, so that calls for
another binding can have to do with the same name. What is under the name of a binding is what was
handed off for it exactly when everything held there was handed off for the same application, the
same credentials last; that is so whenever no call for another binding asks about the name.
-/

set_option autoImplicit false

namespace Brokerage.Broker

variable {broker : Broker} {i b name : String} {setting : Setting} {w w' : World}

/-! ### Where hand-offs come from -/

theorem Served.request_of_handOff {call : Served} {handOff : HandOff}
    (h : call.handOff? = some handOff) :
    ∃ details, call.request = .bind handOff.pair.1 handOff.pair.2 details := by
  obtain ⟨request, exchanges, result⟩ := call
  unfold Served.handOff? at h
  split at h
  next i b details exchanges' binding heq =>
    split at h
    next =>
      cases heq
      cases h
      exact ⟨details, rfl⟩
    next => cases h
  next => cases h

theorem mem_holding {call : Served} {held : List HandOff} {handOff : HandOff}
    (h : handOff ∈ holding name held call) :
    handOff ∈ held ∨ call.handOff? = some handOff ∧ handOff.name = name := by
  unfold holding at h
  split at h
  next => cases h
  next =>
    rw [List.mem_append, Option.mem_toList, Option.filter_eq_some_iff] at h
    rcases h with hearlier | ⟨hcall, hname⟩
    · exact .inl hearlier
    · exact .inr ⟨hcall, by simpa using hname⟩

theorem mem_foldl_holding {calls : List Served} {held : List HandOff} {handOff : HandOff}
    (h : handOff ∈ calls.foldl (holding name) held) :
    handOff ∈ held ∨ ∃ call ∈ calls, call.handOff? = some handOff ∧ handOff.name = name := by
  induction calls generalizing held with
  | nil => exact .inl h
  | cons call rest ih =>
    rcases ih h with hmem | ⟨later, hlater, hcall⟩
    · rcases mem_holding hmem with hheld | hcall
      · exact .inl hheld
      · exact .inr ⟨call, List.mem_cons_self .., hcall⟩
    · exact .inr ⟨later, List.mem_cons_of_mem _ hlater, hcall⟩

/-- A binding that is recorded is not handed off again. -/
theorem Serves.pair_ne_of_recorded {call : Served} {handOff : HandOff}
    (h : broker.Serves setting w call w') (hcall : call.handOff? = some handOff)
    (hrecorded : (w.store.bindings.get? (i, b)).isSome = true) : handOff.pair ≠ (i, b) := by
  intro hpair
  obtain ⟨details, hrequest⟩ := Served.request_of_handOff hcall
  rw [hpair] at hrequest
  obtain ⟨request, exchanges, result⟩ := call
  cases hrequest
  obtain ⟨-, hrefused⟩ := (BindCourse.of_ends h.1).refused_of_recorded h.2 hrecorded
  rcases hrefused with hresult | ⟨e, hresult⟩
  · cases hresult
    cases hcall
  · cases hresult
    cases hcall

/-! ### Bindings of what is held -/

/-- Every hand-off held under a name has its binding recorded, for a service that gives it the
name. -/
def Tracked (broker : Broker) (s : Store) (name : String) (held : List HandOff) : Prop :=
  ∀ handOff ∈ held, ∃ record service, s.bindings.get? handOff.pair = some record ∧
    broker.registry.resolve record.serviceId = .ok service ∧
    broker.credentialNameFor service handOff.pair.2 = name

/-- A bind that hands credentials off has recorded their binding for the service they are named
after. -/
theorem BindCourse.tracked {details : BindDetails} {exchanges : Dialogue}
    {result : Except BrokerError Binding} {handOff : HandOff}
    (h : BindCourse broker i b details exchanges result) (hvault : broker.hasVault = true)
    (hsteps : Steps setting.Allows w exchanges w')
    (hcall : Served.handOff? ⟨.bind i b details, exchanges, result⟩ = some handOff) :
    ∃ record service, w'.store.bindings.get? handOff.pair = some record ∧
      broker.registry.resolve record.serviceId = .ok service ∧
      broker.credentialNameFor service handOff.pair.2 = handOff.name := by
  cases h with
  | bound hadmits =>
    obtain ⟨plan, -, hreader, -⟩ := admitBind_ok hadmits
    rw [hasVault_of_vaultReader hreader] at hvault
    cases hvault
  | @handedOff record service app vars hadmits issued binding version =>
    obtain ⟨plan, hresolve, hreader, -⟩ := admitBind_ok hadmits
    have hguid := appGuid_of_vaultReader hreader
    simp only [Served.handOff?, hguid, builtCredentials?, List.findSome?_cons, referenceTo,
      Json.textAt, Json.field, Json.membersOf, Json.textOf, Json.text?, Members.get?_cons,
      if_true, Option.getD_some, Option.some.injEq] at hcall
    subst hcall
    simp only [Steps.cons_iff, Steps.nil_iff, Setting.allows_store_iff,
      Setting.allows_provider_iff, Setting.allows_vault_iff] at hsteps
    obtain ⟨_, ⟨_, -, rfl⟩, _, ⟨_, -, rfl⟩, _, ⟨-, rfl⟩, _, ⟨s, hcreate, rfl⟩, _, ⟨-, rfl⟩, _,
      ⟨_, -, rfl⟩, _, ⟨_, -, rfl⟩, rfl⟩ := hsteps
    obtain ⟨now, hcreated⟩ := hcreate.binding_of_createBinding
    exact ⟨_, service, hcreated, resolve_own_id (registry_resolve_of_resolve hresolve), rfl⟩
  | _ => cases hcall

theorem Serves.tracked {call : Served} {held : List HandOff}
    (h : broker.Serves setting w call w') (hvault : broker.hasVault = true)
    (hmemory : setting.VaultInMemory) (hw : w.store.Keyed)
    (htracked : Tracked broker w.store name held) :
    Tracked broker w'.store name (holding name held call) := by
  intro handOff hmem
  rcases mem_holding hmem with hheld | ⟨hcall, hname⟩
  · obtain ⟨record, service, hfound, hresolve, hnamed⟩ := htracked handOff hheld
    refine ⟨record, service, ?_, hresolve, hnamed⟩
    by_cases hunbind : ∃ details, call.request = .unbind handOff.pair.1 handOff.pair.2 details
    · -- an unbind deletes the record only after clearing the name, and then nothing is held
      obtain ⟨details, hrequest⟩ := hunbind
      obtain ⟨request, exchanges, result⟩ := call
      cases hrequest
      rcases (UnbindCourse.of_ends details h.1).clearsBinding hvault hmemory h.2 with
        ⟨-, hunwritten⟩ | ⟨cleared, hclears⟩
      · rw [Setting.bindings_eq_of_steps h.2 hunwritten]
        exact hfound
      · obtain ⟨binding, service', hfound', hresolve', hnamed'⟩ := hclears.named
        cases hfound.symm.trans hfound'
        cases hresolve.symm.trans hresolve'
        have hcleared : cleared = name := hnamed'.symm.trans hnamed
        rw [holding_of_deletes held (by simpa [hclears.deletes] using hcleared)] at hmem
        cases hmem
    · exact h.binding_stays hw (fun details hrequest ↦ hunbind ⟨details, hrequest⟩) hfound
  · obtain ⟨details, hrequest⟩ := Served.request_of_handOff hcall
    obtain ⟨request, exchanges, result⟩ := call
    cases hrequest
    rw [← hname]
    exact (BindCourse.of_ends h.1).tracked hvault h.2 hcall

theorem tracked_of_history {calls : List Served} {held : List HandOff}
    (hrun : Steps (broker.Serves setting) w calls w') (hvault : broker.hasVault = true)
    (hmemory : setting.VaultInMemory) (hw : w.store.Keyed)
    (htracked : Tracked broker w.store name held) :
    Tracked broker w'.store name (calls.foldl (holding name) held) := by
  induction hrun generalizing held with
  | nil w => exact htracked
  | cons head tail ih =>
    exact ih (Setting.keyed_of_steps head.2 hw) (head.tracked hvault hmemory hw htracked)

/-! ### Between a bind and its unbind -/

/-- While a binding is recorded, no call hands credentials off for it. -/
theorem pair_ne_of_history {calls : List Served} {record : BindingRecord}
    (hrun : Steps (broker.Serves setting) w calls w') (hw : w.store.Keyed)
    (hkept : ∀ call ∈ calls, ∀ details, call.request ≠ .unbind i b details)
    (hfound : w.store.bindings.get? (i, b) = some record) :
    ∀ call ∈ calls, ∀ handOff, call.handOff? = some handOff → handOff.pair ≠ (i, b) := by
  induction hrun with
  | nil w => exact fun call hcall ↦ absurd hcall List.not_mem_nil
  | @cons w v w' call calls head tail ih =>
    intro called hcalled handOff hhandOff
    rcases List.mem_cons.1 hcalled with rfl | hlater
    · exact head.pair_ne_of_recorded hhandOff (by rw [hfound]; rfl)
    · refine ih (Setting.keyed_of_steps head.2 hw) ?_ ?_ called hlater handOff hhandOff
      · exact fun later hlater ↦ hkept later (List.mem_cons_of_mem _ hlater)
      · exact head.binding_stays hw (hkept call (List.mem_cons_self ..)) hfound

/-- A call that does not ask about a name leaves what is held under it. -/
theorem Serves.holding_of_unasked {call : Served} (held : List HandOff)
    (h : broker.Serves setting w call w') (hvault : broker.hasVault = true)
    (hmemory : setting.VaultInMemory)
    (hunasked : ∀ x ∈ call.exchanges, x.vaultName? ≠ some name) :
    holding name held call = held := by
  refine holding_of_silent held hunasked fun handOff hcall hname ↦ ?_
  cases h.vaultUse hvault hmemory with
  | silent _ hnone => cases hnone.symm.trans hcall
  | handsOff handed hhanded _ hput =>
    cases hhanded.symm.trans hcall
    obtain ⟨x, hx, hasks⟩ := hput
    exact hunasked x hx (hname ▸ hasks)
  | clears _ _ hnone => cases hnone.symm.trans hcall

/-- While a binding is recorded, a call for it leaves what is held under every name, unless it is
asked to be unbound. -/
theorem Serves.unasked_of_recorded {call : Served} (h : broker.Serves setting w call w')
    (hsubject : call.request.subject = .binding i b)
    (hkept : ∀ details, call.request ≠ .unbind i b details)
    (hrecorded : (w.store.bindings.get? (i, b)).isSome = true) :
    ∀ x ∈ call.exchanges, x.vaultName? ≠ some name := by
  obtain ⟨request, exchanges, result⟩ := call
  cases request with
  | bind j c details =>
    cases hsubject
    obtain ⟨⟨reply, rfl⟩, -⟩ := (BindCourse.of_ends h.1).refused_of_recorded h.2 hrecorded
    simp [Exchange.vaultName?]
  | unbind j c details =>
    cases hsubject
    exact absurd rfl (hkept details)
  | _ => cases hsubject

/-- While a binding is recorded and no call for another one asks about a name, what is held under
the name stays. -/
theorem foldl_holding_eq {calls : List Served} {record : BindingRecord} {held : List HandOff}
    (hrun : Steps (broker.Serves setting) w calls w') (hvault : broker.hasVault = true)
    (hmemory : setting.VaultInMemory) (hw : w.store.Keyed)
    (hkept : ∀ call ∈ calls, ∀ details, call.request ≠ .unbind i b details)
    (hothers : ∀ call ∈ calls, call.request.subject ≠ .binding i b →
      ∀ x ∈ call.exchanges, x.vaultName? ≠ some name)
    (hfound : w.store.bindings.get? (i, b) = some record) :
    calls.foldl (holding name) held = held := by
  induction hrun with
  | nil w => rfl
  | @cons w v w' call calls head tail ih =>
    have hkeptCall := hkept call (List.mem_cons_self ..)
    have hunasked : ∀ x ∈ call.exchanges, x.vaultName? ≠ some name := by
      by_cases hsubject : call.request.subject = .binding i b
      · exact head.unasked_of_recorded hsubject hkeptCall (by rw [hfound]; rfl)
      · exact hothers call (List.mem_cons_self ..) hsubject
    rw [List.foldl_cons, head.holding_of_unasked held hvault hmemory hunasked]
    refine ih (Setting.keyed_of_steps head.2 hw) ?_ ?_ (head.binding_stays hw hkeptCall hfound)
    · exact fun later hlater ↦ hkept later (List.mem_cons_of_mem _ hlater)
    · exact fun later hlater ↦ hothers later (List.mem_cons_of_mem _ hlater)

/-- Nothing is held for a binding when it is bound. -/
theorem not_held_of_bound {before : List Served} {bound : Served} {v : World} {handOff : HandOff}
    (hbefore : Steps (broker.Serves setting) {} before v)
    (hbind : broker.Serves setting v bound w) (hvault : broker.hasVault = true)
    (hmemory : setting.VaultInMemory) (hcall : bound.handOff? = some handOff) :
    ∀ held ∈ heldUnder name before, held.pair ≠ handOff.pair := by
  intro held hmem hpair
  have htracked : Tracked broker v.store name (heldUnder name before) :=
    tracked_of_history hbefore hvault hmemory Store.keyed_empty
      (fun held hheld ↦ absurd hheld List.not_mem_nil)
  obtain ⟨record, service, hfound, -, -⟩ := htracked held hmem
  have hrecorded : (v.store.bindings.get? (handOff.pair.1, handOff.pair.2)).isSome = true := by
    show (v.store.bindings.get? handOff.pair).isSome = true
    rw [← hpair, hfound]
    rfl
  exact hbind.pair_ne_of_recorded hcall hrecorded rfl

/-- What is held under a name that no call for another binding asks about is for the binding. -/
theorem pair_of_held {calls : List Served} (hrun : Steps (broker.Serves setting) w calls w')
    (hvault : broker.hasVault = true) (hmemory : setting.VaultInMemory)
    (hothers : ∀ call ∈ calls, call.request.subject ≠ .binding i b →
      ∀ x ∈ call.exchanges, x.vaultName? ≠ some name) :
    ∀ held ∈ heldUnder name calls, held.pair = (i, b) := by
  intro held hmem
  rcases mem_foldl_holding hmem with hnil | ⟨call, hcall, hhanded, hname⟩
  · cases hnil
  · obtain ⟨details, hrequest⟩ := Served.request_of_handOff hhanded
    obtain ⟨earlier, v, v', -, hserves⟩ := hrun.exists_of_mem hcall
    by_contra hpair
    have hsubject : call.request.subject ≠ .binding i b := by
      rw [hrequest]
      intro heq
      cases heq
      exact hpair rfl
    cases hserves.vaultUse hvault hmemory with
    | silent _ hnone => cases hnone.symm.trans hhanded
    | handsOff handed hhanded' _ hput =>
      cases hhanded'.symm.trans hhanded
      obtain ⟨x, hx, hasks⟩ := hput
      exact hothers call hcall hsubject x hx (hname ▸ hasks)
    | clears _ _ hnone => cases hnone.symm.trans hhanded

/-- After a bind has handed credentials off for an application, and as long as the binding is not
asked to be unbound, the name referred to holds exactly these credentials for exactly this
application if and only if every hand-off under the name since it was last cleared was for this
application and the last of them was of these credentials. All of them but the bind's own were for
other bindings, and if no call for another binding asks about the name there are no others.
Assumes: a vault kept in memory. The store may fail, and providers may answer anything. -/
theorem holdsExactly_iff_of_bound (hvault : broker.hasVault = true)
    (hmemory : setting.VaultInMemory) {before after : List Served} {bound : Served} {w : World}
    {app : String} {credentials : Members}
    (hrun : Steps (broker.Serves setting) {} (before ++ bound :: after) w)
    (hbound : bound.handOff? = some ⟨(i, b), name, app, credentials⟩)
    (hkept : ∀ call ∈ after, ∀ details, call.request ≠ .unbind i b details) :
    (HoldsExactly w.vault name app credentials ↔
      (heldUnder name (before ++ bound :: after)).getLast?.map HandOff.credentials =
          some credentials ∧
        ∀ held ∈ heldUnder name (before ++ bound :: after), held.app = app) ∧
    (∀ held ∈ heldUnder name (before ++ bound :: after),
      held.pair = (i, b) → held = ⟨(i, b), name, app, credentials⟩) ∧
    ((∀ call ∈ before ++ after, call.request.subject ≠ .binding i b →
        ∀ x ∈ call.exchanges, x.vaultName? ≠ some name) →
      HoldsExactly w.vault name app credentials) := by
  have hholds : Holds w.vault name (heldUnder name (before ++ bound :: after)) :=
    holds_of_history hrun hvault hmemory (holds_empty name)
  obtain ⟨v, hbefore, hrest⟩ := Steps.append_iff.1 hrun
  obtain ⟨u, hbind, hafter⟩ := Steps.cons_iff.1 hrest
  have hv : v.store.Keyed := keyed_of_history hbefore Store.keyed_empty
  have hu : u.store.Keyed := Setting.keyed_of_steps hbind.2 hv
  have hnone : ∀ held ∈ heldUnder name before, held.pair ≠ (i, b) :=
    not_held_of_bound hbefore hbind hvault hmemory hbound
  obtain ⟨details, hrequest⟩ := Served.request_of_handOff hbound
  obtain ⟨record, hfound⟩ : ∃ record, u.store.bindings.get? (i, b) = some record := by
    obtain ⟨request, exchanges, result⟩ := bound
    cases hrequest
    obtain ⟨record, -, hfound, -⟩ := (BindCourse.of_ends hbind.1).tracked hvault hbind.2 hbound
    exact ⟨record, hfound⟩
  have hown : holding name (heldUnder name before) bound =
      heldUnder name before ++ [⟨(i, b), name, app, credentials⟩] := by
    cases hbind.vaultUse hvault hmemory with
    | silent _ hnone => cases hnone.symm.trans hbound
    | handsOff handed hhanded hkeeps =>
      cases hhanded.symm.trans hbound
      exact holding_of_handOff (heldUnder name before) hbound (hkeeps name)
    | clears _ _ hnone => cases hnone.symm.trans hbound
  have hheld : heldUnder name (before ++ bound :: after) =
      after.foldl (holding name) (heldUnder name before ++ [⟨(i, b), name, app, credentials⟩]) := by
    rw [← hown]
    exact List.foldl_append
  refine ⟨hholds.exactly_iff, ?_, ?_⟩
  · intro held hmem hpair
    rw [hheld] at hmem
    rcases mem_foldl_holding hmem with hearlier | ⟨call, hcall, hhanded, -⟩
    · rcases List.mem_append.1 hearlier with hbefore | hown
      · exact absurd hpair (hnone held hbefore)
      · exact List.mem_singleton.1 hown
    · exact absurd hpair (pair_ne_of_history hafter hu hkept hfound call hcall held hhanded)
  · intro hothers
    have hempty : heldUnder name before = [] := by
      rw [List.eq_nil_iff_forall_not_mem]
      intro held hmem
      refine hnone held hmem (pair_of_held hbefore hvault hmemory ?_ held hmem)
      exact fun call hcall ↦ hothers call (List.mem_append_left _ hcall)
    rw [hholds.exactly_iff, hheld, hempty, foldl_holding_eq hafter hvault hmemory hu hkept
      (fun call hcall ↦ hothers call (List.mem_append_right _ hcall)) hfound]
    exact ⟨rfl, fun held hmem ↦ by rw [List.mem_singleton.1 hmem]⟩

/-- A bind for an application, between the provisions of two instances. -/
def lonelyBind : List Request :=
  [.provision "i-1" { serviceId := "db", planId := "small" } true,
   .bind "i-1" "b-1" { serviceId := "db", planId := "small", appGuid := some "app-1" },
   .provision "i-2" { serviceId := "db", planId := "small" } true]

theorem holdsExactly_after_lonelyBind :
    let served := (databaseBroker true).history "now" databaseProvider lonelyBind {}
    ∃ before bound after, served.1 = before ++ bound :: after ∧
      bound.handOff? = some ⟨("i-1", "b-1"), "/c/csb/database/b-1/secrets-and-services", "app-1",
        [("instance", .string "i-1")]⟩ ∧
      HoldsExactly served.2.vault "/c/csb/database/b-1/secrets-and-services" "app-1"
        [("instance", .string "i-1")] := by
  intro served
  have hsplit : served.1 = served.1.take 1 ++ served.1[1] :: served.1.drop 2 := by rfl
  have hrun := steps_history "now" databaseProvider (databaseBroker true) lonelyBind {}
  have hbound : (served.1[1]).handOff? = some ⟨("i-1", "b-1"),
      "/c/csb/database/b-1/secrets-and-services", "app-1", [("instance", .string "i-1")]⟩ := by
    rfl
  refine ⟨served.1.take 1, served.1[1], served.1.drop 2, hsplit, hbound, ?_⟩
  rw [show ((databaseBroker true).history "now" databaseProvider lonelyBind {}).1 = _ from hsplit]
    at hrun
  have hafter : ∀ call ∈ served.1.drop 2, call.request.subject ≠ .binding "i-1" "b-1" := by
    decide +kernel
  have hothers : ∀ call ∈ served.1.take 1 ++ served.1.drop 2, ∀ x ∈ call.exchanges,
      x.vaultName? ≠ some "/c/csb/database/b-1/secrets-and-services" := by
    decide +kernel
  refine (holdsExactly_iff_of_bound rfl (fun _ _ _ _ h ↦ h) hrun hbound ?_).2.2 ?_
  · intro call hcall details hrequest
    exact hafter call hcall (by rw [hrequest]; rfl)
  · exact fun call hcall _ ↦ hothers call hcall

/-- Two bindings of one id, of two instances of one service, for two applications. -/
def sharedName : List Request :=
  [.provision "i-1" { serviceId := "db", planId := "small" } true,
   .provision "i-2" { serviceId := "db", planId := "small" } true,
   .bind "i-1" "b-1" { serviceId := "db", planId := "small", appGuid := some "app-1" },
   .bind "i-2" "b-1" { serviceId := "db", planId := "small", appGuid := some "app-2" }]

/-- Credentials do not always stay as they were handed off: a binding of the same id of another
instance of the service replaces them and lets its application read. -/
theorem not_holdsExactly_of_bound :
    ¬ ∀ (broker : Broker) (setting : Setting) (before after : List Served) (bound : Served)
      (w : World) (i b name app : String) (credentials : Members),
      Registry.build broker.registry.services = .ok broker.registry →
      broker.hasVault = true → setting.VaultInMemory → (∀ e, ¬ setting.storeFails e) →
      Steps (broker.Serves setting) {} (before ++ bound :: after) w →
      bound.handOff? = some ⟨(i, b), name, app, credentials⟩ →
      (∀ call ∈ after, ∀ details, call.request ≠ .unbind i b details) →
      HoldsExactly w.vault name app credentials := by
  intro h
  let served := (databaseBroker true).history "now" databaseProvider sharedName {}
  have hsplit : served.1 = served.1.take 2 ++ served.1[2] :: served.1.drop 3 := by rfl
  have hrun := steps_history "now" databaseProvider (databaseBroker true) sharedName {}
  rw [show ((databaseBroker true).history "now" databaseProvider sharedName {}).1 = _ from hsplit]
    at hrun
  have hbound : (served.1[2]).handOff? = some ⟨("i-1", "b-1"),
      "/c/csb/database/b-1/secrets-and-services", "app-1", [("instance", .string "i-1")]⟩ := by
    rfl
  have hafter : ∀ call ∈ served.1.drop 3, call.request.subject ≠ .binding "i-1" "b-1" := by
    decide +kernel
  obtain ⟨hvalue, -⟩ := h _ _ _ _ _ _ _ _ _ _ _ rfl rfl (fun _ _ _ _ h ↦ h) (fun _ h ↦ h) hrun
    hbound fun call hcall details hrequest ↦ hafter call hcall (by rw [hrequest]; rfl)
  exact absurd hvalue (by decide +kernel)

end Brokerage.Broker
