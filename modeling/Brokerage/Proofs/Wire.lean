import Brokerage.Config.Document
import Brokerage.Details
import Brokerage.Proofs.Shape.Printing
import Brokerage.Proofs.Shape.Record
import Brokerage.Record
import Brokerage.Response

/-!
Decoding undoes encoding, for every type that is written as JSON. What a text is decoded to fits the
shape of its type; a value that fits is put together again by encoding what it is decoded to, and
its text is read back. Two types leave members out of their texts, which decoding fills in again.
-/

set_option autoImplicit false

namespace Brokerage

open Shape (Fits)

/-- Encoding what a fitting value is decoded to gives the value again. -/
def Shaped.Faithful (α : Type) [Shaped α] : Prop :=
  ∀ {j : Json}, (Shaped.shape α).Fits j → Shaped.toJson (Shaped.ofJson j : α) = j

/-- The shape of a type is sound and shallow, and whatever fits it is read back from the text that
the type writes for it. -/
structure Shaped.Lawful (α : Type) [Shaped α] : Prop where
  sound : (Shaped.shape α).Sound
  reach_le : (Shaped.shape α).reach ≤ Json.nestingLimit
  parse_text : ∀ {j : Json}, (Shaped.shape α).Fits j → j.depth ≤ Json.nestingLimit →
    (Shaped.shape α).parse (Shaped.text (Shaped.ofJson j : α)) = .ok j

namespace Shaped

variable {α : Type} [Shaped α]

theorem Faithful.lawful (h : Faithful α) (hsound : (shape α).Sound)
    (hreach : (shape α).reach ≤ Json.nestingLimit) : Lawful α := by
  refine ⟨hsound, hreach, fun {j} hfits hdepth ↦ ?_⟩
  rw [text, h hfits]
  exact Shape.parse_of_fits hfits hdepth

/-- The text of what a text is decoded to is decoded to the same again. -/
theorem Lawful.ofText_own_text (h : Lawful α) {s : String} {tree : Json.Tree} {x : α}
    (htree : tree.Spells s) (hwhole : tree.Whole) (hread : ofText s = .ok x) :
    ofText (text x) = .ok x := by
  unfold ofText at hread
  split at hread
  next value hvalue =>
    cases hread
    obtain ⟨hfits, hdepth⟩ := Shape.fits_of_parse h.sound htree hwhole hvalue
    rw [Nat.max_eq_left h.reach_le] at hdepth
    rw [ofText, h.parse_text hfits hdepth]
  next => cases hread

end Shaped

namespace Shape

variable {label name : String} {fields : List (String × Absence × Shape)} {j : Json}

/-! ### Fields from what is read off them -/

theorem Fits.textAt (h : (Shape.record label fields).Fits j)
    (hfield : field? fields name = some .text) : .string (j.textAt name) = j.field name :=
  (h.field hfield).1.string_textOf

theorem Fits.textAt? (h : (Shape.record label fields).Fits j)
    (hfield : field? fields name = some (.optional .text)) :
    .ofText? (j.textAt? name) = j.field name :=
  (h.field hfield).1.ofText?_text?

theorem Fits.flagAt (h : (Shape.record label fields).Fits j)
    (hfield : field? fields name = some .flag) : .bool (j.flagAt name) = j.field name :=
  (h.field hfield).1.bool_flagOf

theorem Fits.membersAt (h : (Shape.record label fields).Fits j)
    (hfield : field? fields name = some .table) : .object (j.membersAt name) = j.field name :=
  (h.field hfield).1.object_membersOf

theorem Fits.textsAt (h : (Shape.record label fields).Fits j)
    (hfield : field? fields name = some (.listOf .text)) :
    .ofTexts (j.textsAt name) = j.field name :=
  (h.field hfield).1.ofTexts_map_textOf

theorem Fits.valuesAt {α : Type} [Shaped α] (hfaithful : Shaped.Faithful α)
    (h : (Shape.record label fields).Fits j)
    (hfield : field? fields name = some (.listOf (Shaped.shape α))) :
    .list (((j.itemsAt name).map Shaped.ofJson : List α).map Shaped.toJson) = j.field name := by
  obtain ⟨hfits, -⟩ := h.field hfield
  rw [Json.itemsAt]
  cases hvalue : j.field name <;> rw [hvalue] at hfits <;> cases hfits
  next values hvalues =>
    rw [Json.itemsOf, List.map_map]
    refine congrArg Json.list ((List.map_congr_left fun value hvalue ↦ ?_).trans (List.map_id _))
    exact hfaithful (hvalues value hvalue)

end Shape

open Shaped (Faithful Lawful)

/-! ### What callers send -/

theorem sound_provisionDetails : (Shaped.shape ProvisionDetails).Sound :=
  ⟨by decide, by simp [Shape.textOrNull]⟩

theorem faithful_provisionDetails : Faithful ProvisionDetails := fun h ↦
  h.record_eq rfl (by decide)
    ⟨h.textAt rfl, h.textAt rfl, h.textAt rfl, h.textAt rfl, h.textAt? rfl⟩

theorem sound_updateDetails : (Shaped.shape UpdateDetails).Sound :=
  ⟨by decide, by simp [Shape.textOrNull]⟩

theorem faithful_updateDetails : Faithful UpdateDetails := fun h ↦
  h.record_eq rfl (by decide) ⟨h.textAt rfl, h.textAt? rfl, h.textAt? rfl⟩

theorem sound_deprovisionDetails : (Shaped.shape DeprovisionDetails).Sound :=
  ⟨by decide, by simp⟩

theorem faithful_deprovisionDetails : Faithful DeprovisionDetails := fun h ↦
  h.record_eq rfl (by decide) ⟨h.textAt rfl, h.textAt rfl⟩

theorem sound_bindDetails : (Shaped.shape BindDetails).Sound :=
  ⟨by decide, by simp [Shape.textOrNull]⟩

theorem faithful_bindDetails : Faithful BindDetails := fun h ↦
  h.record_eq rfl (by decide) ⟨h.textAt rfl, h.textAt rfl, h.textAt? rfl, h.textAt? rfl⟩

theorem sound_unbindDetails : (Shaped.shape UnbindDetails).Sound :=
  ⟨by decide, by simp⟩

theorem faithful_unbindDetails : Faithful UnbindDetails := fun h ↦
  h.record_eq rfl (by decide) ⟨h.textAt rfl, h.textAt rfl⟩

theorem sound_pollDetails : (Shaped.shape PollDetails).Sound :=
  ⟨by decide, by simp [Shape.textOrNull]⟩

theorem faithful_pollDetails : Faithful PollDetails := fun h ↦
  h.record_eq rfl (by decide) ⟨h.textAt? rfl, h.textAt? rfl, h.textAt? rfl⟩

/-! ### What callers are answered with -/

/-- A record whose text leaves out a member for want of a text is read back, if completing it makes
that member null. -/
theorem Shape.Fits.parse_memberIfPresent {label key name : String} {value : Json}
    {fields : List (String × Absence × Shape)} {j : Json} {content : Option String}
    (h : (Shape.record label fields).Fits j) (hdepth : j.depth ≤ Json.nestingLimit)
    (hj : Json.record [(key, value), (name, .ofText? content)] = j) (hkey : key ≠ name)
    (hnull : Shape.complete [(key, value)] fields
      = .ok (Members.insert [(key, value)] name .null)) :
    (Shape.record label fields).parse
      (Json.record ((key, value) :: memberIfPresent name content)).text = .ok j := by
  subst hj
  cases content with
  | some text => exact Shape.parse_of_fits h hdepth
  | none =>
    refine Shape.parse_of_entries h hdepth (List.pairwise_singleton _ _) ?_ hnull
    refine List.cons_subset.2 ⟨Members.mem_of_get? ?_, List.nil_subset _⟩
    change (Members.insert [(key, value)] name .null).get? key = some value
    rw [Members.get?_insert, if_neg hkey, Members.get?_cons, if_pos rfl]

theorem sound_operationResponse : (Shaped.shape OperationResponse).Sound :=
  ⟨by decide, by simp⟩

theorem lawful_operationResponse : Shaped.Lawful OperationResponse where
  sound := sound_operationResponse
  reach_le := by decide
  parse_text h hdepth := h.parse_memberIfPresent hdepth
    (h.record_eq rfl (by decide) ⟨h.flagAt rfl, h.textAt? rfl⟩) (by decide) rfl

theorem sound_binding : (Shaped.shape Binding).Sound :=
  ⟨by decide, by simp⟩

theorem faithful_binding : Faithful Binding := fun h ↦
  h.record_eq rfl (by decide) (h.membersAt rfl)

/-- A state of an operation is known by its name. -/
theorem OperationState.string_name {j : Json}
    (h : (Shape.choice (OperationState.all.map OperationState.name)).Fits j) :
    .string ((OperationState.ofName? j.textOf).getD .inProgress).name = j := by
  cases h with
  | choice hname =>
    obtain ⟨state, -, rfl⟩ := List.mem_map.1 hname
    simp [Json.textOf, Json.text?, OperationState.ofName?_name]

theorem sound_lastOperation : (Shaped.shape LastOperation).Sound :=
  ⟨by decide, by simp⟩

theorem lawful_lastOperation : Shaped.Lawful LastOperation where
  sound := sound_lastOperation
  reach_le := by decide
  parse_text h hdepth := h.parse_memberIfPresent hdepth
    (h.record_eq rfl (by decide) ⟨OperationState.string_name (h.field rfl).1, h.textAt? rfl⟩)
    (by decide) rfl

/-! ### What is remembered -/

/-- A kind of operation is known by its name. -/
theorem OperationKind.string_name {j : Json} (h : OperationKind.shape.Fits j) :
    .string ((OperationKind.ofName? j.textOf).getD .provision).name = j := by
  cases h with
  | choice hname =>
    obtain ⟨kind, -, rfl⟩ := List.mem_map.1 hname
    simp [Json.textOf, Json.text?, OperationKind.ofName?_name]

theorem sound_pendingOperation : (Shaped.shape PendingOperation).Sound :=
  ⟨by decide, by simp [OperationKind.shape]⟩

theorem faithful_pendingOperation : Faithful PendingOperation := fun h ↦
  h.record_eq rfl (by decide) ⟨h.textAt rfl, OperationKind.string_name (h.field rfl).1⟩

theorem PendingOperation.toJson?_ofJson? {j : Json}
    (h : (Shape.optional (Shaped.shape PendingOperation)).Fits j) :
    PendingOperation.toJson? (PendingOperation.ofJson? j) = j := by
  cases h with
  | null => rfl
  | content h =>
    cases h with
    | record hsorted hpresent hknown hfits =>
      exact faithful_pendingOperation (.record hsorted hpresent hknown hfits)

theorem sound_instanceRecord : (Shaped.shape InstanceRecord).Sound :=
  ⟨by decide, by simp [sound_pendingOperation]⟩

theorem faithful_instanceRecord : Faithful InstanceRecord := fun h ↦
  h.record_eq rfl (by decide)
    ⟨h.textAt rfl, h.textAt rfl, h.textAt rfl, h.textAt rfl, h.textAt rfl, h.textAt rfl,
      PendingOperation.toJson?_ofJson? (h.field rfl).1, h.textAt rfl, h.textAt rfl⟩

theorem sound_bindingRecord : (Shaped.shape BindingRecord).Sound :=
  ⟨by decide, by simp⟩

theorem faithful_bindingRecord : Faithful BindingRecord := fun h ↦
  h.record_eq rfl (by decide)
    ⟨h.textAt rfl, h.textAt rfl, h.textAt rfl, h.textAt rfl, h.textAt rfl⟩

theorem sound_requestRecord : (Shaped.shape RequestRecord).Sound :=
  ⟨by decide, by simp⟩

theorem faithful_requestRecord : Faithful RequestRecord := fun h ↦
  h.record_eq rfl (by decide) ⟨h.textAt rfl, h.textAt rfl, h.textAt rfl⟩

/-! ### Services -/

theorem sound_servicePlan : (Shaped.shape ServicePlan).Sound :=
  ⟨by decide, by simp⟩

theorem faithful_servicePlan : Faithful ServicePlan := fun h ↦
  h.record_eq rfl (by decide)
    ⟨h.textAt rfl, h.textAt rfl, h.textAt rfl, h.flagAt rfl, h.membersAt rfl⟩

theorem Json.ofOption_present? (j : Json) : .ofOption j.present? = j := by
  cases j <;> rfl

theorem sound_serviceDefinition : (Shaped.shape ServiceDefinition).Sound :=
  ⟨by decide, by simp [sound_servicePlan]⟩

theorem faithful_serviceDefinition : Faithful ServiceDefinition := fun h ↦
  h.record_eq rfl (by decide)
    ⟨h.textAt rfl, h.textAt rfl, h.textAt rfl, h.flagAt rfl, h.flagAt rfl, h.flagAt rfl,
      h.textsAt rfl, Fits.valuesAt faithful_servicePlan h rfl, h.membersAt rfl, h.membersAt rfl,
      Json.ofOption_present? _, Json.ofOption_present? _, h.textsAt rfl⟩

theorem sound_catalogPlan : (Shaped.shape CatalogPlan).Sound :=
  ⟨by decide, by simp⟩

theorem faithful_catalogPlan : Faithful CatalogPlan := fun h ↦
  h.record_eq rfl (by decide) ⟨h.textAt rfl, h.textAt rfl, h.textAt rfl, h.flagAt rfl⟩

theorem sound_catalogService : (Shaped.shape CatalogService).Sound :=
  ⟨by decide, by simp [sound_catalogPlan]⟩

theorem faithful_catalogService : Faithful CatalogService := fun h ↦
  h.record_eq rfl (by decide)
    ⟨h.textAt rfl, h.textAt rfl, h.textAt rfl, h.flagAt rfl, h.flagAt rfl, h.textsAt rfl,
      Fits.valuesAt faithful_catalogPlan h rfl⟩

/-! ### Configurations -/

theorem sound_vaultSettings : (Shaped.shape VaultSettings).Sound :=
  ⟨by decide, by simp⟩

theorem faithful_vaultSettings : Faithful VaultSettings := fun h ↦
  h.record_eq rfl (by decide) ⟨h.flagAt rfl, h.textAt rfl⟩

/-- The settings that a configuration leaves out are those that leave out everything. -/
theorem fits_defaultVault :
    (Shaped.shape VaultSettings).Fits (Shaped.toJson ({} : VaultSettings)) := by
  have hmentions := Shape.mentions_of_complete sound_vaultSettings (Nat.le_refl _) (.nil _)
    (List.Subset.refl _) rfl
  exact (hmentions.fits_record (by decide) _).1

theorem sound_config : (Shaped.shape Config).Sound :=
  ⟨by decide, by simp [fits_defaultVault, sound_vaultSettings, sound_serviceDefinition]⟩

theorem faithful_config : Faithful Config := fun h ↦
  h.record_eq rfl (by decide)
    ⟨faithful_vaultSettings (h.field rfl).1, Fits.valuesAt faithful_serviceDefinition h rfl⟩

/-! ### All types -/

theorem ok_of_toOption {ε α : Type} {result : Except ε α} {x : α} (h : result.toOption = some x) :
    result = .ok x := by
  cases result with
  | error => cases h
  | ok => exact congrArg Except.ok (Option.some.inj h)

/-- The types that are written as JSON. -/
inductive WireType where
  | provisionDetails
  | updateDetails
  | deprovisionDetails
  | bindDetails
  | unbindDetails
  | pollDetails
  | operationResponse
  | binding
  | lastOperation
  | pendingOperation
  | instanceRecord
  | bindingRecord
  | requestRecord
  | servicePlan
  | serviceDefinition
  | catalogPlan
  | catalogService
  | vaultSettings
  | config
  deriving DecidableEq

namespace WireType

/-- What is written. -/
def Carrier : WireType → Type
  | .provisionDetails => ProvisionDetails
  | .updateDetails => UpdateDetails
  | .deprovisionDetails => DeprovisionDetails
  | .bindDetails => BindDetails
  | .unbindDetails => UnbindDetails
  | .pollDetails => PollDetails
  | .operationResponse => OperationResponse
  | .binding => Binding
  | .lastOperation => LastOperation
  | .pendingOperation => PendingOperation
  | .instanceRecord => InstanceRecord
  | .bindingRecord => BindingRecord
  | .requestRecord => RequestRecord
  | .servicePlan => ServicePlan
  | .serviceDefinition => ServiceDefinition
  | .catalogPlan => CatalogPlan
  | .catalogService => CatalogService
  | .vaultSettings => VaultSettings
  | .config => Config

instance (type : WireType) : Shaped type.Carrier :=
  match type with
  | .provisionDetails => inferInstanceAs (Shaped ProvisionDetails)
  | .updateDetails => inferInstanceAs (Shaped UpdateDetails)
  | .deprovisionDetails => inferInstanceAs (Shaped DeprovisionDetails)
  | .bindDetails => inferInstanceAs (Shaped BindDetails)
  | .unbindDetails => inferInstanceAs (Shaped UnbindDetails)
  | .pollDetails => inferInstanceAs (Shaped PollDetails)
  | .operationResponse => inferInstanceAs (Shaped OperationResponse)
  | .binding => inferInstanceAs (Shaped Binding)
  | .lastOperation => inferInstanceAs (Shaped LastOperation)
  | .pendingOperation => inferInstanceAs (Shaped PendingOperation)
  | .instanceRecord => inferInstanceAs (Shaped InstanceRecord)
  | .bindingRecord => inferInstanceAs (Shaped BindingRecord)
  | .requestRecord => inferInstanceAs (Shaped RequestRecord)
  | .servicePlan => inferInstanceAs (Shaped ServicePlan)
  | .serviceDefinition => inferInstanceAs (Shaped ServiceDefinition)
  | .catalogPlan => inferInstanceAs (Shaped CatalogPlan)
  | .catalogService => inferInstanceAs (Shaped CatalogService)
  | .vaultSettings => inferInstanceAs (Shaped VaultSettings)
  | .config => inferInstanceAs (Shaped Config)

theorem lawful (type : WireType) : Lawful type.Carrier := by
  cases type with
  | provisionDetails => exact faithful_provisionDetails.lawful sound_provisionDetails (by decide)
  | updateDetails => exact faithful_updateDetails.lawful sound_updateDetails (by decide)
  | deprovisionDetails =>
    exact faithful_deprovisionDetails.lawful sound_deprovisionDetails (by decide)
  | bindDetails => exact faithful_bindDetails.lawful sound_bindDetails (by decide)
  | unbindDetails => exact faithful_unbindDetails.lawful sound_unbindDetails (by decide)
  | pollDetails => exact faithful_pollDetails.lawful sound_pollDetails (by decide)
  | operationResponse => exact lawful_operationResponse
  | binding => exact faithful_binding.lawful sound_binding (by decide)
  | lastOperation => exact lawful_lastOperation
  | pendingOperation => exact faithful_pendingOperation.lawful sound_pendingOperation (by decide)
  | instanceRecord => exact faithful_instanceRecord.lawful sound_instanceRecord (by decide)
  | bindingRecord => exact faithful_bindingRecord.lawful sound_bindingRecord (by decide)
  | requestRecord => exact faithful_requestRecord.lawful sound_requestRecord (by decide)
  | servicePlan => exact faithful_servicePlan.lawful sound_servicePlan (by decide)
  | serviceDefinition => exact faithful_serviceDefinition.lawful sound_serviceDefinition (by decide)
  | catalogPlan => exact faithful_catalogPlan.lawful sound_catalogPlan (by decide)
  | catalogService => exact faithful_catalogService.lawful sound_catalogService (by decide)
  | vaultSettings => exact faithful_vaultSettings.lawful sound_vaultSettings (by decide)
  | config => exact faithful_config.lawful sound_config (by decide)

end WireType

end Brokerage
