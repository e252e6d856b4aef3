import Brokerage.Catalog.Definition
import Brokerage.Table

/-!
The registry of services, each with what is known of its provider. A registry is built from services
in order, once every definition is valid and no id occurs twice; of the two faults the first
service with one is reported, and its own faults before the repetition. A service is found through
an index, which has the position of each id.
-/

set_option autoImplicit false

namespace Brokerage

/-- A definition and how the provider behind it works. -/
structure RegisteredService where
  definition : ServiceDefinition
  provisionsAsync : Bool := false
  deprovisionsAsync : Bool := false
  deriving DecidableEq

/-- Whether any step of the life of an instance may leave an operation pending. -/
def RegisteredService.isAsync (service : RegisteredService) : Bool :=
  service.provisionsAsync || service.deprovisionsAsync

inductive RegistryError where
  | duplicateService (serviceId : String)
  | invalidDefinition (serviceId : String) (problems : List String)
  deriving DecidableEq

def RegistryError.message : RegistryError → String
  | .duplicateService service => s!"service {service} is registered more than once"
  | .invalidDefinition service problems =>
    s!"service {service} is invalid: " ++ "; ".intercalate problems

structure Registry where
  services : List RegisteredService
  deriving DecidableEq

namespace Registry

/-- The first fault in services that follow those with the given ids. -/
def firstFault? : (before : List String) → List RegisteredService → Option RegistryError
  | _, [] => none
  | before, service :: rest =>
    let id := service.definition.id
    match service.definition.problems with
    | [] =>
      if before.contains id then some (.duplicateService id) else firstFault? (id :: before) rest
    | problems => some (.invalidDefinition id problems)

def build (services : List RegisteredService) : Except RegistryError Registry :=
  match firstFault? [] services with
  | some fault => .error fault
  | none => .ok ⟨services⟩

/-- An index with the ids of further services entered, the first of which is at `position`. An id
that is entered again takes its later position. -/
def entered : (index : Table String Nat) → (position : Nat) → List RegisteredService →
    Table String Nat
  | index, _, [] => index
  | index, position, service :: rest =>
    entered (index.put service.definition.id position) (position + 1) rest

/-- The position of each id. -/
def index (registry : Registry) : Table String Nat :=
  entered [] 0 registry.services

theorem get?_entered {id : String} {found : Nat} {services : List RegisteredService}
    {index : Table String Nat} {position : Nat}
    (h : (entered index position services).get? id = some found) :
    index.get? id = some found ∨
      ∃ service, services[found - position]? = some service ∧ position ≤ found ∧
        service.definition.id = id := by
  induction services generalizing index position with
  | nil => exact .inl h
  | cons service rest ih =>
    rcases ih h with hindex | ⟨later, hlater, hle, hid⟩
    · rw [Table.get?_put] at hindex
      split at hindex
      next heq =>
        cases hindex
        exact .inr ⟨service, by simp, Nat.le_refl _, heq.symm⟩
      next => exact .inl hindex
    · refine .inr ⟨later, ?_, by omega, hid⟩
      rw [show found - position = (found - (position + 1)) + 1 by omega]
      exact hlater

theorem get?_entered_eq_none_iff {id : String} {services : List RegisteredService}
    {index : Table String Nat} {position : Nat} :
    (entered index position services).get? id = none ↔
      index.get? id = none ∧ ∀ service ∈ services, service.definition.id ≠ id := by
  induction services generalizing index position with
  | nil => simp [entered]
  | cons service rest ih =>
    rw [entered, ih, Table.get?_put, List.forall_mem_cons]
    by_cases heq : id = service.definition.id
    · simp [heq]
    · simp [heq, Ne.symm heq]

/-- An id has the position of a service with that id. -/
theorem getElem?_of_index {registry : Registry} {id : String} {position : Nat}
    (h : registry.index.get? id = some position) :
    ∃ service, registry.services[position]? = some service ∧ service.definition.id = id := by
  rcases get?_entered h with hempty | ⟨service, hservice, -, hid⟩
  · cases hempty
  · exact ⟨service, hservice, hid⟩

theorem index_eq_none_iff {registry : Registry} {id : String} :
    registry.index.get? id = none ↔
      ∀ service ∈ registry.services, service.definition.id ≠ id := by
  simp [index, get?_entered_eq_none_iff]

/-- The service of an id. Disabled services resolve too, so that what was made of them can still be
managed. -/
def resolve (registry : Registry) (serviceId : String) : Except BrokerError RegisteredService :=
  match (registry.index.get? serviceId).bind fun position ↦ registry.services[position]? with
  | some service => .ok service
  | none => .error (.serviceNotFound serviceId)

theorem resolve_ok {registry : Registry} {serviceId : String} {service : RegisteredService}
    (h : registry.resolve serviceId = .ok service) :
    service ∈ registry.services ∧ service.definition.id = serviceId := by
  unfold resolve at h
  split at h
  next found hfound =>
    cases h
    obtain ⟨position, hindex, hposition⟩ := Option.bind_eq_some_iff.1 hfound
    obtain ⟨there, hthere, hid⟩ := getElem?_of_index hindex
    cases hthere.symm.trans hposition
    exact ⟨List.mem_of_getElem? hposition, hid⟩
  next => cases h

def enabledServices (registry : Registry) : List RegisteredService :=
  registry.services.filter fun service ↦ service.definition.enabled

def catalog (registry : Registry) : List CatalogService :=
  registry.enabledServices.map fun service ↦ service.definition.catalogEntry

end Registry

/-! ### Diagnostics -/

/-- A service as it appears in a diagnostic. -/
def RegisteredService.describe (service : RegisteredService) : String :=
  "RegisteredService \x7b definition: " ++ Text.quoted service.definition.id ++
    s!", provisions_async: {service.provisionsAsync}" ++
    s!", deprovisions_async: {service.deprovisionsAsync} \x7d"

/-- A registry as it appears in a diagnostic, with the position of each id. -/
def Registry.describe (registry : Registry) : String :=
  let ids := registry.services.map fun service ↦ service.definition.id
  let index := ids.zipIdx.map fun (id, position) ↦ Text.quoted id ++ s!": {position}"
  "Registry \x7b services: [" ++ ", ".intercalate (registry.services.map (·.describe)) ++
    "], index: \x7b" ++ ", ".intercalate index ++ "\x7d \x7d"

end Brokerage
