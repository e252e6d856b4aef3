import Brokerage.Catalog.Definition
import Brokerage.Proofs.Parameters
import Brokerage.Proofs.Shape.Record

/-!
Which source gives a variable. What a provider is told is laid in layers: the context of the request
over the properties of the plan, those over the parameters of the user, and the defaults of the
service under all. A variable has the value that the first layer gives it that gives it one, so no
user has a say in what is above the user's layer. A user whose parameters cannot be read or violate
the schema of the service is told nothing else.
-/

set_option autoImplicit false

namespace Brokerage

theorem Members.Sorted.nodup_keys {m : Members} (h : m.Sorted) : m.keys.Nodup :=
  List.pairwise_map.2 (h.imp fun hlt ↦ String.ne_of_lt hlt)

/-- What the first of some layers gives for a key that gives anything for it. -/
def firstOf (layers : List Members) (key : String) : Option Json :=
  layers.findSome? fun layer ↦ layer.get? key

@[simp] theorem firstOf_nil (key : String) : firstOf [] key = none := rfl

@[simp] theorem firstOf_cons (layer : Members) (layers : List Members) (key : String) :
    firstOf (layer :: layers) key = (layer.get? key).or (firstOf layers key) := by
  rw [firstOf, List.findSome?_cons]
  cases layer.get? key <;> rfl

theorem firstOf_append (above below : List Members) (key : String) :
    firstOf (above ++ below) key = (firstOf above key).or (firstOf below key) := by
  induction above with
  | nil => simp
  | cons layer above ih => simp [ih, Option.or_assoc]

theorem isSome_firstOf {layers : List Members} {key : String} {layer : Members}
    (hlayer : layer ∈ layers) (hkey : layer.contains key = true) :
    (firstOf layers key).isSome = true := by
  rw [firstOf, List.findSome?_isSome_iff]
  exact ⟨layer, hlayer, hkey⟩

/-- The layers under one that gives a key have no say in it. -/
theorem firstOf_append_of_mem {above : List Members} {key : String} {layer : Members}
    (hlayer : layer ∈ above) (hkey : layer.contains key = true) (below : List Members) :
    firstOf (above ++ below) key = firstOf above key := by
  rw [firstOf_append, Option.or_of_isSome (isSome_firstOf hlayer hkey)]

namespace ServiceDefinition

/-- The parameters of a user violate an input schema. Whatever they are, they violate what is no
schema. -/
def Violates (schema? : Option Json) (user : Members) : Prop :=
  ∃ source, schema? = some source ∧
    ∀ schema, Schema.ofJson source = .ok schema → schema.check (.object user) ≠ []

variable {definition : ServiceDefinition} {schema? : Option Json}

theorem acceptBy_ok_iff {user : Members} :
    definition.acceptBy schema? user = .ok () ↔ ¬ Violates schema? user := by
  unfold acceptBy Violates
  cases schema? with
  | none => simp
  | some source =>
    cases hschema : Schema.ofJson source with
    | error defect => simp [hschema]
    | ok schema =>
      cases hcheck : schema.check (.object user) with
      | nil => simp [hschema, hcheck]
      | cons violation rest => simp [hschema, hcheck]

theorem acceptedParameters_ok_iff {payload : Option String} {user : Members} :
    definition.acceptedParameters schema? payload = .ok user ↔
      Parameters.parse payload = .ok user ∧ ¬ Violates schema? user := by
  unfold acceptedParameters
  cases hparse : Parameters.parse payload with
  | error e => simp
  | ok parsed =>
    have hfits : definition.acceptBy schema? parsed = .ok () ↔ ¬ Violates schema? parsed :=
      acceptBy_ok_iff
    cases haccept : definition.acceptBy schema? parsed with
    | error e =>
      rw [haccept] at hfits
      refine iff_of_false (by simp [haccept]) ?_
      rintro ⟨⟨⟩, hnone⟩
      cases hfits.2 hnone
    | ok accepted =>
      simp only [haccept, Except.ok.injEq]
      constructor
      · rintro rfl
        exact ⟨rfl, hfits.1 haccept⟩
      · exact fun h ↦ h.1

/-- The variables that `merge` makes of a user's parameters are laid in layers, of which those
`above` win over the user, and the user over those `below`. -/
structure Layers (schema? : Option Json) (above below : List Members)
    (merge : Option String → Except BrokerError Variables) : Prop where
  /-- The first layer that gives a key gives its value. -/
  get? : ∀ payload vars, merge payload = .ok vars →
    ∃ user, Parameters.parse payload = .ok user ∧
      ∀ key, vars.get? key = firstOf (above ++ user :: below) key
  /-- No parameters can be read, or those that are read violate the schema as they are. -/
  refused_iff : ∀ payload, (∃ e, merge payload = .error e) ↔
    (∃ e, Parameters.parse payload = .error e) ∨
      ∃ user, Parameters.parse payload = .ok user ∧ Violates schema? user
  /-- What is given above the user does not depend on the user. -/
  unforged : ∀ payload other vars others, merge payload = .ok vars → merge other = .ok others →
    ∀ key, (∃ layer ∈ above, layer.contains key = true) → vars.get? key = others.get? key

/-- A merge lays what is accepted of a payload between its layers. -/
theorem Layers.of_accepted {above below : List Members}
    {merge : Option String → Except BrokerError Variables} (definition : ServiceDefinition)
    (assemble : Members → Variables)
    (hmerge : ∀ payload vars, merge payload = .ok vars ↔
      ∃ user, definition.acceptedParameters schema? payload = .ok user ∧ assemble user = vars)
    (hassemble : ∀ user : Members, user.keys.Nodup →
      ∀ key, (assemble user).get? key = firstOf (above ++ user :: below) key) :
    Layers schema? above below merge := by
  have hget {payload : Option String} {vars : Variables} (h : merge payload = .ok vars) :
      ∃ user, Parameters.parse payload = .ok user ∧
        ∀ key, vars.get? key = firstOf (above ++ user :: below) key := by
    obtain ⟨user, haccepted, rfl⟩ := (hmerge payload vars).1 h
    have hparse := (acceptedParameters_ok_iff.1 haccepted).1
    exact ⟨user, hparse, hassemble user (Parameters.sorted_of_parse hparse).nodup_keys⟩
  refine ⟨fun payload vars h ↦ hget h, fun payload ↦ ⟨?_, ?_⟩, ?_⟩
  · rintro ⟨e, hrefused⟩
    cases hparse : Parameters.parse payload with
    | error reason => exact .inl ⟨reason, rfl⟩
    | ok user =>
      refine .inr ⟨user, rfl, Classical.byContradiction fun hfits ↦ ?_⟩
      have haccepted : definition.acceptedParameters schema? payload = .ok user :=
        acceptedParameters_ok_iff.2 ⟨hparse, hfits⟩
      cases hrefused.symm.trans ((hmerge payload _).2 ⟨user, haccepted, rfl⟩)
  · intro hunfit
    cases hmerged : merge payload with
    | error e => exact ⟨e, rfl⟩
    | ok vars =>
      obtain ⟨user, haccepted, -⟩ := (hmerge payload vars).1 hmerged
      obtain ⟨hparse, hfits⟩ := acceptedParameters_ok_iff.1 haccepted
      rcases hunfit with ⟨e, hunread⟩ | ⟨parsed, hparsed, hviolates⟩
      · cases hparse.symm.trans hunread
      · cases hparse.symm.trans hparsed
        exact absurd hviolates hfits
  · rintro payload other vars others hvars hothers key ⟨layer, hlayer, hkey⟩
    obtain ⟨user, -, hgives⟩ := hget hvars
    obtain ⟨forger, -, hgivesOther⟩ := hget hothers
    rw [hgives, hgivesOther, firstOf_append_of_mem hlayer hkey, firstOf_append_of_mem hlayer hkey]

section Merges

variable (definition : ServiceDefinition) (plan : ServicePlan)

theorem layers_provisionVariables (hplan : plan.properties.keys.Nodup) (i : String)
    (details : ProvisionDetails) :
    Layers definition.provisionInput [definition.provisionContext i details plan, plan.properties]
      [definition.provisionDefaults]
      fun payload ↦
        definition.provisionVariables i { details with rawParameters := payload } plan := by
  have hcontext : (Members.keys (definition.provisionContext i details plan)).Nodup := by
    simp [provisionContext, Members.keys]
  refine .of_accepted definition (fun user ↦
    ((definition.provisionDefaults.extend user).extend plan.properties).extend
      (definition.provisionContext i details plan)) (fun payload vars ↦ ?_) ?_
  · unfold provisionVariables
    cases definition.acceptedParameters definition.provisionInput payload with
    | error e => simp
    | ok user =>
      simp only [Except.ok.injEq, exists_eq_left']
      rfl
  · intro user huser key
    rw [Members.get?_extend hcontext, Members.get?_extend hplan, Members.get?_extend huser]
    simp

theorem layers_updateVariables (hplan : plan.properties.keys.Nodup) (record : InstanceRecord)
    (details : UpdateDetails) :
    Layers definition.provisionInput [definition.updateContext record plan, plan.properties] []
      fun payload ↦
        definition.updateVariables record { details with rawParameters := payload } plan := by
  have hcontext : (Members.keys (definition.updateContext record plan)).Nodup := by
    simp [updateContext, Members.keys]
  refine .of_accepted definition (fun user ↦
    (user.extend plan.properties).extend (definition.updateContext record plan))
    (fun payload vars ↦ ?_) ?_
  · unfold updateVariables
    cases definition.acceptedParameters definition.provisionInput payload <;> simp
  · intro user huser key
    rw [Members.get?_extend hcontext, Members.get?_extend hplan]
    simp

theorem layers_bindVariables (record : InstanceRecord) (b : String) (details : BindDetails) :
    Layers definition.bindInput [definition.bindContext record b details plan]
      [definition.bindDefaults]
      fun payload ↦
        definition.bindVariables record b { details with rawParameters := payload } plan := by
  have hcontext : (Members.keys (definition.bindContext record b details plan)).Nodup := by
    simp [bindContext, Members.keys]
  refine .of_accepted definition (fun user ↦
    (definition.bindDefaults.extend user).extend (definition.bindContext record b details plan))
    (fun payload vars ↦ ?_) ?_
  · unfold bindVariables
    cases definition.acceptedParameters definition.bindInput payload with
    | error e => simp
    | ok user =>
      simp only [Except.ok.injEq, exists_eq_left']
      rfl
  · intro user huser key
    rw [Members.get?_extend hcontext, Members.get?_extend huser]
    simp

end Merges

/-- Variables are given by precedence, and no user forges what is above the user. For a provision
and for an update the context of the request comes first, then the properties of the plan, then the
parameters of the user; only a provision has defaults under them. A bind does not look at the
properties of the plan, and has defaults of its own. Assumes of the properties that they are a map,
with no key given twice. -/
theorem variables_by_precedence (definition : ServiceDefinition) (plan : ServicePlan)
    (hplan : plan.properties.keys.Nodup) :
    (∀ (i : String) (details : ProvisionDetails), Layers definition.provisionInput
      [[("instance_id", .string i), ("service_id", .string definition.id),
        ("plan_id", .string plan.id), ("space_guid", .string details.spaceGuid),
        ("organization_guid", .string details.organizationGuid)], plan.properties]
      [definition.provisionDefaults]
      fun payload ↦
        definition.provisionVariables i { details with rawParameters := payload } plan) ∧
    (∀ (record : InstanceRecord) (details : UpdateDetails), Layers definition.provisionInput
      [[("instance_id", .string record.id), ("service_id", .string definition.id),
        ("plan_id", .string plan.id), ("previous_plan_id", .string record.planId),
        ("instance_details", instanceDetails record)], plan.properties]
      []
      fun payload ↦
        definition.updateVariables record { details with rawParameters := payload } plan) ∧
    (∀ (record : InstanceRecord) (b : String) (details : BindDetails), Layers definition.bindInput
      [[("instance_id", .string record.id), ("binding_id", .string b),
        ("service_id", .string definition.id), ("plan_id", .string plan.id),
        ("app_guid", details.appGuid.elim .null .string),
        ("instance_details", instanceDetails record)]]
      [definition.bindDefaults]
      fun payload ↦
        definition.bindVariables record b { details with rawParameters := payload } plan) := by
  refine ⟨layers_provisionVariables definition plan hplan,
    layers_updateVariables definition plan hplan, fun record b details ↦ ?_⟩
  have hguid : details.appGuid.elim .null .string = Json.ofText? details.appGuid := by
    cases details.appGuid <;> rfl
  rw [hguid]
  exact layers_bindVariables definition plan record b details

/-- A service whose defaults overlap with the properties of its plan and with the context. -/
def overlappingService : ServiceDefinition where
  id := "db"
  name := "database"
  provisionDefaults := [("disk", .integer 10), ("plan_id", .string "any"), ("ram", .integer 1)]

def overlappingPlan : ServicePlan where
  id := "small"
  name := "small"
  properties := [("disk", .integer 20), ("space_guid", .string "anywhere")]

/-- Parameters that name the plan, the disk and the memory. -/
def forgedParameters : String :=
  "\x7b\"plan_id\": \"large\", \"disk\": 99, \"ram\": 2\x7d"

/-- What the provider is told of them. -/
def unforgedVariables : Variables :=
  [("disk", .integer 20), ("instance_id", .string "i-1"), ("organization_guid", .string ""),
   ("plan_id", .string "small"), ("ram", .integer 2), ("service_id", .string "db"),
   ("space_guid", .string "")]

theorem unforged_of_forgedParameters :
    overlappingPlan.properties.keys.Nodup ∧
      overlappingService.provisionVariables "i-1"
        { serviceId := "db", planId := "small", rawParameters := some forgedParameters }
        overlappingPlan = .ok unforgedVariables ∧
      ∀ other others,
        overlappingService.provisionVariables "i-1"
          { serviceId := "db", planId := "small", rawParameters := other }
          overlappingPlan = .ok others →
        ∀ key ∈ ["plan_id", "space_guid", "disk"],
          others.get? key = unforgedVariables.get? key := by
  have hplan : overlappingPlan.properties.keys.Nodup := by decide
  have hforged : overlappingService.provisionVariables "i-1"
      { serviceId := "db", planId := "small", rawParameters := some forgedParameters }
      overlappingPlan = .ok unforgedVariables := by
    decide +kernel
  obtain ⟨hlayers, -, -⟩ := variables_by_precedence overlappingService overlappingPlan hplan
  obtain ⟨-, -, hunforged⟩ := hlayers "i-1" { serviceId := "db", planId := "small" }
  refine ⟨hplan, hforged, fun other others hothers key hkey ↦ ?_⟩
  refine (hunforged (some forgedParameters) other _ others hforged hothers key ?_).symm
  simp only [List.mem_cons, List.not_mem_nil, or_false] at hkey
  rcases hkey with rfl | rfl | rfl
  · exact ⟨_, .head _, rfl⟩
  · exact ⟨_, .head _, rfl⟩
  · exact ⟨_, .tail _ (.head _), rfl⟩

end ServiceDefinition

end Brokerage
