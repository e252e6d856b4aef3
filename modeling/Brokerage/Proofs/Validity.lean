import Brokerage.Proofs.Registration
import Mathlib.Data.Finset.Card
import Mathlib.Data.List.Infix

/-!
When nothing is wrong with a definition. Each plan is compared with those before it, by its id and
by its name, so that a repetition is reported at every plan but the first that has the key: there
are as many reports as plans beyond the distinct keys. Where there are none, the first plan of an id
is the only one, and every plan is found under its own id.
-/

set_option autoImplicit false

namespace Brokerage

/-- A text begins with another. -/
def Text.begins (head text : String) : Bool :=
  head.toList.isPrefixOf text.toList

theorem Text.begins_append (head first second : String) :
    begins (head ++ first) (head ++ second) = begins first second := by
  rw [Bool.eq_iff_iff, begins, begins, List.isPrefixOf_iff_prefix, List.isPrefixOf_iff_prefix,
    String.toList_append, String.toList_append, List.prefix_append_right_inj]

/-- What a plan is known by among the plans of a service. -/
inductive PlanKey where
  | id
  | name
  deriving DecidableEq

namespace PlanKey

def of : PlanKey → ServicePlan → String
  | .id => ServicePlan.id
  | .name => ServicePlan.name

/-- What is said of a service with a plan that repeats a key. -/
def verdict : PlanKey → String
  | .id => " has duplicate plan id "
  | .name => " has duplicate plan name "

/-- A problem tells of a plan that repeats a key. -/
def isRepetition (k : PlanKey) (serviceId problem : String) : Bool :=
  Text.begins ("service " ++ (serviceId ++ k.verdict)) problem

/-- No two plans have one key, and none has that of a plan before them. -/
def Fresh (k : PlanKey) (before plans : List ServicePlan) : Prop :=
  (plans.map k.of).Nodup ∧ ∀ plan ∈ plans, k.of plan ∉ before.map k.of

variable {k : PlanKey} {before plans : List ServicePlan} {plan : ServicePlan}

theorem fresh_nil : k.Fresh before [] :=
  ⟨.nil, fun _ h ↦ absurd h List.not_mem_nil⟩

theorem fresh_cons_iff :
    k.Fresh before (plan :: plans) ↔
      k.of plan ∉ before.map k.of ∧ k.Fresh (before ++ [plan]) plans := by
  unfold Fresh
  simp only [List.map_cons, List.nodup_cons, List.forall_mem_cons, List.map_append, List.map_nil,
    List.mem_append, List.mem_singleton, not_or]
  constructor
  · rintro ⟨⟨hnew, hdistinct⟩, hplan, hrest⟩
    refine ⟨hplan, hdistinct, fun other hother ↦ ⟨hrest other hother, fun heq ↦ hnew ?_⟩⟩
    exact heq ▸ List.mem_map_of_mem hother
  · rintro ⟨hplan, hdistinct, hrest⟩
    refine ⟨⟨fun hmem ↦ ?_, hdistinct⟩, hplan, fun other hother ↦ (hrest other hother).1⟩
    obtain ⟨other, hother, heq⟩ := List.mem_map.1 hmem
    exact (hrest other hother).2 heq

/-- Keys that a list of keys gains with one more. -/
theorem card_concat (k : PlanKey) (before : List ServicePlan) (plan : ServicePlan) :
    ((before ++ [plan]).map k.of).toFinset.card + (if k.of plan ∈ before.map k.of then 1 else 0) =
      (before.map k.of).toFinset.card + 1 := by
  rw [List.map_append, List.map_singleton, List.toFinset_append, List.toFinset_cons,
    List.toFinset_nil, Finset.union_comm, Finset.insert_union, Finset.empty_union]
  split
  next hmem => rw [Finset.insert_eq_of_mem (List.mem_toFinset.2 hmem)]
  next hnew => rw [Finset.card_insert_of_notMem (fun hmem ↦ hnew (List.mem_toFinset.1 hmem))]

end PlanKey

namespace ServiceDefinition

variable {serviceId : String} {before plans : List ServicePlan} {plan : ServicePlan}

/-! ### Plans -/

theorem planProblems_eq_nil_iff :
    planProblems serviceId before plan = [] ↔
      Text.isBlank plan.id = false ∧ ∀ k : PlanKey, k.of plan ∉ before.map k.of := by
  have hkeys : (∀ k : PlanKey, k.of plan ∉ before.map k.of) ↔
      plan.id ∉ before.map ServicePlan.id ∧ plan.name ∉ before.map ServicePlan.name :=
    ⟨fun h ↦ ⟨h .id, h .name⟩, fun h k ↦ by cases k <;> simp [PlanKey.of, h]⟩
  rw [hkeys]
  simp [planProblems]

/-- Nothing is wrong with plans exactly if none has a blank id and none repeats a key. -/
theorem allPlanProblems_eq_nil_iff :
    allPlanProblems serviceId before plans = [] ↔
      (∀ plan ∈ plans, Text.isBlank plan.id = false) ∧ ∀ k : PlanKey, k.Fresh before plans := by
  induction plans generalizing before with
  | nil => simp [allPlanProblems, PlanKey.fresh_nil]
  | cons plan plans ih =>
    simp only [allPlanProblems, List.append_eq_nil_iff, planProblems_eq_nil_iff, ih,
      PlanKey.fresh_cons_iff, List.forall_mem_cons, forall_and]
    tauto

theorem schemaProblems_eq_nil_iff {label : String} {schema? : Option Json} :
    schemaProblems serviceId label schema? = [] ↔
      ∀ source ∈ schema?, ∃ schema, Schema.ofJson source = .ok schema := by
  refine ⟨compiles_of_schemaProblems_eq_nil, fun h ↦ ?_⟩
  cases schema? with
  | none => rfl
  | some source =>
    obtain ⟨schema, hschema⟩ := h source rfl
    simp [schemaProblems, hschema]

/-! ### Reports of repetitions -/

/-- What is said of a service tells of a repeated key just if it is the verdict. -/
theorem isRepetition_of_said (k : PlanKey) (rest : String) :
    k.isRepetition serviceId ("service " ++ (serviceId ++ rest)) = Text.begins k.verdict rest := by
  rw [PlanKey.isRepetition, Text.begins_append, Text.begins_append]

theorem begins_verdict (k l : PlanKey) (rest : String) :
    Text.begins k.verdict (l.verdict ++ rest) = decide (k = l) := by
  cases k <;> cases l <;> simp [Text.begins, PlanKey.verdict, List.isPrefixOf]

theorem countP_report {p : String → Bool} {condition : Prop} [Decidable condition]
    {report : String} :
    (if condition then [report] else []).countP p =
      if condition ∧ p report = true then 1 else 0 := by
  by_cases condition <;> simp [*]

/-- A plan is reported for a key once if a plan before it has that key, and else not. -/
theorem countP_planProblems (k : PlanKey) :
    (planProblems serviceId before plan).countP (k.isRepetition serviceId) =
      if k.of plan ∈ before.map k.of then 1 else 0 := by
  have hblank (rest : String) : Text.begins k.verdict (" plan '" ++ rest) = false := by
    cases k <;> simp [Text.begins, PlanKey.verdict, List.isPrefixOf]
  have hid (rest : String) : Text.begins k.verdict (" has duplicate plan id " ++ rest) = _ :=
    begins_verdict k .id rest
  have hname (rest : String) : Text.begins k.verdict (" has duplicate plan name " ++ rest) = _ :=
    begins_verdict k .name rest
  simp only [planProblems, toString, String.append_assoc, List.countP_append, countP_report,
    isRepetition_of_said, hblank, hid, hname]
  cases k <;> simp [PlanKey.of]

/-- As many plans are reported for a key as there are plans beyond those that bring a new one. -/
theorem countP_allPlanProblems (k : PlanKey) :
    (allPlanProblems serviceId before plans).countP (k.isRepetition serviceId) +
        ((before ++ plans).map k.of).toFinset.card =
      (before.map k.of).toFinset.card + plans.length := by
  induction plans generalizing before with
  | nil => simp [allPlanProblems]
  | cons plan plans ih =>
    have hrest := @ih (before ++ [plan])
    have hplan := k.card_concat before plan
    rw [List.append_assoc, List.singleton_append] at hrest
    rw [allPlanProblems, List.countP_append, countP_planProblems, List.length_cons]
    omega

theorem countP_schemaProblems (k : PlanKey) {label : String} {schema? : Option Json}
    (hlabel : ∀ rest, Text.begins k.verdict (" " ++ (label ++ rest)) = false) :
    (schemaProblems serviceId label schema?).countP (k.isRepetition serviceId) = 0 := by
  cases schema? with
  | none => rfl
  | some source =>
    cases hschema : Schema.ofJson source with
    | ok schema => simp [schemaProblems, hschema]
    | error defect =>
      simp [schemaProblems, hschema, toString, String.append_assoc, isRepetition_of_said, hlabel]

/-- Where the id of a service is blank, what is said of its blank id tells of no repeated key. -/
theorem isRepetition_of_blank (k : PlanKey) (rest : String)
    (hblank : Text.isBlank serviceId = true) :
    k.isRepetition serviceId ("service '" ++ rest) = false := by
  have hquote : "service '" ++ rest = "service " ++ ("'" ++ rest) := by
    rw [← String.append_assoc]
    rfl
  rw [PlanKey.isRepetition, hquote, Text.begins_append]
  cases hid : serviceId.toList with
  | nil => cases k <;> simp [Text.begins, hid, PlanKey.verdict, List.isPrefixOf]
  | cons c cs =>
    have hspace : Text.isWhiteSpace c = true := Text.isBlank_iff.1 hblank c (by simp [hid])
    have hne : c ≠ '\'' := by
      rintro rfl
      exact absurd hspace (by decide)
    simp [Text.begins, hid, List.isPrefixOf, hne]

/-- The reports of a repeated key are those about the plans. -/
theorem countP_problems (definition : ServiceDefinition) (k : PlanKey) :
    definition.problems.countP (k.isRepetition definition.id) =
      (allPlanProblems definition.id [] definition.plans).countP
        (k.isRepetition definition.id) := by
  have hid (rest : String) : ¬ (Text.isBlank definition.id = true ∧
      k.isRepetition definition.id ("service '" ++ rest) = true) := by
    rintro ⟨hblank, hrepetition⟩
    rw [isRepetition_of_blank k rest hblank] at hrepetition
    cases hrepetition
  have hname : Text.begins k.verdict " has an empty name" = false := by cases k <;> rfl
  have hplans : Text.begins k.verdict " has no plans" = false := by cases k <;> rfl
  have hprovision (rest : String) :
      Text.begins k.verdict (" " ++ ("provision_input" ++ rest)) = false := by
    cases k <;> simp [Text.begins, PlanKey.verdict, List.isPrefixOf]
  have hbind (rest : String) : Text.begins k.verdict (" " ++ ("bind_input" ++ rest)) = false := by
    cases k <;> simp [Text.begins, PlanKey.verdict, List.isPrefixOf]
  simp [problems, countP_report, countP_schemaProblems k hprovision,
    countP_schemaProblems k hbind, toString, String.append_assoc, isRepetition_of_said, hid, hname,
    hplans]

/-! ### Definitions -/

/-- A definition that can be used. -/
structure Valid (definition : ServiceDefinition) : Prop where
  id : Text.isBlank definition.id = false
  name : Text.isBlank definition.name = false
  planned : definition.plans ≠ []
  planIds : ∀ plan ∈ definition.plans, Text.isBlank plan.id = false
  distinctIds : (definition.plans.map ServicePlan.id).Nodup
  distinctNames : (definition.plans.map ServicePlan.name).Nodup
  schemas : definition.SchemasUsable

theorem problems_eq_nil_iff {definition : ServiceDefinition} :
    definition.problems = [] ↔ definition.Valid := by
  have hfresh (k : PlanKey) (plans : List ServicePlan) :
      k.Fresh [] plans ↔ (plans.map k.of).Nodup := by
    simp [PlanKey.Fresh]
  rw [problems]
  simp only [List.append_eq_nil_iff, allPlanProblems_eq_nil_iff, schemaProblems_eq_nil_iff, hfresh,
    ite_eq_right_iff, List.cons_ne_nil, imp_false, Bool.not_eq_true, List.isEmpty_eq_false_iff]
  constructor
  · rintro ⟨⟨⟨⟨⟨hid, hname⟩, hplanned⟩, hplanIds, hkeys⟩, hprovision⟩, hbind⟩
    exact ⟨hid, hname, hplanned, hplanIds, hkeys .id, hkeys .name, hprovision, hbind⟩
  · rintro ⟨hid, hname, hplanned, hplanIds, hids, hnames, hprovision, hbind⟩
    refine ⟨⟨⟨⟨⟨hid, hname⟩, hplanned⟩, hplanIds, fun k ↦ ?_⟩, hprovision⟩, hbind⟩
    cases k with
    | id => exact hids
    | name => exact hnames

/-- The plans of a definition are told apart by their ids: each is found under its own, nothing is
found under any other, and the catalog shows each of them once, in their order. -/
structure PlansApart (definition : ServiceDefinition) : Prop where
  found : ∀ plan ∈ definition.plans, definition.resolvePlan plan.id = .ok plan
  unknown : ∀ planId, (∀ plan ∈ definition.plans, plan.id ≠ planId) →
    definition.resolvePlan planId = .error (.planNotFound definition.id planId)
  inOrder : definition.catalogEntry.plans.map CatalogPlan.id = definition.plans.map ServicePlan.id
  once : ∀ plan ∈ definition.plans,
    definition.catalogEntry.plans.filter (fun entry ↦ entry.id == plan.id) =
      [⟨plan.id, plan.name, plan.description, plan.free⟩]

/-- Where ids are distinct, a plan is the only one with its id. -/
theorem filter_id_eq (hdistinct : (plans.map ServicePlan.id).Nodup) (hplan : plan ∈ plans) :
    plans.filter (fun other ↦ other.id == plan.id) = [plan] := by
  induction plans with
  | nil => cases hplan
  | cons first rest ih =>
    obtain ⟨hnew, hdistinct⟩ := List.nodup_cons.1 hdistinct
    rcases List.mem_cons.1 hplan with rfl | hrest
    · have hothers : ∀ other ∈ rest, ¬ (other.id == plan.id) = true := by
        intro other hother heq
        exact hnew (List.mem_map.2 ⟨other, hother, eq_of_beq heq⟩)
      rw [List.filter_cons, if_pos (beq_self_eq_true plan.id), List.filter_eq_nil_iff.2 hothers]
    · have hne : ¬ (first.id == plan.id) = true :=
        fun heq ↦ hnew (eq_of_beq heq ▸ List.mem_map_of_mem hrest)
      rw [List.filter_cons, if_neg hne, ih hdistinct hrest]

theorem Valid.plansApart {definition : ServiceDefinition} (h : definition.Valid) :
    definition.PlansApart where
  found plan hplan := by
    rw [resolvePlan, ← List.head?_filter, filter_id_eq h.distinctIds hplan]
    rfl
  unknown planId hother := by
    have hnone : definition.plans.find? (fun plan ↦ plan.id == planId) = none :=
      List.find?_eq_none.2 fun plan hplan heq ↦ hother plan hplan (eq_of_beq heq)
    rw [resolvePlan, hnone]
  inOrder := List.map_map
  once plan hplan := by
    have honly := congrArg (List.map ServicePlan.catalogEntry)
      (filter_id_eq h.distinctIds hplan)
    exact List.filter_map.trans honly

/-- The check of a definition is exact. It has nothing to say just if the definition can be used,
and then its plans are told apart by their ids. It always reports as many repetitions of a key as
there are plans beyond the distinct keys. -/
theorem validation_exact (definition : ServiceDefinition) :
    (definition.problems = [] ↔ definition.Valid) ∧
      (definition.problems = [] → definition.PlansApart) ∧
      ∀ k : PlanKey, definition.problems.countP (k.isRepetition definition.id) +
        (definition.plans.map k.of).toFinset.card = definition.plans.length := by
  refine ⟨problems_eq_nil_iff, fun h ↦ (problems_eq_nil_iff.1 h).plansApart, fun k ↦ ?_⟩
  have hcount := @countP_allPlanProblems definition.id [] definition.plans k
  rw [countP_problems]
  simpa using hcount

/-- A service of two plans. -/
def tieredDatabase : ServiceDefinition where
  id := "db"
  name := "database"
  plans := [{ id := "small", name := "Small" }, { id := "large", name := "Large", free := false }]

theorem validation_exact_of_tieredDatabase :
    tieredDatabase.problems = [] ∧ tieredDatabase.resolvePlan "large" =
        .ok { id := "large", name := "Large", free := false } ∧
      tieredDatabase.resolvePlan "huge" = .error (.planNotFound "db" "huge") := by
  have hproblems : tieredDatabase.problems = [] := by decide +kernel
  have hapart := (validation_exact tieredDatabase).2.1 hproblems
  exact ⟨hproblems, hapart.found _ (List.mem_cons_of_mem _ (List.mem_cons_self ..)),
    hapart.unknown "huge" (by decide)⟩

end ServiceDefinition

end Brokerage
