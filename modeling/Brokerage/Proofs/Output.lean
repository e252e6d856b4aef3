import Brokerage.Proofs.Json.Printing
import Brokerage.Tool.Command

/-!
What the commands print. In plain text every line says one thing. In JSON the whole output says one
value, and whoever reads it finds that value and no other.
-/

set_option autoImplicit false

namespace Brokerage

namespace Tool

/-! ### Lines -/

theorem linesText_append (lines others : List String) :
    linesText (lines ++ others) = linesText lines ++ linesText others := by
  simp [linesText, String.join_append]

theorem linesText_singleton (line : String) : linesText [line] = line ++ "\n" := by
  simp [linesText, String.join_cons]

theorem linesText_map {α : Type} (line : α → String) (xs : List α) :
    linesText (xs.map line) = String.join (xs.map fun x ↦ line x ++ "\n") := by
  simp [linesText, Function.comp_def]

theorem linesText_flatMap {α : Type} (lines : α → List String) (xs : List α) :
    linesText (xs.flatMap lines) = String.join (xs.map fun x ↦ linesText (lines x)) := by
  induction xs with
  | nil => rfl
  | cons x xs ih =>
    rw [List.flatMap_cons, linesText_append, ih, List.map_cons, String.join_cons]

/-! ### Variables -/

/-- An output shows variables, in order and nothing else. In plain text each has a line, with the
name before the text of the value; in JSON they are the members of one object. -/
def ShowsVariables (vars : Variables) (output : String) : Format → Prop
  | .text =>
    output = String.join (vars.map fun (name, value) ↦ name ++ " = " ++ value.text ++ "\n") ∧
      ∀ entry ∈ vars, Json.Says entry.2.text entry.2
  | .json =>
    output = (Json.object vars).indentedText ++ "\n" ∧ Json.Says output (.object vars) ∧
      ((Json.object vars).Exact → (Json.object vars).depth ≤ Json.nestingLimit →
        Json.parse output = .ok (.object vars))

theorem showsVariables_variableLines (vars : Variables) (format : Format) :
    ShowsVariables vars (linesText (variableLines format vars)) format := by
  cases format with
  | text =>
    refine ⟨?_, fun entry _ ↦ Json.says_text entry.2⟩
    rw [variableLines, linesText_map]
    rfl
  | json =>
    have hsaid := Json.says_indentedText_line (.object vars)
    rw [variableLines, linesText_singleton]
    exact ⟨rfl, hsaid, fun hexact hshallow ↦ (hsaid.parse_ok_iff hexact).2 ⟨rfl, hshallow⟩⟩

/-! ### Reasons -/

/-- A complaint gives a reason and nothing else, by itself in plain text and as the error in
JSON. -/
def GivesReason (reason complaint : String) : Format → Prop
  | .text => complaint = reason ++ "\n"
  | .json =>
    complaint = (Json.object [("error", .string reason)]).text ++ "\n" ∧
      Json.Says complaint (.object [("error", .string reason)]) ∧
        Json.parse complaint = .ok (.object [("error", .string reason)])

theorem exitCode_refusal (manner : Manner) (reason : String) :
    (Report.refusal manner reason).exitCode = 1 := by
  unfold Report.refusal
  split_ifs
  · rfl
  · split <;> rfl

theorem output_refusal (manner : Manner) (reason : String) :
    (Report.refusal manner reason).output = "" := by
  unfold Report.refusal
  split_ifs
  · rfl
  · split <;> rfl

theorem givesReason_refusal {manner : Manner} (hquiet : manner.quiet = false) (reason : String) :
    GivesReason reason (Report.refusal manner reason).complaint manner.format := by
  obtain ⟨format, quiet⟩ := manner
  cases hquiet
  cases format with
  | text => exact linesText_singleton reason
  | json =>
    have hcomplaint : (Report.refusal ⟨.json, false⟩ reason).complaint
        = (Json.object [("error", .string reason)]).text ++ "\n" := by
      rw [← linesText_singleton]
      rfl
    have hexact : (Json.object [("error", .string reason)]).Exact :=
      ⟨List.pairwise_singleton _ _, trivial, trivial⟩
    have hshallow : (Json.object [("error", .string reason)]).depth ≤ Json.nestingLimit := by
      simp [Json.depth, Json.depthMembers, Json.nestingLimit]
    have hsaid := Json.says_text_line (.object [("error", .string reason)])
    rw [hcomplaint]
    exact ⟨rfl, hsaid, (hsaid.parse_ok_iff hexact).2 ⟨rfl, hshallow⟩⟩

end Tool

/-! ### The catalog -/

section Items

variable {α : Type} {item : α → Json}

theorem Json.exactItems_map (h : ∀ x, (item x).Exact) (xs : List α) :
    Json.ExactItems (xs.map item) := by
  rw [Json.exactItems_iff, List.forall_mem_map]
  exact fun x _ ↦ h x

theorem Json.depthItems_map_le {depth : Nat} (h : ∀ x, (item x).depth ≤ depth) (xs : List α) :
    Json.depthItems (xs.map item) ≤ depth := by
  rw [Json.depthItems_le_iff, List.forall_mem_map]
  exact fun x _ ↦ h x

end Items

/-- A plan as the catalog shows it in JSON. -/
def CatalogPlan.members (plan : CatalogPlan) : Members :=
  [("description", .string plan.description), ("free", .bool plan.free), ("id", .string plan.id),
    ("name", .string plan.name)]

/-- A service as the catalog shows it in JSON. -/
def CatalogService.members (service : CatalogService) : Members :=
  [("bindable", .bool service.bindable), ("description", .string service.description),
    ("id", .string service.id), ("name", .string service.name),
    ("plan_updateable", .bool service.planUpdateable),
    ("plans", .list (service.plans.map fun plan ↦ .object plan.members)),
    ("tags", .list (service.tags.map .string))]

theorem CatalogPlan.toJson_eq (plan : CatalogPlan) : Shaped.toJson plan = .object plan.members := by
  simp only [Shaped.toJson, Json.record, Members.ofList, Members.extend, List.foldl_cons,
    List.foldl_nil, Members.insert, String.reduceLT, String.reduceEq, if_true, if_false, members]

theorem CatalogService.toJson_eq (service : CatalogService) :
    Shaped.toJson service = .object service.members := by
  simp only [Shaped.toJson, Json.record, Members.ofList, Members.extend, List.foldl_cons,
    List.foldl_nil, Members.insert, String.reduceLT, String.reduceEq, if_true, if_false, members,
    CatalogPlan.members, Json.ofTexts]

theorem CatalogPlan.exact_members (plan : CatalogPlan) : (Json.object plan.members).Exact :=
  have hkeys : ["description", "free", "id", "name"].Pairwise (· < ·) := by decide
  ⟨List.pairwise_map.1 hkeys, trivial, trivial, trivial, trivial, trivial⟩

theorem CatalogPlan.depth_members (plan : CatalogPlan) : (Json.object plan.members).depth = 1 :=
  rfl

theorem CatalogService.exact_members (service : CatalogService) :
    (Json.object service.members).Exact := by
  have hplans := Json.exactItems_map CatalogPlan.exact_members service.plans
  have htag (tag : String) : (Json.string tag).Exact := trivial
  have htags := Json.exactItems_map htag service.tags
  have hkeys : ["bindable", "description", "id", "name", "plan_updateable", "plans",
      "tags"].Pairwise (· < ·) := by
    decide
  exact ⟨List.pairwise_map.1 hkeys, trivial, trivial, trivial, trivial, trivial, hplans, htags,
    trivial⟩

theorem CatalogService.depth_members (service : CatalogService) :
    (Json.object service.members).depth ≤ 3 := by
  have hplans := Json.depthItems_map_le (fun plan ↦ plan.depth_members.le) service.plans
  have htags : Json.depthItems (service.tags.map .string) ≤ 0 :=
    Json.depthItems_map_le (fun _ ↦ Nat.le_refl 0) service.tags
  simp only [Json.depth, members, Json.depthMembers]
  omega

/-- A catalog as it is shown in JSON. -/
def catalogMembers (services : List CatalogService) : Members :=
  [("services", .list (services.map fun service ↦ .object service.members))]

theorem exact_catalogMembers (services : List CatalogService) :
    (Json.object (catalogMembers services)).Exact :=
  ⟨List.pairwise_singleton _ _, Json.exactItems_map CatalogService.exact_members services, trivial⟩

theorem depth_catalogMembers (services : List CatalogService) :
    (Json.object (catalogMembers services)).depth ≤ 5 := by
  have hservices := Json.depthItems_map_le CatalogService.depth_members services
  simp only [catalogMembers, Json.depth, Json.depthMembers]
  omega

namespace Tool

/-- A service in plain text. Its description has a line unless there is none to show, and each plan
has a line of its own. -/
def serviceText (quiet : Bool) (service : CatalogService) : String :=
  service.name ++ " (" ++ service.id ++ ")\n" ++
  (if quiet = true ∨ service.description = "" then "" else "  " ++ service.description ++ "\n") ++
  String.join (service.plans.map fun plan ↦ "  plan " ++ plan.name ++ " (" ++ plan.id ++ ")\n")

/-- An output shows a catalog, its services in order and nothing else. -/
def ShowsCatalog (services : List CatalogService) (output : String) : Manner → Prop
  | ⟨.text, quiet⟩ =>
    output = if services = [] ∧ quiet = false then "no enabled services\n"
      else String.join (services.map (serviceText quiet))
  | ⟨.json, _⟩ =>
    output = (Json.object (catalogMembers services)).indentedText ++ "\n" ∧
      Json.Says output (.object (catalogMembers services)) ∧
        Json.parse output = .ok (.object (catalogMembers services))

/-- The end of a line behind a closing parenthesis. -/
theorem append_paren_newline (s : String) : s ++ ")" ++ "\n" = s ++ ")\n" :=
  String.append_assoc

theorem linesText_serviceLines (quiet : Bool) (service : CatalogService) :
    linesText (serviceLines quiet service) = serviceText quiet service := by
  have hhead : linesText [s!"{service.name} ({service.id})"]
      = service.name ++ " (" ++ service.id ++ ")\n" :=
    (linesText_singleton _).trans (append_paren_newline _)
  have hdescription : linesText (if quiet || service.description.isEmpty then []
        else [s!"  {service.description}"])
      = if quiet = true ∨ service.description = "" then ""
        else "  " ++ service.description ++ "\n" := by
    simp only [Bool.or_eq_true, String.isEmpty_iff]
    split
    next => rfl
    next => exact linesText_singleton _
  have hplans : linesText (service.plans.map fun plan ↦ s!"  plan {plan.name} ({plan.id})")
      = String.join (service.plans.map fun plan ↦
          "  plan " ++ plan.name ++ " (" ++ plan.id ++ ")\n") := by
    rw [linesText_map]
    exact congrArg String.join (List.map_congr_left fun plan _ ↦ append_paren_newline _)
  rw [serviceLines, linesText_append, linesText_append, hhead, hdescription, hplans, serviceText]

theorem showsCatalog_catalogLines (services : List CatalogService) (manner : Manner) :
    ShowsCatalog services (linesText (catalogLines manner services)) manner := by
  obtain ⟨format, quiet⟩ := manner
  cases format with
  | text =>
    simp only [ShowsCatalog, catalogLines, Bool.and_eq_true, List.isEmpty_iff, Bool.not_eq_true']
    split
    next => exact linesText_singleton _
    next =>
      rw [linesText_flatMap]
      simp only [linesText_serviceLines]
  | json =>
    have hrecord : Json.record [("services", .list (services.map Shaped.toJson))]
        = .object (catalogMembers services) := by
      rw [funext CatalogService.toJson_eq]
      rfl
    have hsaid := Json.says_indentedText_line (.object (catalogMembers services))
    have hshallow : (Json.object (catalogMembers services)).depth ≤ Json.nestingLimit :=
      (depth_catalogMembers services).trans (by decide)
    rw [catalogLines, hrecord, linesText_singleton]
    exact ⟨rfl, hsaid, (hsaid.parse_ok_iff (exact_catalogMembers services)).2 ⟨rfl, hshallow⟩⟩

end Tool

end Brokerage
