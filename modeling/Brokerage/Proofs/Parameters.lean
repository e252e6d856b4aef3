import Brokerage.Parameters
import Brokerage.Proofs.Json.Reading

/-!
The two ways of looking at a payload. The check passes over the text by the grammar alone and
merging reads it into a map; where they differ, the text is JSON of which no map can be made.
-/

set_option autoImplicit false

namespace Brokerage

/-- A tree of which no map of parameters can be made. -/
inductive Json.Tree.Unusable (tree : Json.Tree) : Prop
  | kind (hnull : tree ≠ .null) (hobject : ∀ members, tree ≠ .object members)
  | deep (hdepth : 127 < tree.depth)
  | overflow (n : Json.Numeral) (hn : n ∈ tree.numerals) (hoverflow : n.Overflows)
  | unpaired (pieces : List Json.Piece) (hpieces : pieces ∈ tree.quotations)
    (hunpaired : Json.Unpaired pieces)

namespace Parameters

theorem isWellFormed_iff {payload : Option String} :
    isWellFormed payload = true ↔ ensureWellFormed payload = .ok () := by
  unfold isWellFormed ensureWellFormed
  split
  next => simp
  next raw _ => cases Json.check raw <;> simp [Except.isOk, Except.toBool]

theorem content?_eq_some_iff {payload : Option String} {raw : String} :
    content? payload = some raw ↔ payload = some raw ∧ Text.isBlank raw = false := by
  simp [content?, Option.filter_eq_some_iff]

theorem content?_eq_none_iff {payload : Option String} :
    content? payload = none ↔ ∀ raw, payload = some raw → Text.isBlank raw = true := by
  simp [content?, Option.filter_eq_none_iff]

theorem ensureWellFormed_ok_iff {payload : Option String} :
    ensureWellFormed payload = .ok () ↔
      ∀ raw, content? payload = some raw → ∃ tree : Json.Tree, tree.Spells raw := by
  unfold ensureWellFormed
  cases hcontent : content? payload with
  | none => simp
  | some raw =>
    simp only [Option.some.injEq, forall_eq', ← Json.check_ok_iff]
    cases hcheck : Json.check raw with
    | error e => simp
    | ok value => simp

theorem parse_ok_iff {payload : Option String} {raw : String} {user : Members}
    (hcontent : content? payload = some raw) :
    parse payload = .ok user ↔
      Json.parse raw = .ok (.object user) ∨ Json.parse raw = .ok .null ∧ user = [] := by
  cases hparse : Json.parse raw with
  | error e => simp [parse, hcontent, hparse]
  | ok value => cases value <;> simp [parse, hcontent, hparse, eq_comm]

/-- What is read into a map is the text of null or of an object with the members of the map. -/
theorem exists_tree_of_parse {payload : Option String} {raw : String} {user : Members}
    (hcontent : content? payload = some raw) (h : parse payload = .ok user) :
    ∃ tree : Json.Tree, tree.Spells raw ∧
      (tree = .null ∧ user = [] ∨
        ∃ members, tree = .object members ∧ Json.Tree.valueMembers? [] members = some user) := by
  rcases (parse_ok_iff hcontent).1 h with hparse | ⟨hparse, rfl⟩
  · obtain ⟨tree, htree, -, hvalue⟩ := Json.parse_ok_iff.1 hparse
    refine ⟨tree, htree, .inr ?_⟩
    rcases Json.Tree.eq_null_or_object_of_kind hvalue (.inr rfl) with rfl | ⟨members, rfl⟩
    · cases hvalue
    · obtain ⟨all, hall, heq⟩ := Option.map_eq_some_iff.1 hvalue
      cases heq
      exact ⟨members, rfl, hall⟩
  · obtain ⟨tree, htree, -, hvalue⟩ := Json.parse_ok_iff.1 hparse
    refine ⟨tree, htree, .inl ⟨?_, rfl⟩⟩
    rcases Json.Tree.eq_null_or_object_of_kind hvalue (.inl rfl) with rfl | ⟨members, rfl⟩
    · rfl
    · obtain ⟨all, -, heq⟩ := Option.map_eq_some_iff.1 hvalue
      cases heq

/-- A payload is read into a sorted map. -/
theorem sorted_of_parse {payload : Option String} {user : Members} (h : parse payload = .ok user) :
    user.Sorted := by
  cases hcontent : content? payload with
  | none =>
    simp only [parse, hcontent, Except.ok.injEq] at h
    rw [← h]
    exact List.Pairwise.nil
  | some raw =>
    obtain ⟨tree, -, ⟨-, rfl⟩ | ⟨members, -, hmembers⟩⟩ := exists_tree_of_parse hcontent h
    · exact List.Pairwise.nil
    · exact Json.Tree.sorted_of_valueMembers? hmembers List.Pairwise.nil

/-- The map of a tree that is an object or null, does not nest too deep and has a value. -/
theorem exists_parse_of_usable {payload : Option String} {raw : String} {tree : Json.Tree}
    (hcontent : content? payload = some raw) (htree : tree.Spells raw) (h : ¬ tree.Unusable) :
    ∃ user, parse payload = .ok user := by
  have hdepth : tree.depth ≤ Json.nestingLimit := Nat.le_of_not_lt fun hdeep ↦ h (.deep hdeep)
  cases hvalue : tree.value? with
  | none =>
    rcases tree.value?_eq_none_iff.1 hvalue with ⟨n, hn, hoverflow⟩ | ⟨pieces, hpieces, hunpaired⟩
    · exact absurd (.overflow n hn hoverflow) h
    · exact absurd (.unpaired pieces hpieces hunpaired) h
  | some value =>
    have hparse := Json.parse_ok_iff.2 ⟨tree, htree, hdepth, hvalue⟩
    cases tree with
    | null =>
      cases hvalue
      exact ⟨[], (parse_ok_iff hcontent).2 (.inr ⟨hparse, rfl⟩)⟩
    | object members =>
      obtain ⟨all, -, rfl⟩ := Option.map_eq_some_iff.1 hvalue
      exact ⟨all, (parse_ok_iff hcontent).2 (.inl hparse)⟩
    | _ => exact absurd (.kind (by simp) (by simp)) h

/-- What is read into a map is a usable tree. -/
theorem exists_usable_of_parse {payload : Option String} {raw : String} {user : Members}
    (hcontent : content? payload = some raw) (h : parse payload = .ok user) :
    ∃ tree : Json.Tree, tree.Spells raw ∧ ¬ tree.Unusable := by
  have hvalue : ∃ value, Json.parse raw = .ok value ∧
      (value.kind = .null ∨ value.kind = .object) := by
    rcases (parse_ok_iff hcontent).1 h with hparse | ⟨hparse, -⟩
    · exact ⟨_, hparse, .inr rfl⟩
    · exact ⟨_, hparse, .inl rfl⟩
  obtain ⟨value, hparse, hkind⟩ := hvalue
  obtain ⟨tree, htree, hdepth, hvalue⟩ := Json.parse_ok_iff.1 hparse
  refine ⟨tree, htree, fun hunusable ↦ ?_⟩
  have hempty : ¬ Json.Tree.AnyEmpty tree.numerals tree.quotations := fun hempty ↦ by
    rw [tree.value?_eq_none_iff.2 hempty] at hvalue
    cases hvalue
  cases hunusable with
  | kind hnull hobject =>
    rcases Json.Tree.eq_null_or_object_of_kind hvalue hkind with rfl | ⟨members, rfl⟩
    · exact hnull rfl
    · exact hobject members rfl
  | deep hdeep => exact absurd hdepth (Nat.not_le.2 hdeep)
  | overflow n hn hoverflow => exact hempty (.inl ⟨n, hn, hoverflow⟩)
  | unpaired pieces hpieces hunpaired => exact hempty (.inr ⟨pieces, hpieces, hunpaired⟩)

/-- A tree that stands for null or for an empty object nests once at most. -/
theorem depth_le_of_empty {tree : Json.Tree}
    (h : tree.value? = some .null ∨ tree.value? = some (.object [])) :
    tree.depth ≤ Json.nestingLimit := by
  rcases h with hnull | hobject
  · rcases Json.Tree.eq_null_or_object_of_kind hnull (.inl rfl) with rfl | ⟨members, rfl⟩
    · exact Nat.zero_le _
    · obtain ⟨all, -, hall⟩ := Option.map_eq_some_iff.1 hnull
      cases hall
  · rcases Json.Tree.eq_null_or_object_of_kind hobject (.inr rfl) with rfl | ⟨members, rfl⟩
    · exact Nat.zero_le _
    · obtain ⟨all, hall, hempty⟩ := Option.map_eq_some_iff.1 hobject
      cases hempty
      rw [Json.Tree.eq_nil_of_valueMembers? hall]
      decide

theorem parse_empty_iff {payload : Option String} :
    parse payload = .ok [] ↔
      payload = none ∨ ∃ raw, payload = some raw ∧
        (Text.isBlank raw = true ∨ ∃ tree : Json.Tree, tree.Spells raw ∧
          (tree.value? = some .null ∨ tree.value? = some (.object []))) := by
  cases payload with
  | none => exact iff_of_true rfl (.inl rfl)
  | some raw =>
    simp only [reduceCtorEq, Option.some.injEq, exists_eq_left', false_or]
    cases hblank : Text.isBlank raw with
    | true =>
      have hcontent : content? (some raw) = none := content?_eq_none_iff.2 (by simpa using hblank)
      simp [parse, hcontent]
    | false =>
      have hcontent := content?_eq_some_iff.2 ⟨rfl, hblank⟩
      rw [parse_ok_iff hcontent, Json.parse_ok_iff, Json.parse_ok_iff]
      simp only [Bool.false_eq_true, false_or, and_true]
      constructor
      · rintro (⟨tree, htree, -, hvalue⟩ | ⟨tree, htree, -, hvalue⟩)
        · exact ⟨tree, htree, .inr hvalue⟩
        · exact ⟨tree, htree, .inl hvalue⟩
      · rintro ⟨tree, htree, hvalue⟩
        have hdepth := depth_le_of_empty hvalue
        rcases hvalue with hvalue | hvalue
        · exact .inr ⟨tree, htree, hdepth, hvalue⟩
        · exact .inl ⟨tree, htree, hdepth, hvalue⟩

end Parameters

end Brokerage
