import Brokerage.Proofs.Json.Denotation
import Brokerage.Shape.Basic

/-!
Which values are in the canonical form of a shape. A shape is sound if each of its records tells its
fields apart and fills in only what fits. Completing a sound record then leaves a record that fits,
and what is filled in nests no deeper than the shape reaches.
-/

set_option autoImplicit false

namespace Brokerage

open Json (depthMembers)

/-- A value is in the canonical form of a shape, and its numbers are integers of 64 bits. -/
inductive Shape.Fits : Shape → Json → Prop
  | text (s : String) : Fits .text (.string s)
  | flag (b : Bool) : Fits .flag (.bool b)
  | anything {value : Json} (h : value.Exact) : Fits .anything value
  | table {members : Members} (h : (Json.object members).Exact) : Fits .table (.object members)
  | null (content : Shape) : Fits (.optional content) .null
  | content {content : Shape} {value : Json} (h : Fits content value) :
    Fits (.optional content) value
  | list {item : Shape} {values : List Json} (h : ∀ value ∈ values, Fits item value) :
    Fits (.listOf item) (.list values)
  | choice {names : List String} {name : String} (h : name ∈ names) :
    Fits (.choice names) (.string name)
  | record {name : String} {fields : List (String × Absence × Shape)} {members : Members}
    (hsorted : members.Sorted) (hpresent : ∀ field ∈ fields, members.contains field.1 = true)
    (hknown : ∀ entry ∈ members, (Shape.field? fields entry.1).isSome = true)
    (hfits : ∀ entry ∈ members, ∀ shape, Shape.field? fields entry.1 = some shape →
      Fits shape entry.2) : Fits (.record name fields) (.object members)

/-- What is filled in for a field fits the shape of the field. -/
def Absence.Suits (shape : Shape) : Absence → Prop
  | .refused => True
  | .filled value => shape.Fits value
  | .nullWhereNamed => shape.admitsNull = true

/-- How deep what is filled in nests. -/
def Absence.reach : Absence → Nat
  | .filled value => value.depth
  | .refused | .nullWhereNamed => 0

namespace Shape

mutual

/-- The fields of each record have names of their own, and what is filled in fits. -/
def Sound : Shape → Prop
  | .optional content => content.Sound
  | .listOf item => item.Sound
  | .record _ fields => (fields.map Prod.fst).Nodup ∧ SoundFields fields
  | .text | .flag | .anything | .table | .choice _ => True

def SoundFields : List (String × Absence × Shape) → Prop
  | [] => True
  | (_, absence, shape) :: rest => absence.Suits shape ∧ shape.Sound ∧ SoundFields rest

end

mutual

/-- How deep a value of a shape nests without what its text brings along. -/
def reach : Shape → Nat
  | .optional content => content.reach
  | .listOf item => item.reach + 1
  | .record _ fields => reachOfFields fields + 1
  | .text | .flag | .anything | .table | .choice _ => 0

def reachOfFields : List (String × Absence × Shape) → Nat
  | [] => 0
  | (_, absence, shape) :: rest => max (max absence.reach shape.reach) (reachOfFields rest)

end

variable {label : String} {fields : List (String × Absence × Shape)}

theorem soundFields_iff :
    SoundFields fields ↔ ∀ field ∈ fields, field.2.1.Suits field.2.2 ∧ field.2.2.Sound := by
  induction fields with
  | nil => simp [SoundFields]
  | cons field rest ih => simp [SoundFields, ih, and_assoc]

theorem reachOfFields_le_iff {depth : Nat} :
    reachOfFields fields ≤ depth ↔
      ∀ field ∈ fields, field.2.1.reach ≤ depth ∧ field.2.2.reach ≤ depth := by
  induction fields with
  | nil => simp [reachOfFields]
  | cons field rest ih =>
    obtain ⟨name, absence, shape⟩ := field
    rw [reachOfFields, Nat.max_le, Nat.max_le, ih, List.forall_mem_cons]

theorem exists_mem_of_field? {name : String} {shape : Shape}
    (h : field? fields name = some shape) : ∃ absence, (name, absence, shape) ∈ fields := by
  obtain ⟨⟨absence, shape⟩, hlookup, rfl⟩ := Option.map_eq_some_iff.1 h
  obtain ⟨before, after, rfl, -⟩ := List.lookup_eq_some_iff.1 hlookup
  exact ⟨absence, by simp⟩

theorem field?_of_mem (hnames : (fields.map Prod.fst).Nodup) {name : String} {absence : Absence}
    {shape : Shape} (h : (name, absence, shape) ∈ fields) : field? fields name = some shape := by
  induction fields with
  | nil => cases h
  | cons field rest ih =>
    obtain ⟨first, other, otherShape⟩ := field
    obtain ⟨hfirst, hrest⟩ := List.nodup_cons.1 hnames
    rw [field?, List.lookup_cons]
    rcases List.mem_cons.1 h with heq | hmem
    · cases heq
      simp
    · have hne : name ≠ first := fun heq ↦ hfirst (heq ▸ List.mem_map.2 ⟨_, hmem, rfl⟩)
      rw [beq_eq_false_iff_ne.2 hne]
      exact ih hrest hmem

/-! ### Layers that admit null -/

theorem core_eq_self {shape : Shape} (h : ∀ content, shape = .optional content → False) :
    shape.core = shape := by
  cases shape with
  | optional content => exact (h content rfl).elim
  | _ => rfl

theorem Fits.of_core {shape : Shape} {value : Json} (h : shape.core.Fits value) :
    shape.Fits value := by
  induction shape using core.induct with
  | case1 content ih => exact .content (ih h)
  | case2 shape hshape => rwa [core_eq_self hshape] at h

theorem Sound.core {shape : Shape} (h : shape.Sound) : shape.core.Sound := by
  induction shape using core.induct with
  | case1 content ih => exact ih h
  | case2 shape hshape => rwa [core_eq_self hshape]

theorem reach_core (shape : Shape) : shape.core.reach = shape.reach := by
  induction shape using core.induct with
  | case1 content ih => exact ih
  | case2 shape hshape => rw [core_eq_self hshape]

theorem Fits.null_of_admitsNull {shape : Shape} (h : shape.admitsNull = true) :
    shape.Fits .null := by
  cases shape with
  | optional content => exact .null content
  | _ => cases h

/-- What fits a shape is exact. -/
theorem Fits.exact {shape : Shape} {value : Json} (h : shape.Fits value) : value.Exact := by
  induction h with
  | text | flag | null | choice => trivial
  | anything h | table h => exact h
  | content _ ih => exact ih
  | list _ ih => exact Json.exactItems_iff.2 ih
  | record hsorted _ hknown _ ih =>
    refine ⟨hsorted, Json.exactMembers_iff.2 fun entry hentry ↦ ?_⟩
    obtain ⟨shape, hshape⟩ := Option.isSome_iff_exists.1 (hknown entry hentry)
    exact ih entry hentry shape hshape

/-! ### Completing a record -/

theorem contains_insert (members : Members) (key : String) (value : Json) (k : String) :
    (members.insert key value).contains k = true ↔ k = key ∨ members.contains k = true := by
  rw [Members.contains, Members.get?_insert, Members.contains]
  by_cases hk : k = key <;> simp [hk]

/-- Members that stand for fields of a record; each of them fits, and nests no deeper than given. -/
structure Mentions (fields : List (String × Absence × Shape)) (depth : Nat) (members : Members) :
    Prop where
  sorted : members.Sorted
  fits : ∀ entry ∈ members, ∃ shape, field? fields entry.1 = some shape ∧ shape.Fits entry.2
  depth_le : ∀ entry ∈ members, entry.2.depth ≤ depth

theorem Mentions.nil (depth : Nat) : Mentions fields depth [] :=
  ⟨.nil, nofun, nofun⟩

theorem Mentions.insert {depth : Nat} {members : Members} (h : Mentions fields depth members)
    {key : String} {shape : Shape} {value : Json} (hfield : field? fields key = some shape)
    (hfits : shape.Fits value) (hdepth : value.depth ≤ depth) :
    Mentions fields depth (members.insert key value) := by
  refine ⟨Members.sorted_insert h.sorted key value, fun entry hentry ↦ ?_, fun entry hentry ↦ ?_⟩
  · rcases Members.eq_or_mem_of_mem_insert hentry with rfl | hmem
    · exact ⟨shape, hfield, hfits⟩
    · exact h.fits entry hmem
  · rcases Members.eq_or_mem_of_mem_insert hentry with rfl | hmem
    · exact hdepth
    · exact h.depth_le entry hmem

theorem Mentions.fits_record {depth : Nat} {members : Members} (h : Mentions fields depth members)
    (hpresent : ∀ field ∈ fields, members.contains field.1 = true) (name : String) :
    (Shape.record name fields).Fits (.object members) ∧
      (Json.object members).depth ≤ depth + 1 := by
  refine ⟨.record h.sorted hpresent ?_ ?_, Nat.succ_le_succ (Json.depthMembers_le_iff.2 h.depth_le)⟩
  · intro entry hentry
    obtain ⟨shape, hshape, -⟩ := h.fits entry hentry
    rw [hshape]
    rfl
  · intro entry hentry shape hshape
    obtain ⟨other, hother, hfits⟩ := h.fits entry hentry
    cases hshape.symm.trans hother
    exact hfits

theorem fits_of_whereNamed {absence : Absence} {shape : Shape} {name : String} {value : Json}
    (hsuits : absence.Suits shape) (h : absence.whereNamed name = .ok value) :
    shape.Fits value ∧ value.depth ≤ absence.reach := by
  cases absence with
  | refused => cases h
  | filled => cases h; exact ⟨hsuits, Nat.le_refl _⟩
  | nullWhereNamed => cases h; exact ⟨.null_of_admitsNull hsuits, Nat.le_refl _⟩

theorem fits_of_whereListed? {absence : Absence} {shape : Shape} {value : Json}
    (hsuits : absence.Suits shape) (h : absence.whereListed? = some value) :
    shape.Fits value ∧ value.depth ≤ absence.reach := by
  cases absence with
  | filled => cases h; exact ⟨hsuits, Nat.le_refl _⟩
  | refused | nullWhereNamed => cases h

/-- A field that is filled in adds to what a record mentions. -/
theorem Mentions.fill {depth : Nat} {members : Members} (h : Mentions fields depth members)
    (hsound : (Shape.record label fields).Sound) (hreach : reachOfFields fields ≤ depth)
    {name : String} {absence : Absence} {shape : Shape} (hfield : (name, absence, shape) ∈ fields)
    {value : Json} (hvalue : absence.Suits shape → shape.Fits value ∧ value.depth ≤ absence.reach) :
    Mentions fields depth (members.insert name value) := by
  obtain ⟨hfits, hdepth⟩ := hvalue (soundFields_iff.1 hsound.2 _ hfield).1
  exact h.insert (field?_of_mem hsound.1 hfield) hfits
    (Nat.le_trans hdepth (reachOfFields_le_iff.1 hreach _ hfield).1)

theorem contains_of_complete {mentioned all : Members}
    (h : complete mentioned fields = .ok all) :
    (∀ key, mentioned.contains key = true → all.contains key = true) ∧
      ∀ field ∈ fields, all.contains field.1 = true := by
  induction fields generalizing all with
  | nil =>
    cases h
    exact ⟨fun _ hkey ↦ hkey, nofun⟩
  | cons field rest ih =>
    obtain ⟨name, absence, shape⟩ := field
    rw [complete] at h
    split at h
    next value hvalue =>
      obtain ⟨hbefore, hrest⟩ := ih h
      refine ⟨hbefore, List.forall_mem_cons.2 ⟨hbefore name ?_, hrest⟩⟩
      rw [Members.contains, hvalue]
      rfl
    next =>
      split at h
      next => cases h
      next value =>
        split at h
        next => cases h
        next others hothers =>
          cases h
          obtain ⟨hbefore, hrest⟩ := ih hothers
          refine ⟨fun key hkey ↦ ?_, List.forall_mem_cons.2 ⟨?_, fun field hfield ↦ ?_⟩⟩
          · exact (contains_insert _ _ _ _).2 (.inr (hbefore key hkey))
          · exact (contains_insert _ _ _ _).2 (.inl rfl)
          · exact (contains_insert _ _ _ _).2 (.inr (hrest field hfield))

theorem mentions_of_complete {depth : Nat} (hsound : (Shape.record label fields).Sound)
    (hreach : reachOfFields fields ≤ depth) {mentioned all : Members}
    (hmentioned : Mentions fields depth mentioned) {left : List (String × Absence × Shape)}
    (hleft : left ⊆ fields) (h : complete mentioned left = .ok all) :
    Mentions fields depth all := by
  induction left generalizing all with
  | nil =>
    cases h
    exact hmentioned
  | cons field rest ih =>
    obtain ⟨name, absence, shape⟩ := field
    obtain ⟨hfield, hrest⟩ := List.cons_subset.1 hleft
    rw [complete] at h
    split at h
    next => exact ih hrest h
    next =>
      split at h
      next => cases h
      next value hvalue =>
        split at h
        next => cases h
        next others hothers =>
          cases h
          exact (ih hrest hothers).fill hsound hreach hfield (fits_of_whereNamed · hvalue)

theorem contains_of_completeListed {name : String} {total count : Nat} {before all : Members}
    (h : completeListed name total count before fields = .ok all) :
    (∀ key, before.contains key = true → all.contains key = true) ∧
      ∀ field ∈ fields, all.contains field.1 = true := by
  induction fields generalizing count before with
  | nil =>
    cases h
    exact ⟨fun _ hkey ↦ hkey, nofun⟩
  | cons field rest ih =>
    obtain ⟨first, absence, shape⟩ := field
    rw [completeListed] at h
    split at h
    next => cases h
    next value =>
      obtain ⟨hbefore, hrest⟩ := ih h
      exact ⟨fun key hkey ↦ hbefore key ((contains_insert _ _ _ _).2 (.inr hkey)),
        List.forall_mem_cons.2 ⟨hbefore first ((contains_insert _ _ _ _).2 (.inl rfl)), hrest⟩⟩

theorem mentions_of_completeListed {depth : Nat} (hsound : (Shape.record label fields).Sound)
    (hreach : reachOfFields fields ≤ depth) {name : String} {total count : Nat}
    {before all : Members} (hbefore : Mentions fields depth before)
    {left : List (String × Absence × Shape)} (hleft : left ⊆ fields)
    (h : completeListed name total count before left = .ok all) : Mentions fields depth all := by
  induction left generalizing count before with
  | nil =>
    cases h
    exact hbefore
  | cons field rest ih =>
    obtain ⟨first, absence, shape⟩ := field
    obtain ⟨hfield, hrest⟩ := List.cons_subset.1 hleft
    rw [completeListed] at h
    split at h
    next => cases h
    next value hvalue =>
      exact ih (hbefore.fill hsound hreach hfield (fits_of_whereListed? · hvalue)) hrest h

/-- A record in which nothing is missing is complete as it is. -/
theorem complete_of_contains {members : Members}
    (h : ∀ field ∈ fields, members.contains field.1 = true) :
    complete members fields = .ok members := by
  induction fields with
  | nil => rfl
  | cons field rest ih =>
    obtain ⟨name, absence, shape⟩ := field
    obtain ⟨hname, hrest⟩ := List.forall_mem_cons.1 h
    obtain ⟨value, hvalue⟩ := Option.isSome_iff_exists.1 hname
    simp only [complete, hvalue]
    exact ih hrest

end Shape

end Brokerage
