import Brokerage.Json.Access
import Brokerage.Proofs.Shape.Fitting
import Mathlib.Data.List.Basic

/-!
Taking a fitting value apart by the names of its fields, and putting it together again. A record is
known by its fields: an object with the same names and values is the same object, whichever order
its members are given in.
-/

set_option autoImplicit false

namespace Brokerage

/-! ### Members as a map -/

namespace Members

theorem get?_eq_none_of_lt {m : Members} {key : String} (h : ∀ entry ∈ m, key < entry.1) :
    m.get? key = none := by
  rw [get?, List.lookup_eq_none_iff]
  exact fun entry hentry ↦ bne_iff_ne.2 (String.ne_of_lt (h entry hentry))

theorem get?_cons_of_lt {m : Members} {key k : String} {value : Json} (hlt : key < k)
    (h : ∀ entry ∈ m, k < entry.1) : get? ((k, value) :: m) key = none :=
  get?_eq_none_of_lt (List.forall_mem_cons.2 ⟨hlt, fun e he ↦ String.lt_trans hlt (h e he)⟩)

theorem mem_of_get? {m : Members} {key : String} {value : Json} (h : m.get? key = some value) :
    (key, value) ∈ m := by
  obtain ⟨before, after, rfl, -⟩ := List.lookup_eq_some_iff.1 h
  simp

/-- Sorted members are known by what they give for each key. -/
theorem Sorted.eq_of_get? {m other : Members} (h : m.Sorted) (hother : other.Sorted)
    (heq : ∀ key, m.get? key = other.get? key) : m = other := by
  induction m generalizing other with
  | nil =>
    cases other with
    | nil => rfl
    | cons entry rest =>
      obtain ⟨key, value⟩ := entry
      have hkey := heq key
      simp [get?_cons] at hkey
  | cons entry rest ih =>
    obtain ⟨key, value⟩ := entry
    obtain ⟨hfirst, hrest⟩ := List.pairwise_cons.1 h
    cases other with
    | nil =>
      have hkey := heq key
      simp [get?_cons] at hkey
    | cons entry others =>
      obtain ⟨k, v⟩ := entry
      obtain ⟨hleast, hothers⟩ := List.pairwise_cons.1 hother
      obtain rfl : key = k := by
        refine String.le_antisymm (String.not_lt.1 fun hlt ↦ ?_) (String.not_lt.1 fun hlt ↦ ?_)
        · have hk := heq k
          simp [get?_cons_of_lt hlt hfirst, get?_cons] at hk
        · have hkey := heq key
          simp [get?_cons_of_lt hlt hleast, get?_cons] at hkey
      have hvalue := heq key
      simp only [get?_cons, if_true, Option.some.injEq] at hvalue
      subst hvalue
      rw [ih hrest hothers fun a ↦ ?_]
      by_cases ha : a = key
      · rw [ha, get?_eq_none_of_lt hfirst, get?_eq_none_of_lt hleast]
      · have hget := heq a
        rwa [get?_cons, get?_cons, if_neg ha, if_neg ha] at hget

theorem get?_extend {m added : Members} (h : added.keys.Nodup) (key : String) :
    (m.extend added).get? key = (added.get? key).or (m.get? key) := by
  induction added generalizing m with
  | nil => rfl
  | cons entry rest ih =>
    obtain ⟨k, v⟩ := entry
    obtain ⟨hk, hrest⟩ := List.nodup_cons.1 h
    rw [show m.extend ((k, v) :: rest) = (m.insert k v).extend rest from rfl, ih hrest,
      get?_insert, get?_cons]
    by_cases heq : key = k
    · subst heq
      have hnone : Members.get? rest key = none := by
        rw [get?, List.lookup_eq_none_iff]
        rintro entry hentry
        exact bne_iff_ne.2 fun heq ↦ hk (heq ▸ List.mem_map.2 ⟨entry, hentry, rfl⟩)
      simp [hnone]
    · simp [heq]

theorem get?_ofList {entries : Members} (h : entries.keys.Nodup) (key : String) :
    (ofList entries).get? key = entries.get? key := by
  rw [ofList, get?_extend h, get?_nil, Option.or_none]

end Members

namespace Shape

variable {label name : String} {fields : List (String × Absence × Shape)} {j : Json}

/-! ### Fields of a record -/

theorem isSome_field?_iff : (field? fields name).isSome = true ↔ name ∈ fields.map Prod.fst := by
  rw [field?, Option.isSome_map]
  constructor
  · intro h
    obtain ⟨field, hfield⟩ := Option.isSome_iff_exists.1 h
    obtain ⟨before, after, rfl, -⟩ := List.lookup_eq_some_iff.1 hfield
    simp
  · intro h
    obtain ⟨⟨k, field⟩, hmem, rfl⟩ := List.mem_map.1 h
    refine Option.isSome_iff_ne_none.2 fun hnone ↦ ?_
    exact absurd rfl (bne_iff_ne.1 (List.lookup_eq_none_iff.1 hnone _ hmem))

/-- A record has a value for each of its fields, and the value fits. -/
theorem Fits.field (h : (Shape.record label fields).Fits j) {shape : Shape}
    (hfield : field? fields name = some shape) :
    shape.Fits (j.field name) ∧ j.membersOf.get? name = some (j.field name) := by
  cases h with
  | record hsorted hpresent hknown hfits =>
    obtain ⟨absence, hmem⟩ := exists_mem_of_field? hfield
    obtain ⟨value, hvalue⟩ := Option.isSome_iff_exists.1 (hpresent _ hmem)
    rw [Json.field, Json.membersOf, hvalue]
    exact ⟨hfits _ (Members.mem_of_get? hvalue) shape hfield, rfl⟩

/-- A record is the object of its fields. -/
theorem Fits.record_eq (h : (Shape.record label fields).Fits j) {entries : Members}
    (hkeys : entries.keys = fields.map Prod.fst) (hnames : (fields.map Prod.fst).Nodup)
    (hvalues : entries.Forall fun entry ↦ entry.2 = j.field entry.1) :
    Json.record entries = j := by
  rw [List.forall_iff_forall_mem] at hvalues
  have hfield : ∀ key ∈ fields.map Prod.fst, j.membersOf.get? key = some (j.field key) := by
    intro key hkey
    obtain ⟨shape, hshape⟩ := Option.isSome_iff_exists.1 (isSome_field?_iff.2 hkey)
    exact (h.field hshape).2
  cases h with
  | record hsorted hpresent hknown hfits =>
    refine congrArg Json.object ((Members.sorted_ofList entries).eq_of_get? hsorted fun key ↦ ?_)
    rw [Members.get?_ofList (hkeys ▸ hnames)]
    cases hentry : entries.get? key with
    | some value =>
      have hmem := Members.mem_of_get? hentry
      have hkey : key ∈ fields.map Prod.fst := hkeys ▸ List.mem_map.2 ⟨_, hmem, rfl⟩
      have hvalue : value = _ := hvalues _ hmem
      rw [hvalue]
      exact (hfield key hkey).symm
    | none =>
      symm
      refine Option.eq_none_iff_forall_ne_some.2 fun value hvalue ↦ ?_
      have hknown := hknown _ (Members.mem_of_get? hvalue)
      rw [isSome_field?_iff, ← hkeys] at hknown
      obtain ⟨entry, hmem, heq⟩ := List.mem_map.1 hknown
      exact absurd heq.symm (bne_iff_ne.1 (List.lookup_eq_none_iff.1 hentry entry hmem))

/-! ### Values of a shape from what is read off them -/

theorem Fits.string_textOf (h : Shape.text.Fits j) : .string j.textOf = j := by
  cases h
  rfl

theorem Fits.bool_flagOf (h : Shape.flag.Fits j) : .bool j.flagOf = j := by
  cases h
  rfl

theorem Fits.object_membersOf (h : Shape.table.Fits j) : .object j.membersOf = j := by
  cases h
  rfl

theorem Fits.ofText?_text? (h : (Shape.optional .text).Fits j) : .ofText? j.text? = j := by
  cases h with
  | null => rfl
  | content h =>
    cases h
    rfl

theorem Fits.ofTexts_map_textOf (h : (Shape.listOf .text).Fits j) :
    .ofTexts (j.itemsOf.map Json.textOf) = j := by
  cases h with
  | list h =>
    simp only [Json.itemsOf, Json.ofTexts, List.map_map]
    refine congrArg Json.list ((List.map_congr_left fun value hvalue ↦ ?_).trans (List.map_id _))
    exact (h value hvalue).string_textOf

/-! ### What may be filled in -/

attribute [simp] Absence.Suits admitsNull Sound SoundFields Fits.text Fits.flag Fits.null

@[simp] theorem fits_list_nil (item : Shape) : (Shape.listOf item).Fits (.list []) :=
  .list nofun

@[simp] theorem fits_table_nil : Shape.table.Fits (.object []) :=
  .table ⟨.nil, trivial⟩

end Shape

end Brokerage
