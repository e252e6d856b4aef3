import Brokerage.Json.Basic

/-!
The members of an object as a finite map. Insertion keeps the keys in increasing order and
replaces what was there, so of two members with one key the later wins.
-/

set_option autoImplicit false

namespace Brokerage.Members

/-- Strictly increasing keys. -/
def Sorted (m : Members) : Prop :=
  m.Pairwise fun a b ↦ a.1 < b.1

def get? (m : Members) (key : String) : Option Json :=
  m.lookup key

def contains (m : Members) (key : String) : Bool :=
  (m.get? key).isSome

def keys (m : Members) : List String :=
  m.map Prod.fst

def insert : Members → String → Json → Members
  | [], key, value => [(key, value)]
  | (k, v) :: rest, key, value =>
    if key < k then (key, value) :: (k, v) :: rest
    else if key = k then (key, value) :: rest
    else (k, v) :: insert rest key value

/-- All of `added` over `m`. -/
def extend (m added : Members) : Members :=
  added.foldl (fun into entry ↦ into.insert entry.1 entry.2) m

def ofList (entries : List (String × Json)) : Members :=
  extend [] entries

@[simp] theorem get?_nil (key : String) : get? [] key = none := rfl

theorem get?_cons (k : String) (v : Json) (rest : Members) (key : String) :
    get? ((k, v) :: rest) key = if key = k then some v else get? rest key := by
  unfold get?
  rw [List.lookup_cons]
  by_cases h : key = k
  · simp [h]
  · simp [beq_eq_false_iff_ne.mpr h, h]

/-- What stands in the map after an insertion was inserted or stood there before. -/
theorem eq_or_mem_of_mem_insert {m : Members} {key : String} {value : Json} {e : String × Json}
    (h : e ∈ m.insert key value) : e = (key, value) ∨ e ∈ m := by
  induction m with
  | nil => exact .inl (List.mem_singleton.mp h)
  | cons entry rest ih =>
    obtain ⟨k, v⟩ := entry
    unfold insert at h
    split at h
    · exact List.mem_cons.mp h
    · split at h
      · exact (List.mem_cons.mp h).imp_right (List.mem_cons_of_mem _)
      · rcases List.mem_cons.mp h with rfl | h
        · exact .inr List.mem_cons_self
        · exact (ih h).imp_right (List.mem_cons_of_mem _)

theorem insert_ne_nil (m : Members) (key : String) (value : Json) : m.insert key value ≠ [] := by
  cases m with
  | nil => exact List.cons_ne_nil _ _
  | cons entry rest =>
    unfold insert
    split
    · exact List.cons_ne_nil _ _
    · split <;> exact List.cons_ne_nil _ _

theorem sorted_insert {m : Members} (h : Sorted m) (key : String) (value : Json) :
    Sorted (m.insert key value) := by
  induction m with
  | nil => simp [insert, Sorted]
  | cons entry rest ih =>
    obtain ⟨k, v⟩ := entry
    obtain ⟨hk, hrest⟩ := List.pairwise_cons.mp h
    unfold insert
    split
    next hlt =>
      refine List.pairwise_cons.mpr ⟨fun e he ↦ ?_, h⟩
      rcases List.mem_cons.mp he with rfl | he
      · exact hlt
      · exact String.lt_trans hlt (hk e he)
    next hnlt =>
      split
      next heq =>
        subst heq
        exact List.pairwise_cons.mpr ⟨hk, hrest⟩
      next hne =>
        refine List.pairwise_cons.mpr ⟨fun e he ↦ ?_, ih hrest⟩
        rcases eq_or_mem_of_mem_insert he with rfl | he
        · exact Decidable.byContradiction fun hn ↦
            hne (String.le_antisymm (String.not_lt.mp hn) (String.not_lt.mp hnlt))
        · exact hk e he

theorem get?_insert (m : Members) (key : String) (value : Json) (k : String) :
    (m.insert key value).get? k = if k = key then some value else m.get? k := by
  induction m with
  | nil => simp [insert, get?_cons]
  | cons e rest ih =>
    obtain ⟨l, v⟩ := e
    unfold insert
    split
    · rw [get?_cons]
    · split
      next heq =>
        subst heq
        simp only [get?_cons]
        split <;> rfl
      next hne =>
        rw [get?_cons, get?_cons, ih]
        by_cases hl : k = l
        · subst hl
          simp [Ne.symm hne]
        · simp [hl]

theorem contains_insert (m : Members) (key : String) (value : Json) (name : String) :
    (m.insert key value).contains name = true ↔ name = key ∨ m.contains name = true := by
  rw [contains, get?_insert, contains]
  by_cases h : name = key <;> simp [h]

theorem sorted_extend {m : Members} (h : Sorted m) (added : Members) : Sorted (m.extend added) := by
  induction added generalizing m with
  | nil => exact h
  | cons entry rest ih => exact ih (sorted_insert h entry.1 entry.2)

theorem sorted_ofList (entries : List (String × Json)) : Sorted (ofList entries) :=
  sorted_extend List.Pairwise.nil entries

end Brokerage.Members
