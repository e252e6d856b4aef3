/-!
Tables: finite maps as lists of entries, the entry of a new key last. Each operation is known by
what it does to every key: writing a key changes what is found under it and nothing else, and
so does removing one.
-/

set_option autoImplicit false

namespace Brokerage

abbrev Table (κ α : Type) := List (κ × α)

namespace Table

variable {κ α : Type} [DecidableEq κ]

def get? (t : Table κ α) (key : κ) : Option α :=
  match t with
  | [] => none
  | (k, x) :: rest => if k = key then some x else get? rest key

def contains (t : Table κ α) (key : κ) : Bool :=
  (t.get? key).isSome

/-- Writes a key, in place if it is there. -/
def put (t : Table κ α) (key : κ) (x : α) : Table κ α :=
  match t with
  | [] => [(key, x)]
  | (k, y) :: rest => if k = key then (key, x) :: rest else (k, y) :: put rest key x

def remove (t : Table κ α) (key : κ) : Table κ α :=
  t.filter fun entry ↦ entry.1 ≠ key

@[simp] theorem get?_nil (key : κ) : get? ([] : Table κ α) key = none := rfl

theorem get?_put (t : Table κ α) (key : κ) (x : α) (k : κ) :
    (t.put key x).get? k = if k = key then some x else t.get? k := by
  induction t with
  | nil => simp [put, get?, eq_comm]
  | cons entry rest ih =>
    obtain ⟨l, y⟩ := entry
    unfold put
    by_cases hl : l = key
    · subst hl
      simp only [if_true, get?]
      by_cases hk : l = k
      · simp [hk]
      · simp [hk, Ne.symm hk]
    · by_cases hk : l = k
      · subst hk
        simp [get?, hl]
      · simp [get?, hl, hk, ih]

theorem get?_remove (t : Table κ α) (key k : κ) :
    (t.remove key).get? k = if k = key then none else t.get? k := by
  induction t with
  | nil => simp [remove]
  | cons entry rest ih =>
    obtain ⟨l, y⟩ := entry
    have hrest : (Table.remove ((l, y) :: rest) key) =
        if l = key then Table.remove rest key else (l, y) :: Table.remove rest key := by
      by_cases hl : l = key <;> simp [remove, hl]
    rw [hrest]
    by_cases hl : l = key
    · subst hl
      rw [if_pos rfl, ih]
      by_cases hk : k = l
      · simp [hk]
      · simp [hk, get?, Ne.symm hk]
    · rw [if_neg hl]
      by_cases hk : l = k
      · subst hk
        simp [get?, hl]
      · simp [get?, hk, ih]

end Table

end Brokerage
