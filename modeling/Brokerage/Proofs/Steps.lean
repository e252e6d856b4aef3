/-!
Labelled chains of steps. What a call asks one thing after another, the calls that a broker serves
one after another and the moves of calls under way beside each other are all chains of this kind;
they differ in the states, the labels and the steps.
-/

set_option autoImplicit false

namespace Brokerage

/-- The steps from one state to another, with their labels in order. -/
inductive Steps {σ τ : Type} (step : σ → τ → σ → Prop) : σ → List τ → σ → Prop
  | nil (s : σ) : Steps step s [] s
  | cons {s t u : σ} {x : τ} {xs : List τ} (head : step s x t) (tail : Steps step t xs u) :
    Steps step s (x :: xs) u

namespace Steps

variable {σ τ : Type} {step : σ → τ → σ → Prop}

@[simp] theorem nil_iff {s t : σ} : Steps step s [] t ↔ t = s := by
  constructor
  · intro h
    cases h
    rfl
  · rintro rfl
    exact .nil t

@[simp] theorem cons_iff {s u : σ} {x : τ} {xs : List τ} :
    Steps step s (x :: xs) u ↔ ∃ t, step s x t ∧ Steps step t xs u := by
  constructor
  · intro h
    cases h with
    | cons head tail => exact ⟨_, head, tail⟩
  · rintro ⟨t, head, tail⟩
    exact .cons head tail

theorem singleton_iff {s u : σ} {x : τ} : Steps step s [x] u ↔ step s x u := by
  simp

theorem append_iff {s u : σ} {xs ys : List τ} :
    Steps step s (xs ++ ys) u ↔ ∃ t, Steps step s xs t ∧ Steps step t ys u := by
  induction xs generalizing s with
  | nil => simp
  | cons x xs ih =>
    simp only [List.cons_append, cons_iff, ih]
    constructor
    · rintro ⟨t, hx, v, hxs, hys⟩
      exact ⟨v, ⟨t, hx, hxs⟩, hys⟩
    · rintro ⟨v, ⟨t, hx, hxs⟩, hys⟩
      exact ⟨t, hx, v, hxs, hys⟩

theorem concat_iff {s u : σ} {x : τ} {xs : List τ} :
    Steps step s (xs ++ [x]) u ↔ ∃ t, Steps step s xs t ∧ step t x u := by
  simp [append_iff]

/-- Each label of a chain is that of a step taken from a state on the way. -/
theorem split_of_mem {s u : σ} {xs : List τ} {x : τ} (hsteps : Steps step s xs u) (hx : x ∈ xs) :
    ∃ ys zs t t', xs = ys ++ x :: zs ∧ Steps step s ys t ∧ step t x t' ∧ Steps step t' zs u := by
  obtain ⟨ys, zs, rfl⟩ := List.append_of_mem hx
  obtain ⟨t, hbefore, hafter⟩ := append_iff.1 hsteps
  obtain ⟨t', hstep, hrest⟩ := cons_iff.1 hafter
  exact ⟨ys, zs, t, t', rfl, hbefore, hstep, hrest⟩

theorem exists_of_mem {s u : σ} {xs : List τ} {x : τ} (hsteps : Steps step s xs u) (hx : x ∈ xs) :
    ∃ ys t t', Steps step s ys t ∧ step t x t' := by
  obtain ⟨ys, -, t, t', -, hbefore, hstep, -⟩ := hsteps.split_of_mem hx
  exact ⟨ys, t, t', hbefore, hstep⟩

theorem mono {step' : σ → τ → σ → Prop} {s u : σ} {xs : List τ} (hsteps : Steps step s xs u)
    (hstep : ∀ s x t, step s x t → step' s x t) : Steps step' s xs u := by
  induction hsteps with
  | nil s => exact .nil s
  | cons head tail ih => exact .cons (hstep _ _ _ head) ih

/-- What every step of a chain preserves holds at its end. -/
theorem preserves {P : σ → Prop} {s u : σ} {xs : List τ} (hsteps : Steps step s xs u)
    (hstep : ∀ s x t, x ∈ xs → P s → step s x t → P t) (hs : P s) : P u := by
  induction hsteps with
  | nil s => exact hs
  | cons head tail ih =>
    have ht := hstep _ _ _ (List.mem_cons_self ..) hs head
    exact ih (fun s x t hx ↦ hstep s x t (List.mem_cons_of_mem _ hx)) ht

/-- What each step of a chain preserves, given the steps before it, holds at its end. -/
theorem preserves_after {P : σ → Prop} {s u : σ} {xs : List τ} (hsteps : Steps step s xs u)
    (hstep : ∀ ys x zs t t', xs = ys ++ x :: zs → Steps step s ys t → P t → step t x t' → P t')
    (hs : P s) : P u := by
  induction hsteps with
  | nil s => exact hs
  | @cons s t u x xs head tail ih =>
    refine ih ?_ (hstep [] x xs s t rfl (.nil s) hs head)
    rintro ys y zs v v' rfl hbefore
    exact hstep (x :: ys) y zs v v' rfl (.cons head hbefore)

/-- A chain is one between the images of its states if each step from a state that has what the
steps preserve is one between images. -/
theorem map {σ' : Type} {step' : σ' → τ → σ' → Prop} (f : σ → σ') {P : σ → Prop} {s u : σ}
    {xs : List τ} (hsteps : Steps step s xs u)
    (hstep : ∀ s x t, P s → step s x t → P t ∧ step' (f s) x (f t)) (hs : P s) :
    Steps step' (f s) xs (f u) := by
  induction hsteps with
  | nil s => exact .nil (f s)
  | cons head tail ih =>
    obtain ⟨ht, hhead⟩ := hstep _ _ _ hs head
    exact .cons hhead (ih ht)

end Steps

end Brokerage
