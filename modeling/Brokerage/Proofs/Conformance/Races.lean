import Brokerage.Conformance.Report
import Brokerage.Proofs.Conformance.Backend
import Mathlib.Data.List.Nodup

/-!
Creates that race. A trial that is told no times is told the same by a store that conforms as by
the store in memory, so a race is run there as it is in memory. There the first create of a record
is taken and every later one is refused, whichever contender comes first, and creates of different
records are all taken. In what order the outcomes are collected makes no difference to who won.
-/

set_option autoImplicit false

namespace Brokerage

theorem Program.run_bind {κ σ ε α β : Type} {Reply : κ → Type}
    (respond : σ → (question : κ) → Reply question × σ) (p : Program Reply ε α)
    (next : α → Program Reply ε β) (s : σ) :
    (p >>= next).run respond s =
      match p.run respond s with
      | (.ok a, after) => (next a).run respond after
      | (.error e, after) => (.error e, after) := by
  induction p generalizing s with
  | done result => cases result <;> rfl
  | ask question step ih => exact ih _ _

namespace Conformance

variable {σ : Type} {respond : Backend σ} {fresh : σ} {s : σ} {c c' : Store}

/-! ### Trials that are told no times -/

/-- A trial goes with a backend as it goes with the store in memory. -/
def Mirrors {α : Type} (respond : Backend σ) (fresh : σ) (trial : Trial α) : Prop :=
  ∀ s c, Follows respond fresh s c → ∃ s',
    trial.run respond s = ((trial.run memory c).1, s') ∧
      Follows respond fresh s' (trial.run memory c).2

section Mirrors

variable {α β : Type}

theorem Mirrors.done (result : Except String α) : Mirrors respond fresh (.done result) :=
  fun s _ hs ↦ ⟨s, rfl, hs⟩

theorem Conforms.mirrors_request (h : Conforms respond fresh) {q : Store.Request}
    (hplain : ∀ reply, q.bare reply = reply) : Mirrors respond fresh (Trial.request q) := by
  intro s c hs
  have halike := h.alike_of_follows hs q
  rw [hplain, hplain] at halike
  exact ⟨(respond s q).2, Prod.ext (congrArg Except.ok halike) rfl, hs.next q⟩

theorem Mirrors.bind {p : Trial α} {next : α → Trial β} (hp : Mirrors respond fresh p)
    (hnext : ∀ a, Mirrors respond fresh (next a)) : Mirrors respond fresh (p >>= next) := by
  intro s c hs
  obtain ⟨s', hrun, hs'⟩ := hp s c hs
  rw [Program.run_bind, Program.run_bind, hrun]
  cases hmemory : p.run memory c with
  | mk result c' =>
    rw [hmemory] at hs'
    cases result with
    | ok a => exact hnext a s' c' hs'
    | error e => exact ⟨s', rfl, hs'⟩

theorem Passes.ofExcept_bind {next : α → Trial β} {result : Except String α} {a : α}
    (hresult : result = .ok a) (hnext : Passes respond s (next a)) :
    Passes respond s (Program.ofExcept result >>= next) := by
  subst hresult
  exact hnext

/-- What such a trial ends in with the store in memory, it ends in with the backend. -/
theorem Mirrors.passes_bind {p : Trial α} {next : α → Trial β} {a : α}
    (hp : Mirrors respond fresh p) (hs : Follows respond fresh s c)
    (hc : p.run memory c = (.ok a, c'))
    (hnext : ∀ s', Follows respond fresh s' c' → Passes respond s' (next a)) :
    Passes respond s (p >>= next) := by
  obtain ⟨s', hrun, hs'⟩ := hp s c hs
  rw [hc] at hrun hs'
  obtain ⟨b, hb⟩ := hnext s' hs'
  exact ⟨b, by rw [Program.run_bind, hrun, hb]⟩

end Mirrors

namespace Races

/-- Every contender's create takes effect once, and its outcome is collected once. -/
structure Schedule.Fair (schedule : Schedule) : Prop where
  acted : schedule.effects.Perm (List.range contenders)
  collected : schedule.outcomes.Perm (List.range contenders)

variable {schedule : Schedule} {attempt : Nat → Trial (Except Store.Error Unit)}
  {outcome : Nat → Except Store.Error Unit} {isConflict : Store.Error → Bool} {e : Store.Error}

theorem mirrors_effects (hattempt : ∀ contender, Mirrors respond fresh (attempt contender))
    (order : List Nat) : Mirrors respond fresh (effects attempt order) := by
  induction order with
  | nil => exact .done _
  | cons contender rest ih =>
    exact (hattempt contender).bind fun _ ↦ ih.bind fun _ ↦ .done _

theorem mirrors_race (hattempt : ∀ contender, Mirrors respond fresh (attempt contender)) :
    Mirrors respond fresh (race schedule attempt) :=
  (mirrors_effects hattempt _).bind fun _ ↦ .done _

/-! ### Outcomes -/

theorem run_effects_cons {d : Store} {contender : Nat} {rest : List Nat}
    {reply : Except Store.Error Unit} {replies : List Outcome}
    (hfirst : (attempt contender).run memory c = (.ok reply, c'))
    (hrest : (effects attempt rest).run memory c' = (.ok replies, d)) :
    (effects attempt (contender :: rest)).run memory c =
      (.ok ((contender, reply) :: replies), d) := by
  rw [effects, Program.run_bind, hfirst]
  dsimp only
  rw [Program.run_bind, hrest]
  rfl

/-- An outcome is found under its contender, wherever it stands. -/
theorem find?_outcome {order : List Nat} {contender : Nat} (h : contender ∈ order) :
    (order.map fun k ↦ (k, outcome k)).find? (fun found ↦ found.1 == contender) =
      some (contender, outcome contender) := by
  induction order with
  | nil => exact absurd h List.not_mem_nil
  | cons first rest ih =>
    by_cases hfirst : first = contender
    · simp [hfirst]
    · simpa [hfirst] using ih ((List.mem_cons.mp h).resolve_left (Ne.symm hfirst))

/-- The outcomes are collected whole, however they come. -/
theorem run_race (outcome : Nat → Except Store.Error Unit) (hfair : schedule.Fair)
    (heffects : (effects attempt schedule.effects).run memory c =
      (.ok (schedule.effects.map fun k ↦ (k, outcome k)), c')) :
    (race schedule attempt).run memory c =
      (.ok (schedule.outcomes.map fun k ↦ (k, outcome k)), c') := by
  have hcollected : (schedule.outcomes.filterMap fun contender ↦
      (schedule.effects.map fun k ↦ (k, outcome k)).find? fun found ↦ found.1 == contender) =
        schedule.outcomes.map fun k ↦ (k, outcome k) := by
    rw [List.filterMap_congr fun contender hmem ↦
      find?_outcome ((hfair.collected.trans hfair.acted.symm).subset hmem)]
    exact congrFun List.filterMap_eq_map _
  rw [race, Program.run_bind, heffects, ← hcollected]
  rfl

/-- Whoever succeeded won, if nobody failed but for the expected conflict. -/
theorem tally_map (outcome : Nat → Except Store.Error Unit)
    (hlost : ∀ k e, outcome k = .error e → isConflict e = true) (order : List Nat) :
    tally isConflict (order.map fun k ↦ (k, outcome k)) =
      .ok (order.filter fun k ↦ (outcome k).isOk) := by
  induction order with
  | nil => rfl
  | cons first rest ih =>
    cases hfirst : outcome first with
    | ok _ => simp [tally, hfirst, ih, Except.isOk, Except.toBool]
    | error e => simp [tally, hfirst, ih, hlost first e hfirst, Except.isOk, Except.toBool]

/-! ### Creates of one record -/

theorem run_effects_of_refused
    (hrefused : ∀ contender, (attempt contender).run memory c = (.ok (.error e), c))
    (order : List Nat) : (effects attempt order).run memory c =
      (.ok (order.map fun k ↦ (k, .error e)), c) := by
  induction order with
  | nil => rfl
  | cons contender rest ih => exact run_effects_cons (hrefused contender) ih

/-- Who wins a race for one record. -/
def won (e : Store.Error) (winner contender : Nat) : Except Store.Error Unit :=
  if contender = winner then .ok () else .error e

/-- The contender that comes first wins, and its create is the only one with an effect. -/
theorem run_contest (attempt : Nat → Trial (Except Store.Error Unit)) (hfair : schedule.Fair)
    {after : Nat → Store}
    (hfirst : ∀ contender, (attempt contender).run memory c = (.ok (.ok ()), after contender))
    (hlater : ∀ winner contender, (attempt contender).run memory (after winner) =
      (.ok (.error e), after winner)) :
    ∃ winner ∈ schedule.outcomes, (race schedule attempt).run memory c =
      (.ok (schedule.outcomes.map fun k ↦ (k, won e winner k)), after winner) := by
  -- the winner is known before the race: it is the head of the order of effects
  cases horder : schedule.effects with
  | nil => simpa [horder, contenders] using hfair.acted.length_eq
  | cons winner rest =>
    have hnodup : (winner :: rest).Nodup := horder ▸ hfair.acted.nodup_iff.mpr List.nodup_range
    have hmem : winner ∈ schedule.outcomes :=
      (hfair.acted.trans hfair.collected.symm).subset (by simp [horder])
    have hrest : rest.map (fun k ↦ (k, won e winner k)) = rest.map fun k ↦ (k, .error e) :=
      List.map_congr_left fun k hk ↦ by
        have hne : k ≠ winner := fun heq ↦ (List.nodup_cons.mp hnodup).1 (heq ▸ hk)
        rw [won, if_neg hne]
    refine ⟨winner, hmem, run_race _ hfair ?_⟩
    rw [horder, List.map_cons, hrest, won, if_pos rfl]
    exact run_effects_cons (hfirst winner) (run_effects_of_refused (hlater winner) rest)

/-- Exactly the contender that came first is counted a winner. -/
theorem tally_won (hfair : schedule.Fair) {winner : Nat}
    (hmem : winner ∈ schedule.outcomes) (hconflict : isConflict e = true) :
    tally isConflict (schedule.outcomes.map fun k ↦ (k, won e winner k)) = .ok [winner] := by
  have hnodup : schedule.outcomes.Nodup := hfair.collected.nodup_iff.mpr List.nodup_range
  have hlost (k : Nat) (e' : Store.Error) (hk : won e winner k = .error e') :
      isConflict e' = true := by
    unfold won at hk
    split at hk
    · cases hk
    · cases hk
      exact hconflict
  have hisOk : (fun k ↦ (won e winner k).isOk) = fun k ↦ k == winner := by
    funext k
    by_cases hk : k = winner <;> simp [won, hk, Except.isOk, Except.toBool]
  rw [tally_map _ hlost, hisOk, List.filter_beq, List.count_eq_one_of_mem hnodup hmem,
    List.replicate_one]

/-! ### Creates of different records -/

/-- The instance that a contender creates for itself. -/
def ownId (contender : Nat) : String :=
  s!"i-{contender}"

theorem ownId_inj : ∀ a ∈ List.range contenders, ∀ b ∈ List.range contenders,
    ownId a = ownId b → a = b := by
  decide +kernel

theorem contains_put (t : Table String InstanceRecord) (i : String) (record : InstanceRecord)
    (j : String) : (t.put i record).contains j = true ↔ j = i ∨ t.contains j = true := by
  unfold Table.contains
  rw [Table.get?_put]
  by_cases hj : j = i <;> simp [hj]

theorem memory_create (record : InstanceRecord)
    (habsent : ¬ c.instances.contains record.id = true) :
    ∃ c', memory c (.createInstance record) = (.ok (), c') ∧
      ∀ i, c'.instances.contains i = true ↔ i = record.id ∨ c.instances.contains i = true := by
  let stamped := { record with createdAt := "", updatedAt := "" }
  have hcreate : c.createInstance "" record =
      .ok { c with instances := c.instances.put record.id stamped } :=
    if_neg habsent
  exact ⟨_, congrArg c.written hcreate, contains_put c.instances record.id stamped⟩

/-- Nobody stands in the way of another, and what is there in the end is there whoever is first. -/
theorem run_effects_apart {order : List Nat} (hnodup : (order.map ownId).Nodup)
    (habsent : ∀ k ∈ order, ¬ c.instances.contains (ownId k) = true) :
    ∃ c', (effects (fun k ↦ Trial.request (.createInstance (sampleInstance (ownId k)))) order).run
        memory c = (.ok (order.map fun k ↦ (k, .ok ())), c') ∧
      ∀ i, c'.instances.contains i = true ↔
        i ∈ order.map ownId ∨ c.instances.contains i = true := by
  -- the ids of those who have yet to act stay absent, as they differ from the one just created
  induction order generalizing c with
  | nil => exact ⟨c, rfl, fun i ↦ by simp⟩
  | cons first rest ih =>
    obtain ⟨hfirst, hrest⟩ := List.nodup_cons.mp hnodup
    obtain ⟨after, hcreated, hcontains⟩ :=
      memory_create (sampleInstance (ownId first)) (habsent first List.mem_cons_self)
    have hstill : ∀ k ∈ rest, ¬ after.instances.contains (ownId k) = true := by
      intro k hk hthere
      rcases (hcontains _).mp hthere with heq | hbefore
      · have hsame : ownId k = ownId first := heq
        exact hfirst (hsame ▸ List.mem_map_of_mem hk)
      · exact habsent k (List.mem_cons_of_mem _ hk) hbefore
    obtain ⟨c', hrun, hin⟩ := ih hrest hstill
    refine ⟨c', run_effects_cons (congrArg (Prod.map Except.ok id) hcreated) hrun, fun i ↦ ?_⟩
    rw [hin, hcontains, List.map_cons, List.mem_cons, or_left_comm, or_assoc]
    rfl

/-- Each is found that has to be there. -/
theorem passes_needAll (h : Conforms respond fresh) {ks : List Nat} (hs : Follows respond fresh s c)
    (hpresent : ∀ k ∈ ks, c.instances.contains (ownId k) = true) :
    Passes respond s (needAll ks) := by
  induction ks generalizing s with
  | nil => exact .done ..
  | cons first rest ih =>
    have hfirst : memory c (.instanceExists (ownId first)) = (.ok true, c) :=
      Prod.ext (congrArg Except.ok (hpresent first List.mem_cons_self)) rfl
    refine h.need hs (fun _ ↦ rfl) hfirst fun s _ hs ↦ ?_
    exact .failIf_bind rfl (ih hs fun k hk ↦ hpresent k (List.mem_cons_of_mem _ hk))

section Passes

variable (h : Conforms respond fresh) (hfair : schedule.Fair)
include h hfair

/-- Whichever contender comes first, its record is the one that is found. -/
theorem passes_racingInstanceCreatesAdmitOne :
    Passes respond fresh (racingInstanceCreatesAdmitOne schedule) := by
  obtain ⟨winner, hmem, hrace⟩ := run_contest
    (fun contender ↦ Trial.request
      (.createInstance { sampleInstance "i-contended" with planId := s!"plan-{contender}" }))
    hfair (c := .empty) (e := .instanceAlreadyExists "i-contended") (fun _ ↦ rfl) fun _ _ ↦ rfl
  refine (mirrors_race fun contender ↦ h.mirrors_request fun _ ↦ rfl).passes_bind (.start ..)
    hrace fun s hs ↦ ?_
  refine .ofExcept_bind (tally_won hfair hmem rfl) ?_
  refine h.needInstance hs rfl fun created updated s _ _ _ hs ↦ ?_
  exact .failIf (by simp)

theorem passes_racingBindingCreatesAdmitOne :
    Passes respond fresh (racingBindingCreatesAdmitOne schedule) := by
  refine h.need (.start ..) (fun _ ↦ rfl) rfl fun s _ hs ↦ ?_
  obtain ⟨winner, hmem, hrace⟩ := run_contest
    (fun _ ↦ Trial.request (.createBinding (sampleBinding "i-1" "b-contended")))
    hfair (c := (memory .empty (.createInstance (sampleInstance "i-1"))).2)
    (e := .bindingAlreadyExists "i-1" "b-contended") (fun _ ↦ rfl) fun _ _ ↦ rfl
  refine (mirrors_race fun contender ↦ h.mirrors_request fun _ ↦ rfl).passes_bind hs
    hrace fun s hs ↦ ?_
  refine .ofExcept_bind (tally_won hfair hmem rfl) ?_
  exact .failIf rfl

theorem passes_disjointInstanceCreatesAllLand :
    Passes respond fresh (disjointInstanceCreatesAllLand schedule) := by
  have hnodup : (schedule.effects.map ownId).Nodup := by
    refine (hfair.acted.map ownId).nodup_iff.mpr ?_
    exact List.nodup_range.map_on ownId_inj
  obtain ⟨c, heffects, hcontains⟩ :=
    run_effects_apart (c := .empty) hnodup fun _ _ ↦ Bool.false_ne_true
  have hpresent : ∀ k ∈ List.range contenders, c.instances.contains (ownId k) = true := by
    intro k hk
    exact (hcontains _).mpr (.inl (List.mem_map_of_mem (hfair.acted.mem_iff.mpr hk)))
  have htally : tally (fun _ ↦ false) (schedule.outcomes.map fun k ↦ (k, .ok ())) =
      .ok schedule.outcomes := by
    rw [tally_map (fun _ ↦ .ok ()) fun _ _ hlost ↦ by cases hlost]
    exact congrArg Except.ok (List.filter_eq_self.mpr fun _ _ ↦ rfl)
  refine (mirrors_race fun contender ↦ h.mirrors_request fun _ ↦ rfl).passes_bind (.start ..)
    (run_race (fun _ ↦ .ok ()) hfair heffects) fun s hs ↦ ?_
  refine .ofExcept_bind htally ?_
  refine .failIf_bind ?_ (passes_needAll h hs hpresent)
  simp [hfair.collected.length_eq]

end Passes

end Races

end Conformance

end Brokerage
