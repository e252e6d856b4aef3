import Brokerage.Proofs.Pool

/-!
Races to create one record. A creation finds no record and leaves one, so among calls that write a
record only to create it, where there was none, at most one creation succeeds: the others find the
record there, and nothing is written to it before or after. Nothing is assumed of the order in
which the calls move.
-/

set_option autoImplicit false

namespace Brokerage

namespace Broker.Pool

variable {ι : Type} {requests : ι → Request} {setting : Setting} {pool pool' : Pool requests}
  {moves : List (Move ι)} {subject : Subject}

/-- The record of a subject is written only to be created. -/
def OnlyCreates (subject : Subject) (moves : List (Move ι)) : Prop :=
  ∀ move ∈ moves, move.exchange.written? = some subject → move.exchange.created? = some subject

/-- The record of a subject is not written. -/
def Unwritten (subject : Subject) (moves : List (Move ι)) : Prop :=
  ∀ move ∈ moves, move.exchange.written? ≠ some subject

variable [DecidableEq ι]

theorem Unwritten.sameRecord (h : Unwritten subject moves)
    (hrun : Steps (Step setting) pool moves pool') :
    pool.world.store.SameRecord pool'.world.store subject := by
  refine Setting.sameRecord_of_unwritten (allows_of_steps hrun) fun x hx ↦ ?_
  obtain ⟨move, hmove, rfl⟩ := List.mem_map.1 hx
  exact h move hmove

/-- Where there is a record already, nothing creates it. -/
theorem OnlyCreates.unwritten (honly : OnlyCreates subject moves)
    (hrun : Steps (Step setting) pool moves pool') (hhas : pool.world.store.Has subject) :
    Unwritten subject moves := by
  have hnone := Setting.unwritten_of_has (allows_of_steps hrun) (fun x hx ↦ ?_) hhas
  · exact fun move hmove ↦ hnone _ (List.mem_map_of_mem hmove)
  · obtain ⟨move, hmove, rfl⟩ := List.mem_map.1 hx
    exact honly move hmove

/-- Where there is no record, either none is written, or one move creates it and no other writes
it. -/
theorem OnlyCreates.cases (honly : OnlyCreates subject moves)
    (hrun : Steps (Step setting) pool moves pool') (habsent : ¬ pool.world.store.Has subject) :
    Unwritten subject moves ∨
      ∃ early created late before after, moves = early ++ created :: late ∧
        Steps (Step setting) pool early before ∧ Step setting before created after ∧
        Steps (Step setting) after late pool' ∧ created.exchange.created? = some subject ∧
        Unwritten subject early ∧ Unwritten subject late := by
  induction hrun with
  | nil pool => exact .inl fun move hmove ↦ absurd hmove List.not_mem_nil
  | @cons pool next last move moves head tail ih =>
    obtain ⟨honlyHead, honlyTail⟩ := List.forall_mem_cons.1 honly
    by_cases hhead : move.exchange.written? = some subject
    · have hcreated := honlyHead hhead
      have hlate := OnlyCreates.unwritten honlyTail tail (head.allows.created hcreated).2
      exact .inr ⟨[], move, moves, pool, next, rfl, .nil pool, head, tail, hcreated,
        fun move hmove ↦ absurd hmove List.not_mem_nil, hlate⟩
    · have hnext : ¬ next.world.store.Has subject :=
        fun h ↦ habsent ((head.allows.sameRecord_of_written hhead).has_iff.1 h)
      rcases ih honlyTail hnext with
        htail | ⟨early, created, late, before, after, rfl, hearly, hstep, hlate, hrest⟩
      · exact .inl (List.forall_mem_cons.2 ⟨hhead, htail⟩)
      · obtain ⟨hcreated, hunwritten, hlast⟩ := hrest
        exact .inr ⟨move :: early, created, late, before, after, rfl, .cons head hearly, hstep,
          hlate, hcreated, List.forall_mem_cons.2 ⟨hhead, hunwritten⟩, hlast⟩

/-- At most one move creates the record. -/
theorem OnlyCreates.unique (honly : OnlyCreates subject moves)
    (hrun : Steps (Step setting) pool moves pool') (habsent : ¬ pool.world.store.Has subject)
    {first second : Move ι} (hfirst : first ∈ moves) (hsecond : second ∈ moves)
    (hfirstCreates : first.exchange.created? = some subject)
    (hsecondCreates : second.exchange.created? = some subject) : first = second := by
  rcases honly.cases hrun habsent with
    hnone | ⟨early, created, late, before, after, rfl, -, -, -, -, hearly, hlate⟩
  · exact absurd (Exchange.written_of_created hfirstCreates) (hnone first hfirst)
  · have hcreated {move : Move ι} (hmove : move ∈ early ++ created :: late)
        (hcreates : move.exchange.created? = some subject) : move = created := by
      have hwritten := Exchange.written_of_created hcreates
      rcases List.mem_append.1 hmove with hmem | hmem
      · exact absurd hwritten (hearly move hmem)
      · rcases List.mem_cons.1 hmem with rfl | hmem
        · rfl
        · exact absurd hwritten (hlate move hmem)
    rw [hcreated hfirst hfirstCreates, hcreated hsecond hsecondCreates]

/-- At most one call creates the record. -/
theorem OnlyCreates.call_unique {broker : Broker} {w : World} {last : Pool requests}
    (honly : OnlyCreates subject moves)
    (hrun : Steps (Step setting) (start broker requests w) moves last)
    (habsent : ¬ w.store.Has subject) {j k : ι} {x y : Exchange Action.Reply}
    (hx : x ∈ (last.calls j).asked) (hy : y ∈ (last.calls k).asked)
    (hxCreates : x.created? = some subject) (hyCreates : y.created? = some subject) : j = k := by
  obtain ⟨first, hfirst, rfl, rfl⟩ := (mem_asked_iff hrun).1 hx
  obtain ⟨second, hsecond, rfl, rfl⟩ := (mem_asked_iff hrun).1 hy
  rw [honly.unique hrun habsent hfirst hsecond hxCreates hyCreates]

section Healthy

variable {broker : Broker} {w : World} {last : Pool requests} {k : ι} {q : Store.Request}

/-- What a store that does not fail refuses to create is there. -/
theorem isConflict_of_refused (hhealthy : ∀ e, ¬ setting.storeFails e)
    (hrun : Steps (Step setting) (start broker requests w) moves last) {e : Store.Error}
    (hasked : .store q (.error e) ∈ (last.calls k).asked) (hcreates : q.created? = some subject) :
    e.isConflict = true := by
  obtain ⟨move, hmove, -, hexchange⟩ := (mem_asked_iff hrun).1 hasked
  obtain ⟨-, -, before, after, -, -, hstep, -⟩ := hrun.split_of_mem hmove
  exact (((hstep.answers hexchange).fails_or_conflict hcreates).resolve_left (hhealthy e)).2

/-- If a call gets as far as to ask for the record to be created, some move has created it. -/
theorem OnlyCreates.exists_creation (honly : OnlyCreates subject moves)
    (hhealthy : ∀ e, ¬ setting.storeFails e)
    (hrun : Steps (Step setting) (start broker requests w) moves last)
    (habsent : ¬ w.store.Has subject) {reply : q.Reply}
    (hasked : .store q reply ∈ (last.calls k).asked) (hcreates : q.created? = some subject) :
    ∃ early created late before after, moves = early ++ created :: late ∧
      Step setting before created after ∧ Steps (Step setting) after late last ∧
      created.exchange.created? = some subject ∧ Unwritten subject late := by
  rcases honly.cases hrun habsent with
    hnone | ⟨early, created, late, before, after, rfl, -, hstep, hlate, hcreated, -, hunwritten⟩
  · -- nothing has created the record, so nothing can have refused to
    obtain ⟨move, hmove, -, hexchange⟩ := (mem_asked_iff hrun).1 hasked
    cases reply with
    | ok answer =>
      refine absurd (Exchange.written_of_created ?_) (hnone move hmove)
      rw [hexchange]
      exact hcreates
    | error e =>
      obtain ⟨early, late, before, after, rfl, hearly, hstep, -⟩ := hrun.split_of_mem hmove
      have hsame := Unwritten.sameRecord (fun m hm ↦ hnone m (List.mem_append_left _ hm)) hearly
      have hrefused := (hstep.answers hexchange).fails_or_conflict hcreates
      exact absurd (hsame.has_iff.1 (hrefused.resolve_left (hhealthy e)).1) habsent
  · exact ⟨early, created, late, before, after, rfl, hstep, hlate, hcreated, hunwritten⟩

end Healthy

end Broker.Pool

end Brokerage
