import Brokerage.Proofs.Serving
import Mathlib.Logic.Function.Basic

/-!
Calls under way beside each other. Each has its own dialogue and what it goes on as; they share a
world, and one move lets one of them ask its next question there. Nothing is assumed of the order
of the moves. Whatever a call has asked can be completed to a whole dialogue of its request, so that
what is known of whole calls holds of calls under way.
-/

set_option autoImplicit false

namespace Brokerage.Broker

/-- How far a request has come: what was asked for it, and what it goes on as. -/
structure Progress (q : Request) where
  asked : Dialogue
  rest : Call q.Answer

/-- What the call has returned, if it has. -/
def Progress.result? {q : Request} (progress : Progress q) :
    Option (Except BrokerError q.Answer) :=
  match progress.rest with
  | .done result => some result
  | .ask _ _ => none

theorem Progress.rest_of_result {q : Request} {progress : Progress q}
    {result : Except BrokerError q.Answer} (h : progress.result? = some result) :
    progress.rest = .done result := by
  unfold result? at h
  split at h
  next _ hrest =>
    cases h
    exact hrest
  next => cases h

theorem Progress.rest_of_unreturned {q : Request} {progress : Progress q}
    (h : progress.result? = none) : ∃ question next, progress.rest = .ask question next := by
  unfold result? at h
  split at h
  next => cases h
  next question next hrest => exact ⟨question, next, hrest⟩

/-- Calls under way, one for each request, and the world they share. -/
structure Pool {ι : Type} (requests : ι → Request) where
  calls : (k : ι) → Progress (requests k)
  world : World

/-- One exchange of one call: what the call had asked before, the exchange, and the world after. -/
structure Move (ι : Type) where
  call : ι
  asked : Dialogue
  exchange : Exchange Action.Reply
  after : World

namespace Pool

variable {ι : Type} {requests : ι → Request}

/-- No call has asked anything yet. -/
def start (broker : Broker) (requests : ι → Request) (w : World) : Pool requests where
  calls k := ⟨[], broker.serve (requests k)⟩
  world := w

/-- Every call goes on as what its request has become by its dialogue. -/
def Consistent (broker : Broker) (pool : Pool requests) : Prop :=
  ∀ k, (broker.serve (requests k)).Reaches (pool.calls k).asked (pool.calls k).rest

theorem consistent_start (broker : Broker) (w : World) :
    Consistent broker (start broker requests w) :=
  fun _ ↦ .here _

/-- A call that has returned has had a whole dialogue of its request. -/
theorem Consistent.ends {broker : Broker} {pool : Pool requests}
    (h : Consistent broker pool) {k : ι}
    {result : Except BrokerError (requests k).Answer}
    (hresult : (pool.calls k).result? = some result) :
    (broker.serve (requests k)).Ends (pool.calls k).asked result := by
  have hreaches := h k
  rw [Progress.rest_of_result hresult] at hreaches
  exact hreaches

variable [DecidableEq ι]

/-- The pool after a call was given a reply. -/
def answered (pool : Pool requests) (k : ι) (question : Action)
    (next : question.Reply → Call (requests k).Answer) (reply : question.Reply) (w : World) :
    Pool requests where
  calls := Function.update pool.calls k
    ⟨(pool.calls k).asked ++ [⟨question, reply⟩], next reply⟩
  world := w

/-- One call asks its next question and is given a reply that the setting allows. -/
inductive Step (setting : Setting) (pool : Pool requests) : Move ι → Pool requests → Prop
  | ask {k : ι} {question : Action} {next : question.Reply → Call (requests k).Answer}
    {reply : question.Reply} {w : World} (hrest : (pool.calls k).rest = .ask question next)
    (hallows : setting.Allows pool.world ⟨question, reply⟩ w) :
    Step setting pool ⟨k, (pool.calls k).asked, ⟨question, reply⟩, w⟩
      (pool.answered k question next reply w)

variable {setting : Setting} {pool pool' : Pool requests} {move : Move ι}

theorem Step.world_eq (h : Step setting pool move pool') : pool'.world = move.after := by
  cases h
  rfl

theorem Step.asked_eq (h : Step setting pool move pool') :
    move.asked = (pool.calls move.call).asked := by
  cases h
  rfl

theorem Step.allows (h : Step setting pool move pool') :
    setting.Allows pool.world move.exchange pool'.world := by
  cases h with
  | ask hrest hallows => exact hallows

theorem Step.answers {q : Store.Request} {reply : q.Reply} (h : Step setting pool move pool')
    (hmove : move.exchange = .store q reply) :
    pool.world.store.Answers setting.storeFails q reply pool'.world.store := by
  have hallows := h.allows
  rw [hmove] at hallows
  exact hallows.answers

/-- A move adds its exchange to the dialogue of its call and to no other. -/
theorem Step.asked_after (h : Step setting pool move pool') (k : ι) :
    (pool'.calls k).asked =
      if k = move.call then move.asked ++ [move.exchange] else (pool.calls k).asked := by
  cases h with
  | @ask j question next reply w hrest hallows =>
    by_cases hk : k = j
    · subst hk
      simp [answered]
    · simp [answered, hk]

theorem Step.consistent {broker : Broker} (h : Step setting pool move pool')
    (hpool : Consistent broker pool) : Consistent broker pool' := by
  intro j
  cases h with
  | @ask k question next reply w hrest hallows =>
    by_cases hj : j = k
    · subst hj
      have hasked := (hrest ▸ hpool j).snoc reply
      simpa [answered] using hasked
    · simpa [answered, hj] using hpool j

/-- What a call asks next belongs to a whole dialogue of its request. -/
theorem Step.exists_ends {broker : Broker} (h : Step setting pool move pool')
    (hpool : Consistent broker pool) : ∃ later result,
    (broker.serve (requests move.call)).Ends (move.asked ++ move.exchange :: later) result := by
  cases h with
  | @ask k question next reply w hrest hallows =>
    obtain ⟨later, result, hlater⟩ := (next reply).exists_ends
    have hasked := ((hrest ▸ hpool k).snoc reply).trans hlater
    refine ⟨later, result, ?_⟩
    simpa [Program.Ends] using hasked

theorem consistent_of_steps {broker : Broker} {moves : List (Move ι)}
    (h : Steps (Step setting) pool moves pool') (hpool : Consistent broker pool) :
    Consistent broker pool' :=
  h.preserves (P := Consistent broker) (fun _ _ _ _ hp hstep ↦ hstep.consistent hp) hpool

/-! ### What is asked in a run -/

/-- The exchanges of a run, whosever they are, make of the world what the run makes of it. -/
theorem allows_of_steps {moves : List (Move ι)} (h : Steps (Step setting) pool moves pool') :
    Steps setting.Allows pool.world (moves.map Move.exchange) pool'.world := by
  induction h with
  | nil pool => exact .nil pool.world
  | cons head tail ih => exact .cons head.allows ih

/-- A call adds to its dialogue what it asks in a run. -/
theorem asked_of_steps {moves : List (Move ι)} (h : Steps (Step setting) pool moves pool') (k : ι) :
    (pool'.calls k).asked =
      (pool.calls k).asked ++ (moves.filter fun move ↦ move.call = k).map Move.exchange := by
  induction h with
  | nil pool => simp
  | @cons pool next last move moves head tail ih =>
    rw [ih, head.asked_after]
    by_cases hk : k = move.call
    · rw [if_pos hk, List.filter_cons_of_pos (by simpa using hk.symm), head.asked_eq, hk]
      simp
    · rw [if_neg hk, List.filter_cons_of_neg (by simpa using Ne.symm hk)]

section Start

variable {broker : Broker} {w : World} {moves : List (Move ι)}

theorem mem_asked_iff (h : Steps (Step setting) (start broker requests w) moves pool') {k : ι}
    {x : Exchange Action.Reply} :
    x ∈ (pool'.calls k).asked ↔ ∃ move ∈ moves, move.call = k ∧ move.exchange = x := by
  rw [asked_of_steps h k]
  simp [start, and_assoc]

/-- What a call that has returned asked in a run is a whole dialogue of its request. -/
theorem ends_of_result (h : Steps (Step setting) (start broker requests w) moves pool') {k : ι}
    {result : Except BrokerError (requests k).Answer}
    (hresult : (pool'.calls k).result? = some result) :
    (broker.serve (requests k)).Ends (pool'.calls k).asked result :=
  (consistent_of_steps h (consistent_start broker w)).ends hresult

/-- What a call asks in a run belongs to a whole dialogue of its request. -/
theorem exists_ends_of_mem (h : Steps (Step setting) (start broker requests w) moves pool')
    {move : Move ι} (hmove : move ∈ moves) : ∃ later result,
      (broker.serve (requests move.call)).Ends (move.asked ++ move.exchange :: later) result := by
  obtain ⟨early, before, after, hearly, hstep⟩ := h.exists_of_mem hmove
  exact hstep.exists_ends (consistent_of_steps hearly (consistent_start broker w))

/-- What a call has asked before a move of a run, it has asked in a move of that run. -/
theorem exists_move_of_asked (h : Steps (Step setting) (start broker requests w) moves pool')
    {move : Move ι} (hmove : move ∈ moves) {x : Exchange Action.Reply} (hx : x ∈ move.asked) :
    ∃ earlier ∈ moves, earlier.call = move.call ∧ earlier.exchange = x := by
  obtain ⟨early, late, before, after, rfl, hearly, hstep, -⟩ := h.split_of_mem hmove
  rw [hstep.asked_eq] at hx
  obtain ⟨earlier, hearlier, hcall, hexchange⟩ := (mem_asked_iff hearly).1 hx
  exact ⟨earlier, List.mem_append_left _ hearlier, hcall, hexchange⟩

/-- What only one call asks in a run is read off its dialogue. -/
theorem filter_of_only {p : Exchange Action.Reply → Bool} {k : ι}
    (h : Steps (Step setting) (start broker requests w) moves pool')
    (honly : ∀ move ∈ moves, p move.exchange = true → move.call = k) :
    (moves.filter fun move ↦ p move.exchange).map Move.exchange =
      (pool'.calls k).asked.filter p := by
  have hown : (moves.filter fun move ↦ p move.exchange) =
      (moves.filter fun move ↦ move.call = k).filter fun move ↦ p move.exchange := by
    rw [List.filter_filter]
    refine List.filter_congr fun move hmove ↦ ?_
    cases hp : p move.exchange with
    | true => simp [honly move hmove hp]
    | false => simp
  have hasked : (pool'.calls k).asked =
      (moves.filter fun move ↦ move.call = k).map Move.exchange :=
    asked_of_steps h k
  rw [hown, hasked, List.filter_map]
  rfl

end Start

/-- What a call reads of an instance has the id it was asked for under. -/
theorem id_of_asked {moves : List (Move ι)} (h : Steps (Step setting) pool moves pool')
    (hkeyed : pool.world.store.Keyed) {i : String}
    (hpool : ∀ k record, .store (.getInstance i) (.ok record) ∈ (pool.calls k).asked →
      record.id = i) :
    ∀ k record, .store (.getInstance i) (.ok record) ∈ (pool'.calls k).asked → record.id = i := by
  induction h with
  | nil pool => exact hpool
  | @cons pool next last move moves head tail ih =>
    refine ih (head.allows.keyed hkeyed) fun k record hmem ↦ ?_
    rw [head.asked_after] at hmem
    split at hmem
    next =>
      rcases List.mem_append.1 hmem with hasked | hexchange
      · exact hpool move.call record (head.asked_eq ▸ hasked)
      · have hread := head.answers (List.mem_singleton.1 hexchange).symm
        exact hkeyed.instances i record hread.getInstance_ok
    next => exact hpool k record hmem

/-! ### Scheduled runs -/

section Schedule

variable (now : String) (provider : (q : Provider.Request) → q.Reply)

/-- Lets a call make its next move in a faithful setting, unless it has ended. -/
def advance (k : ι) (pool : Pool requests) : Option (Move ι × Pool requests) :=
  match (pool.calls k).rest with
  | .done _ => none
  | .ask question next =>
    let (reply, w) := pool.world.respond now provider question
    some (⟨k, (pool.calls k).asked, ⟨question, reply⟩, w⟩, pool.answered k question next reply w)

/-- Lets calls move in the order of a schedule. -/
def play : List ι → Pool requests → List (Move ι) × Pool requests
  | [], pool => ([], pool)
  | k :: schedule, pool =>
    match advance now provider k pool with
    | none => play schedule pool
    | some (move, next) =>
      let (moves, last) := play schedule next
      (move :: moves, last)

/-- Whether each call that moves in a schedule may move when it does. -/
def plays (may : Pool requests → ι → Prop) [∀ pool k, Decidable (may pool k)] :
    List ι → Pool requests → Bool
  | [], _ => true
  | k :: schedule, pool =>
    match advance now provider k pool with
    | none => plays may schedule pool
    | some (_, next) => decide (may pool k) && plays may schedule next

theorem step_of_advance {k : ι} {pool next : Pool requests} {move : Move ι}
    (h : advance now provider k pool = some (move, next)) :
    move.call = k ∧ Step (.faithful provider) pool move next := by
  unfold advance at h
  split at h
  next => cases h
  next question rest hrest =>
    cases h
    exact ⟨rfl, .ask hrest (allows_of_respond now provider rfl)⟩

theorem steps_play (may : Pool requests → ι → Prop) [∀ pool k, Decidable (may pool k)]
    (schedule : List ι) (pool : Pool requests) (h : plays now provider may schedule pool = true) :
    Steps (fun p move p' ↦ Step (.faithful provider) p move p' ∧ may p move.call) pool
      (play now provider schedule pool).1 (play now provider schedule pool).2 := by
  induction schedule generalizing pool with
  | nil => exact .nil pool
  | cons k schedule ih =>
    unfold plays at h
    unfold play
    split at h
    next hadvance => exact ih pool h
    next move next hadvance =>
      rw [Bool.and_eq_true, decide_eq_true_iff] at h
      obtain ⟨rfl, hstep⟩ := step_of_advance now provider hadvance
      exact .cons ⟨hstep, h.1⟩ (ih next h.2)

/-- What calls make of their pool in the order of a schedule, when they may all move. -/
theorem steps_of_play (schedule : List ι) (pool : Pool requests) :
    Steps (Step (.faithful provider)) pool (play now provider schedule pool).1
      (play now provider schedule pool).2 := by
  induction schedule generalizing pool with
  | nil => exact .nil pool
  | cons k schedule ih =>
    unfold play
    split
    next => exact ih pool
    next move next hadvance =>
      exact .cons (step_of_advance now provider hadvance).2 (ih next)

end Schedule

end Pool

end Brokerage.Broker
