import Brokerage.Call
import Brokerage.Proofs.Steps

/-!
Programs by what they ask. An exchange is a question with the reply it was given; a program reaches
another one by a list of exchanges when it asks those questions in that order and, given those
replies, goes on as the other. It ends with a result when it reaches that result. None of this
depends on what answers: the lists a program can reach are all the ways it can go.
-/

set_option autoImplicit false

namespace Brokerage

/-- A question and the reply it was given. -/
structure Exchange {κ : Type} (Reply : κ → Type) where
  question : κ
  reply : Reply question

namespace Program

variable {κ : Type} {Reply : κ → Type} {ε α β : Type}

/-- What a program goes on as after some exchanges. -/
inductive Reaches : Program Reply ε α → List (Exchange Reply) → Program Reply ε α → Prop
  | here (p : Program Reply ε α) : Reaches p [] p
  | ask {question : κ} {next : Reply question → Program Reply ε α} {reply : Reply question}
    {exchanges : List (Exchange Reply)} {p : Program Reply ε α}
    (h : Reaches (next reply) exchanges p) :
    Reaches (.ask question next) (⟨question, reply⟩ :: exchanges) p

/-- The program asks just these questions and ends with this result. -/
def Ends (p : Program Reply ε α) (exchanges : List (Exchange Reply)) (result : Except ε α) :
    Prop :=
  p.Reaches exchanges (.done result)

theorem Reaches.trans {p q r : Program Reply ε α} {first second : List (Exchange Reply)}
    (hpq : p.Reaches first q) (hqr : q.Reaches second r) : p.Reaches (first ++ second) r := by
  induction hpq with
  | here p => exact hqr
  | ask _ ih => exact .ask (ih hqr)

theorem Reaches.snoc {p : Program Reply ε α} {exchanges : List (Exchange Reply)} {question : κ}
    {next : Reply question → Program Reply ε α} (h : p.Reaches exchanges (.ask question next))
    (reply : Reply question) : p.Reaches (exchanges ++ [⟨question, reply⟩]) (next reply) :=
  h.trans (.ask (.here _))

/-- Every program ends, whatever it is told, as long as there is something to tell it. -/
theorem exists_ends [hreply : ∀ question, Nonempty (Reply question)] (p : Program Reply ε α) :
    ∃ exchanges result, p.Ends exchanges result := by
  induction p with
  | done result => exact ⟨[], result, .here _⟩
  | ask question next ih =>
    obtain ⟨reply⟩ := hreply question
    obtain ⟨exchanges, result, h⟩ := ih reply
    exact ⟨⟨question, reply⟩ :: exchanges, result, .ask h⟩

/-- Beside something that has a reply to every question, every program can be run to its end. -/
theorem exists_steps {σ : Type} {step : σ → Exchange Reply → σ → Prop}
    (hreplies : ∀ s question, ∃ reply t, step s ⟨question, reply⟩ t) (p : Program Reply ε α)
    (s : σ) : ∃ exchanges result t, p.Ends exchanges result ∧ Steps step s exchanges t := by
  induction p generalizing s with
  | done result => exact ⟨[], result, s, .here _, .nil s⟩
  | ask question next ih =>
    obtain ⟨reply, t, hstep⟩ := hreplies s question
    obtain ⟨exchanges, result, u, hends, hsteps⟩ := ih reply t
    exact ⟨⟨question, reply⟩ :: exchanges, result, u, .ask hends, .cons hstep hsteps⟩

/-! ### Inversion -/

theorem reaches_done_iff {result : Except ε α} {exchanges : List (Exchange Reply)}
    {p : Program Reply ε α} :
    (done result).Reaches exchanges p ↔ exchanges = [] ∧ p = .done result := by
  constructor
  · intro h
    cases h
    exact ⟨rfl, rfl⟩
  · rintro ⟨rfl, rfl⟩
    exact .here _

@[simp] theorem ends_done_iff {result last : Except ε α} {exchanges : List (Exchange Reply)} :
    (done result : Program Reply ε α).Ends exchanges last ↔ exchanges = [] ∧ last = result := by
  simp [Ends, reaches_done_iff]

@[simp] theorem ends_ask_iff {question : κ} {next : Reply question → Program Reply ε α}
    {exchanges : List (Exchange Reply)} {result : Except ε α} :
    (ask question next).Ends exchanges result ↔
      ∃ reply rest, exchanges = ⟨question, reply⟩ :: rest ∧ (next reply).Ends rest result := by
  constructor
  · intro h
    cases h with
    | ask h => exact ⟨_, _, rfl, h⟩
  · rintro ⟨reply, rest, rfl, h⟩
    exact .ask h

/-! ### Sequences -/

@[simp] theorem ok_bind (x : α) (next : α → Program Reply ε β) :
    (done (.ok x) >>= next) = next x := rfl

@[simp] theorem error_bind (e : ε) (next : α → Program Reply ε β) :
    (done (.error e) >>= next) = done (.error e) := rfl

@[simp] theorem pure_bind (x : α) (next : α → Program Reply ε β) :
    ((pure x : Program Reply ε α) >>= next) = next x := rfl

@[simp] theorem fail_eq_done (e : ε) : (fail e : Program Reply ε α) = done (.error e) := rfl

@[simp] theorem ask_bind {question : κ} (step : Reply question → Program Reply ε α)
    (next : α → Program Reply ε β) :
    (ask question step >>= next) = ask question fun reply ↦ step reply >>= next := rfl

@[simp] theorem orFail_ok {ρ : Type} (wrap : ρ → ε) (x : α) :
    (orFail wrap (.ok x) : Program Reply ε α) = done (.ok x) := rfl

/-! ### Inversion of sequences -/

theorem ends_ofExcept_bind_iff {r : Except ε α} {next : α → Program Reply ε β}
    {exchanges : List (Exchange Reply)} {result : Except ε β} :
    (ofExcept r >>= next).Ends exchanges result ↔
      (∃ e, r = .error e ∧ exchanges = [] ∧ result = .error e) ∨
        ∃ x, r = .ok x ∧ (next x).Ends exchanges result := by
  cases r with
  | error e =>
    show (done (.error e)).Ends exchanges result ↔ _
    simp
  | ok x =>
    show (next x).Ends exchanges result ↔ _
    simp

theorem ends_orFail_bind_iff {ρ : Type} {wrap : ρ → ε} {r : Except ρ α}
    {next : α → Program Reply ε β} {exchanges : List (Exchange Reply)} {result : Except ε β} :
    (orFail wrap r >>= next).Ends exchanges result ↔
      (∃ e, r = .error e ∧ exchanges = [] ∧ result = .error (wrap e)) ∨
        ∃ x, r = .ok x ∧ (next x).Ends exchanges result := by
  cases r with
  | error e =>
    show (done (.error (wrap e))).Ends exchanges result ↔ _
    simp
  | ok x =>
    show (next x).Ends exchanges result ↔ _
    simp

theorem ends_orFail_iff {ρ : Type} {wrap : ρ → ε} {r : Except ρ α}
    {exchanges : List (Exchange Reply)} {result : Except ε α} :
    (orFail wrap r : Program Reply ε α).Ends exchanges result ↔
      (∃ e, r = .error e ∧ exchanges = [] ∧ result = .error (wrap e)) ∨
        ∃ x, r = .ok x ∧ exchanges = [] ∧ result = .ok x := by
  cases r with
  | error e =>
    show (done (.error (wrap e))).Ends exchanges result ↔ _
    simp
  | ok x =>
    show (done (.ok x)).Ends exchanges result ↔ _
    simp

theorem ends_refuseIf_bind_iff {condition : Bool} {e : ε} {next : Unit → Program Reply ε β}
    {exchanges : List (Exchange Reply)} {result : Except ε β} :
    (refuseIf condition e >>= next).Ends exchanges result ↔
      (condition = true ∧ exchanges = [] ∧ result = .error e) ∨
        condition = false ∧ (next ()).Ends exchanges result := by
  cases condition with
  | true =>
    show (done (.error e)).Ends exchanges result ↔ _
    simp
  | false =>
    show (next ()).Ends exchanges result ↔ _
    simp

/-! ### Runs -/

section Run

variable {σ : Type} (respond : σ → (question : κ) → Reply question × σ)

/-- What a run asks, and what it is told. -/
def trace : Program Reply ε α → σ → List (Exchange Reply)
  | .done _, _ => []
  | .ask question next, s =>
    let (reply, after) := respond s question
    ⟨question, reply⟩ :: trace (next reply) after

theorem ends_trace (p : Program Reply ε α) (s : σ) :
    p.Ends (p.trace respond s) (p.run respond s).1 := by
  induction p generalizing s with
  | done result => exact .here _
  | ask question next ih => exact .ask (ih _ _)

/-- Each exchange of a run is one with what responds. -/
theorem steps_trace (p : Program Reply ε α) (s : σ) :
    Steps (fun s x t ↦ respond s x.question = (x.reply, t)) s (p.trace respond s)
      (p.run respond s).2 := by
  induction p generalizing s with
  | done result => exact .nil s
  | ask question next ih => exact .cons (t := (respond s question).2) rfl (ih _ _)

end Run

end Program

/-! ### Exchanges of a call -/

/-- What a call of the broker asked its collaborators, and what it was told. -/
abbrev Dialogue := List (Exchange Action.Reply)

namespace Exchange

/-- An exchange with the record store. -/
abbrev store (q : Store.Request) (reply : q.Reply) : Exchange Action.Reply := ⟨.store q, reply⟩

/-- An exchange with the credential vault. -/
abbrev vault (q : Vault.Request) (reply : q.Reply) : Exchange Action.Reply := ⟨.vault q, reply⟩

/-- An exchange with the provider of a service. -/
abbrev provider (q : Provider.Request) (reply : q.Reply) : Exchange Action.Reply :=
  ⟨.provider q, reply⟩

end Exchange

namespace Call

instance (action : Action) : Nonempty action.Reply := by
  cases action with
  | store q => exact ⟨.error (.backend "")⟩
  | vault q => exact ⟨.error (.request "")⟩
  | provider q => exact ⟨.error (.failed "")⟩

@[simp] theorem store_eq_ask (q : Store.Request) :
    store q = .ask (.store q) fun reply ↦ .done (.ok reply) := rfl

@[simp] theorem vault_eq_ask (q : Vault.Request) :
    vault q = .ask (.vault q) fun reply ↦ .done (.ok reply) := rfl

@[simp] theorem provider_eq_ask (q : Provider.Request) :
    provider q = .ask (.provider q) fun reply ↦ .done (.ok reply) := rfl

end Call

end Brokerage
