/-!
Programs that ask. A program asks one thing at a time, goes on with the reply, and ends in a result
or an error. What answers is not part of the program: the same one can be run by itself, beside
others, or against something that misbehaves.
-/

set_option autoImplicit false

namespace Brokerage

inductive Program {κ : Type} (Reply : κ → Type) (ε α : Type) where
  | done (result : Except ε α)
  | ask (question : κ) (next : Reply question → Program Reply ε α)

namespace Program

variable {κ : Type} {Reply : κ → Type} {ε α β : Type}

def fail (error : ε) : Program Reply ε α :=
  .done (.error error)

/-- Goes on after a result; an error ends the program. -/
def andThen (program : Program Reply ε α) (next : α → Program Reply ε β) :
    Program Reply ε β :=
  match program with
  | .done (.ok x) => next x
  | .done (.error e) => .done (.error e)
  | .ask question step => .ask question fun reply ↦ (step reply).andThen next

instance : Monad (Program Reply ε) where
  pure x := .done (.ok x)
  bind := andThen

def ofExcept (result : Except ε α) : Program Reply ε α :=
  .done result

/-- Asks and passes the reply on, whatever it is. -/
def request (question : κ) : Program Reply ε (Reply question) :=
  .ask question fun reply ↦ .done (.ok reply)

/-- The answer of a reply; a refusal ends the program in the given way. -/
def orFail {ρ : Type} (wrap : ρ → ε) : Except ρ α → Program Reply ε α
  | .ok x => .done (.ok x)
  | .error e => fail (wrap e)

/-- Refuses to go on when the condition holds. -/
def refuseIf (condition : Bool) (error : ε) : Program Reply ε Unit :=
  if condition then fail error else .done (.ok ())

/-- Runs a program against something that answers and has a state. -/
def run {σ : Type} (respond : σ → (question : κ) → Reply question × σ) :
    Program Reply ε α → σ → Except ε α × σ
  | .done result, s => (result, s)
  | .ask question next, s =>
    let (reply, after) := respond s question
    run respond (next reply) after

end Program

end Brokerage
