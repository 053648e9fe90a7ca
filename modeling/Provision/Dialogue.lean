/-!
Computations that ask questions and go on with the answers. What answers them is left open: `run`
takes any answerer with a state of its own, and `within` answers the questions of one dialogue by
another.
-/

set_option autoImplicit false

namespace Provision

/-- A computation that ends with a value, or asks a question `q` and goes on with an answer in `A
q`. -/
inductive Dialogue (Q : Type) (A : Q → Type) (α : Type) where
  | done (a : α)
  | ask (q : Q) (next : A q → Dialogue Q A α)

namespace Dialogue

variable {Q : Type} {A : Q → Type} {α β σ : Type}

def bind : Dialogue Q A α → (α → Dialogue Q A β) → Dialogue Q A β
  | .done a, f => f a
  | .ask q next, f => .ask q fun a => (next a).bind f

instance : Monad (Dialogue Q A) where
  pure := .done
  bind := bind

def question (q : Q) : Dialogue Q A (A q) := .ask q .done

def run (answer : (q : Q) → σ → A q × σ) : Dialogue Q A α → σ → α × σ
  | .done a, s => (a, s)
  | .ask q next, s =>
    let (a, s) := answer q s
    (next a).run answer s

def perform {m : Type → Type} [Monad m] (answer : (q : Q) → m (A q)) : Dialogue Q A α → m α
  | .done a => pure a
  | .ask q next => do
    let a ← answer q
    (next a).perform answer

def within {R : Type} {B : R → Type} (answer : (q : Q) → Dialogue R B (A q)) :
    Dialogue Q A α → Dialogue R B α
  | .done a => .done a
  | .ask q next => (answer q).bind fun a => (next a).within answer

@[simp] theorem pure_eq (a : α) : (pure a : Dialogue Q A α) = .done a := rfl

@[simp] theorem bind_eq (d : Dialogue Q A α) (f : α → Dialogue Q A β) : (d >>= f) = d.bind f := rfl

@[simp] theorem done_bind (a : α) (f : α → Dialogue Q A β) : (done a).bind f = f a := rfl

@[simp] theorem ask_bind (q : Q) (next : A q → Dialogue Q A α) (f : α → Dialogue Q A β) :
    (ask q next).bind f = .ask q fun a => (next a).bind f := rfl

@[simp] theorem run_done (answer : (q : Q) → σ → A q × σ) (a : α) (s : σ) :
    (done a).run answer s = (a, s) := rfl

@[simp] theorem run_ask (answer : (q : Q) → σ → A q × σ) (q : Q) (next : A q → Dialogue Q A α)
    (s : σ) : (ask q next).run answer s = (next (answer q s).1).run answer (answer q s).2 := rfl

theorem run_bind (answer : (q : Q) → σ → A q × σ) (f : α → Dialogue Q A β) :
    ∀ (d : Dialogue Q A α) (s : σ),
      (d.bind f).run answer s = (f (d.run answer s).1).run answer (d.run answer s).2
  | .done _, _ => rfl
  | .ask q next, s => run_bind answer f (next (answer q s).1) (answer q s).2

theorem bind_done : ∀ d : Dialogue Q A α, d.bind .done = d
  | .done _ => rfl
  | .ask q next => congrArg (ask q) (funext fun a => bind_done (next a))

theorem bind_assoc {γ : Type} (f : α → Dialogue Q A β) (g : β → Dialogue Q A γ) :
    ∀ d : Dialogue Q A α, (d.bind f).bind g = d.bind fun a => (f a).bind g
  | .done _ => rfl
  | .ask q next => congrArg (ask q) (funext fun a => bind_assoc f g (next a))

end Dialogue
end Provision
