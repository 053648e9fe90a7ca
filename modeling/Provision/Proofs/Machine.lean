import Provision.Machine

/-!
What a program does to the machine that it runs on, apart from its log: requests with their answers.
`deeds_of_ensures` ties what holds of all answers to a run against any machine.
-/

set_option autoImplicit false

namespace Provision.Machine

variable {σ α β : Type}

inductive Deed where
  | saw (p : Path) (there : Bool)
  | made (p : Path) (r : Except Fault Unit)
  | spawned (c : Command) (r : Except Fault Ending)
  | fetched (q : Http.Request) (r : Except String Http.Response)

def Request.deed? : (q : Request) → q.Answer → Option Deed
  | .log _, _ | .wording _, _ => none
  | .isDirectory p, there => some (.saw p there)
  | .makeDirectories p, r => some (.made p r)
  | .spawn c, r => some (.spawned c r)
  | .fetch q, r => some (.fetched q r)

namespace Work

def deeds (answer : (q : Request) → σ → q.Answer × σ) : Work α → σ → List Deed
  | .done _, _ => []
  | .ask q next, w =>
    (q.deed? (answer q w).1).toList ++ deeds answer (next (answer q w).1) (answer q w).2

/-- However the machine answers, `P` holds of what is done and of the result. -/
def Ensures : Work α → (List Deed → α → Prop) → Prop
  | .done a, P => P [] a
  | .ask q next, P => ∀ r, Ensures (next r) fun ds a => P ((q.deed? r).toList ++ ds) a

theorem deeds_of_ensures {d : Work α} {P : List Deed → α → Prop} (h : Ensures d P)
    (answer : (q : Request) → σ → q.Answer × σ) (w : σ) :
    P (deeds answer d w) (d.run answer w).1 := by
  induction d generalizing P w with
  | done a => exact h
  | ask q next ih => exact ih (answer q w).1 (h (answer q w).1) (answer q w).2

theorem Ensures.imp {d : Work α} {P Q : List Deed → α → Prop} (h : Ensures d P)
    (hpq : ∀ ds a, P ds a → Q ds a) : Ensures d Q := by
  induction d generalizing P Q with
  | done a => exact hpq [] a h
  | ask q next ih => exact fun r => ih r (h r) fun ds a => hpq _ a

@[simp] theorem ensures_done (a : α) (P : List Deed → α → Prop) :
    Ensures (.done a) P ↔ P [] a := Iff.rfl

@[simp] theorem ensures_log (e : Event) (P : List Deed → Unit → Prop) :
    Ensures (log e) P ↔ P [] () := ⟨fun h => h (), fun h _ => h⟩

@[simp] theorem ensures_makeDirectories (p : Path) (P : List Deed → Except Fault Unit → Prop) :
    Ensures (makeDirectories p) P ↔ ∀ r, P [.made p r] r := Iff.rfl

@[simp] theorem ensures_spawn (c : Command) (P : List Deed → Except Fault Ending → Prop) :
    Ensures (spawn c) P ↔ ∀ r, P [.spawned c r] r := Iff.rfl

@[simp] theorem ensures_fetch (q : Http.Request)
    (P : List Deed → Except String Http.Response → Prop) :
    Ensures (fetch q) P ↔ ∀ r, P [.fetched q r] r := Iff.rfl

@[simp] theorem ensures_wording (origin : String) (P : List Deed → Wording → Prop) :
    Ensures (wording origin) P ↔ ∀ say, P [] say := Iff.rfl

@[simp] theorem ensures_bind (f : α → Work β) (d : Work α) (P : List Deed → β → Prop) :
    Ensures (d.bind f) P ↔ Ensures d fun ds a => Ensures (f a) fun es b => P (ds ++ es) b := by
  induction d generalizing P with
  | done a => exact Iff.rfl
  | ask q next ih =>
    refine forall_congr' fun r => ?_
    simp only [ih, List.append_assoc]

end Work
end Provision.Machine
