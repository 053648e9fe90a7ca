import Provision.Terraform.Script

/-!
What a script answers over any sequence of operations. Nothing that waits in a queue is lost, given
out twice or overtaken, and a subcommand hears of its own operations only.
-/

set_option autoImplicit false

namespace Provision.Terraform.Script

inductive Op where
  | push (c : Subcommand) (o : ProcessOutput)
  | respondWith (c : Subcommand) (f : Invocation → ProcessOutput)
  | execute (i : Invocation) (limits : Context)

namespace Op

def subcommand : Op → Subcommand
  | push c _ => c
  | respondWith c _ => c
  | execute i _ => i.subcommand

def response? (c : Subcommand) : Op → Option ProcessOutput
  | push d o => if d = c then some o else none
  | respondWith _ _ => none
  | execute _ _ => none

def responder? (c : Subcommand) : Op → Option (Invocation → ProcessOutput)
  | push _ _ => none
  | respondWith d f => if d = c then some f else none
  | execute _ _ => none

def invocation? : Op → Option Invocation
  | push _ _ => none
  | respondWith _ _ => none
  | execute i _ => some i

end Op

structure Turn where
  met : Script
  invocation : Invocation
  reply : Reply

variable {s t : Script} {c : Subcommand}

def step (s : Script) : Op → Script
  | .push c o => s.push c o
  | .respondWith c f => s.respondWith c f
  | .execute i limits => (executor.execute i limits s).2

def turn? (s : Script) : Op → Option Turn
  | .push _ _ => none
  | .respondWith _ _ => none
  | .execute i limits => some ⟨s, i, (executor.execute i limits s).1⟩

def run (s : Script) (ops : List Op) : Script := ops.foldl step s

def turns (s : Script) : List Op → List Turn
  | [] => []
  | op :: ops => (s.turn? op).toList ++ turns (s.step op) ops

/-- What the executions of a subcommand were answered while its queue held a response. -/
def delivered (c : Subcommand) (ts : List Turn) : List Reply :=
  (ts.filter fun t => t.invocation.subcommand = c ∧ t.met.queue c ≠ []).map Turn.reply

def fallback (f? : Option (Invocation → ProcessOutput)) (i : Invocation) : ProcessOutput :=
  (f?.map fun f => f i).getD ⟨i.subcommand, 0, "", ""⟩

theorem execute_eq (s : Script) (i : Invocation) :
    s.execute i =
      ((s.queue i.subcommand).head?.getD (fallback (s.responder i.subcommand) i),
        { s with
          queue := fun d => if d = i.subcommand then (s.queue d).tail else s.queue d
          calls := s.calls ++ [i] }) := by
  cases hq : s.queue i.subcommand with
  | nil =>
    have hk : (fun d => if d = i.subcommand then (s.queue d).tail else s.queue d) = s.queue := by
      funext d
      by_cases hd : d = i.subcommand <;> simp [hd, hq]
    cases hr : s.responder i.subcommand <;> simp [execute, fallback, hq, hr, hk, ProcessOutput.ok]
  | cons o os =>
    have hk : (fun d => if d = i.subcommand then os else s.queue d) =
        fun d => if d = i.subcommand then (s.queue d).tail else s.queue d := by
      funext d
      by_cases hd : d = i.subcommand <;> simp [hd, hq]
    simp [execute, hq, hk]

section Steps

variable (s : Script) (c : Subcommand) (o : ProcessOutput) (f : Invocation → ProcessOutput)
  (i : Invocation) (limits : Context)

@[simp] theorem step_push : s.step (.push c o) = s.push c o := rfl

@[simp] theorem step_respondWith : s.step (.respondWith c f) = s.respondWith c f := rfl

@[simp] theorem reply_execute :
    (executor.execute i limits s).1 =
      .ok ((s.queue i.subcommand).head?.getD (fallback (s.responder i.subcommand) i)) := by
  simp [executor, execute_eq]

@[simp] theorem step_execute :
    s.step (.execute i limits) =
      { s with
        queue := fun d => if d = i.subcommand then (s.queue d).tail else s.queue d
        calls := s.calls ++ [i] } := by
  simp [step, executor, execute_eq]

@[simp] theorem run_nil : s.run [] = s := rfl

@[simp] theorem run_cons (op : Op) (ops : List Op) : s.run (op :: ops) = (s.step op).run ops := rfl

theorem calls_step (op : Op) : (s.step op).calls = s.calls ++ op.invocation?.toList := by
  cases op <;> simp [push, respondWith, Op.invocation?]

theorem responder_step (op : Op) :
    (s.step op).responder c = (op.responder? c).or (s.responder c) := by
  cases op with
  | push d o => simp [push, Op.responder?]
  | respondWith d f => by_cases hd : c = d <;> simp [respondWith, Op.responder?, hd, eq_comm]
  | execute i limits => simp [Op.responder?]

/-- What one operation gives out and leaves in the queue is what it found there and pushed. -/
theorem delivered_step (op : Op) :
    delivered c (s.turn? op).toList ++ ((s.step op).queue c).map .ok =
      (s.queue c ++ (op.response? c).toList).map .ok := by
  cases op with
  | push d o =>
    by_cases hd : d = c
    · simp [delivered, turn?, push, Op.response?, hd]
    · simp [delivered, turn?, push, Op.response?, hd, Ne.symm hd]
  | respondWith d f => simp [delivered, turn?, respondWith, Op.response?]
  | execute i limits =>
    by_cases hd : i.subcommand = c
    · subst hd
      cases hq : s.queue i.subcommand <;> simp [delivered, turn?, Op.response?, hq]
    · simp [delivered, turn?, Op.response?, hd, Ne.symm hd]

end Steps

theorem delivered_append (ts us : List Turn) :
    delivered c (ts ++ us) = delivered c ts ++ delivered c us := by
  simp [delivered]

theorem delivered_turns (s : Script) (c : Subcommand) (ops : List Op) :
    delivered c (s.turns ops) ++ ((s.run ops).queue c).map .ok =
      (s.queue c ++ ops.filterMap (Op.response? c)).map .ok := by
  -- what waits at the start counts as pushed, as the script moves with the first operation
  induction ops generalizing s with
  | nil => simp [turns, delivered]
  | cons op ops ih =>
    have hs : (op :: ops).filterMap (Op.response? c) =
        (op.response? c).toList ++ ops.filterMap (Op.response? c) := by
      cases h : op.response? c <;> simp [h]
    calc delivered c (s.turns (op :: ops)) ++ ((s.run (op :: ops)).queue c).map .ok
        = delivered c (s.turn? op).toList ++
            (delivered c ((s.step op).turns ops) ++ (((s.step op).run ops).queue c).map .ok) := by
          simp [turns, delivered_append]
      _ = delivered c (s.turn? op).toList ++ ((s.step op).queue c).map .ok ++
            (ops.filterMap (Op.response? c)).map .ok := by
          simp [ih]
      _ = (s.queue c ++ (op :: ops).filterMap (Op.response? c)).map .ok := by
          simp [delivered_step, hs]

theorem turns_append (s : Script) (ops ops' : List Op) :
    s.turns (ops ++ ops') = s.turns ops ++ (s.run ops).turns ops' := by
  induction ops generalizing s with
  | nil => rfl
  | cons op ops ih => simp [turns, ih]

theorem responder_run (s : Script) (c : Subcommand) (ops : List Op) :
    (s.run ops).responder c = (ops.reverse.findSome? (Op.responder? c)).or (s.responder c) := by
  induction ops generalizing s with
  | nil => rfl
  | cons op ops ih => simp [ih, responder_step, List.findSome?_append, Option.or_assoc]

theorem calls_run (s : Script) (ops : List Op) :
    (s.run ops).calls = s.calls ++ ops.filterMap Op.invocation? := by
  induction ops generalizing s with
  | nil => simp
  | cons op ops ih => cases h : op.invocation? <;> simp [ih, calls_step, h]

/-- The scripts are the same as far as one subcommand can tell. -/
structure Agree (c : Subcommand) (s t : Script) : Prop where
  queue : s.queue c = t.queue c
  responder : s.responder c = t.responder c
  callsOf : s.callsOf c = t.callsOf c

namespace Agree

theorem step (h : Agree c s t) (op : Op) : Agree c (s.step op) (t.step op) := by
  obtain ⟨hq, hr, hc⟩ := h
  unfold Script.callsOf at hc
  refine ⟨?_, ?_, ?_⟩
  · cases op <;> simp [push, respondWith, hq]
  · simp [responder_step, hr]
  · simp [Script.callsOf, calls_step, hc]

theorem of_step {op : Op} (h : Agree c s t) (ho : op.subcommand ≠ c) : Agree c (s.step op) t := by
  obtain ⟨hq, hr, hc⟩ := h
  unfold Script.callsOf at hc
  cases op with
  | push d o =>
    have hd : c ≠ d := fun h => ho h.symm
    exact ⟨by simp [push, hd, hq], hr, hc⟩
  | respondWith d f =>
    have hd : c ≠ d := fun h => ho h.symm
    exact ⟨hq, by simp [respondWith, hd, hr], hc⟩
  | execute i limits =>
    have hd : i.subcommand ≠ c := ho
    exact ⟨by simp [hd.symm, hq], by simp [hr], by simp [Script.callsOf, hd, hc]⟩

theorem run (h : Agree c s t) (ops : List Op) :
    Agree c (s.run ops) (t.run (ops.filter fun op => op.subcommand = c)) := by
  induction ops generalizing s t with
  | nil => exact h
  | cons op ops ih =>
    by_cases ho : op.subcommand = c
    · simpa [ho] using ih (h.step op)
    · simpa [ho] using ih (h.of_step ho)

end Agree

def heard (c : Subcommand) (ts : List Turn) : List (Invocation × Reply) :=
  (ts.filter fun t => t.invocation.subcommand = c).map fun t => (t.invocation, t.reply)

theorem heard_append (ts us : List Turn) : heard c (ts ++ us) = heard c ts ++ heard c us := by
  simp [heard]

theorem heard_step_of_ne (s : Script) {op : Op} (ho : op.subcommand ≠ c) :
    heard c (s.turn? op).toList = [] := by
  cases op with
  | push d o => rfl
  | respondWith d f => rfl
  | execute i limits =>
    have hd : i.subcommand ≠ c := ho
    simp [heard, turn?, hd]

theorem Agree.heard_step (h : Agree c s t) {op : Op} (ho : op.subcommand = c) :
    heard c (s.turn? op).toList = heard c (t.turn? op).toList := by
  cases op with
  | push d o => rfl
  | respondWith d f => rfl
  | execute i limits =>
    have hd : i.subcommand = c := ho
    simp [heard, turn?, hd, h.queue, h.responder]

theorem Agree.heard_turns (h : Agree c s t) (ops : List Op) :
    heard c (s.turns ops) = heard c (t.turns (ops.filter fun op => op.subcommand = c)) := by
  induction ops generalizing s t with
  | nil => rfl
  | cons op ops ih =>
    by_cases ho : op.subcommand = c
    · simp [turns, heard_append, ho, h.heard_step ho, ih (h.step op)]
    · simp [turns, heard_append, ho, heard_step_of_ne s ho, ih (h.of_step ho)]

theorem invocations_turns (s : Script) (ops : List Op) :
    (s.turns ops).map Turn.invocation = ops.filterMap Op.invocation? := by
  induction ops generalizing s with
  | nil => rfl
  | cons op ops ih => cases op <;> simp [turns, turn?, List.filterMap_cons, Op.invocation?, ih]

theorem turns_execute (s : Script) (earlier later : List Op) (i : Invocation) (limits : Context) :
    let met := s.run earlier
    s.turns (earlier ++ .execute i limits :: later) =
      s.turns earlier ++ ⟨met, i, (executor.execute i limits met).1⟩ ::
        (met.step (.execute i limits)).turns later := by
  rw [turns_append]
  rfl

theorem reply_cases (s : Script) (i : Invocation) (limits : Context) :
    ∃ o, (executor.execute i limits s).1 = .ok o ∧
      (s.queue i.subcommand = o :: (s.step (.execute i limits)).queue i.subcommand ∨
        s.queue i.subcommand = [] ∧ (s.step (.execute i limits)).queue i.subcommand = [] ∧
          o = fallback (s.responder i.subcommand) i) := by
  refine ⟨_, reply_execute s i limits, ?_⟩
  cases hq : s.queue i.subcommand <;> simp [hq]

/-- Over any sequence of operations on a new script: what the executions of a subcommand were
given from its queue and what still waits there are the responses pushed for it, in their order. An
execution is answered from the queue if that holds any, then by the latest responder, then by an
empty success. What a subcommand hears and leaves is that of its own operations alone. Every
invocation is recorded in order. -/
theorem answers_of_run (ops : List Op) :
    let s := run .empty ops
    let ts := turns .empty ops
    (∀ c, delivered c ts ++ (s.queue c).map .ok = (ops.filterMap (Op.response? c)).map .ok) ∧
    (∀ earlier i limits later, ops = earlier ++ .execute i limits :: later →
      let met := run .empty earlier
      let next := met.step (.execute i limits)
      let f? := earlier.reverse.findSome? (Op.responder? i.subcommand)
      ∃ o, ts = turns .empty earlier ++ ⟨met, i, .ok o⟩ :: next.turns later ∧
        (met.queue i.subcommand = o :: next.queue i.subcommand ∨
          met.queue i.subcommand = [] ∧ next.queue i.subcommand = [] ∧
            o = (f?.map fun f => f i).getD ⟨i.subcommand, 0, "", ""⟩)) ∧
    (∀ c, let own := ops.filter fun op => op.subcommand = c
      Agree c s (run .empty own) ∧ heard c ts = heard c (turns .empty own)) ∧
    s.calls = ts.map Turn.invocation ∧
    s.calls = ops.filterMap Op.invocation? ∧
    ∀ c, s.callsOf c = s.calls.filter (fun i => i.subcommand = c) ∧
      (s.callsOf c).Sublist s.calls := by
  intro s ts
  have hc : s.calls = ops.filterMap Op.invocation? := calls_run empty ops
  refine ⟨fun c => delivered_turns empty c ops, ?_, ?_, ?_, hc, ?_⟩
  · intro earlier i limits later hops met next f?
    have hf : met.responder i.subcommand = f? := by
      rw [responder_run empty i.subcommand earlier]
      exact Option.or_none
    obtain ⟨o, hr, ho⟩ := met.reply_cases i limits
    rw [hf] at ho
    subst hops
    exact ⟨o, hr ▸ turns_execute empty earlier later i limits, ho⟩
  · intro c own
    have h : Agree c empty empty := ⟨rfl, rfl, rfl⟩
    exact ⟨h.run ops, h.heard_turns ops⟩
  · rw [hc]
    exact (invocations_turns empty ops).symm
  · intro c
    exact ⟨rfl, List.filter_sublist⟩

example :
    let i : Invocation := ⟨.apply, ⟨"/ws"⟩, []⟩
    let limits : Context := ⟨none, false⟩
    let ops := [.push .apply ⟨.apply, 1, "", "first"⟩,
      .respondWith .apply fun i => .ok .apply i.workspace.text,
      .execute i limits, .execute i limits, .execute { i with subcommand := .init } limits]
    (turns .empty ops).map Turn.reply =
      [.ok ⟨.apply, 1, "", "first"⟩, .ok (.ok .apply "/ws"), .ok (.ok .init "")] := rfl

end Provision.Terraform.Script
