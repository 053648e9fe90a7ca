import Provision.Terraform.Runner

/-!
What passes between a session and an executor: the invocations of terraform with their replies.
`run_converse` ties this record to a run of the session. `Ensures` speaks of all replies at once,
under one wording of complaints, and each step of terraform ensures exactly one exchange.
-/

set_option autoImplicit false

namespace Provision.Terraform

structure Exchange where
  invocation : Invocation
  reply : Reply

/-- What passed between a session and an executor, oldest first, the session's result, and the
executor's state after it. -/
structure Conversation (σ α : Type) where
  exchanges : List Exchange
  result : α
  state : σ

variable {σ α β : Type}

def Executor.converse (x : Executor σ) : Session α → σ → Conversation σ α
  | .done a, w => ⟨[], a, w⟩
  | .ask (.log _) next, w => x.converse (next ()) w
  | .ask (.execute i c) next, w =>
    let answer := x.execute i c w
    let rest := x.converse (next answer.1) answer.2
    ⟨⟨i, answer.1⟩ :: rest.exchanges, rest.result, rest.state⟩
  | .ask (.wording sub) next, w => x.converse (next (x.wording sub)) w

/-- A conversation is what a run of the session leaves behind. -/
theorem Executor.run_converse (x : Executor σ) (d : Session α) (t : Trace σ) :
    (x.run d t).1 = (x.converse d t.state).result ∧
      (x.run d t).2.state = (x.converse d t.state).state ∧
      (x.run d t).2.invocations =
        ((x.converse d t.state).exchanges.map Exchange.invocation).reverse ++ t.invocations := by
  induction d generalizing t with
  | done a => exact ⟨rfl, rfl, rfl⟩
  | ask q next ih =>
    cases q with
    | log e => exact ih () { t with events := e :: t.events }
    | execute i c =>
      obtain ⟨h₁, h₂, h₃⟩ := ih (x.execute i c t.state).1
        { t with state := (x.execute i c t.state).2, invocations := i :: t.invocations }
      refine ⟨h₁, h₂, ?_⟩
      simpa [converse, run, Dialogue.run, answer] using h₃
    | wording sub => exact ih (x.wording sub) t

theorem Executor.converse_bind (x : Executor σ) (f : α → Session β) (d : Session α) (w : σ) :
    x.converse (d.bind f) w =
      let v := x.converse d w
      let u := x.converse (f v.result) v.state
      ⟨v.exchanges ++ u.exchanges, u.result, u.state⟩ := by
  induction d generalizing w with
  | done a => rfl
  | ask q next ih =>
    cases q with
    | log e => exact ih () w
    | execute i c => simp only [Dialogue.ask_bind, converse, ih, List.cons_append]
    | wording sub => exact ih (x.wording sub) w

namespace Session

/-- However terraform replies, `P` holds of what passes and of the session's result, if complaints
are worded by `say`. -/
def Ensures (say : Subcommand → Wording) : Session α → (List Exchange → α → Prop) → Prop
  | .done a, P => P [] a
  | .ask (.log _) next, P => Ensures say (next ()) P
  | .ask (.execute i _) next, P => ∀ r, Ensures say (next r) fun es a => P (⟨i, r⟩ :: es) a
  | .ask (.wording sub) next, P => Ensures say (next (say sub)) P

variable {say : Subcommand → Wording}

theorem converse_of_ensures (x : Executor σ) {d : Session α} {P : List Exchange → α → Prop}
    (h : Ensures x.wording d P) (w : σ) : P (x.converse d w).exchanges (x.converse d w).result := by
  induction d generalizing P w with
  | done a => exact h
  | ask q next ih =>
    cases q with
    | log e => exact ih () h w
    | execute i c => exact ih _ (h (x.execute i c w).1) (x.execute i c w).2
    | wording sub => exact ih _ h w

theorem Ensures.imp {d : Session α} {P Q : List Exchange → α → Prop} (h : Ensures say d P)
    (hpq : ∀ es a, P es a → Q es a) : Ensures say d Q := by
  induction d generalizing P Q with
  | done a => exact hpq [] a h
  | ask q next ih =>
    cases q with
    | log e => exact ih () h hpq
    | execute i c => exact fun r => ih r (h r) fun es a => hpq (⟨i, r⟩ :: es) a
    | wording sub => exact ih _ h hpq

@[simp] theorem ensures_done (a : α) (P : List Exchange → α → Prop) :
    Ensures say (.done a) P ↔ P [] a := Iff.rfl

@[simp] theorem ensures_log (e : Event) (P : List Exchange → Unit → Prop) :
    Ensures say (log e) P ↔ P [] () := Iff.rfl

@[simp] theorem ensures_execute (i : Invocation) (c : Context) (P : List Exchange → Reply → Prop) :
    Ensures say (execute i c) P ↔ ∀ r, P [⟨i, r⟩] r := Iff.rfl

@[simp] theorem ensures_wording (sub : Subcommand) (P : List Exchange → Wording → Prop) :
    Ensures say (wording sub) P ↔ P [] (say sub) := Iff.rfl

@[simp] theorem ensures_bind (f : α → Session β) (d : Session α)
    (P : List Exchange → β → Prop) :
    Ensures say (d.bind f) P ↔
      Ensures say d fun es a => Ensures say (f a) fun fs b => P (es ++ fs) b := by
  induction d generalizing P with
  | done a => exact Iff.rfl
  | ask q next ih =>
    cases q with
    | log e => exact ih () P
    | execute i c => exact forall_congr' fun r => ih r _
    | wording sub => exact ih (say sub) P

end Session

section Steps

variable {say : Subcommand → Wording} (ws : Path) (c : Context)

@[simp] theorem ensures_run (sub : Subcommand) (args : List String)
    (P : List Exchange → Reply → Prop) :
    (run sub ws args c).Ensures say P ↔ ∀ r, P [⟨⟨sub, ws, args⟩, r⟩] r := by
  simp only [run, Dialogue.bind_eq, Session.ensures_bind, Session.ensures_log,
    Session.ensures_execute, List.nil_append, List.singleton_append]
  refine forall_congr' fun r => ?_
  cases r with
  | error i => exact Iff.rfl
  | ok out => by_cases h : out.success = true <;> simp [h]

@[simp] theorem ensures_init (P : List Exchange → Except Failure ProcessOutput → Prop) :
    (init ws c).Ensures say P ↔ ∀ r, P [⟨⟨.init, ws, initArgs⟩, r⟩] (completed (.init ws) r) := by
  simp [init]

@[simp] theorem ensures_apply (vars : List String)
    (P : List Exchange → Except Failure ProcessOutput → Prop) :
    (apply ws vars c).Ensures say P ↔
      ∀ r, P [⟨⟨.apply, ws, mutatingArgs vars⟩, r⟩] (completed (.apply ws) r) := by
  simp [apply]

@[simp] theorem ensures_destroy (vars : List String)
    (P : List Exchange → Except Failure ProcessOutput → Prop) :
    (destroy ws vars c).Ensures say P ↔
      ∀ r, P [⟨⟨.destroy, ws, mutatingArgs vars⟩, r⟩] (completed (.destroy ws) r) := by
  simp [destroy]

@[simp] theorem ensures_output (P : List Exchange → Except Failure Outputs → Prop) :
    (output ws c).Ensures say P ↔
      ∀ r, P [⟨⟨.output, ws, queryArgs⟩, r⟩] (outputsOf (say .output) ws r) := by
  simp [output]

@[simp] theorem ensures_show (P : List Exchange → Except Failure StateDocument → Prop) :
    («show» ws c).Ensures say P ↔
      ∀ r, P [⟨⟨.show, ws, queryArgs⟩, r⟩] (stateOf (say .show) ws r) := by
  simp [«show»]

end Steps

/-- The process ran to its end with exit code 0. -/
def Exchange.Granted (q : Exchange) : Prop :=
  match q.reply with
  | .ok out => out.exitCode = 0
  | .error _ => False

instance : DecidablePred Exchange.Granted
  | ⟨_, .ok out⟩ => inferInstanceAs (Decidable (out.exitCode = 0))
  | ⟨_, .error _⟩ => inferInstanceAs (Decidable False)

theorem Exchange.granted_iff {q : Exchange} :
    q.Granted ↔ ∃ out, q.reply = .ok out ∧ out.exitCode = 0 := by
  unfold Granted
  cases q.reply with
  | error i => simp
  | ok out => simp

theorem ProcessOutput.success_iff {out : ProcessOutput} :
    out.success = true ↔ out.exitCode = 0 := beq_iff_eq

theorem completed_ok (failed : String → Failure) (out : ProcessOutput) :
    completed failed (.ok out) =
      if out.exitCode = 0 then .ok out else .error (failed out.combined) := by
  simp only [completed, ProcessOutput.success_iff]

theorem completed_eq_ok_iff {failed : String → Failure} {r : Reply} {out : ProcessOutput} :
    completed failed r = .ok out ↔ r = .ok out ∧ out.exitCode = 0 := by
  cases r with
  | error i => simp [completed]
  | ok o =>
    rw [completed_ok]
    by_cases hx : o.exitCode = 0
    · rw [if_pos hx, Except.ok.injEq, Except.ok.injEq]
      refine ⟨fun h => ⟨h, ?_⟩, And.left⟩
      rwa [← h]
    · rw [if_neg hx]
      refine ⟨nofun, ?_⟩
      rintro ⟨ho, hx'⟩
      cases ho
      exact absurd hx' hx

theorem Exchange.granted_of_completed {q : Exchange} {failed : String → Failure}
    {out : ProcessOutput} (h : completed failed q.reply = .ok out) : q.Granted :=
  granted_iff.mpr ⟨out, completed_eq_ok_iff.mp h⟩

theorem outputsOf_eq_ok_iff {say : Wording} {ws : Path} {r : Reply} {o : Outputs} :
    outputsOf say ws r = .ok o ↔
      ∃ out, (r = .ok out ∧ out.exitCode = 0) ∧ Outputs.parse? out.stdout = some o := by
  unfold outputsOf
  constructor
  · intro h
    split at h
    · cases h
    · rename_i out hc
      refine ⟨out, completed_eq_ok_iff.mp hc, ?_⟩
      split at h
      · rename_i hp
        cases h
        exact hp
      · cases h
  · rintro ⟨out, hr, hp⟩
    rw [completed_eq_ok_iff.mpr hr]
    simp only [hp]

theorem Exchange.granted_of_outputsOf {q : Exchange} {say : Wording} {ws : Path} {o : Outputs}
    (h : outputsOf say ws q.reply = .ok o) : q.Granted := by
  obtain ⟨out, hr, -⟩ := outputsOf_eq_ok_iff.mp h
  exact granted_iff.mpr ⟨out, hr⟩

/-- A failed step is an interruption, or carries what the process left behind. -/
theorem completed_error {failed : String → Failure} {r : Reply} {e : Failure}
    (h : completed failed r = .error e) : (∃ i, e = .interrupted i) ∨ ∃ d, e = failed d := by
  cases r with
  | error i =>
    cases h
    exact .inl ⟨i, rfl⟩
  | ok out =>
    rw [completed_ok] at h
    split at h
    · cases h
    · cases h
      exact .inr ⟨_, rfl⟩

theorem outputsOf_error {say : Wording} {ws : Path} {r : Reply} {e : Failure}
    (h : outputsOf say ws r = .error e) :
    (∃ i, e = .interrupted i) ∨ ∃ d, e = .output .output ws d := by
  unfold outputsOf at h
  split at h
  · rename_i hc
    cases h
    exact completed_error hc
  · split at h
    · cases h
    · cases h
      exact .inr ⟨_, rfl⟩

end Provision.Terraform
