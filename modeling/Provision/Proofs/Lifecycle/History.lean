import Provision.Proofs.Lifecycle.Step

/-!
Runs of a service: calls one after another, and what each did, kept latest first. `History` is the
same as a relation, for inductions; every run has one.
-/

set_option autoImplicit false

namespace Provision.Service

open Terraform (Context Executor Exchange)

variable {Args Output σ : Type}

/-- What a call did: the service before it, what passed, the result, and the service after it. -/
structure Entry (Args Output : Type) where
  before : Service Args Output
  call : Call Args
  exchanges : List Exchange
  result : Result Output
  after : Service Args Output

namespace Entry

def succeeded (e : Entry Args Output) : Bool := e.result.isOk

def isInit (e : Entry Args Output) : Bool := e.call.isInit

def target? (e : Entry Args Output) : Option Path :=
  match e.call with
  | .init dir? => some (e.before.target dir?)
  | _ => none

def prepared? (e : Entry Args Output) : Option Path := if e.succeeded then e.target? else none

def attempted (e : Entry Args Output) : Bool := e.call.isCreate && !e.exchanges.isEmpty

def applied (e : Entry Args Output) : Bool := e.call.isCreate && e.succeeded

/-- An apply failed over a created resource. -/
def lost (e : Entry Args Output) : Bool :=
  e.attempted && !e.succeeded && decide (e.before.phase = .created)

def destroyed (e : Entry Args Output) : Bool := e.call.isDestroy && e.succeeded

theorem destroyed_of_applied {e : Entry Args Output} (h : e.applied = true) :
    e.destroyed = false := by
  obtain ⟨s, c, es, r, s'⟩ := e
  cases c <;> simp_all [applied, destroyed, Call.isCreate, Call.creation?, Call.isDestroy]

section Seen

variable (s s' : Service Args Output) (c : Call Args) (es : List Exchange) (r : Result Output)
  (v : Option Output) (f : Failure) (q : Exchange)

@[simp] theorem isInit_mk : (Entry.mk s c es r s').isInit = c.isInit := rfl

@[simp] theorem succeeded_ok : (Entry.mk s c es (.ok v) s').succeeded = true := rfl

@[simp] theorem succeeded_error : (Entry.mk s c es (.error f) s').succeeded = false := rfl

@[simp] theorem attempted_nil : (Entry.mk s c [] r s').attempted = false := by simp [attempted]

@[simp] theorem attempted_cons : (Entry.mk s c (q :: es) r s').attempted = c.isCreate := by
  simp [attempted]

@[simp] theorem applied_ok : (Entry.mk s c es (.ok v) s').applied = c.isCreate := by simp [applied]

@[simp] theorem applied_error : (Entry.mk s c es (.error f) s').applied = false := by simp [applied]

@[simp] theorem lost_nil : (Entry.mk s c [] r s').lost = false := by simp [lost]

@[simp] theorem lost_ok : (Entry.mk s c es (.ok v) s').lost = false := by simp [lost]

@[simp] theorem lost_error :
    (Entry.mk s c (q :: es) (.error f) s').lost = (c.isCreate && decide (s.phase = .created)) := by
  simp [lost]

@[simp] theorem destroyed_ok : (Entry.mk s c es (.ok v) s').destroyed = c.isDestroy := by
  simp [destroyed]

@[simp] theorem destroyed_error : (Entry.mk s c es (.error f) s').destroyed = false := by
  simp [destroyed]

end Seen

end Entry

/-- A service in the middle of a run, its executor's state, and what was done so far. -/
structure Course (Args Output σ : Type) where
  service : Service Args Output
  world : σ
  entries : List (Entry Args Output) := []

namespace Course

def new (kind : ResourceKind Args Output) (settings : Settings) (context : Context) (w : σ) :
    Course Args Output σ :=
  { service := (Service.new kind settings).withContext context, world := w }

def entry (x : Executor σ) (p : Course Args Output σ) (c : Call Args) : Entry Args Output :=
  let v := x.converse (p.service.perform c) p.world
  ⟨p.service, c, v.exchanges, v.result.1, v.result.2⟩

def call (x : Executor σ) (p : Course Args Output σ) (c : Call Args) : Course Args Output σ where
  service := (p.entry x c).after
  world := (x.converse (p.service.perform c) p.world).state
  entries := p.entry x c :: p.entries

def afresh (p : Course Args Output σ) : Course Args Output σ := { p with entries := [] }

def run (x : Executor σ) (p : Course Args Output σ) (calls : List (Call Args)) :
    Course Args Output σ := calls.foldl (call x) p

end Course

/-- The entries lead from one service to the other. -/
inductive History (s₀ : Service Args Output) :
    List (Entry Args Output) → Service Args Output → Prop
  | begin : History s₀ [] s₀
  | step {h : List (Entry Args Output)} {s s' : Service Args Output} {c : Call Args}
      {es : List Exchange} {r : Result Output} (past : History s₀ h s) (last : Step s c es r s') :
      History s₀ (⟨s, c, es, r, s'⟩ :: h) s'

theorem step_converse (x : Executor σ) (s : Service Args Output) (c : Call Args) (w : σ) :
    Step s c (x.converse (s.perform c) w).exchanges (x.converse (s.perform c) w).result.1
      (x.converse (s.perform c) w).result.2 :=
  Terraform.Session.converse_of_ensures x (ensures_perform s c) w

theorem Course.step_entry (x : Executor σ) (p : Course Args Output σ) (c : Call Args) :
    Step p.service c (p.entry x c).exchanges (p.entry x c).result (p.entry x c).after :=
  step_converse x p.service c p.world

/-- A call of a run is a run of its session. -/
theorem Course.run_perform (x : Executor σ) (p : Course Args Output σ) (c : Call Args)
    (t : Terraform.Trace σ) (ht : t.state = p.world) :
    (x.run (p.service.perform c) t).1 = ((p.entry x c).result, (p.entry x c).after) ∧
      (x.run (p.service.perform c) t).2.state = (p.call x c).world ∧
      (x.run (p.service.perform c) t).2.invocations =
        ((p.entry x c).exchanges.map Exchange.invocation).reverse ++ t.invocations := by
  have h := x.run_converse (p.service.perform c) t
  rw [ht] at h
  exact h

theorem History.run {s₀ : Service Args Output} {p : Course Args Output σ} (x : Executor σ)
    (calls : List (Call Args)) (h : History s₀ p.entries p.service) :
    History s₀ (p.run x calls).entries (p.run x calls).service := by
  induction calls generalizing p with
  | nil => exact h
  | cons c calls ih => exact ih (p := p.call x c) (.step h (p.step_entry x c))

theorem history_new (kind : ResourceKind Args Output) (settings : Settings) (context : Context)
    (x : Executor σ) (w : σ) (calls : List (Call Args)) :
    History ((Service.new kind settings).withContext context)
      ((Course.new kind settings context w).run x calls).entries
      ((Course.new kind settings context w).run x calls).service :=
  History.begin.run x calls (p := .new kind settings context w)

/-- Each entry is a step of the service that the entries before it lead to. -/
theorem History.split {s₀ s : Service Args Output} {later earlier : List (Entry Args Output)}
    {e : Entry Args Output} (h : History s₀ (later ++ e :: earlier) s) :
    History s₀ earlier e.before ∧ Step e.before e.call e.exchanges e.result e.after := by
  induction later generalizing s with
  | nil =>
    cases h with
    | step past last => exact ⟨past, last⟩
  | cons a later ih =>
    cases h with
    | step past last => exact ih past

theorem History.resume {s₀ s : Service Args Output} {later earlier : List (Entry Args Output)}
    {e : Entry Args Output} (h : History s₀ (later ++ e :: earlier) s) :
    History e.after later s := by
  induction later generalizing s with
  | nil =>
    cases h with
    | step past last => exact .begin
  | cons a later ih =>
    cases h with
    | step past last => exact .step (ih past) last

theorem History.step_of_mem {s₀ s : Service Args Output} {h : List (Entry Args Output)}
    {e : Entry Args Output} (hh : History s₀ h s) (he : e ∈ h) :
    Step e.before e.call e.exchanges e.result e.after := by
  obtain ⟨later, earlier, rfl⟩ := List.append_of_mem he
  exact hh.split.2

/-- There is a `p`, and no `q` after it. The latest entry comes first. -/
def Stands {α : Type} (p q : α → Bool) (h : List α) : Prop :=
  ∃ later a earlier, h = later ++ a :: earlier ∧ p a = true ∧ ∀ b ∈ later, q b = false

theorem not_stands_nil {α : Type} (p q : α → Bool) : ¬ Stands p q [] := by
  rintro ⟨later, a, earlier, h, -, -⟩
  simp at h

theorem stands_cons {α : Type} {p q : α → Bool} {a : α} {h : List α} :
    Stands p q (a :: h) ↔ p a = true ∨ q a = false ∧ Stands p q h := by
  constructor
  · rintro ⟨later, b, earlier, he, hp, hq⟩
    cases later with
    | nil =>
      obtain ⟨rfl, rfl⟩ := List.cons.inj he
      exact .inl hp
    | cons c later =>
      obtain ⟨rfl, rfl⟩ := List.cons.inj he
      exact .inr ⟨hq a (by simp), later, b, earlier, rfl, hp, fun d hd => hq d (by simp [hd])⟩
  · rintro (hp | ⟨hq, later, b, earlier, rfl, hp, hl⟩)
    · exact ⟨[], a, h, rfl, hp, by simp⟩
    · refine ⟨a :: later, b, earlier, rfl, hp, ?_⟩
      intro d hd
      rcases List.mem_cons.mp hd with rfl | hd
      · exact hq
      · exact hl d hd

theorem Stands.exists_mem {α : Type} {p q : α → Bool} {h : List α} (hs : Stands p q h) :
    ∃ a ∈ h, p a = true := by
  obtain ⟨later, a, earlier, rfl, hp, -⟩ := hs
  exact ⟨a, by simp, hp⟩

def latestInit? (h : List (Entry Args Output)) : Option (Entry Args Output) := h.find? Entry.isInit

def sinceInit (h : List (Entry Args Output)) : List (Entry Args Output) :=
  h.takeWhile fun e => !e.isInit

@[simp] theorem latestInit?_cons (e : Entry Args Output) (h : List (Entry Args Output)) :
    latestInit? (e :: h) = if e.isInit then some e else latestInit? h := by
  unfold latestInit?
  rw [List.find?_cons]
  cases e.isInit <;> rfl

@[simp] theorem sinceInit_cons (e : Entry Args Output) (h : List (Entry Args Output)) :
    sinceInit (e :: h) = if e.isInit then [] else e :: sinceInit h := by
  unfold sinceInit
  rw [List.takeWhile_cons]
  cases e.isInit <;> rfl

end Provision.Service
