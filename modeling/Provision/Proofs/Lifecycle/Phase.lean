import Provision.Proofs.Lifecycle.Requests

set_option autoImplicit false

namespace Provision.Service

open Terraform (Context Executor Exchange)

variable {Args Output : Type} {s₀ s s' : Service Args Output} {h : List (Entry Args Output)}

def Entry.decisive (e : Entry Args Output) : Bool := e.attempted || e.destroyed

theorem preparedDir?_eq_none_iff : preparedDir? h = none ↔
    latestInit? h = none ∨ ∃ e, latestInit? h = some e ∧ e.succeeded = false := by
  unfold preparedDir?
  cases he : latestInit? h with
  | none => simp
  | some e =>
    have hi : e.isInit = true := List.find?_some he
    obtain ⟨s, c, es, r, s'⟩ := e
    cases c <;> simp [Call.isInit, Entry.prepared?, Entry.target?] at hi ⊢

theorem History.latestInit?_call (hh : History s₀ h s) {e : Entry Args Output}
    (he : latestInit? h = some e) : ∃ dir?, e.call = .init dir? ∧
      e.target? = some (dir?.getD (s₀.kind.defaultDir s₀.settings)) := by
  obtain ⟨later, earlier, rfl⟩ := List.append_of_mem (List.mem_of_find?_eq_some he)
  obtain ⟨hk, hs, -⟩ := hh.split.1.setup_eq
  have hi : e.isInit = true := List.find?_some he
  obtain ⟨b, c, es, r, a⟩ := e
  cases c with
  | init dir? =>
    refine ⟨dir?, rfl, ?_⟩
    simp only at hk hs
    rw [← hk, ← hs]
    rfl
  | _ => cases hi

/-- A phase that no init leads to stands from a call that enters it until a call that leaves it. -/
theorem History.phase_eq_iff {f : Phase} {p q : Entry Args Output → Bool}
    (hi : f ≠ .initialized) (hu : f ≠ .uninitialized)
    (hn : ∀ e : Entry Args Output, e.isInit = false →
      (e.next e.before.phase = f ↔ p e = true ∨ q e = false ∧ e.before.phase = f))
    (hh : History s₀ h s) (h₀ : preparedDir? h ≠ none) :
    s.phase = f ↔ Stands p q (sinceInit h) := by
  induction hh with
  | begin => exact absurd rfl h₀
  | @step h s s' c es r past last ih =>
    rw [last.phase_eq, sinceInit_cons]
    cases hc : Entry.isInit ⟨s, c, es, r, s'⟩ with
    | true =>
      -- an init, whether it succeeds or not, ends what stood before it
      simp only [Entry.next, hc, if_true, not_stands_nil, iff_false]
      split
      · exact hi.symm
      · exact hu.symm
    | false =>
      have hp : preparedDir? h ≠ none := by simpa [preparedDir?, hc] using h₀
      rw [if_neg Bool.false_ne_true, stands_cons, ← ih hp]
      exact hn ⟨s, c, es, r, s'⟩ hc

theorem Entry.next_created_iff (e : Entry Args Output) (he : e.isInit = false) :
    e.next e.before.phase = .created ↔
      e.applied = true ∨ e.decisive = false ∧ e.before.phase = .created := by
  unfold next decisive
  cases e.applied with
  | true => simp [he]
  | false =>
    cases e.destroyed with
    | true => simp [he]
    | false => by_cases hp : e.before.phase = .created <;> cases e.attempted <;> simp [he, hp]

theorem Entry.next_destroyed_iff (e : Entry Args Output) (he : e.isInit = false) :
    e.next e.before.phase = .destroyed ↔
      e.destroyed = true ∨ e.applied = false ∧ e.before.phase = .destroyed := by
  unfold next
  cases ha : e.applied with
  | true => simp [he, destroyed_of_applied ha]
  | false =>
    cases e.destroyed with
    | true => simp [he]
    | false => by_cases hp : e.before.phase = .created <;> cases e.attempted <;> simp [he, hp]

/-- Only an init, an apply that was issued and a successful destroy move the phase. -/
theorem Step.phase_unchanged {c : Call Args} {es : List Exchange} {r : Result Output}
    (hs : Step s c es r s')
    (hq : es = [] ∨ c.isDestroy = true ∧ Entry.succeeded ⟨s, c, es, r, s'⟩ = false ∨ c = .output) :
    s'.phase = s.phase := by
  cases hs with
  | initialized _ => simp [Call.isDestroy] at hq
  | uninitialized _ => simp [Call.isDestroy] at hq
  | applied hc _ _ _ =>
    rcases hq with hq | ⟨hd, -⟩ | rfl
    · cases hq
    · simp [Call.isDestroy_of_creation hc] at hd
    · cases hc
  | unapplied hc _ _ _ =>
    rcases hq with hq | ⟨hd, -⟩ | rfl
    · cases hq
    · simp [Call.isDestroy_of_creation hc] at hd
    · cases hc
  | destroyed _ _ _ _ => simp at hq
  | _ => rfl

/-- The phase of any service after any run is a function of what was seen of the run; that a call
succeeded is seen from the exit code. -/
theorem phase_of_history (kind : ResourceKind Args Output) (settings : Settings)
    (context : Context) {σ : Type} (x : Executor σ) (w : σ) (calls : List (Call Args)) :
    let p := (Course.new kind settings context w).run x calls
    let s := p.service
    let recent := sinceInit p.entries
    (s.phase = .uninitialized ↔
      latestInit? p.entries = none ∨
        ∃ e, latestInit? p.entries = some e ∧ e.succeeded = false) ∧
    (s.dir = none ↔ s.phase = .uninitialized) ∧
    (∀ e, latestInit? p.entries = some e → e.succeeded = true →
      (∃ dir?, e.call = .init dir? ∧ s.dir = some (dir?.getD (kind.defaultDir settings))) ∧
      (s.phase = .created ↔ Stands Entry.applied Entry.decisive recent) ∧
      (s.phase = .destroyed ↔ Stands Entry.destroyed Entry.applied recent) ∧
      (s.phase = .initialized ↔
        ¬ Stands Entry.applied Entry.decisive recent ∧
          ¬ Stands Entry.destroyed Entry.applied recent)) ∧
    (∀ e ∈ p.entries,
      e.exchanges = [] ∨ e.call.isDestroy = true ∧ e.succeeded = false ∨ e.call = .output →
        e.after.phase = e.before.phase) ∧
    (∀ e ∈ p.entries,
      e.succeeded = true ↔ ∃ q out, e.exchanges = [q] ∧ q.reply = .ok out ∧ out.exitCode = 0 ∧
        (e.call = .output → Outputs.parse? out.stdout ≠ none)) ∧
    ∀ {τ : Type} (y : Executor τ) (v : τ),
      (s.phase = .created → (y.converse (s.perform .output) v).exchanges ≠ []) ∧
      ((y.converse (s.perform .output) v).exchanges ≠ [] ↔
        s.dir ≠ none ∧ Stands Entry.applied Entry.lost p.entries) := by
  intro p s recent
  have hh : History _ p.entries s := history_new kind settings context x w calls
  have hi : Sound s := hh.sound (sound_new kind settings context)
  have hd : s.dir = preparedDir? p.entries := hh.dir_eq rfl
  have ha : s.applied = true ↔ Stands Entry.applied Entry.lost p.entries := hh.applied_iff rfl
  refine ⟨?_, hi.dir_eq_none, ?_, ?_, fun e he => (hh.step_of_mem he).succeeded_iff, ?_⟩
  · rw [← hi.dir_eq_none, hd, preparedDir?_eq_none_iff]
  · intro e he hs
    obtain ⟨dir?, hc, ht⟩ := hh.latestInit?_call he
    have hp : preparedDir? p.entries = some (dir?.getD (kind.defaultDir settings)) := by
      simp only [preparedDir?, he, Option.bind_some, Entry.prepared?, hs, if_true, ht]
      rfl
    have hn : preparedDir? p.entries ≠ none := by simp [hp]
    have hcreated := hh.phase_eq_iff (f := .created) (by decide) (by decide)
      Entry.next_created_iff hn
    have hdestroyed := hh.phase_eq_iff (f := .destroyed) (by decide) (by decide)
      Entry.next_destroyed_iff hn
    refine ⟨⟨dir?, hc, hd.trans hp⟩, hcreated, hdestroyed, ?_⟩
    rw [← hcreated, ← hdestroyed]
    have hu : s.phase ≠ .uninitialized := by rw [Ne, ← hi.dir_eq_none, hd]; exact hn
    cases hs' : s.phase <;> simp_all
  · intro e he hq
    exact (hh.step_of_mem he).phase_unchanged hq
  · intro τ y v
    have ho := (step_converse y s .output v).output_issued_iff
    rw [hi.workspace?_eq_dir, ha] at ho
    refine ⟨fun hp => ?_, ho⟩
    rw [ho, ← ha]
    refine ⟨?_, hi.applied_of_created hp⟩
    rw [Ne, hi.dir_eq_none, hp]
    decide

end Provision.Service
