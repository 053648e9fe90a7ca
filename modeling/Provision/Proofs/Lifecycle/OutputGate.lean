import Provision.Kind.Cluster
import Provision.Proofs.Lifecycle.Requests
import Provision.Terraform.Script

set_option autoImplicit false

namespace Provision.Service

open Terraform (Context Executor Exchange Script)

variable {Args Output σ : Type} {s₀ s s' : Service Args Output} {h : List (Entry Args Output)}

theorem History.not_applied (hh : History s₀ h s) (h₀ : s₀.applied = false)
    (hn : ∀ e ∈ h, e.applied = false) : s.applied = false := by
  cases ha : s.applied with
  | false => rfl
  | true =>
    obtain ⟨e, he, hp⟩ := ((hh.applied_iff h₀).mp ha).exists_mem
    rw [hn e he] at hp
    cases hp

/-- A failed create takes a standing success away exactly if it is an apply over a created
resource. -/
theorem Step.applied_of_failed {c : Call Args} {es : List Exchange} {r : Result Output}
    (hs : Step s c es r s') (hc : c.isCreate = true)
    (hf : Entry.succeeded ⟨s, c, es, r, s'⟩ = false) :
    s'.applied = false ↔ s.applied = false ∨ s.phase = .created ∧ es ≠ [] := by
  rw [hs.applied_eq]
  simp only [Entry.applied, Entry.lost, Entry.attempted, hc, hf]
  cases es <;> by_cases hp : s.phase = .created <;> simp [hp]

/-- From a call on, outputs are refused for as long as no create succeeds. -/
def Course.ClosesOutputs (x : Executor σ) (p : Course Args Output σ) (c : Call Args) : Prop :=
  ∀ later, (∀ e ∈ ((p.call x c).afresh.run x later).entries, e.applied = false) →
    ((p.call x c).afresh.run x later).service.Refuses .output

theorem Course.closesOutputs_iff (x : Executor σ) (p : Course Args Output σ) (c : Call Args)
    (hw : (p.call x c).service.workspace? ≠ none) :
    p.ClosesOutputs x c ↔ (p.call x c).service.applied = false := by
  constructor
  · -- with no call in between, the outputs refused are those of the service after the call
    intro hr
    have hn : ∀ e ∈ ((p.call x c).afresh.run x []).entries, e.applied = false :=
      fun e he => absurd he (List.not_mem_nil (a := e))
    exact (refuses_output_iff hw).mp (hr [] hn)
  · intro ha later hn
    have hl : History (p.call x c).service ((p.call x c).afresh.run x later).entries
        ((p.call x c).afresh.run x later).service :=
      History.begin.run x later (p := (p.call x c).afresh)
    exact refuses_output (hl.not_applied ha hn)

/-- A failed create of an initialised service closes outputs until the next success exactly if no
earlier success stands, or an apply was issued over a created resource. -/
theorem closesOutputs_of_failed_create_iff (kind : ResourceKind Args Output) (settings : Settings)
    (context : Context) (x : Executor σ) (w : σ) (calls : List (Call Args)) (c : Call Args)
    (hc : c.isCreate = true)
    (hp : ((Course.new kind settings context w).run x calls).service.phase ≠ .uninitialized)
    (hf : (((Course.new kind settings context w).run x calls).entry x c).succeeded = false) :
    let p := (Course.new kind settings context w).run x calls
    p.ClosesOutputs x c ↔ ¬ Stands Entry.applied Entry.lost p.entries ∨
      p.service.phase = .created ∧ (p.entry x c).exchanges ≠ [] := by
  intro p
  have hh : History _ p.entries p.service := history_new kind settings context x w calls
  have hi : Sound p.service := hh.sound (sound_new kind settings context)
  have hs := p.step_entry x c
  have hw : (p.call x c).service.workspace? ≠ none := by
    have hd : (p.call x c).service.workspace? = p.service.workspace? :=
      hs.workspace?_eq hi (Call.isInit_of_isCreate hc)
    rw [hd, Ne, hi.workspace?_eq_none_iff]
    exact hp
  rw [p.closesOutputs_iff x c hw, ← hh.applied_iff rfl, Bool.not_eq_true]
  exact hs.applied_of_failed hc hf

def failingSecond : Course ClusterArgs ClusterOutput Script :=
  Course.new ResourceKind.cluster {} ⟨none, false⟩
    ((Script.empty.push .apply (.ok .apply "")).push .apply ⟨.apply, 1, "", "Error: boom"⟩)

/-- Created once, the cluster closes its outputs with the second apply. -/
theorem closesOutputs_of_failed_recreate :
    let p := failingSecond.run Script.executor
      [.init (some ⟨"/m/a"⟩), .create { clusterName := "one" } []]
    p.service.phase = .created ∧
      (p.entry Script.executor (.create { clusterName := "two" } [])).succeeded = false ∧
      p.ClosesOutputs Script.executor (.create { clusterName := "two" } []) :=
  ⟨rfl, rfl, (closesOutputs_of_failed_create_iff ResourceKind.cluster {} ⟨none, false⟩
    Script.executor _ _ _ rfl (by decide +kernel) rfl).mpr (.inr ⟨rfl, List.cons_ne_nil _ _⟩)⟩

/-- Destroyed before the second apply, it leaves them open. -/
theorem not_closesOutputs_over_destroyed :
    let p := failingSecond.run Script.executor
      [.init (some ⟨"/m/a"⟩), .create { clusterName := "one" } [], .destroy none]
    p.service.phase = .destroyed ∧
      (p.entry Script.executor (.create { clusterName := "two" } [])).succeeded = false ∧
      ¬ p.ClosesOutputs Script.executor (.create { clusterName := "two" } []) := by
  refine ⟨rfl, rfl, ?_⟩
  intro hr
  have ho := (hr [] (fun e he => absurd he (List.not_mem_nil (a := e))) Script Script.executor
    .empty).1
  exact absurd (congrArg List.length ho) (by decide +kernel)

end Provision.Service
