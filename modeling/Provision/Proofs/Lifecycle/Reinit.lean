import Provision.Kind.Cluster
import Provision.Proofs.Lifecycle.Requests

/-!
What a repeated init resets. It prepares a directory anew, but neither what counts as applied nor
what is remembered goes with it; a caller can tell exactly if something is remembered.
-/

set_option autoImplicit false

namespace Provision.Service

open Terraform (Context Executor Exchange Script)

variable {Args Output σ τ : Type} {s₀ s s' t : Service Args Output} {h : List (Entry Args Output)}
  {c : Call Args} {es : List Exchange} {r : Result Output}

/-- What a caller sees of a call: what passed, the result, and where the service is after it. -/
structure Sight (Output : Type) where
  exchanges : List Exchange
  result : Result Output
  phase : Phase
  dir : Option Path

def Entry.sight (e : Entry Args Output) : Sight Output :=
  ⟨e.exchanges, e.result, e.after.phase, e.after.dir⟩

def Alike (s t : Service Args Output) : Prop :=
  ∀ (υ : Type) (z : Executor υ) (u : υ) (calls : List (Call Args)),
    ((Course.mk s u []).run z calls).entries.map Entry.sight =
      ((Course.mk t u []).run z calls).entries.map Entry.sight

theorem Alike.refuses (ha : Alike s t) (hs : s.Refuses c) : t.Refuses c := by
  intro υ z u
  obtain ⟨he, hr⟩ := hs υ z u
  have hv := List.head_eq_of_cons_eq (ha υ z u [c])
  have hx : (z.converse (s.perform c) u).exchanges = (z.converse (t.perform c) u).exchanges :=
    congrArg Sight.exchanges hv
  have hy : (z.converse (s.perform c) u).result.1 = (z.converse (t.perform c) u).result.1 :=
    congrArg Sight.result hv
  rw [hx] at he
  rw [hy] at hr
  exact ⟨he, hr⟩

theorem Alike.symm (ha : Alike s t) : Alike t s := fun υ z u calls => (ha υ z u calls).symm

theorem Step.after_init {d : Path} (hs : Step s (.init (some d)) es r s')
    (hr : Entry.succeeded ⟨s, .init (some d), es, r, s'⟩ = true) :
    s' = { s with dir := some d, phase := .initialized } := by
  cases hs with
  | initialized _ => rfl
  | uninitialized _ => cases hr
  | rejected hj => cases hj with | createUnready hc _ => cases hc
  | unencodable hc _ _ => cases hc
  | applied hc _ _ _ => cases hc
  | unapplied hc _ _ _ => cases hc

theorem History.remembered_eq_none_iff (hh : History s₀ h s) (hi : Sound s₀)
    (h₀ : s₀.remembered = none) : s.remembered = none ↔
      ∀ e ∈ h, e.call.isCreate = true → e.before.phase = .uninitialized := by
  induction hh with
  | begin => simp [h₀]
  | @step h s s' c es r past last ih =>
    rw [last.remembered_eq, Option.or_eq_none_iff, ih, List.forall_mem_cons,
      ← (past.sound hi).workspace?_eq_none_iff]
    refine and_congr ?_ Iff.rfl
    cases s.workspace? <;> cases hc : c.creation? <;> simp [Call.isCreate, hc]

theorem eq_of_remembered_none {kind : ResourceKind Args Output} {settings : Settings}
    {context : Context} {d : Path}
    (hh : History ((new kind settings).withContext context) h s) (hr : s.remembered = none) :
    { s with dir := some d, phase := .initialized } =
      { (new kind settings).withContext context with dir := some d, phase := .initialized } := by
  have hi : Sound s := hh.sound (sound_new kind settings context)
  obtain ⟨hk, hs, hc⟩ := hh.setup_eq
  have ha : s.applied = false := by
    cases ha : s.applied with
    | false => rfl
    | true => exact absurd hr (hi.remembered_of_applied ha)
  obtain ⟨k, g, x, d, f, a, m⟩ := s
  simp only at hk hs hc ha hr
  rw [hk, hs, hc, ha, hr]
  rfl

/-- A prepared directory makes a service alike to a new one in that directory exactly if no create
came while it was initialised. Outputs are refused after it exactly if no success stands, and a
destroy without arguments exactly if there are none to remember. -/
theorem reinit_alike_iff (kind : ResourceKind Args Output) (settings : Settings)
    (context : Context) (x : Executor σ) (w : σ) (calls : List (Call Args)) (d : Path)
    (y : Executor τ) (v : τ)
    (hp : (((Course.new kind settings context w).run x calls).entry x (.init (some d))).succeeded
      = true)
    (hq : ((Course.new kind settings context v).entry y (.init (some d))).succeeded = true) :
    let p := (Course.new kind settings context w).run x calls
    let s := (p.call x (.init (some d))).service
    let t := ((Course.new kind settings context v).call y (.init (some d))).service
    let unkept := ∀ e ∈ p.entries, e.call.isCreate = true → e.before.phase = .uninitialized
    (Alike s t ↔ unkept) ∧
      (s.Refuses .output ↔ ¬ Stands Entry.applied Entry.lost p.entries) ∧
      (s.Refuses (.destroy none) ↔ unkept) ∧
      t.Refuses .output ∧ t.Refuses (.destroy none) := by
  intro p s t unkept
  have hh : History _ p.entries p.service := history_new kind settings context x w calls
  have hs : s = { p.service with dir := some d, phase := .initialized } :=
    (p.step_entry x _).after_init hp
  have ht : t = { (new kind settings).withContext context with
      dir := some d, phase := .initialized } :=
    ((Course.new kind settings context v).step_entry y _).after_init hq
  have hu : s.remembered = none ↔ unkept := by
    rw [hs]
    exact hh.remembered_eq_none_iff (sound_new kind settings context) rfl
  have hsd : s.Refuses (.destroy none) ↔ unkept := by
    rw [refuses_destroy_iff (by rw [hs]; exact nofun), hu]
  have hto : t.Refuses .output := refuses_output (by rw [ht]; rfl)
  have htd : t.Refuses (.destroy none) := (refuses_destroy_iff (by rw [ht]; exact nofun)).mpr
    (by rw [ht]; rfl)
  refine ⟨⟨fun ha => ?_, fun hk => ?_⟩, ?_, hsd, hto, htd⟩
  · -- a destroy without arguments tells the two apart, whatever terraform would reply
    exact hsd.mp (ha.symm.refuses htd)
  · have hst : s = t := by
      rw [hs, ht]
      rw [hs] at hu
      exact eq_of_remembered_none hh (hu.mpr hk)
    rw [hst]
    exact fun _ _ _ _ => rfl
  · rw [refuses_output_iff (by rw [hs]; exact nofun), hs, ← hh.applied_iff rfl, Bool.not_eq_true]

def granted : Course ClusterArgs ClusterOutput Script :=
  Course.new ResourceKind.cluster {} ⟨none, false⟩ .empty

/-- A create that came too early leaves nothing behind. -/
theorem reinit_alike_of_early_create :
    let p := granted.run Script.executor
      [.create { clusterName := "one" } [], .init (some ⟨"/m/a"⟩), .destroy none]
    (p.entry Script.executor (.init (some ⟨"/m/b"⟩))).succeeded = true ∧
      Alike (p.call Script.executor (.init (some ⟨"/m/b"⟩))).service
        (granted.call Script.executor (.init (some ⟨"/m/b"⟩))).service :=
  ⟨rfl, (reinit_alike_iff ResourceKind.cluster {} ⟨none, false⟩ Script.executor _ _ _
    Script.executor _ rfl rfl).1.mpr (by decide +kernel)⟩

/-- A cluster created in one directory is read and destroyed in the next one. -/
theorem reinit_not_alike :
    let p := granted.run Script.executor
      [.init (some ⟨"/m/a"⟩), .create { clusterName := "one" } []]
    let p' := p.call Script.executor (.init (some ⟨"/m/b"⟩))
    (p.entry Script.executor (.init (some ⟨"/m/b"⟩))).succeeded = true ∧
      (p'.entry Script.executor .output).exchanges.map (·.invocation)
        = [⟨.output, ⟨"/m/b"⟩, Terraform.queryArgs⟩] ∧
      (p'.entry Script.executor (.destroy none)).exchanges.map (·.invocation.subcommand)
        = [.destroy] ∧
      ¬ Alike p'.service (granted.call Script.executor (.init (some ⟨"/m/b"⟩))).service := by
  refine ⟨rfl, rfl, rfl, ?_⟩
  intro ha
  have hv := congrArg (List.map fun v => v.exchanges.length)
    (ha Script Script.executor .empty [.output])
  exact absurd hv (by decide +kernel)

end Provision.Service
