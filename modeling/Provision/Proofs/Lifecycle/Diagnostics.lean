import Provision.Proofs.Lifecycle.History
import Provision.Proofs.Terraform.Diagnostics
import Provision.ScenarioFailure

set_option autoImplicit false

namespace Provision

open Terraform (Action Exchange Executor Interruption Invocation ProcessOutput)

namespace Terraform

/-- The two streams with at most a new line between them. -/
def ProcessOutput.Joined (o : ProcessOutput) (d : String) : Prop :=
  ∃ gap, d = o.stdout ++ gap ++ o.stderr ∧ (gap = "" ∨ gap = "\n") ∧
    (gap = "\n" ↔ o.stdout ≠ "" ∧ o.stderr ≠ "" ∧ ¬ ['\n'] <:+ o.stdout.toList)

theorem ProcessOutput.joined_combined (o : ProcessOutput) : o.Joined o.combined := by
  have hs : ['\n'] <:+ o.stdout.toList ↔ o.stdout.toList.getLast? = some '\n' :=
    List.singleton_suffix_iff_getLast?_eq_some
  by_cases hout : o.stdout = ""
  · exact ⟨"", by simp [combined, combine, hout], .inl rfl, by simp [hout]⟩
  · by_cases herr : o.stderr = ""
    · exact ⟨"", by simp [combined, combine, herr], .inl rfl, by simp [herr]⟩
    · by_cases hl : ['\n'] <:+ o.stdout.toList
      · exact ⟨"", by simp [combined, combine, hout, herr, hs.mp hl], .inl rfl, by simp [hl]⟩
      · exact ⟨"\n", by simp [combined, combine, hout, herr, mt hs.mpr hl], .inr rfl,
          by simp [hl, hout, herr]⟩

theorem ProcessOutput.infix_combined (o : ProcessOutput) {t : List Char}
    (ht : t <:+: o.stdout.toList ∨ t <:+: o.stderr.toList) : t <:+: o.combined.toList := by
  obtain ⟨gap, hc, -⟩ := o.joined_combined
  rw [hc, String.toList_append, String.toList_append]
  rcases ht with ht | ht
  · rw [List.append_assoc]
    exact ht.trans (List.prefix_append _ _).isInfix
  · exact ht.trans (List.suffix_append _ _).isInfix

end Terraform

/-- The failure of a step says what its process wrote, and nothing else but where it failed. -/
structure Failure.Quotes (f : Failure) (i : Invocation) (out : ProcessOutput) : Prop where
  own : f = .reported i.workspace out.combined i.subcommand
  diagnostics : f.diagnostics = some out.combined
  joined : out.Joined out.combined
  message : f.message = failedIn i.subcommand i.workspace ++ out.combined
  wrapped_message : (ScenarioFailure.harness f).message = f.message
  wrapped_diagnostics : (ScenarioFailure.harness f).diagnostics = f.diagnostics
  infixes : ∀ t : List Char, t <:+: out.stdout.toList ∨ t <:+: out.stderr.toList →
    t <:+: f.message.toList ∧ t <:+: (ScenarioFailure.harness f).message.toList

theorem Failure.quotes_reported (i : Invocation) (out : ProcessOutput) :
    (Failure.reported i.workspace out.combined i.subcommand).Quotes i out where
  own := rfl
  diagnostics := diagnostics_reported _ _ _
  joined := out.joined_combined
  message := message_reported _ _ _
  wrapped_message := rfl
  wrapped_diagnostics := rfl
  infixes t ht := by
    have hm : t <:+: (reported i.workspace out.combined i.subcommand).message.toList := by
      rw [message_reported, String.toList_append]
      exact (out.infix_combined ht).trans (List.suffix_append _ _).isInfix
    exact ⟨hm, hm⟩

/-- A result passes on the bad end of the exchange that it comes from. -/
def Terraform.Exchange.PassedOn {α : Type} (q : Exchange) (result : Except Failure α) : Prop :=
  (∀ i, q.reply = .error i → result = .error (.interrupted i)) ∧
    ∀ out, q.reply = .ok out → out.exitCode ≠ 0 →
      ∃ f : Failure, result = .error f ∧ f.Quotes q.invocation out

namespace Terraform

variable {α : Type} {q : Exchange} {result : Except Failure α}

theorem Exchange.passedOn_of_granted (hg : q.Granted) : q.PassedOn result := by
  obtain ⟨out, hr, hx⟩ := Exchange.granted_iff.mp hg
  constructor
  · intro i hi
    cases hr.symm.trans hi
  · intro out' ho hx'
    cases hr.symm.trans ho
    exact absurd hx hx'

theorem Action.passedOn_conclude (a : Action) (say : Subcommand → Wording) (ws : Path) (r : Reply) :
    Exchange.PassedOn ⟨a.invocation ws, r⟩ (a.conclude say ws r) := by
  constructor
  · rintro i rfl
    rfl
  · rintro out rfl hx
    exact ⟨_, conclude_failed hx, Failure.quotes_reported (a.invocation ws) out⟩

theorem Exchange.PassedOn.of_error {β : Type} {e : Failure}
    (h : q.PassedOn (.error e : Except Failure α)) : q.PassedOn (.error e : Except Failure β) := by
  obtain ⟨hi, ho⟩ := h
  refine ⟨fun i hr => congrArg _ (Except.error.inj (hi i hr)), fun out hr hx => ?_⟩
  obtain ⟨f, he, hf⟩ := ho out hr hx
  exact ⟨f, congrArg _ (Except.error.inj he), hf⟩

theorem Exchange.passedOn_of_completed {a : Action} {ws : Path} {r : Reply} {e : Failure}
    (ha : ∀ out, a.read? out = some (.process out))
    (h : completed (fun d => .reported ws d a.subcommand) r = .error e) :
    Exchange.PassedOn ⟨a.invocation ws, r⟩ (.error e : Except Failure α) := by
  have hp := a.passedOn_conclude (fun _ _ => "") ws r
  rw [← Action.map_completed _ ws a ha, h] at hp
  exact hp.of_error

theorem Exchange.passedOn_of_outputsOf {say : Wording} {ws : Path} {r : Reply} {e : Failure}
    (h : outputsOf say ws r = .error e) :
    Exchange.PassedOn ⟨⟨.output, ws, queryArgs⟩, r⟩ (.error e : Except Failure α) := by
  have hp := Action.output.passedOn_conclude (fun _ => say) ws r
  rw [← Action.map_outputsOf, h] at hp
  exact hp.of_error

end Terraform

namespace Service

variable {Args Output σ : Type} {s s' : Service Args Output} {c : Call Args} {es : List Exchange}
  {r : Result Output}

theorem Step.passedOn (hs : Step s c es r s') : ∀ q ∈ es, q.PassedOn r := by
  cases hs with
  | initialized hr =>
    exact List.forall_mem_singleton.mpr
      (Exchange.passedOn_of_granted (Exchange.granted_of_completed hr))
  | uninitialized hr =>
    exact List.forall_mem_singleton.mpr
      (Exchange.passedOn_of_completed (a := .init) (fun _ => rfl) hr)
  | rejected _ => simp
  | unencodable _ _ _ => simp
  | applied _ _ _ hr =>
    exact List.forall_mem_singleton.mpr
      (Exchange.passedOn_of_granted (Exchange.granted_of_completed hr))
  | @unapplied _ _ _ vars _ _ _ _ _ _ hr =>
    exact List.forall_mem_singleton.mpr
      (Exchange.passedOn_of_completed (a := .apply vars) (fun _ => rfl) hr)
  | read _ _ hr =>
    exact List.forall_mem_singleton.mpr
      (Exchange.passedOn_of_granted (Exchange.granted_of_outputsOf hr))
  | unread _ _ hr => exact List.forall_mem_singleton.mpr (Exchange.passedOn_of_outputsOf hr)
  | destroyed _ _ _ hr =>
    exact List.forall_mem_singleton.mpr
      (Exchange.passedOn_of_granted (Exchange.granted_of_completed hr))
  | @undestroyed _ _ vars _ _ _ _ _ _ hr =>
    exact List.forall_mem_singleton.mpr
      (Exchange.passedOn_of_completed (a := .destroy vars) (fun _ => rfl) hr)

end Service

/-- Whatever a step of terraform or of a service gets back that is no success, it gives back: a
failed process in the step's own variant with both of its streams, an interruption as it came. A
scenario changes neither. -/
theorem failure_passedOn :
    (∀ {σ : Type} (a : Action) (ws : Path) (c : Terraform.Context) (y : Executor σ) (w : σ),
      let v := y.converse (a.perform ws c) w
      ∃ r, v.exchanges = [⟨a.invocation ws, r⟩] ∧
        Exchange.PassedOn ⟨a.invocation ws, r⟩ v.result) ∧
    (∀ {Args Output σ : Type} (s : Service Args Output) (c : Service.Call Args) (y : Executor σ)
      (w : σ), ∀ q ∈ (y.converse (s.perform c) w).exchanges,
        q.PassedOn (y.converse (s.perform c) w).result.1) ∧
    ∀ i : Interruption, (Failure.interrupted i).message = i.message ∧
      (ScenarioFailure.harness (.interrupted i)).message = i.message ∧
      (Failure.interrupted i).diagnostics = none ∧
      (ScenarioFailure.harness (.interrupted i)).diagnostics = none := by
  refine ⟨?_, ?_, fun i => ⟨rfl, rfl, rfl, rfl⟩⟩
  · intro σ a ws c y w v
    obtain ⟨r, he, hv⟩ := a.converse_perform ws c y w
    refine ⟨r, he, ?_⟩
    rw [hv]
    exact a.passedOn_conclude y.wording ws r
  · intro Args Output σ s c y w
    exact (Service.step_converse y s c w).passedOn

end Provision
