import Provision.Proofs.Kind.Gateway
import Provision.Proofs.Lifecycle.Memory

set_option autoImplicit false

namespace Provision

open Terraform (Context Executor Script mutatingArgs)
open Variables (pair)

variable {Args Output σ : Type}

namespace Service

variable {s₀ s : Service Args Output} {h : List (Entry Args Output)} {c : Call Args}

/-- The arguments that a call goes by as its caller gave them, and the flags behind them. A destroy
without any goes by those of the latest create that the service was ready for. -/
def given? (earlier : List (Entry Args Output)) : Call Args → Option (Args × List String)
  | .destroy args? => (args?.or ((latestCreate? earlier).bind Entry.args?)).map fun a => (a, [])
  | c => c.creation?

theorem History.destroy_given (hh : History s₀ h s) (hi : Sound s₀) (h₀ : s₀.remembered = none)
    (hk : s₀.kind.Shipped) {args? : Option Args} {m : Args}
    (hm : args?.or s.remembered = some m) :
    ∃ a, given? h (.destroy args?) = some (a, []) ∧ s.stamped m = s₀.stamped a := by
  cases args? with
  | some a =>
    cases hm
    exact ⟨m, rfl, by rw [hh.stamped_eq]⟩
  | none =>
    rw [Option.none_or] at hm
    obtain ⟨b, a, extra, hb, hc, rfl⟩ := hh.create_of_remembered hi h₀ hm
    refine ⟨a, ?_, ?_⟩
    · simp [given?, hb, Entry.args?, hc]
    · rw [hh.stamped_eq]
      exact hk.stamp_stamp _ _

theorem History.request_given (hh : History s₀ h s) (hi : Sound s₀) (h₀ : s₀.remembered = none)
    (hk : s₀.kind.Shipped) {i : Terraform.Invocation} (hr : s.request? c = some i)
    (hs : i.subcommand = .apply ∨ i.subcommand = .destroy) :
    ∃ a extra vars, given? h c = some (a, extra) ∧ s₀.kind.HasFlags (s₀.stamped a) vars ∧
      i.args = mutatingArgs (vars ++ extra) := by
  have hcreate {a : Args} {extra : List String} (hc : s.change? .apply a extra = some i) :
      ∃ vars, s₀.kind.HasFlags (s₀.stamped a) vars ∧ i.args = mutatingArgs (vars ++ extra) := by
    obtain ⟨dir, vars, -, hf, rfl⟩ := change?_eq_some_iff.mp hc
    rw [hh.setup_eq.1, hh.stamped_eq] at hf
    exact ⟨vars, hf, rfl⟩
  cases c with
  | init dir? =>
    cases hr
    rcases hs with hs | hs <;> cases hs
  | create a extra =>
    obtain ⟨vars, hf, hv⟩ := hcreate hr
    exact ⟨a, extra, vars, rfl, hf, hv⟩
  | createWithFiles a files =>
    obtain ⟨vars, hf, hv⟩ := hcreate hr
    exact ⟨a, _, vars, rfl, hf, hv⟩
  | output =>
    simp only [request?] at hr
    split at hr
    · obtain ⟨dir, -, rfl⟩ := Option.map_eq_some_iff.mp hr
      rcases hs with hs | hs <;> cases hs
    · cases hr
  | destroy args? =>
    obtain ⟨m, dir, vars, hm, -, hf, rfl⟩ := request?_destroy_iff.mp hr
    obtain ⟨a, ha, hst⟩ := hh.destroy_given hi h₀ hk hm
    rw [hh.setup_eq.1, hst] at hf
    exact ⟨a, [], vars, ha, hf, by rw [List.append_nil]⟩

end Service

open Service (given? Course)

/-- In every run of the kind, `P` holds of the given arguments, the flags behind them and all flags
of each apply and each destroy. -/
def ResourceKind.Sends (kind : ResourceKind Args Output) (settings : Settings)
    (P : Args → List String → List String → Prop) : Prop :=
  ∀ (context : Context) {τ : Type} (x : Executor τ) (w : τ) (calls : List (Service.Call Args)),
    let p := (Course.new kind settings context w).run x calls
    ∀ later e earlier, p.entries = later ++ e :: earlier → ∀ q ∈ e.exchanges,
      q.invocation.subcommand = .apply ∨ q.invocation.subcommand = .destroy →
        ∃ a extra, given? earlier e.call = some (a, extra) ∧ P a extra q.invocation.args

theorem ResourceKind.Shipped.sends {kind : ResourceKind Args Output} (hk : kind.Shipped)
    (settings : Settings) {P : Args → List String → List String → Prop}
    (hp : ∀ a extra vars, kind.HasFlags (kind.stamp settings.gatewayUrl a) vars →
      P a extra (mutatingArgs (vars ++ extra))) : kind.Sends settings P := by
  intro context τ x w calls p later e earlier he q hq hs
  have hh := Service.history_new kind settings context x w calls
  rw [show _ = _ from he] at hh
  obtain ⟨past, last⟩ := hh.split
  obtain ⟨a, extra, vars, ha, hf, hv⟩ := past.request_given (Service.sound_new kind settings context)
    rfl hk (last.request?_of_mem hq) hs
  rw [hv]
  exact ⟨a, extra, ha, hp a extra vars hf⟩

/-- Every apply and every destroy names the gateway of the settings once, or not at all if there is
none, and is otherwise what the arguments without the gateway's field make. An identity provider's
own address goes along unchanged. -/
theorem gateway_of_run :
    (∀ {Args Output : Type} {kind : ResourceKind Args Output} {name : String} {clear : Args → Args},
      kind.Gateway name clear → ∀ settings : Settings, kind.Sends settings fun a extra args =>
        ∃ fields : List (String × String),
          args = ["-auto-approve", "-no-color", "-input=false"] ++ fields.flatMap pair ++ extra ∧
          (fields.filter fun f => f.1 = name) =
            (if settings.gatewayUrl = "" then [] else [(name, settings.gatewayUrl)]) ∧
          kind.HasFlags (clear a) ((fields.filter fun f => f.1 ≠ name).flatMap pair)) ∧
    ∀ (t : IdpType) (settings : Settings),
      (ResourceKind.identityProvider t).Sends settings fun a _ args =>
        ∀ u, a.url = some u → u ≠ "" → ["-var", "url=" ++ u] <:+: args := by
  constructor
  · intro Args Output kind name clear hg settings
    refine hg.shipped.sends settings fun a extra vars hf => ?_
    obtain ⟨fields, hv, hs, ho⟩ := hg.exists_stamped settings.gatewayUrl a
    refine ⟨fields, ?_, hs, ho⟩
    rw [hf.unique hv, List.append_assoc]
    rfl
  · intro t settings
    refine (ResourceKind.Shipped.identityProvider t).sends settings fun a extra vars hf u ha hu => ?_
    have hv := ResourceKind.identityProvider_url_infix ha hu hf
    have hm : vars <:+: mutatingArgs (vars ++ extra) := by
      rw [mutatingArgs, ← List.append_assoc]
      exact List.infix_append _ vars extra
    exact hv.trans hm

/-- An LDAP provider with a server and a gateway of its own, destroyed as it was created. -/
theorem gateway_of_directory :
    let a : IdpArgs := { name := "staff", url := some "ldap://one", gatewayUrl := some "ldap://two" }
    let p := (Course.new (.identityProvider .ldap) { gatewayUrl := "https://gateway" } ⟨none, false⟩
      Script.empty).run Script.executor [.init none, .create a []]
    let e := p.entry Script.executor (.destroy none)
    ∃ q ∈ e.exchanges, q.invocation.subcommand = .destroy ∧
      given? p.entries e.call = some (a, []) ∧ ["-var", "url=ldap://one"] <:+: q.invocation.args ∧
      ∃ fields : List (String × String),
        q.invocation.args = ["-auto-approve", "-no-color", "-input=false"] ++ fields.flatMap pair ∧
        (fields.filter fun f => f.1 = "gateway_url") = [("gateway_url", "https://gateway")] := by
  intro a p e
  let settings : Settings := { gatewayUrl := "https://gateway" }
  let calls : List (Service.Call IdpArgs) := [.init none, .create a [], .destroy none]
  have he : ((Course.new (.identityProvider .ldap) settings ⟨none, false⟩ Script.empty).run
      Script.executor calls).entries = [] ++ e :: p.entries := rfl
  have hs : e.exchanges.map (fun q => q.invocation.subcommand) = [.destroy] := by decide +kernel
  have hg : given? p.entries e.call = some (a, []) := by decide +kernel
  obtain ⟨q, hq, hs⟩ := List.map_eq_singleton_iff.mp hs
  have hm : q ∈ e.exchanges := by rw [hq]; exact List.mem_singleton_self q
  refine ⟨q, hm, hs, hg, ?_, ?_⟩
  · obtain ⟨b, extra, hb, hu⟩ := gateway_of_run.2 .ldap settings ⟨none, false⟩ Script.executor
      Script.empty calls [] e p.entries he q hm (.inr hs)
    cases hg.symm.trans hb
    exact hu "ldap://one" rfl (by decide)
  · obtain ⟨b, extra, hb, fields, hv, hn, -⟩ := gateway_of_run.1 (.identityProvider .ldap) settings
      ⟨none, false⟩ Script.executor Script.empty calls [] e p.entries he q hm (.inr hs)
    cases hg.symm.trans hb
    rw [List.append_nil] at hv
    exact ⟨fields, hv, hn⟩

end Provision
