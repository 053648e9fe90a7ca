import Provision.Proofs.Lifecycle.Effect
import Provision.Proofs.Lifecycle.Flags
import Provision.Proofs.Lifecycle.Requests

set_option autoImplicit false

namespace Provision.Service

open Terraform (Context Executor Exchange Script mutatingArgs)

variable {Args Output σ : Type} {s₀ s s' : Service Args Output} {h : List (Entry Args Output)}
  {c : Call Args} {es : List Exchange} {r : Result Output}

/-- A create that the service was ready for. -/
def Entry.remembers (e : Entry Args Output) : Bool :=
  e.call.isCreate && decide (e.before.phase ≠ .uninitialized)

def latestCreate? (h : List (Entry Args Output)) : Option (Entry Args Output) :=
  h.find? Entry.remembers

def Entry.args? (e : Entry Args Output) : Option Args := e.call.creation?.map Prod.fst

theorem latestCreate?_cons (e : Entry Args Output) (h : List (Entry Args Output)) :
    latestCreate? (e :: h) = if e.remembers then some e else latestCreate? h := by
  unfold latestCreate?
  rw [List.find?_cons]
  cases e.remembers <;> rfl

theorem History.stamped_eq (hh : History s₀ h s) : s.stamped = s₀.stamped := by
  obtain ⟨hk, hs, -⟩ := hh.setup_eq
  funext a
  rw [stamped, stamped, hk, hs]

theorem History.remembered_eq (hh : History s₀ h s) (hi : Sound s₀) (h₀ : s₀.remembered = none) :
    s.remembered = ((latestCreate? h).bind Entry.args?).map s₀.stamped := by
  induction hh with
  | begin => exact h₀
  | @step h s s' c es r past last ih =>
    have hw := (past.sound hi).workspace?_eq_none_iff
    rw [last.remembered_eq, ih, latestCreate?_cons, past.stamped_eq]
    cases hd : s.workspace? with
    | none =>
      have hp : s.phase = .uninitialized := hw.mp hd
      simp [Entry.remembers, hp]
    | some dir =>
      have hp : s.phase ≠ .uninitialized := fun hp => by simp [hw.mpr hp] at hd
      cases hc : c.creation? with
      | none => simp [Entry.remembers, Call.isCreate, hc]
      | some a => simp [Entry.remembers, Entry.args?, Call.isCreate, hc, hp]

theorem History.create_of_remembered (hh : History s₀ h s) (hi : Sound s₀)
    (h₀ : s₀.remembered = none) {m : Args} (hm : s.remembered = some m) :
    ∃ b a extra, latestCreate? h = some b ∧ b.call.creation? = some (a, extra) ∧
      m = s₀.stamped a := by
  rw [hh.remembered_eq hi h₀] at hm
  obtain ⟨a, hl, rfl⟩ := Option.map_eq_some_iff.mp hm
  obtain ⟨b, hb, ha⟩ := Option.bind_eq_some_iff.mp hl
  obtain ⟨⟨a, extra⟩, hc, rfl⟩ := Option.map_eq_some_iff.mp ha
  exact ⟨b, a, extra, hb, hc, rfl⟩

theorem History.latestCreate?_step (hh : History s₀ h s) (hi : Sound s₀)
    {b : Entry Args Output} (hb : latestCreate? h = some b) :
    b.before.workspace? ≠ none ∧ b.before.kind = s₀.kind ∧ b.before.stamped = s₀.stamped ∧
      Step b.before b.call b.exchanges b.result b.after := by
  obtain ⟨later, earlier, rfl⟩ := List.append_of_mem (List.mem_of_find?_eq_some hb)
  obtain ⟨past, hs⟩ := hh.split
  have hp : b.remembers = true := List.find?_some hb
  simp only [Entry.remembers, Bool.and_eq_true, decide_eq_true_eq] at hp
  refine ⟨?_, past.setup_eq.1, past.stamped_eq, hs⟩
  rw [Ne, (past.sound hi).workspace?_eq_none_iff]
  exact hp.2

theorem change?_eq_some_iff {sub : Terraform.Subcommand} {a : Args} {extra : List String}
    {i : Terraform.Invocation} : s.change? sub a extra = some i ↔ ∃ dir vars,
      s.workspace? = some dir ∧ s.kind.HasFlags (s.stamped a) vars ∧
        i = ⟨sub, dir, mutatingArgs (vars ++ extra)⟩ := by
  constructor
  · intro hc
    obtain ⟨dir, hw, hm⟩ := Option.bind_eq_some_iff.mp hc
    obtain ⟨fs, hv, rfl⟩ := Option.map_eq_some_iff.mp hm
    have hv' : s.varsOf (s.stamped a) extra = .ok fs := by
      cases hx : s.varsOf (s.stamped a) extra with
      | error e => simp [hx, Except.toOption] at hv
      | ok gs => simpa [hx, Except.toOption] using hv
    obtain ⟨vars, hf, rfl⟩ := varsOf_eq_ok_iff.mp hv'
    exact ⟨dir, vars, hw, hf, rfl⟩
  · rintro ⟨dir, vars, hw, hf, rfl⟩
    exact change?_eq hw (varsOf_eq_ok_iff.mpr ⟨vars, hf, rfl⟩)

theorem request?_destroy_iff {args? : Option Args} {i : Terraform.Invocation} :
    s.request? (.destroy args?) = some i ↔
      ∃ a dir vars, args?.or s.remembered = some a ∧ s.workspace? = some dir ∧
        s.kind.HasFlags (s.stamped a) vars ∧ i = ⟨.destroy, dir, mutatingArgs vars⟩ := by
  simp only [request?, Option.bind_eq_some_iff, change?_eq_some_iff, List.append_nil,
    exists_and_left]

theorem Step.request?_destroy_eq (hs : Step s c es r s') (hi : Sound s) (hc : c.isInit = false)
    (hn : c.isCreate = false) : s'.request? (.destroy none) = s.request? (.destroy none) := by
  have hw : s'.workspace? = s.workspace? := hs.workspace?_eq hi hc
  have hr : s'.remembered = s.remembered := by
    have hd : c.creation? = none := by simpa [Call.isCreate] using hn
    simp [hs.remembered_eq, hd]
  obtain ⟨hk, hg, -⟩ := hs.setup_eq
  simp [request?, change?, varsOf, stamped, hw, hr, hk, hg]

theorem History.request?_destroy_eq (hh : History s₀ h s) (hi : Sound s₀)
    (hn : ∀ e ∈ h, e.isInit = false ∧ e.call.isCreate = false) :
    s.request? (.destroy none) = s₀.request? (.destroy none) := by
  induction hh with
  | begin => rfl
  | step past last ih =>
    obtain ⟨⟨hc, hd⟩, hl⟩ := List.forall_mem_cons.mp hn
    exact (last.request?_destroy_eq (past.sound hi) hc hd).trans (ih hl)

/-- The apply of the latest create and a destroy without arguments share their variables, since a
second stamp changes nothing. -/
theorem History.shared_flags (hh : History s₀ h s) (hi : Sound s₀) (h₀ : s₀.remembered = none)
    (hk : s₀.kind.Shipped) {i : Terraform.Invocation} (hr : s.request? (.destroy none) = some i) :
    ∃ b a extra vars dir, latestCreate? h = some b ∧ b.call.creation? = some (a, extra) ∧
      s₀.kind.HasFlags (s₀.stamped a) vars ∧
      b.exchanges.map Exchange.invocation = [⟨.apply, dir, mutatingArgs (vars ++ extra)⟩] ∧
      i.args = mutatingArgs vars := by
  obtain ⟨m, -, vars, hm, -, hf, rfl⟩ := request?_destroy_iff.mp hr
  rw [Option.none_or] at hm
  obtain ⟨b, a, extra, hb, hc, rfl⟩ := hh.create_of_remembered hi h₀ hm
  have hst : s₀.stamped (s₀.stamped a) = s₀.stamped a := hk.stamp_stamp _ _
  rw [hh.stamped_eq, hh.setup_eq.1, hst] at hf
  obtain ⟨hw, hbk, hbs, hs⟩ := hh.latestCreate?_step hi hb
  obtain ⟨dir, hw⟩ := Option.ne_none_iff_exists'.mp hw
  have hv : b.before.varsOf (b.before.stamped a) extra = .ok (vars ++ extra) := by
    rw [varsOf_eq_ok_iff, hbs, hbk]
    exact ⟨vars, hf, rfl⟩
  refine ⟨b, a, extra, vars, dir, hb, hc, hf, ?_, rfl⟩
  rw [hs.invocations_eq, request?_of_creation hc, change?_eq hw hv]
  rfl

/-- In any run of a kind at hand a service remembers the stamped arguments of the latest create it
was ready for. A destroy without arguments carries the variables of that create's apply, and none
of its further flags; destroys repeat each other exactly, and one with arguments of its own is
forgotten. -/
theorem remembered_of_run {kind : ResourceKind Args Output} (hk : kind.Shipped)
    (settings : Settings) (context : Context) (x : Executor σ) (w : σ) (calls : List (Call Args)) :
    let p := (Course.new kind settings context w).run x calls
    let stamp := kind.stamp settings.gatewayUrl
    let flags := ["-auto-approve", "-no-color", "-input=false"]
    p.service.remembered = ((latestCreate? p.entries).bind Entry.args?).map stamp ∧
    (∀ e ∈ p.entries, e.call.isCreate = false → e.after.remembered = e.before.remembered) ∧
    (∀ later e earlier, p.entries = later ++ e :: earlier → e.call = .destroy none →
      ∀ q ∈ e.exchanges, ∃ b a extra vars dir,
        latestCreate? earlier = some b ∧ b.call.creation? = some (a, extra) ∧
        kind.HasFlags (stamp a) vars ∧
        b.exchanges.map Exchange.invocation = [⟨.apply, dir, flags ++ vars ++ extra⟩] ∧
        q.invocation.args = flags ++ vars) ∧
    (∀ later e between e' earlier, p.entries = later ++ e :: (between ++ e' :: earlier) →
      e.call = .destroy none → e'.call = .destroy none →
      (∀ b ∈ between, b.isInit = false ∧ b.call.isCreate = false) →
      e.exchanges.map Exchange.invocation = e'.exchanges.map Exchange.invocation) ∧
    ∀ e ∈ p.entries, ∀ a, e.call = .destroy (some a) →
      (∀ q ∈ e.exchanges, ∃ vars, kind.HasFlags (stamp a) vars ∧
        q.invocation.args = flags ++ vars) ∧
      ∀ is, e.after.Asks (.destroy none) is ↔ e.before.Asks (.destroy none) is := by
  intro p stamp flags
  have hh : History _ p.entries p.service := history_new kind settings context x w calls
  have hi : Sound ((Service.new kind settings).withContext context) :=
    sound_new kind settings context
  refine ⟨hh.remembered_eq hi rfl, ?_, ?_, ?_, ?_⟩
  · intro e he hc
    have hd : e.call.creation? = none := by simpa [Call.isCreate] using hc
    simp [(hh.step_of_mem he).remembered_eq, hd]
  · intro later e earlier hp hc q hq
    rw [hp] at hh
    obtain ⟨past, hs⟩ := hh.split
    have hr := hs.request?_of_mem hq
    rw [hc] at hr
    obtain ⟨b, a, extra, vars, dir, hb, ha, hf, hx, hy⟩ := past.shared_flags hi rfl hk hr
    refine ⟨b, a, extra, vars, dir, hb, ha, hf, ?_, hy⟩
    rw [hx, List.append_assoc]
    rfl
  · intro later e between e' earlier hp hc hc' hb
    rw [hp] at hh
    obtain ⟨past, hs⟩ := hh.split
    obtain ⟨first, hs'⟩ := past.split
    have hi' : Sound e'.before := first.sound hi
    have hr : e.before.request? (.destroy none) = e'.after.request? (.destroy none) :=
      past.resume.request?_destroy_eq (hs'.sound hi') hb
    have hr' : e'.after.request? (.destroy none) = e'.before.request? (.destroy none) :=
      hs'.request?_destroy_eq hi' (by rw [hc']; rfl) (by rw [hc']; rfl)
    rw [hs.invocations_eq, hs'.invocations_eq, hc, hc', hr, hr']
  · intro e he a hc
    obtain ⟨later, earlier, hp⟩ := List.append_of_mem he
    rw [hp] at hh
    obtain ⟨past, hs⟩ := hh.split
    constructor
    · intro q hq
      have hr := hs.request?_of_mem hq
      rw [hc] at hr
      obtain ⟨m, dir, vars, hm, -, hf, hq⟩ := request?_destroy_iff.mp hr
      cases hm
      rw [past.stamped_eq, past.setup_eq.1] at hf
      exact ⟨vars, hf, by rw [hq]; rfl⟩
    · intro is
      rw [asks_iff, asks_iff, hs.request?_destroy_eq (past.sound hi) (by rw [hc]; rfl)
        (by rw [hc]; rfl)]

/-- A directory keeps its own address beside the gateway's, and a destroy of another one is
forgotten. -/
theorem remembered_of_directory :
    let kind := ResourceKind.identityProvider .ldap
    let args : IdpArgs := { name := "one", url := "ldap://one" }
    let p := (Course.new kind { gatewayUrl := "https://gw" } ⟨none, false⟩ .empty).run
      Script.executor [.init (some ⟨"/m/a"⟩), .create args ["-parallelism=1"],
        .destroy (some { name := "two" }), .destroy none]
    kind.Shipped ∧ p.service.remembered = some { args with gatewayUrl := "https://gw" } ∧
      (p.entries.head?.map fun e => e.exchanges.map (·.invocation.args)) = some
        [["-auto-approve", "-no-color", "-input=false", "-var", "gateway_url=https://gw",
          "-var", "name=one", "-var", "url=ldap://one"]] :=
  ⟨.identityProvider .ldap, (remembered_of_run (.identityProvider .ldap) _ ⟨none, false⟩
    Script.executor .empty _).1.trans rfl, rfl⟩

end Provision.Service
