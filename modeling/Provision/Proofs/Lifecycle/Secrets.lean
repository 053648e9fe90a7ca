import Provision.Proofs.Kind.Secrets
import Provision.Proofs.Lifecycle.Memory
import Provision.Proofs.LockStep

set_option autoImplicit false

namespace Provision.Service

open Dialogue (LockStep lockStep_refl)
open Redaction (masked redact)
open Terraform (Executor Session Request Invocation mutatingArgs)
open Variables (pair)

variable {Args Output : Type} {s t : Service Args Output} {kind : ResourceKind Args Output}

/-- The services differ only in the secrets of what they remember. -/
structure Twin (kind : ResourceKind Args Output) (s t : Service Args Output) : Prop where
  kind_eq : s.kind = kind
  rest : { s with remembered := none } = { t with remembered := none }
  remembered : Option.Rel kind.DifferInSecrets s.remembered t.remembered

inductive Call.Twin (kind : ResourceKind Args Output) : Call Args → Call Args → Prop
  | init (dir? : Option Path) : Twin kind (.init dir?) (.init dir?)
  | create {a b : Args} (h : kind.DifferInSecrets a b) (extra : List String) :
    Twin kind (.create a extra) (.create b extra)
  | createWithFiles {a b : Args} (h : kind.DifferInSecrets a b) (files : List Path) :
    Twin kind (.createWithFiles a files) (.createWithFiles b files)
  | output : Twin kind .output .output
  | destroy {a? b? : Option Args} (h : Option.Rel kind.DifferInSecrets a? b?) :
    Twin kind (.destroy a?) (.destroy b?)

def TwinEnds {α : Type} (kind : ResourceKind Args Output) (o p : α × Service Args Output) : Prop :=
  o.1 = p.1 ∧ Twin kind o.2 p.2

theorem Twin.exists_eq (h : Twin kind s t) : ∃ m, s.kind = kind ∧
    t = { s with remembered := m } ∧ Option.Rel kind.DifferInSecrets s.remembered m := by
  obtain ⟨kind', settings, context, dir, phase, applied, m⟩ := s
  obtain ⟨kind'', settings', context', dir', phase', applied', m'⟩ := t
  obtain ⟨hk, rest, remembered⟩ := h
  cases rest
  exact ⟨m', hk, rfl, remembered⟩

theorem rel_or {r : Args → Args → Prop} {a b c d : Option Args} (h : Option.Rel r a b)
    (h' : Option.Rel r c d) : Option.Rel r (a.or c) (b.or d) := by
  cases h with
  | some h => exact .some h
  | none => exact h'

@[simp] theorem initializedDir_remembered (m : Option Args) (step : String) :
    ({ s with remembered := m } : Service Args Output).initializedDir step =
      s.initializedDir step := rfl

theorem lockStep_init (h : Twin kind s t) (dir? : Option Path) :
    LockStep Request.Alike (TwinEnds kind) (s.init dir?) (t.init dir?) := by
  obtain ⟨m, rfl, rfl, hm⟩ := h.exists_eq
  refine (lockStep_refl Request.alike_refl _).bind_eq fun _ => ?_
  refine (lockStep_refl Request.alike_refl _).bind_eq fun r => ?_
  cases r with
  | ok out => exact ⟨rfl, rfl, rfl, hm⟩
  | error e => exact ⟨rfl, rfl, rfl, hm⟩

theorem varsOf_of_differInSecrets {a b : Args} (h : s.kind.DifferInSecrets a b)
    (hk : t.kind = s.kind) (extra : List String) : ∃ vars vars',
      s.varsOf a extra = .ok vars ∧ t.varsOf b extra = .ok vars' ∧ redact vars = redact vars' := by
  obtain ⟨vars, hv⟩ := exists_hasFlags_iff.mpr (h.shipped.encodable a)
  obtain ⟨vars', hv'⟩ := exists_hasFlags_iff.mpr (h.shipped.encodable b)
  refine ⟨vars ++ extra, vars' ++ extra, varsOf_eq_ok_iff.mpr ⟨vars, hv, rfl⟩,
    varsOf_eq_ok_iff.mpr ⟨vars', hk ▸ hv', rfl⟩, ?_⟩
  rw [Redaction.redact_append, Redaction.redact_append, h.redact_eq hv hv']

theorem lockStep_finishCreate (h : Twin kind s t) (applied : Except Failure Terraform.ProcessOutput) :
    LockStep Request.Alike (TwinEnds kind) (s.finishCreate applied) (t.finishCreate applied) := by
  obtain ⟨m, rfl, rfl, hm⟩ := h.exists_eq
  cases applied with
  | ok out => exact (lockStep_refl Request.alike_refl _).bind_eq fun _ => ⟨rfl, rfl, rfl, hm⟩
  | error e =>
    by_cases hp : s.phase = .created
    · simp only [finishCreate, if_pos hp]
      exact (lockStep_refl Request.alike_refl _).bind_eq fun _ => ⟨rfl, rfl, rfl, hm⟩
    · simp only [finishCreate, if_neg hp]
      exact (lockStep_refl Request.alike_refl _).bind_eq fun _ => ⟨rfl, rfl, rfl, hm⟩

theorem lockStep_create (h : Twin kind s t) {a b : Args} (hab : kind.DifferInSecrets a b)
    (extra : List String) :
    LockStep Request.Alike (TwinEnds kind) (s.create a extra) (t.create b extra) := by
  obtain ⟨m, rfl, rfl, hm⟩ := h.exists_eq
  simp only [create, createWith, initializedDir_remembered]
  cases s.initializedDir "create" with
  | error e => exact ⟨rfl, rfl, rfl, hm⟩
  | ok dir =>
    have hst : s.kind.DifferInSecrets (s.stamped a) (s.stamped b) := hab.stamp _
    obtain ⟨vars, vars', hv, hv', hr⟩ :=
      varsOf_of_differInSecrets (s := s.remembering a) (t := s.remembering b) hst rfl extra
    have htwin : Twin s.kind (s.remembering a) (s.remembering b) := ⟨rfl, rfl, .some hst⟩
    refine (lockStep_refl Request.alike_refl _).bind_eq fun _ => ?_
    simp only [remembering, stamped] at hv hv' htwin
    simp only [rememberedVars, hv, hv']
    exact (Terraform.lockStep_apply dir s.context hr).bind_eq fun r => lockStep_finishCreate htwin r

theorem lockStep_output (h : Twin kind s t) :
    LockStep Request.Alike (TwinEnds kind) s.output t.output := by
  obtain ⟨m, rfl, rfl, hm⟩ := h.exists_eq
  simp only [output, initializedDir_remembered]
  cases s.initializedDir "output" with
  | error e => exact ⟨rfl, rfl, rfl, hm⟩
  | ok dir =>
    by_cases ha : (!s.applied) = true
    · simp only [if_pos ha]
      exact ⟨rfl, rfl, rfl, hm⟩
    · simp only [if_neg ha]
      refine (lockStep_refl Request.alike_refl _).bind_eq fun r => ?_
      cases r with
      | error e => exact ⟨rfl, rfl, rfl, hm⟩
      | ok o => exact (lockStep_refl Request.alike_refl _).bind_eq fun _ => ⟨rfl, rfl, rfl, hm⟩

theorem lockStep_destroy (h : Twin kind s t) {a? b? : Option Args}
    (hab : Option.Rel kind.DifferInSecrets a? b?) :
    LockStep Request.Alike (TwinEnds kind) (s.destroy a?) (t.destroy b?) := by
  obtain ⟨m, rfl, rfl, hm⟩ := h.exists_eq
  have ho := rel_or hab hm
  simp only [destroy, initializedDir_remembered]
  generalize a?.or s.remembered = o at ho
  generalize b?.or m = o' at ho
  cases ho with
  | none => exact ⟨rfl, rfl, rfl, hm⟩
  | @some a b hab =>
    cases s.initializedDir "destroy" with
    | error e => exact ⟨rfl, rfl, rfl, hm⟩
    | ok dir =>
      obtain ⟨vars, vars', hv, hv', hr⟩ := varsOf_of_differInSecrets (s := s)
        (t := { s with remembered := m }) (hab.stamp s.settings.gatewayUrl) rfl []
      simp only [hv, hv']
      refine (lockStep_refl Request.alike_refl _).bind_eq fun _ => ?_
      refine (Terraform.lockStep_destroy dir s.context hr).bind_eq fun r => ?_
      cases r with
      | error e => exact ⟨rfl, rfl, rfl, hm⟩
      | ok out => exact ⟨rfl, rfl, rfl, hm⟩

theorem lockStep_perform (h : Twin kind s t) {c d : Call Args} (hc : Call.Twin kind c d) :
    LockStep Request.Alike (TwinEnds kind) (s.perform c) (t.perform d) := by
  have hsilent (o p : Outcome Args Output Unit) (ho : TwinEnds kind o p) :
      TwinEnds kind (Outcome.silent o) (Outcome.silent p) :=
    ⟨congrArg (Except.map fun _ => none) ho.1, ho.2⟩
  cases hc with
  | init dir? => exact (lockStep_init h dir?).bind hsilent
  | create hab extra => exact (lockStep_create h hab extra).bind hsilent
  | createWithFiles hab files =>
    simp only [perform, createWithFiles_eq_create]
    exact (lockStep_create h hab _).bind hsilent
  | output =>
    exact (lockStep_output h).bind fun o p ho => ⟨congrArg (Except.map some) ho.1, ho.2⟩
  | destroy hab => exact (lockStep_destroy h hab).bind hsilent

def performAll (s : Service Args Output) :
    List (Call Args) → Session (List (Result Output) × Service Args Output)
  | [] => pure ([], s)
  | c :: calls => do
    let (r, s) ← s.perform c
    let (rs, s) ← s.performAll calls
    pure (r :: rs, s)

theorem converse_performAll {σ : Type} (x : Executor σ) (p : Course Args Output σ)
    (calls : List (Call Args)) :
    ∃ h, (p.run x calls).entries = h ++ p.entries ∧
      x.converse (p.service.performAll calls) p.world =
        ⟨h.reverse.flatMap Entry.exchanges, (h.reverse.map Entry.result, (p.run x calls).service),
          (p.run x calls).world⟩ := by
  induction calls generalizing p with
  | nil => exact ⟨[], rfl, rfl⟩
  | cons c calls ih =>
    obtain ⟨h, he, hv⟩ := ih (p.call x c)
    refine ⟨h ++ [p.entry x c], ?_, ?_⟩
    · rw [List.append_assoc]
      exact he
    · -- the rest of the session starts where the first call left off
      let v := x.converse (p.service.perform c) p.world
      have hv : x.converse (v.result.2.performAll calls) v.state = _ := hv
      simp only [performAll, Dialogue.bind_eq, Dialogue.pure_eq, Executor.converse_bind]
      rw [hv]
      simp only [Executor.converse, List.append_nil, List.reverse_append, List.reverse_singleton,
        List.singleton_append, List.flatMap_cons, List.map_cons]
      rfl

theorem lockStep_performAll {calls calls' : List (Call Args)}
    (hc : List.Forall₂ (Call.Twin kind) calls calls') (h : Twin kind s t) :
    LockStep Request.Alike (TwinEnds kind) (s.performAll calls) (t.performAll calls') := by
  induction hc generalizing s t with
  | nil => exact ⟨rfl, h⟩
  | cons hcd _ ih =>
    refine (lockStep_perform h hcd).bind ?_
    rintro ⟨r, s'⟩ ⟨r', t'⟩ ⟨hr, h'⟩
    refine (ih h').bind ?_
    rintro ⟨rs, u⟩ ⟨rs', u'⟩ ⟨hrs, hu⟩
    exact ⟨congrArg₂ List.cons hr hrs, hu⟩

theorem change?_redacted_eq {a b : Args} (h : s.kind.DifferInSecrets a b)
    (sub : Terraform.Subcommand) (extra : List String) :
    (s.change? sub a extra).map Invocation.redacted =
      (s.change? sub b extra).map Invocation.redacted := by
  cases hw : s.workspace? with
  | none => rw [change?_eq_none (.inl hw), change?_eq_none (.inl hw)]
  | some dir =>
    obtain ⟨vars, vars', hv, hv', hr⟩ := varsOf_of_differInSecrets (h.stamp _) rfl extra
    rw [change?_eq hw hv, change?_eq hw hv']
    exact congrArg (fun args => some (Invocation.mk sub dir args))
      (Terraform.redact_mutatingArgs_eq hr)

/-- Arguments that differ in secrets only are logged alike. Their applies and their destroys are the
same invocations once they are masked, and masking changes no flag but those of secret variables.
Whole runs with such arguments put the same questions to the machine, up to the masked flags of the
child processes, as long as it answers the same, so their logs are the same too. A login is logged
alike whatever the password. -/
theorem logged_alike_of_differInSecrets {kind : ResourceKind Args Output} {a b : Args}
    (h : kind.DifferInSecrets a b) (s : Service Args Output) (hs : s.kind = kind)
    (extra : List String) :
    let shown := fun c => (s.request? c).map Invocation.redacted
    (shown (.create a extra) = shown (.create b extra) ∧
      shown (.destroy (some a)) = shown (.destroy (some b))) ∧
    (∀ dir, s.workspace? = some dir → ∃ fields : List (String × String),
      let flags := mutatingArgs (fields.flatMap pair)
      let shownFlags := mutatingArgs ((fields.map masked).flatMap pair)
      (∀ f ∈ fields, '=' ∉ f.1.toList) ∧
      s.request? (.create a extra) = some ⟨.apply, dir, flags ++ extra⟩ ∧
      s.request? (.destroy (some a)) = some ⟨.destroy, dir, flags⟩ ∧
      redact (flags ++ extra) = shownFlags ++ redact extra) ∧
    (∀ (flags : List String) (n : Nat) (flag : String), flags[n]? = some flag →
      (¬ Redaction.Secret flag → (redact flags)[n]? = some flag) ∧
      ∀ name ∈ Redaction.secretNames, ∀ value, flag = name ++ "=" ++ value →
        (redact flags)[n]? = some (name ++ "=***")) ∧
    (∀ (t : Service Args Output) (calls calls' : List (Call Args)) (x : Terraform.Child),
      Twin kind s t → List.Forall₂ (Call.Twin kind) calls calls' →
        LockStep Machine.Request.Alike (TwinEnds kind) (x.drive (s.performAll calls))
          (x.drive (t.performAll calls'))) ∧
    ∀ (l : ClusterLogin) (p q : String),
      ({ l with password := p } : ClusterLogin).redactedArgs =
        ({ l with password := q } : ClusterLogin).redactedArgs := by
  subst hs
  intro shown
  refine ⟨⟨change?_redacted_eq h .apply extra, change?_redacted_eq h .destroy []⟩, ?_, ?_, ?_, ?_⟩
  · intro dir hw
    obtain ⟨vars, hv⟩ := exists_hasFlags_iff.mpr (h.shipped.encodable (s.stamped a))
    obtain ⟨fields, hn, rfl⟩ := h.shipped.exists_pairs hv
    have hvars (fs : List String) : s.varsOf (s.stamped a) fs = .ok (fields.flatMap pair ++ fs) :=
      varsOf_eq_ok_iff.mpr ⟨_, hv, rfl⟩
    have hd : s.varsOf (s.stamped a) [] = .ok (fields.flatMap pair) := by
      rw [hvars, List.append_nil]
    refine ⟨fields, hn, change?_eq hw (hvars extra), change?_eq hw hd, ?_⟩
    rw [Redaction.redact_append, Redaction.redact_mutatingArgs, Redaction.redact_pairs hn]
  · exact fun flags n flag => Redaction.getElem?_redact
  · exact fun t calls calls' x ht hc => x.lockStep_drive (lockStep_performAll hc ht)
  · exact fun l p q => (l.redactedArgs_password p).trans (l.redactedArgs_password q).symm

/-- Passwords that look like flags, and even another number of users, leave no trace. -/
theorem logged_alike_of_htpasswd :
    let kind := ResourceKind.identityProvider .htpasswd
    let s : Service IdpArgs IdpOutput := { Service.new kind { gatewayUrl := "https://gw" } with
      dir := some ⟨"/m/a"⟩, phase := .initialized }
    let a : IdpArgs := { name := "one", token := "t", htpasswdUsers := some [⟨"u", "p=q"⟩] }
    let b : IdpArgs := { a with
      token := "=\n-var name=two"
      htpasswdUsers := some [⟨"u", "name=two"⟩, ⟨"v", "***"⟩] }
    let shown := some ⟨.apply, ⟨"/m/a"⟩, ["-auto-approve", "-no-color", "-input=false",
      "-var", "gateway_url=https://gw", "-var", "htpasswd_users=***", "-var", "name=one",
      "-var", "token=***", "-parallelism=1"]⟩
    (s.request? (.create a ["-parallelism=1"])).map Invocation.redacted = shown ∧
      (s.request? (.create b ["-parallelism=1"])).map Invocation.redacted = shown ∧
      LockStep Machine.Request.Alike (TwinEnds kind)
        ((Terraform.Child.mk ⟨"terraform"⟩ []).drive (s.performAll [.create a [], .destroy none]))
        ((Terraform.Child.mk ⟨"terraform"⟩ []).drive (s.performAll [.create b [], .destroy none])) := by
  intro kind s a b shown
  have hab : kind.DifferInSecrets a b := .identityProvider .htpasswd rfl rfl rfl rfl
  have h := logged_alike_of_differInSecrets hab s rfl ["-parallelism=1"]
  have ha : (s.request? (.create a ["-parallelism=1"])).map Invocation.redacted = shown := by
    decide +kernel
  have hcalls : List.Forall₂ (Call.Twin kind) [.create a [], .destroy none]
      [.create b [], .destroy none] := .cons (.create hab []) (.cons (.destroy .none) .nil)
  exact ⟨ha, h.1.1.symm.trans ha, h.2.2.2.1 s _ _ _ ⟨rfl, rfl, .none⟩ hcalls⟩

end Provision.Service
