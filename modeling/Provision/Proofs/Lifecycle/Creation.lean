import Provision.Proofs.Lifecycle.Memory

set_option autoImplicit false

namespace Provision

theorem ResourceKind.HasFlags.pairs {Args Output : Type} {k : ResourceKind Args Output}
    {args : Args} {vars : List String} (h : k.HasFlags args vars) :
    ∃ fields : List (String × String), vars = fields.flatMap Variables.pair := by
  obtain ⟨record, -, hv⟩ := h
  cases record with
  | obj ms =>
    rw [Variables.encode_obj] at hv
    exact ⟨_, (Except.ok.inj hv).symm⟩
  | _ => simp [Variables.encode] at hv

namespace Service

open Terraform (Context Executor Exchange)

variable {Args Output σ : Type} {s s' : Service Args Output} {c : Call Args} {es : List Exchange}
  {r : Result Output}

def Call.plain : Call Args → Call Args
  | .createWithFiles args files => .create args (Variables.encodeFiles files)
  | c => c

theorem perform_plain (s : Service Args Output) (c : Call Args) :
    s.perform c.plain = s.perform c := by
  cases c with
  | createWithFiles args files => simp only [Call.plain, perform, createWithFiles_eq_create]
  | _ => rfl

def Entry.plain (e : Entry Args Output) : Entry Args Output := { e with call := e.call.plain }

namespace Course

variable (x : Executor σ) (p : Course Args Output σ)

def plain (p : Course Args Output σ) : Course Args Output σ :=
  { p with entries := p.entries.map Entry.plain }

theorem entry_plain (c : Call Args) : p.plain.entry x c.plain = (p.entry x c).plain := by
  simp [entry, plain, Entry.plain, perform_plain]

theorem call_plain (c : Call Args) : p.plain.call x c.plain = (p.call x c).plain := by
  have he := p.entry_plain x c
  unfold call
  rw [he]
  simp [plain, Entry.plain, perform_plain]

theorem run_plain (calls : List (Call Args)) :
    p.plain.run x (calls.map Call.plain) = (p.run x calls).plain := by
  induction calls generalizing p with
  | nil => rfl
  | cons c calls ih =>
    have hc := ih (p.call x c)
    rw [← call_plain] at hc
    exact hc

theorem run_onto (calls : List (Call Args)) (h : List (Entry Args Output)) :
    Course.run x { p with entries := p.entries ++ h } calls =
      { p.run x calls with entries := (p.run x calls).entries ++ h } := by
  induction calls generalizing p with
  | nil => rfl
  | cons c calls ih => exact ih (p.call x c)

end Course

theorem Step.apply_cases (hs : Step s c es r s') {args : Args} {extra : List String}
    (hc : c.creation? = some (args, extra)) :
    es = [] ∧ (s.workspace? = none ∨ ¬ s.kind.Encodable (s.stamped args)) ∨
      ∃ dir vars, s.workspace? = some dir ∧ s.kind.HasFlags (s.stamped args) vars ∧
        es.map Exchange.invocation = [⟨.apply, dir, Terraform.mutatingArgs (vars ++ extra)⟩] := by
  have hm := hs.invocations_eq
  rw [request?_of_creation hc] at hm
  cases hq : s.change? .apply args extra with
  | some i =>
    obtain ⟨dir, vars, hw, hf, rfl⟩ := change?_eq_some_iff.mp hq
    exact .inr ⟨dir, vars, hw, hf, by rw [hm, hq]; rfl⟩
  | none =>
    refine .inl ⟨by simpa [hq] using hm, ?_⟩
    cases hw : s.workspace? with
    | none => exact .inl rfl
    | some dir =>
      refine .inr fun he => ?_
      obtain ⟨vars, hf⟩ := exists_hasFlags_iff.mpr he
      rw [change?_eq_some_iff.mpr ⟨dir, vars, hw, hf, rfl⟩] at hq
      cases hq

/-- After any run, a create with files and the create with the files as flags are one session: they
log, ask and answer the same and leave the same service, and no later call can tell them apart. The
one invocation, if there is any, has the files behind the variables, in the order given. -/
theorem creates_agree (kind : ResourceKind Args Output) (settings : Settings) (context : Context)
    (x : Executor σ) (w : σ) (before after : List (Call Args)) (args : Args) (files : List Path) :
    let start : Course Args Output σ := .new kind settings context w
    let p := start.run x before
    let c : Call Args := .createWithFiles args files
    let d : Call Args := .create args (Variables.encodeFiles files)
    let stamped := kind.stamp settings.gatewayUrl args
    (∀ t, x.run (p.service.perform c) t = x.run (p.service.perform d) t) ∧
    p.entry x d = { p.entry x c with call := d } ∧
    ((p.entry x c).exchanges = [] ∧
        (p.service.phase = .uninitialized ∨ ¬ kind.Encodable stamped) ∨
      ∃ dir vars, ∃ fields : List (String × String),
        p.service.dir = some dir ∧ kind.HasFlags stamped vars ∧
        vars = (fields.flatMap fun f => ["-var", f.1 ++ "=" ++ f.2]) ∧
        (p.entry x c).exchanges.map Exchange.invocation =
          [⟨.apply, dir, ["-auto-approve", "-no-color", "-input=false"] ++ vars ++
            files.map fun f => "-var-file=" ++ f.text⟩]) ∧
    (let q := (p.call x c).run x after
      let q' := (p.call x d).run x after
      q.service = q'.service ∧ q.world = q'.world ∧
        ∃ later, q.entries = later ++ p.entry x c :: p.entries ∧
          q'.entries = later ++ p.entry x d :: p.entries) ∧
    ∀ calls, start.run x (calls.map Call.plain) = (start.run x calls).plain := by
  intro start p c d stamped
  have hp : p.service.perform c = p.service.perform d := (perform_plain p.service c).symm
  have he : p.entry x d = { p.entry x c with call := d } := by simp [Course.entry, hp]
  refine ⟨fun t => by rw [hp], he, ?_, ?_, start.run_plain x⟩
  · have hh : History _ p.entries p.service := history_new kind settings context x w before
    have hi : Sound p.service := hh.sound (sound_new kind settings context)
    have hk : p.service.kind = kind := hh.setup_eq.1
    have hst : p.service.stamped args = stamped := congrFun hh.stamped_eq args
    have hc : c.creation? = some (args, Variables.encodeFiles files) := rfl
    have ha := (p.step_entry x c).apply_cases hc
    rw [hk, hst, hi.workspace?_eq_none_iff, hi.workspace?_eq_dir] at ha
    obtain hn | ⟨dir, vars, hd, hf, hx⟩ := ha
    · exact .inl hn
    · obtain ⟨fields, hfields⟩ := hf.pairs
      refine .inr ⟨dir, vars, fields, hd, hf, hfields, ?_⟩
      rw [hx, Terraform.mutatingArgs, List.append_assoc]
      rfl
  · -- both calls lead to one point of a run, with different entries before it
    let next : Course Args Output σ := (p.call x c).afresh
    have hc : p.call x c = { next with entries := next.entries ++ p.entry x c :: p.entries } := rfl
    have hd : p.call x d = { next with entries := next.entries ++ p.entry x d :: p.entries } := by
      simp [Course.call, next, Course.afresh, he, hp]
    intro q q'
    have hq : q = _ := (congrArg (Course.run x · after) hc).trans (next.run_onto x after _)
    have hq' : q' = _ := (congrArg (Course.run x · after) hd).trans (next.run_onto x after _)
    rw [hq, hq']
    exact ⟨rfl, rfl, _, rfl, rfl⟩

end Service
end Provision
