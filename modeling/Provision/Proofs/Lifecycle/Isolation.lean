import Mathlib.Data.List.Induction
import Provision.Kind.Cluster
import Provision.Kind.MachinePool
import Provision.Proofs.Lifecycle.Requests
import Provision.Proofs.Locality

/-!
Two services under one executor. Each keeps to the directories of its own inits. If these are apart
and the executor's replies in a directory depend on that directory alone, then neither service can
tell that there is another one, however their calls are mixed.
-/

set_option autoImplicit false

namespace Provision.Service

open Terraform (Context Executor Exchange Query Reply inPlace inPlace_append inPlace_eq_nil)

variable {Args Output Args' Output' σ δ : Type} {s₀ s s' : Service Args Output}
  {h : List (Entry Args Output)} {c : Call Args} {es : List Exchange} {r : Result Output}

def Prepares (s : Service Args Output) (calls : List (Call Args)) (d : Path) : Prop :=
  ∃ dir?, .init dir? ∈ calls ∧ s.target dir? = d

theorem Call.exists_eq_init (hc : c.isInit = true) : ∃ dir?, c = .init dir? := by
  cases c with
  | init dir? => exact ⟨dir?, rfl⟩
  | _ => cases hc

theorem Step.init_workspace {dir? : Option Path} (hs : Step s (.init dir?) es r s') :
    ∀ q ∈ es, q.invocation.workspace = s.target dir? := by
  have hm := hs.invocations_eq
  intro q hq
  have hi : q.invocation ∈ es.map Exchange.invocation := List.mem_map_of_mem hq
  rw [hm] at hi
  simp only [request?, Option.toList_some, List.mem_singleton] at hi
  rw [hi]

theorem Entry.prepared?_init {e : Entry Args Output} {dir? : Option Path} {d : Path}
    (hc : e.call = .init dir?) (hd : e.prepared? = some d) : d = e.before.target dir? := by
  unfold prepared? at hd
  split at hd
  · simp only [target?, hc, Option.some.injEq] at hd
    exact hd.symm
  · cases hd

/-- A call asks only in a directory that an init resolved to, this call's or an earlier one's. -/
theorem Step.keeps_to {D : Path → Prop} (hs : Step s c es r s')
    (hw : ∀ d, s.dir = some d → D d) (hc : ∀ dir?, c = .init dir? → D (s.target dir?)) :
    (∀ d, s'.dir = some d → D d) ∧ ∀ q ∈ es, D q.invocation.workspace := by
  have hd := hs.dir_eq
  by_cases hi : c.isInit = true
  · obtain ⟨dir?, rfl⟩ := Call.exists_eq_init hi
    have ht : D (s.target dir?) := hc dir? rfl
    rw [if_pos hi] at hd
    constructor
    · intro d he
      rw [hd] at he
      rw [Entry.prepared?_init rfl he]
      exact ht
    · intro q hq
      rw [hs.init_workspace q hq]
      exact ht
  · rw [if_neg hi] at hd
    refine ⟨by rwa [hd], fun q hq => ?_⟩
    have hq := hs.workspace_eq (by simpa using hi) q hq
    exact hw _ (workspace?_eq_some_iff.mp hq).2

theorem History.keeps_to {D : Path → Prop} (hh : History s₀ h s) (hw : ∀ d, s₀.dir = some d → D d)
    (hc : ∀ e ∈ h, ∀ dir?, e.call = .init dir? → D (s₀.target dir?)) :
    (∀ d, s.dir = some d → D d) ∧ ∀ e ∈ h, ∀ q ∈ e.exchanges, D q.invocation.workspace := by
  induction hh with
  | begin => exact ⟨hw, by simp⟩
  | @step h s s' c es r past last ih =>
    obtain ⟨hl, hp⟩ := List.forall_mem_cons.mp hc
    obtain ⟨hd, hq⟩ := ih hp
    obtain ⟨hk, hs, -⟩ := past.setup_eq
    have ht : ∀ dir?, c = .init dir? → D (s.target dir?) := by
      intro dir? he
      have h₀ := hl dir? he
      rwa [target, ← hk, ← hs] at h₀
    obtain ⟨hd', hq'⟩ := last.keeps_to hd ht
    exact ⟨hd', List.forall_mem_cons.mpr ⟨hq', hq⟩⟩

theorem Course.run_append (x : Executor σ) (p : Course Args Output σ) (calls calls' : List (Call Args)) :
    p.run x (calls ++ calls') = (p.run x calls).run x calls' := List.foldl_append

theorem Course.calls_run (x : Executor σ) (p : Course Args Output σ) (calls : List (Call Args)) :
    (p.run x calls).entries.map Entry.call = calls.reverse ++ p.entries.map Entry.call := by
  induction calls generalizing p with
  | nil => rfl
  | cons c calls ih =>
    have hc := ih (p.call x c)
    simp only [List.reverse_cons, List.append_assoc]
    exact hc

theorem prepares_of_run (kind : ResourceKind Args Output) (settings : Settings) (context : Context)
    (x : Executor σ) (w : σ) (calls : List (Call Args)) :
    ∀ e ∈ ((Course.new kind settings context w).run x calls).entries, ∀ q ∈ e.exchanges,
      Prepares (.new kind settings) calls q.invocation.workspace := by
  have hh := history_new kind settings context x w calls
  refine (hh.keeps_to (D := Prepares (.new kind settings) calls) nofun ?_).2
  intro e he dir? hc
  refine ⟨dir?, ?_, rfl⟩
  have hm : e.call ∈ ((Course.new kind settings context w).run x calls).entries.map Entry.call :=
    List.mem_map_of_mem he
  rw [Course.calls_run, hc] at hm
  simpa [Course.new] using hm

theorem prepares_of_entry (kind : ResourceKind Args Output) (settings : Settings)
    (context : Context) (x : Executor σ) (w : σ) (calls : List (Call Args)) (c : Call Args) :
    ∀ q ∈ (((Course.new kind settings context w).run x calls).entry x c).exchanges,
      Prepares (.new kind settings) (calls ++ [c]) q.invocation.workspace := by
  have h := prepares_of_run kind settings context x w (calls ++ [c])
  rw [Course.run_append] at h
  exact h _ List.mem_cons_self

/-- Two services that share an executor, and what either did so far, the latest first. -/
structure Neighbours (Args Output Args' Output' σ : Type) where
  left : Service Args Output
  right : Service Args' Output'
  world : σ
  entries : List (Entry Args Output ⊕ Entry Args' Output') := []

namespace Neighbours

def call (x : Executor σ) (p : Neighbours Args Output Args' Output' σ) :
    Call Args ⊕ Call Args' → Neighbours Args Output Args' Output' σ
  | .inl c =>
    let q := Course.mk p.left p.world []
    { p with
      left := (q.entry x c).after
      world := (q.call x c).world
      entries := .inl (q.entry x c) :: p.entries }
  | .inr c =>
    let q := Course.mk p.right p.world []
    { p with
      right := (q.entry x c).after
      world := (q.call x c).world
      entries := .inr (q.entry x c) :: p.entries }

def run (x : Executor σ) (p : Neighbours Args Output Args' Output' σ)
    (calls : List (Call Args ⊕ Call Args')) : Neighbours Args Output Args' Output' σ :=
  calls.foldl (call x) p

end Neighbours

variable [DecidableEq δ] {site : Path → δ} {x : Executor σ} {w : σ} {D : δ → Prop}
  {entries : List (Entry Args Output)} {k k' : List Query} {p : Course Args Output σ}

/-- A service among others stands where it stands in the run `p` of its own: the histories `k` that
they share and the one that `p` saw are the same in the places `D`. -/
structure Tracks (x : Executor σ) (w : σ) (site : Path → δ) (D : δ → Prop)
    (s : Service Args Output) (entries : List (Entry Args Output)) (k : List Query)
    (p : Course Args Output σ) : Prop where
  service_eq : s = p.service
  entries_eq : entries = p.entries
  agrees : ∃ l, p.world = x.after w l ∧ ∀ t, D t → inPlace site t l = inPlace site t k

theorem Tracks.call (ht : Tracks x w site D s entries k p) (hx : x.Local w site) (c : Call Args)
    (hd : ∀ q ∈ (p.entry x c).exchanges, D (site q.invocation.workspace)) :
    (∀ q ∈ x.asked (s.perform c) (x.after w k), D (site q.1.workspace)) ∧
      (Course.mk s (x.after w k) []).entry x c = p.entry x c ∧
      Tracks x w site D (p.entry x c).after (p.entry x c :: entries)
        (k ++ x.asked (s.perform c) (x.after w k)) (p.call x c) := by
  obtain ⟨rfl, rfl, l, hl, hag⟩ := ht
  have hp : ∀ q ∈ x.asked (p.service.perform c) (x.after w l), D (site q.1.workspace) := by
    intro q hq
    have hm : q.1 ∈ (x.asked (p.service.perform c) (x.after w l)).map Prod.fst :=
      List.mem_map_of_mem hq
    rw [x.asked_invocations, ← hl] at hm
    obtain ⟨e, he, hi⟩ := List.mem_map.mp hm
    rw [← hi]
    exact hd e he
  obtain ⟨ha, he, hr⟩ := hx.converse_eq (p.service.perform c) hag hp
  have hw : (p.call x c).world = x.after w (l ++ x.asked (p.service.perform c) (x.after w l)) := by
    rw [x.after_append, ← x.state_converse, ← hl]
    rfl
  refine ⟨by rwa [ha], ?_, rfl, rfl, _, hw, ?_⟩
  · simp only [Course.entry, he, hr, ← hl]
  · intro t ht
    rw [inPlace_append, inPlace_append, hag t ht, ha]

theorem Tracks.pass (ht : Tracks x w site D s entries k p)
    (hk : ∀ q ∈ k', ¬ D (site q.1.workspace)) : Tracks x w site D s entries (k ++ k') p := by
  obtain ⟨hs, he, l, hl, hag⟩ := ht
  refine ⟨hs, he, l, hl, fun t ht => ?_⟩
  have hn : inPlace site t k' = [] := by
    refine inPlace_eq_nil fun q hq he => hk q hq ?_
    rwa [he]
  rw [inPlace_append, hn, List.append_nil]
  exact hag t ht

section Joint

variable (kind : ResourceKind Args Output) (settings : Settings) (context : Context)
  (kind' : ResourceKind Args' Output') (settings' : Settings) (context' : Context)

def Neighbours.new (w : σ) : Neighbours Args Output Args' Output' σ where
  left := (Service.new kind settings).withContext context
  right := (Service.new kind' settings').withContext context'
  world := w

/-- At each point of a joint run both services stand where their own runs stand. -/
theorem Neighbours.tracks_run {D' : δ → Prop} (hx : x.Local w site)
    (hdd : ∀ t, D t → ¬ D' t) (calls : List (Call Args ⊕ Call Args'))
    (hl : ∀ d, Prepares (.new kind settings) (calls.filterMap Sum.getLeft?) d → D (site d))
    (hr : ∀ d, Prepares (.new kind' settings') (calls.filterMap Sum.getRight?) d → D' (site d)) :
    let p := (Neighbours.new kind settings context kind' settings' context' w).run x calls
    ∃ k, p.world = x.after w k ∧
      Tracks x w site D p.left (p.entries.filterMap Sum.getLeft?) k
        ((Course.new kind settings context w).run x (calls.filterMap Sum.getLeft?)) ∧
      Tracks x w site D' p.right (p.entries.filterMap Sum.getRight?) k
        ((Course.new kind' settings' context' w).run x (calls.filterMap Sum.getRight?)) := by
  induction calls using List.reverseRecOn with
  | nil => exact ⟨[], rfl, ⟨rfl, rfl, [], rfl, fun _ _ => rfl⟩, ⟨rfl, rfl, [], rfl, fun _ _ => rfl⟩⟩
  | append_singleton calls c ih =>
    simp only [List.filterMap_append] at hl hr
    have hl' (d : Path) (hd : Prepares (.new kind settings) (calls.filterMap Sum.getLeft?) d) :
        D (site d) := by
      obtain ⟨dir?, hm, hd⟩ := hd
      exact hl d ⟨dir?, List.mem_append_left _ hm, hd⟩
    have hr' (d : Path) (hd : Prepares (.new kind' settings') (calls.filterMap Sum.getRight?) d) :
        D' (site d) := by
      obtain ⟨dir?, hm, hd⟩ := hd
      exact hr d ⟨dir?, List.mem_append_left _ hm, hd⟩
    obtain ⟨k, hw, ht, ht'⟩ := ih hl' hr'
    simp only [run, List.foldl_append, List.filterMap_append, Course.run_append] at hw ht ht' ⊢
    generalize calls.foldl (call x) (new kind settings context kind' settings' context' w) = p
      at hw ht ht' ⊢
    obtain ⟨left, right, world, entries⟩ := p
    simp only at hw ht ht'
    subst hw
    cases c with
    | inl c =>
      have hd := prepares_of_entry kind settings context x w (calls.filterMap Sum.getLeft?) c
      obtain ⟨hk, he, ho⟩ := ht.call hx c fun q hq => hl _ (hd q hq)
      refine ⟨k ++ x.asked (left.perform c) (x.after w k), ?_, ?_, ?_⟩
      · rw [x.after_append, ← x.state_converse]
        rfl
      · simp only [List.foldl_cons, List.foldl_nil, Neighbours.call, he]
        exact ho
      · exact ht'.pass fun q hq => hdd _ (hk q hq)
    | inr c =>
      have hd := prepares_of_entry kind' settings' context' x w (calls.filterMap Sum.getRight?) c
      obtain ⟨hk, he, ho⟩ := ht'.call hx c fun q hq => hr _ (hd q hq)
      refine ⟨k ++ x.asked (right.perform c) (x.after w k), ?_, ?_, ?_⟩
      · rw [x.after_append, ← x.state_converse]
        rfl
      · exact ht.pass fun q hq ht => hdd _ ht (hk q hq)
      · simp only [List.foldl_cons, List.foldl_nil, Neighbours.call, he]
        exact ho

/-- Services whose inits resolve to different places do what each does alone, under an executor
whose replies in a place depend on what was asked in that place only. Neither asks anything in a
place of the other. -/
theorem isolated_of_apart (hx : x.Local w site) (calls : List (Call Args ⊕ Call Args'))
    (ha : ∀ d d', Prepares (.new kind settings) (calls.filterMap Sum.getLeft?) d →
      Prepares (.new kind' settings') (calls.filterMap Sum.getRight?) d' → site d ≠ site d') :
    let p := (Neighbours.new kind settings context kind' settings' context' w).run x calls
    let mine := calls.filterMap Sum.getLeft?
    let theirs := calls.filterMap Sum.getRight?
    let q := (Course.new kind settings context w).run x mine
    let q' := (Course.new kind' settings' context' w).run x theirs
    p.left = q.service ∧ p.entries.filterMap Sum.getLeft? = q.entries ∧
      p.right = q'.service ∧ p.entries.filterMap Sum.getRight? = q'.entries ∧
      (∀ e, .inl e ∈ p.entries → ∀ a ∈ e.exchanges,
        Prepares (.new kind settings) mine a.invocation.workspace ∧
          ∀ d, Prepares (.new kind' settings') theirs d → site a.invocation.workspace ≠ site d) ∧
      ∀ e, .inr e ∈ p.entries → ∀ a ∈ e.exchanges,
        Prepares (.new kind' settings') theirs a.invocation.workspace ∧
          ∀ d, Prepares (.new kind settings) mine d → site a.invocation.workspace ≠ site d := by
  intro p mine theirs q q'
  let D (t : δ) : Prop := ∃ d, Prepares (.new kind settings) mine d ∧ site d = t
  let D' (t : δ) : Prop := ∃ d, Prepares (.new kind' settings') theirs d ∧ site d = t
  have hdd : ∀ t, D t → ¬ D' t := by
    rintro t ⟨d, hd, rfl⟩ ⟨d', hd', he⟩
    exact ha d d' hd hd' he.symm
  obtain ⟨k, -, ht, ht'⟩ := Neighbours.tracks_run kind settings context kind' settings' context'
    hx hdd calls (fun d hd => ⟨d, hd, rfl⟩) fun d hd => ⟨d, hd, rfl⟩
  refine ⟨ht.service_eq, ht.entries_eq, ht'.service_eq, ht'.entries_eq, ?_, ?_⟩
  · intro e he a hq
    have hm : e ∈ q.entries := by
      rw [← ht.entries_eq]
      exact List.mem_filterMap.mpr ⟨_, he, rfl⟩
    have hp := prepares_of_run kind settings context x w mine e hm a hq
    exact ⟨hp, fun d hd => ha _ d hp hd⟩
  · intro e he a hq
    have hm : e ∈ q'.entries := by
      rw [← ht'.entries_eq]
      exact List.mem_filterMap.mpr ⟨_, he, rfl⟩
    have hp := prepares_of_run kind' settings' context' x w theirs e hm a hq
    exact ⟨hp, fun d hd => (ha d _ hd hp).symm⟩

end Joint

/-- Grants everything but a second apply in a directory. -/
def once : Executor (List Query) :=
  .recalling id fun h i _ =>
    if i.subcommand = .apply ∧ h.any (fun q => q.1.subcommand = .apply) then
      .ok ⟨.apply, 1, "", "applied before"⟩
    else .ok (.ok i.subcommand "")

/-- A cluster and a machine pool, each applied once and one of them twice. -/
theorem isolated_of_two_directories :
    let calls : List (Call ClusterArgs ⊕ Call MachinePoolArgs) :=
      [.inl (.init (some ⟨"/m/a"⟩)), .inr (.init (some ⟨"/m/b"⟩)), .inl (.create {} []),
        .inr (.create {} []), .inl (.create {} []), .inr (.destroy none)]
    let p := (Neighbours.new .cluster {} ⟨none, false⟩ .machinePool {} ⟨none, false⟩ []).run once calls
    let q := (Course.new ResourceKind.cluster {} ⟨none, false⟩ []).run once
      (calls.filterMap Sum.getLeft?)
    once.Local [] id ∧ p.entries.filterMap Sum.getLeft? = q.entries ∧
      p.left.phase = .initialized ∧ p.right.phase = .destroyed := by
  intro calls p q
  have hx : once.Local [] id := Executor.local_recalling _ _
  have ha : ∀ d d', Prepares (.new .cluster {}) (calls.filterMap Sum.getLeft?) d →
      Prepares (.new .machinePool {}) (calls.filterMap Sum.getRight?) d' → d ≠ d' := by
    rintro d d' ⟨dir, hm, rfl⟩ ⟨dir', hm', rfl⟩
    simp only [calls, List.filterMap_cons, Sum.getLeft?, Sum.getRight?, List.filterMap_nil,
      List.mem_cons, Call.init.injEq, reduceCtorEq, or_false, List.not_mem_nil] at hm hm'
    subst hm hm'
    decide
  exact ⟨hx, (isolated_of_apart .cluster {} ⟨none, false⟩ .machinePool {} ⟨none, false⟩ hx calls
    ha).2.1, rfl, rfl⟩

end Provision.Service
