import Provision.Proofs.Exchange

/-!
Executors whose replies in a directory depend on nothing but what was asked there before. Two
histories that agree on the directories a session keeps to give it the same conversation.
-/

set_option autoImplicit false

namespace Provision.Terraform

variable {σ α δ : Type}

abbrev Query := Invocation × Context

namespace Executor

variable (x : Executor σ) (w : σ)

def after (h : List Query) : σ := h.foldl (fun v q => (x.execute q.1 q.2 v).2) w

def asked : Session α → σ → List Query
  | .done _, _ => []
  | .ask (.log _) next, v => asked (next ()) v
  | .ask (.execute i c) next, v =>
    (i, c) :: asked (next (x.execute i c v).1) (x.execute i c v).2
  | .ask (.wording sub) next, v => asked (next (x.wording sub)) v

theorem after_append (h k : List Query) : x.after w (h ++ k) = x.after (x.after w h) k :=
  List.foldl_append

theorem after_snoc (h : List Query) (i : Invocation) (c : Context) :
    (x.execute i c (x.after w h)).2 = x.after w (h ++ [(i, c)]) := by
  rw [after_append]
  rfl

theorem state_converse (d : Session α) : (x.converse d w).state = x.after w (x.asked d w) := by
  induction d generalizing w with
  | done a => rfl
  | ask q next ih =>
    cases q with
    | log e => exact ih () w
    | execute i c => exact ih (x.execute i c w).1 (x.execute i c w).2
    | wording sub => exact ih (x.wording sub) w

theorem asked_invocations (d : Session α) :
    (x.asked d w).map Prod.fst = (x.converse d w).exchanges.map Exchange.invocation := by
  induction d generalizing w with
  | done a => rfl
  | ask q next ih =>
    cases q with
    | log e => exact ih () w
    | execute i c =>
      have h := ih (x.execute i c w).1 (x.execute i c w).2
      simp only [asked, converse, List.map_cons, h]
    | wording sub => exact ih (x.wording sub) w

end Executor

variable [DecidableEq δ] {site : Path → δ}

/-- The queries of a history in one place. Which place a path stands for is left to `site`. -/
def inPlace (site : Path → δ) (t : δ) (h : List Query) : List Query :=
  h.filter fun q => site q.1.workspace = t

theorem inPlace_append (t : δ) (h k : List Query) :
    inPlace site t (h ++ k) = inPlace site t h ++ inPlace site t k := List.filter_append ..

theorem inPlace_eq_nil {t : δ} {k : List Query} (hk : ∀ q ∈ k, site q.1.workspace ≠ t) :
    inPlace site t k = [] := by
  refine List.filter_eq_nil_iff.mpr fun q hq => ?_
  simpa using hk q hq

/-- From the state `w` on, the reply to an invocation is settled by the earlier queries in its
place. -/
def Executor.Local (x : Executor σ) (w : σ) (site : Path → δ) : Prop :=
  ∀ (h h' : List Query) (i : Invocation) (c : Context),
    inPlace site (site i.workspace) h = inPlace site (site i.workspace) h' →
      (x.execute i c (x.after w h)).1 = (x.execute i c (x.after w h')).1

/-- A session that keeps to places where two histories agree has one conversation after both. -/
theorem Executor.Local.converse_eq {x : Executor σ} {w : σ} (hx : x.Local w site)
    {D : δ → Prop} (d : Session α) {h h' : List Query}
    (hag : ∀ t, D t → inPlace site t h = inPlace site t h')
    (hd : ∀ q ∈ x.asked d (x.after w h), D (site q.1.workspace)) :
    x.asked d (x.after w h') = x.asked d (x.after w h) ∧
      (x.converse d (x.after w h')).exchanges = (x.converse d (x.after w h)).exchanges ∧
      (x.converse d (x.after w h')).result = (x.converse d (x.after w h)).result := by
  induction d generalizing h h' with
  | done a => exact ⟨rfl, rfl, rfl⟩
  | ask q next ih =>
    cases q with
    | log e => exact ih () hag hd
    | execute i c =>
      have hi : D (site i.workspace) := hd (i, c) List.mem_cons_self
      have hr : (x.execute i c (x.after w h)).1 = (x.execute i c (x.after w h')).1 :=
        hx h h' i c (hag _ hi)
      have hag' : ∀ t, D t → inPlace site t (h ++ [(i, c)]) = inPlace site t (h' ++ [(i, c)]) := by
        intro t ht
        rw [inPlace_append, inPlace_append, hag t ht]
      have hd' : ∀ q ∈ x.asked (next (x.execute i c (x.after w h)).1) (x.after w (h ++ [(i, c)])),
          D (site q.1.workspace) := by
        intro q hq
        rw [← x.after_snoc] at hq
        exact hd q (List.mem_cons_of_mem _ hq)
      obtain ⟨ha, he, hv⟩ := ih _ hag' hd'
      simp only [asked, converse, ← hr, after_snoc, ha, he, hv, and_self]
    | wording sub => exact ih (x.wording sub) hag hd

/-- The executor that keeps all queries and replies from those in the same place. -/
def Executor.recalling (site : Path → δ) (reply : List Query → Invocation → Context → Reply) :
    Executor (List Query) where
  execute i c h := (reply (inPlace site (site i.workspace) h) i c, h ++ [(i, c)])

theorem Executor.local_recalling (reply : List Query → Invocation → Context → Reply)
    (w : List Query) : (recalling site reply).Local w site := by
  have hw (h : List Query) : (recalling site reply).after w h = w ++ h := by
    induction h generalizing w with
    | nil => exact (List.append_nil w).symm
    | cons q h ih =>
      have hq := ih (w ++ [q])
      rwa [List.append_assoc] at hq
  intro h h' i c hs
  rw [hw, hw]
  simp only [recalling, inPlace_append, hs]

end Provision.Terraform
