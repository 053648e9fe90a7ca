import Provision.Proofs.Machine
import Provision.Scenario

set_option autoImplicit false

namespace Provision

open Machine (Work Deed Request Command Ending)
open Terraform (Context)

namespace Management.Client

def conclude {α : Type} [Decode α] (say : Wording) (path : String) :
    Except String Http.Response → Except ScenarioFailure (Answer α)
  | .error reason => .error (.transport path reason)
  | .ok r => interpret say path r

@[simp] theorem ensures_get {α : Type} [Decode α] (c : Client) (below : String)
    (query : List (String × String)) (P : List Deed → Except ScenarioFailure (Answer α) → Prop) :
    Work.Ensures (c.get below query) P ↔ ∀ response say,
      P [.fetched (c.request (apiRoot ++ below) query) response]
        (conclude say (apiRoot ++ below) response) := by
  simp only [get, Dialogue.bind_eq, Dialogue.pure_eq, Work.ensures_bind, Work.ensures_fetch]
  refine forall_congr' fun response => ?_
  cases response with
  | error reason => simp [conclude]
  | ok r => simp [conclude]

end Management.Client

namespace ClusterLogin

variable (l : ClusterLogin) (binary : Path) (c : Context)

def command : Command := ⟨binary, l.args, none, [], c⟩

/-- What a login gives back, by how the tool ended or why it did not start. -/
def verdict : Except Fault Ending → Except ScenarioFailure String
  | .error e => .error (l.failed ("failed to start " ++ binary.text ++ ": " ++ e.message))
  | .ok (.lost e) => .error (l.failed ("failed to collect output: " ++ e.message))
  | .ok .cancelled => .error (l.failed "cancelled")
  | .ok .timedOut =>
    .error (l.failed ("timed out after " ++ toString (Terraform.Child.limitSeconds c) ++ "s"))
  | .ok (.exited code out err) =>
    if code = some 0 then .ok (Text.decode out)
    else .error (l.failed (if (Text.decode err).isEmpty then Text.decode out else Text.decode err))

@[simp] theorem ensures_finish (ending : Ending)
    (P : List Deed → Except ScenarioFailure String → Prop) :
    Work.Ensures (l.finish c ending) P ↔ P [] (l.verdict binary c (.ok ending)) := by
  cases ending with
  | lost e => simp [finish, verdict]
  | cancelled => simp [finish, verdict]
  | timedOut => simp [finish, verdict]
  | exited code out err => by_cases hc : code = some 0 <;> simp [finish, verdict, hc]

@[simp] theorem ensures_start (P : List Deed → Except ScenarioFailure String → Prop) :
    Work.Ensures (l.start binary c) P ↔
      ∀ r, P [.spawned (l.command binary c) r] (l.verdict binary c r) := by
  simp only [start, Dialogue.bind_eq, Dialogue.pure_eq, Work.ensures_bind, Work.ensures_log,
    Work.ensures_spawn, List.nil_append]
  refine forall_congr' fun r => ?_
  cases r with
  | error e => simp [command, verdict]
  | ok ending => simp [ensures_finish l binary c, command]

/-- What an attempt does and gives back: its directory cannot be made, or the tool is started. -/
inductive Attempt : List Deed → Except ScenarioFailure String → Prop
  | unmade {dir : Path} (e : Fault) (hd : l.kubeconfigDir = some dir) :
    Attempt [.made dir (.error e)]
      (.error (l.failed ("cannot create " ++ dir.text ++ ": " ++ e.message)))
  | started (r : Except Fault Ending) :
    Attempt ((l.kubeconfigDir.toList.map fun dir => .made dir (.ok ())) ++
      [.spawned (l.command binary c) r]) (l.verdict binary c r)

theorem Attempt.of_dir {dir? : Option Path} (hd : l.kubeconfigDir = dir?)
    (r : Except Fault Ending) :
    l.Attempt binary c ((dir?.toList.map fun dir => .made dir (.ok ())) ++
      [.spawned (l.command binary c) r]) (l.verdict binary c r) := by
  subst hd
  exact .started r

theorem ensures_run : Work.Ensures (l.run binary c) (l.Attempt binary c) := by
  unfold run
  cases hd : l.kubeconfigDir with
  | none =>
    rw [ensures_start]
    exact Attempt.of_dir l binary c hd
  | some dir =>
    simp only [Dialogue.bind_eq, Work.ensures_bind, Work.ensures_makeDirectories]
    intro made
    cases made with
    | error e => exact .unmade e hd
    | ok _ =>
      simp only [ensures_start]
      exact Attempt.of_dir l binary c hd

variable {l binary c}

theorem Attempt.ne_nil {ds : List Deed} {v : Except ScenarioFailure String}
    (h : l.Attempt binary c ds v) : ds ≠ [] := by
  cases h <;> simp

/-- Only a tool that exits with 0 succeeds; one that exits otherwise is quoted. -/
theorem verdict_cases (l : ClusterLogin) (binary : Path) (c : Context) (r : Except Fault Ending) :
    (∃ out err, r = .ok (.exited (some 0) out err) ∧
        l.verdict binary c r = .ok (Text.decode out)) ∨
      (∀ out err, r ≠ .ok (.exited (some 0) out err)) ∧
        ∃ reason, l.verdict binary c r = .error (l.failed reason) ∧
          ∀ code out err, r = .ok (.exited code out err) →
            reason = if (Text.decode err).isEmpty then Text.decode out else Text.decode err := by
  cases r with
  | error e => exact .inr ⟨by simp, _, rfl, by simp⟩
  | ok ending =>
    cases ending with
    | lost e => exact .inr ⟨by simp, _, rfl, by simp⟩
    | cancelled => exact .inr ⟨by simp, _, rfl, by simp⟩
    | timedOut => exact .inr ⟨by simp, _, rfl, by simp⟩
    | exited code out err =>
      by_cases hc : code = some 0
      · exact .inl ⟨out, err, by rw [hc], if_pos hc⟩
      · refine .inr ⟨by simp [hc], _, if_neg hc, ?_⟩
        intro code' out' err' h
        cases h
        rfl

end ClusterLogin

namespace Scenario

variable (s : Scenario) (id user password : String)

def described? (r : Http.Response) : Option Management.Cluster :=
  (Json.readWritten r.body).bind decode

/-- What follows a look-up, and what a login gives back: only a cluster that a success describes is
logged in to. -/
inductive Following (path : String) :
    Except String Http.Response → List Deed → Except ScenarioFailure String → Prop
  | unanswered (reason : String) :
    Following path (.error reason) [] (.error (.transport path reason))
  | refused {r : Http.Response} (hr : r.success = false) :
    Following path (.ok r) [] (.error (lookupFailed id user r.status r.body))
  | unread {r : Http.Response} (hr : r.success = true) (hb : described? r = none)
    (reason : String) : Following path (.ok r) [] (.error (.decode path reason))
  | found {r : Http.Response} {cluster : Management.Cluster} {ds : List Deed}
    {v : Except ScenarioFailure String} (hr : r.success = true) (hb : described? r = some cluster)
    (ha : (s.loginTo cluster.api.url id user password).Attempt s.settings.ocBinary s.context ds v) :
    Following path (.ok r) ds v

theorem ensures_login :
    let path := Management.Client.apiRoot ++ ("/clusters/" ++ id)
    Work.Ensures (s.login id user password) fun ds v => ∃ response es,
      ds = .fetched (s.client.request path []) response :: es ∧
        s.Following id user password path response es v := by
  intro path
  simp only [login, Management.Client.retrieveCluster, Dialogue.bind_eq, Dialogue.pure_eq,
    Work.ensures_bind, Management.Client.ensures_get]
  intro response say
  cases response with
  | error reason => exact ⟨_, [], rfl, .unanswered reason⟩
  | ok r =>
    rw [Management.Client.conclude]
    cases hr : r.success with
    | false =>
      simp only [Management.Client.interpret, hr]
      exact ⟨_, [], rfl, .refused hr⟩
    | true =>
      simp only [Management.Client.interpret, hr, if_true]
      cases hb : (Json.readWritten r.body).bind (@decode Management.Cluster _) with
      | none => exact ⟨_, [], rfl, .unread hr hb _⟩
      | some cluster =>
        have ha : (Management.Answer.mk r.status (some cluster) "").success = true := hr
        simp only [ha, if_true]
        refine (ClusterLogin.ensures_run _ _ _).imp fun es v h => ?_
        exact ⟨_, es, rfl, .found hr hb h⟩

theorem args_loginTo (server : String) :
    (s.loginTo server id user password).args =
      ["login", server, "--username=" ++ user, "--password=" ++ password,
        "--insecure-skip-tls-verify"] ++
        (s.settings.kubeconfigDir.map fun dir =>
          "--kubeconfig=" ++ (dir.join ⟨id ++ "." ++ user⟩).text).toList := by
  simp [loginTo, ClusterLogin.args, ClusterLogin.kubeconfig, Function.comp_def]

variable {s id user password}

theorem Following.attempt_iff {path : String} {response : Except String Http.Response}
    {ds : List Deed} {v : Except ScenarioFailure String}
    (h : s.Following id user password path response ds v) :
    ds ≠ [] ↔ ∃ r cluster, response = .ok r ∧ r.success = true ∧ described? r = some cluster := by
  cases h with
  | unanswered reason => simp
  | refused hr => simp [hr]
  | unread hr hb reason => simp [hb]
  | found hr hb ha => simp [ha.ne_nil, hr, hb]

/-- On any machine a login begins with the look-up, and goes on exactly if that was answered with a
success that describes a cluster. It then makes the directory for the configuration, if there is to
be one, and starts the tool unless that fails; the result is what the tool wrote if it exits with 0.
Every other look-up ends the login with its own failure. -/
theorem login_only_if_found (s : Scenario) (id user password : String) {σ : Type}
    (answer : (q : Request) → σ → q.Answer × σ) (w : σ) :
    let path := "/api/clusters_mgmt/v1/clusters/" ++ id
    let dir? := s.settings.kubeconfigDir
    let work := s.login id user password
    let result := (work.run answer w).1
    ∃ response attempt,
      Work.deeds answer work w = .fetched (s.client.request path []) response :: attempt ∧
      (attempt ≠ [] ↔ ∃ r cluster,
        response = .ok r ∧ (200 ≤ r.status ∧ r.status < 300) ∧ described? r = some cluster) ∧
      ((∃ reason, response = .error reason ∧ result = .error (.transport path reason)) ∨
        ∃ r, response = .ok r ∧
          (¬ (200 ≤ r.status ∧ r.status < 300) ∧
              result = .error (.login "" user
                ("cluster " ++ id ++ " lookup returned " ++ toString r.status ++ ": " ++ r.body)) ∨
            (200 ≤ r.status ∧ r.status < 300) ∧ described? r = none ∧
              (∃ reason, result = .error (.decode path reason)) ∨
            (200 ≤ r.status ∧ r.status < 300) ∧ ∃ cluster, described? r = some cluster ∧
              let failed (reason : String) : Except ScenarioFailure String :=
                .error (.login cluster.api.url user reason)
              let flags := ["login", cluster.api.url, "--username=" ++ user,
                "--password=" ++ password, "--insecure-skip-tls-verify"] ++
                (dir?.map fun dir => "--kubeconfig=" ++ (dir.join ⟨id ++ "." ++ user⟩).text).toList
              (∃ dir e reason, dir? = some dir ∧ attempt = [.made dir (.error e)] ∧
                  result = failed reason) ∨
                ∃ outcome, attempt = (dir?.toList.map fun dir => .made dir (.ok ())) ++
                    [.spawned ⟨s.settings.ocBinary, flags, none, [], s.context⟩ outcome] ∧
                  ((∃ out err, outcome = .ok (.exited (some 0) out err) ∧
                      result = .ok (Text.decode out)) ∨
                    (∀ out err, outcome ≠ .ok (.exited (some 0) out err)) ∧
                      ∃ reason, result = failed reason ∧
                        ∀ code out err, outcome = .ok (.exited code out err) → reason =
                          if (Text.decode err).isEmpty then Text.decode out
                          else Text.decode err))) := by
  intro path dir? work result
  have hpath : Management.Client.apiRoot ++ ("/clusters/" ++ id) = path := by
    rw [← String.append_assoc]
    rfl
  have hsuccess (r : Http.Response) : r.success = true ↔ 200 ≤ r.status ∧ r.status < 300 := by
    simp [Http.Response.success]
  have h := Work.deeds_of_ensures (s.ensures_login id user password) answer w
  obtain ⟨response, attempt, hds, hf⟩ := h
  rw [hpath] at hds hf
  change s.Following id user password path response attempt result at hf
  refine ⟨response, attempt, hds, by simpa only [hsuccess] using hf.attempt_iff, ?_⟩
  clear_value result
  cases hf with
  | unanswered reason => exact .inl ⟨reason, rfl, rfl⟩
  | @refused r hr =>
    have hn : ¬ (200 ≤ r.status ∧ r.status < 300) := by simp [← hsuccess, hr]
    exact .inr ⟨r, rfl, .inl ⟨hn, rfl⟩⟩
  | @unread r hr hb reason =>
    exact .inr ⟨r, rfl, .inr (.inl ⟨(hsuccess r).mp hr, hb, reason, rfl⟩)⟩
  | @found r cluster _ _ hr hb ha =>
    refine .inr ⟨r, rfl, .inr (.inr ⟨(hsuccess r).mp hr, cluster, hb, ?_⟩)⟩
    intro failed flags
    cases ha with
    | unmade e hd => exact .inl ⟨_, e, _, hd, rfl, rfl⟩
    | started outcome =>
      refine .inr ⟨outcome, ?_, ClusterLogin.verdict_cases _ _ _ outcome⟩
      rw [ClusterLogin.command, args_loginTo]
      rfl

end Scenario
end Provision
