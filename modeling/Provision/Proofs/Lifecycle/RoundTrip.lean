import Provision.Proofs.Kind
import Provision.Proofs.Kind.Arguments
import Provision.Proofs.Lifecycle.Memory
import Provision.Proofs.Record.Echo

set_option autoImplicit false

namespace Provision

open Terraform (Context Executor Exchange Script mutatingArgs outputsOf outputsOf_eq_ok_iff queryArgs)
open Record (read_of_echoes value?_eq_none_of_echoes)

variable {Args Output σ : Type}

def MachinePoolArgs.readBack (a : MachinePoolArgs) : MachinePoolOutput where
  id := ""
  name := a.name.getD ""
  clusterId := ""
  replicas := a.replicas.getD 0
  machineType := a.machineType.getD ""
  autoscalingEnabled := a.autoscalingEnabled.getD false
  labels := a.labels.getD .empty

def ClusterArgs.readBack (a : ClusterArgs) : ClusterOutput where
  clusterId := ""
  clusterName := a.clusterName.getD ""
  openshiftVersion := a.openshiftVersion.getD ""
  apiUrl := ""
  state := ""

def CloudProvidersArgs.readBack (a : CloudProvidersArgs) : CloudProvidersOutput where
  search := a.search.getD ""
  order := a.order.getD ""
  items := []
  item := none

section Echoes

variable {o : Outputs} {vars extra : List String}

theorem MachinePoolArgs.ofOutputs_eq_readBack {a : MachinePoolArgs}
    (hv : Variables.encode (Record.document a) = .ok vars)
    (he : o.Echoes (Record.document a) (mutatingArgs (vars ++ extra))) :
    MachinePoolOutput.ofOutputs o = a.readBack := by
  have hid : o.text "machine_pool_id" = "" :=
    congrArg Json.asString (value?_eq_none_of_echoes named he (by decide))
  have hcluster : o.text "cluster_id" = "" :=
    congrArg Json.asString (value?_eq_none_of_echoes named he (by decide))
  have hname : o.text "name" = a.name.getD "" :=
    read_of_echoes named hv he Record.reads_text (by simp [Record.fields, Field.optional])
  have hreplicas : o.int "replicas" = a.replicas.getD 0 :=
    read_of_echoes named hv he Record.reads_int (by simp [Record.fields, Field.optional])
  have htype : o.text "machine_type" = a.machineType.getD "" :=
    read_of_echoes named hv he Record.reads_text (by simp [Record.fields, Field.optional])
  have hauto : o.bool "autoscaling_enabled" = a.autoscalingEnabled.getD false :=
    read_of_echoes named hv he Record.reads_bool (by simp [Record.fields, Field.optional])
  have hlabels : o.labels "labels" = a.labels.getD .empty :=
    read_of_echoes named hv he Record.reads_labels (by simp [Record.fields, Field.optional])
  rw [MachinePoolOutput.ofOutputs, hid, hname, hcluster, hreplicas, htype, hauto, hlabels, readBack]

theorem ClusterArgs.ofOutputs_eq_readBack {a : ClusterArgs}
    (hv : Variables.encode (Record.document a) = .ok vars)
    (he : o.Echoes (Record.document a) (mutatingArgs (vars ++ extra))) :
    ClusterOutput.ofOutputs o = a.readBack := by
  have hid : o.text "cluster_id" = "" :=
    congrArg Json.asString (value?_eq_none_of_echoes named he (by decide))
  have hapi : o.text "api_url" = "" :=
    congrArg Json.asString (value?_eq_none_of_echoes named he (by decide))
  have hstate : o.text "state" = "" :=
    congrArg Json.asString (value?_eq_none_of_echoes named he (by decide))
  have hname : o.text "cluster_name" = a.clusterName.getD "" :=
    read_of_echoes named hv he Record.reads_text (by simp [Record.fields, Field.optional])
  have hversion : o.text "openshift_version" = a.openshiftVersion.getD "" :=
    read_of_echoes named hv he Record.reads_text (by simp [Record.fields, Field.optional])
  rw [ClusterOutput.ofOutputs, hid, hapi, hstate, hname, hversion, readBack]

theorem CloudProvidersArgs.ofOutputs_eq_readBack {a : CloudProvidersArgs}
    (hv : Variables.encode (Record.document a) = .ok vars)
    (he : o.Echoes (Record.document a) (mutatingArgs (vars ++ extra))) :
    CloudProvidersOutput.ofOutputs o = a.readBack := by
  have hitems : o.value? "items" = none := value?_eq_none_of_echoes named he (by decide)
  have hitem : o.value? "item" = none := value?_eq_none_of_echoes named he (by decide)
  have hsearch : Json.asString (o.value? "search") = a.search.getD "" :=
    read_of_echoes named hv he Record.reads_text (by simp [Record.fields, Field.optional])
  have horder : Json.asString (o.value? "order") = a.order.getD "" :=
    read_of_echoes named hv he Record.reads_text (by simp [Record.fields, Field.optional])
  rw [CloudProvidersOutput.ofOutputs, CloudProvidersOutput.ofAttributes, hsearch, horder, hitems,
    hitem, readBack]
  rfl

end Echoes

namespace ResourceKind

/-- The kinds whose outputs repeat arguments, and what arguments come back as. -/
inductive Mirrors : {Args Output : Type} → ResourceKind Args Output → (Args → Output) → Prop
  | machinePool : Mirrors ResourceKind.machinePool MachinePoolArgs.readBack
  | cluster : Mirrors ResourceKind.cluster ClusterArgs.readBack
  | cloudProviders : Mirrors ResourceKind.cloudProviders CloudProvidersArgs.readBack

variable {kind : ResourceKind Args Output} {view : Args → Output}

theorem Mirrors.shipped (hm : kind.Mirrors view) : kind.Shipped := by
  cases hm with
  | machinePool => exact .machinePool
  | cluster => exact .cluster
  | cloudProviders => exact .cloudProviders

theorem Mirrors.project_eq (hm : kind.Mirrors view) {url : String} {a : Args} {record : Json}
    {vars extra : List String} {o : Outputs} (hr : kind.serialise (kind.stamp url a) = .ok record)
    (hv : Variables.encode record = .ok vars)
    (he : o.Echoes record (mutatingArgs (vars ++ extra))) : kind.project o = view a := by
  cases hm with
  | machinePool =>
    cases hr
    exact (MachinePoolArgs.ofOutputs_eq_readBack hv he).trans rfl
  | cluster =>
    cases hr
    exact (ClusterArgs.ofOutputs_eq_readBack hv he).trans rfl
  | cloudProviders =>
    cases hr
    exact (CloudProvidersArgs.ofOutputs_eq_readBack hv he).trans rfl

end ResourceKind

namespace Service

variable {s s' : Service Args Output} {c : Call Args} {es : List Exchange} {r : Result Output}

theorem Step.output_after_create {s'' : Service Args Output} {es' : List Exchange}
    {r' : Result Output} (hs : Step s c es r s') (hs' : Step s' .output es' r' s'') (hi : Sound s)
    {a : Args} {extra vars : List String} {dir : Path} (hc : c.creation? = some (a, extra))
    (hw : s.workspace? = some dir) (hv : s.varsOf (s.stamped a) extra = .ok vars)
    (hg : ∀ q ∈ es, q.Granted) :
    r = .ok none ∧ ∃ q reply say, es = [q] ∧ q.invocation.args = mutatingArgs vars ∧
      es' = [⟨⟨.output, dir, queryArgs⟩, reply⟩] ∧
      r' = (outputsOf say dir reply).map fun o => some (s.kind.project o) := by
  have hreq : s.request? c = some ⟨.apply, dir, mutatingArgs vars⟩ := by
    rw [request?_of_creation hc]
    exact change?_eq hw hv
  obtain ⟨hr, ha⟩ := hs.create_granted hc hreq hg
  have hes := hs.invocations_eq
  rw [hreq] at hes
  obtain ⟨q, hq, hqi⟩ := List.map_eq_singleton_iff.mp hes
  have hw' : s'.workspace? = some dir :=
    (hs.workspace?_eq hi (Call.isInit_of_creation hc)).trans hw
  have hreq' : s'.request? .output = some ⟨.output, dir, queryArgs⟩ := by
    have happ : s'.applied = true := by rw [ha]
    simp [request?, happ, hw']
  obtain ⟨reply, say, hq', hr'⟩ := hs'.output_result hreq'
  refine ⟨hr, q, reply, say, hq, by rw [hqi], hq', ?_⟩
  rw [hr', show s'.kind = s.kind by rw [ha]; rfl]

end Service

open Service (Course Step)

/-- Outputs that echo the apply of a create give its arguments back: what was set as it was, and
what was not, or was a zero, as the zero of its type. -/
theorem readBack_of_run {kind : ResourceKind Args Output} {view : Args → Output}
    (hm : kind.Mirrors view) (settings : Settings) (context : Context) (x : Executor σ) (w : σ)
    (calls : List (Service.Call Args)) {c : Service.Call Args} {a : Args} {extra : List String}
    (hc : c.creation? = some (a, extra)) :
    let p := (Course.new kind settings context w).run x calls
    let e := p.entry x c
    let e' := (p.call x c).entry x .output
    p.service.phase ≠ .uninitialized →
    (∀ q ∈ e.exchanges, q.Granted) →
    (∀ q ∈ e.exchanges, ∀ q' ∈ e'.exchanges, ∃ record out o,
      kind.serialise (kind.stamp settings.gatewayUrl a) = .ok record ∧
      q'.reply = .ok out ∧ out.exitCode = 0 ∧ Outputs.parse? out.stdout = some o ∧
      o.Echoes record q.invocation.args) →
    e.result = .ok none ∧ e'.result = .ok (some (view a)) := by
  intro p e e' hp hg he
  have hh : Service.History _ p.entries p.service :=
    Service.history_new kind settings context x w calls
  have hi : Service.Sound p.service := hh.sound (Service.sound_new kind settings context)
  obtain ⟨dir, hw⟩ := Option.ne_none_iff_exists'.mp (mt hi.workspace?_eq_none_iff.mp hp)
  have hk : p.service.kind = kind := hh.setup_eq.1
  obtain ⟨vars, hf⟩ := Service.exists_hasFlags_iff.mpr
    (hm.shipped.encodable (kind.stamp settings.gatewayUrl a))
  have hv : p.service.varsOf (p.service.stamped a) extra = .ok (vars ++ extra) := by
    rw [Service.varsOf_eq_ok_iff, hh.stamped_eq, hk]
    exact ⟨vars, hf, rfl⟩
  have hs : Step p.service c e.exchanges e.result e.after := p.step_entry x c
  have hs' : Step e.after .output e'.exchanges e'.result e'.after :=
    (p.call x c).step_entry x .output
  obtain ⟨hr, q, reply, say, hq, hqa, hq', hr'⟩ := hs.output_after_create hs' hi hc hw hv hg
  obtain ⟨record, out, o, hj, hout, hx, ho, hecho⟩ :=
    he q (hq ▸ List.mem_singleton_self q) _ (hq' ▸ List.mem_singleton_self _)
  obtain ⟨record', hj', hvars⟩ := hf
  rw [hj, Except.ok.injEq] at hj'
  subst hj'
  rw [hqa] at hecho
  have hoo : outputsOf say dir reply = .ok o := outputsOf_eq_ok_iff.mpr ⟨out, ⟨hout, hx⟩, ho⟩
  refine ⟨hr, ?_⟩
  rw [hr', hoo, hk, ← hm.project_eq hj hvars hecho]
  rfl

/-- A machine pool with a zero among its arguments, read back from a script. -/
theorem readBack_of_pool :
    let a : MachinePoolArgs := {
      name := some "pool", replicas := some 2, autoscalingEnabled := some false,
      labels := some (.ofList [("tier", "one")]) }
    let value (v : Json) : Json := .obj [("value", v)]
    let o : Outputs := ⟨.obj [("labels", value (.obj [("tier", .str "one")])),
      ("name", value (.str "pool")), ("replicas", value (.ofInt 2)),
      ("url", value (.str "https://gateway"))]⟩
    let p := (Course.new ResourceKind.machinePool { gatewayUrl := "https://gateway" } ⟨none, false⟩
      (Script.empty.pushOutputs o.document)).run Script.executor [.init none]
    ((p.call Script.executor (.create a [])).entry Script.executor .output).result =
      .ok (some ⟨"", "pool", "", 2, "", false, .ofList [("tier", "one")]⟩) := by
  intro a value o p
  let e := p.entry Script.executor (.create a [])
  let e' := (p.call Script.executor (.create a [])).entry Script.executor .output
  have hp : p.service.phase ≠ .uninitialized := by decide +kernel
  have hg : ∀ q ∈ e.exchanges, q.Granted := by decide +kernel
  have hn : ∀ q ∈ e.exchanges,
      Variables.received q.invocation.args = ["labels", "name", "replicas", "url"] := by
    decide +kernel
  have hr : ∀ q ∈ e'.exchanges, q.reply = .ok (.ok .output o.document.compact) := by
    decide +kernel
  have ho : Outputs.parse? o.document.compact = some o := by decide +kernel
  refine (readBack_of_run .machinePool _ _ Script.executor _ _ (c := .create a []) rfl hp hg ?_).2
  intro q hq q' hq'
  refine ⟨encode { a with url := some "https://gateway" }, _, o, rfl, hr q' hq', rfl, ho, ?_, ?_⟩
  · rw [hn q hq]
    decide +kernel
  · rw [hn q hq]
    intro n hm
    have hl : o.document.step n = none := by
      refine List.lookup_eq_none_iff.mpr ?_
      simpa using hm
    rw [Outputs.value?, Json.dig, hl]
    rfl

end Provision
