import Provision.Proofs.Kind.Gateway
import Provision.Proofs.Redaction

set_option autoImplicit false

namespace Provision

open Redaction (secretNames mask masked redact)
open Variables (pair)

namespace Record

variable {ρ : Type}

/-- Both stand for a field that is set, or both for one that is not. -/
def SetAlike {α : Type} [Encode α] (o p : Option α) : Prop :=
  (present o).isSome = (present p).isSome

theorem name_optional {α : Type} [Encode α] [Decode α] (name : String) (get : ρ → Option α)
    (set : Option α → ρ → ρ) : (Field.optional name get set).name = name := rfl

theorem isSome_text?_optional {α : Type} [Encode α] [Decode α] (name : String)
    (get : ρ → Option α) (set : Option α → ρ → ρ) (r : ρ) :
    ((Field.optional name get set).text? r).isSome = (present (get r)).isSome := by
  rw [text?_optional]
  cases hp : present (get r) with
  | none => rfl
  | some v =>
    have hz := (present_eq_some_iff.mp hp).2
    obtain ⟨t, ht⟩ := Variables.textOf?_of_not_isZero (v := encode v) (by simp [hz])
    simp [ht]

structure Hides [Record ρ] (hide : ρ → ρ) : Prop where
  named : Named (fields (ρ := ρ))
  encode_hide : ∀ f ∈ fields (ρ := ρ), f.name ∉ secretNames →
    ∀ r, f.encode (hide r) = f.encode r

theorem ordered_map_masked {fs : List (String × String)} (h : Ordered fs) :
    Ordered (fs.map masked) := List.Pairwise.map masked (fun _ _ hlt => hlt) h

theorem mem_map_masked {r : ρ} {fs : List (Field ρ)} (hn : Named fs) {k t : String} :
    (k, t) ∈ (setFields r fs).map masked ↔ ∃ f ∈ fs, f.name = k ∧
      if k ∈ secretNames then (f.text? r).isSome = true ∧ mask = t else f.text? r = some t := by
  rw [List.mem_map]
  constructor
  · rintro ⟨⟨k, u⟩, hm, he⟩
    cases he
    obtain ⟨f, hf, hk, hu⟩ := (mem_setFields hn).mp hm
    refine ⟨f, hf, hk, ?_⟩
    by_cases hs : k ∈ secretNames
    · simp [hs, hu]
    · simp [hs, hu]
  · rintro ⟨f, hf, hk, ht⟩
    by_cases hs : k ∈ secretNames
    · rw [if_pos hs] at ht
      obtain ⟨u, hu⟩ := Option.isSome_iff_exists.mp ht.1
      refine ⟨(k, u), (mem_setFields hn).mpr ⟨f, hf, hk, hu⟩, ?_⟩
      simp [masked, hs, ht.2]
    · rw [if_neg hs] at ht
      refine ⟨(k, t), (mem_setFields hn).mpr ⟨f, hf, hk, ht⟩, ?_⟩
      simp [masked, hs]

variable [Record ρ] {hide : ρ → ρ}

theorem map_masked_setFields_eq (hh : Hides hide) {a b : ρ} (hr : hide a = hide b)
    (hs : ∀ f ∈ fields, f.name ∈ secretNames → (f.text? a).isSome = (f.text? b).isSome) :
    (setFields a fields).map masked = (setFields b fields).map masked := by
  refine (ordered_map_masked (ordered_setFields a _)).eq_of_mem_iff
    (ordered_map_masked (ordered_setFields b _)) ?_
  rintro ⟨k, t⟩
  rw [mem_map_masked hh.named, mem_map_masked hh.named]
  refine exists_congr fun f => and_congr_right fun hf => and_congr_right ?_
  rintro rfl
  by_cases hk : f.name ∈ secretNames
  · rw [if_pos hk, if_pos hk, hs f hf hk]
  · -- a field that is not secret is the same in both
    have he : f.encode a = f.encode b := by
      rw [← hh.encode_hide f hf hk a, ← hh.encode_hide f hf hk b, hr]
    rw [if_neg hk, if_neg hk, Field.text?, Field.text?, he]

end Record

open Record (SetAlike Hides)

def ClusterArgs.withoutSecrets (a : ClusterArgs) : ClusterArgs := { a with token := none }

def MachinePoolArgs.withoutSecrets (a : MachinePoolArgs) : MachinePoolArgs := { a with token := none }

def CloudProvidersArgs.withoutSecrets (a : CloudProvidersArgs) : CloudProvidersArgs :=
  { a with token := none }

def IdpArgs.withoutSecrets (a : IdpArgs) : IdpArgs :=
  { a with token := none, clientSecret := none, htpasswdUsers := none }

theorem ClusterArgs.hides : Hides withoutSecrets where
  named := named
  encode_hide := by simp [Record.fields, Field.optional, withoutSecrets, secretNames]

theorem MachinePoolArgs.hides : Hides withoutSecrets where
  named := named
  encode_hide := by simp [Record.fields, Field.optional, withoutSecrets, secretNames]

theorem CloudProvidersArgs.hides : Hides withoutSecrets where
  named := named
  encode_hide := by simp [Record.fields, Field.optional, withoutSecrets, secretNames]

theorem IdpArgs.hides : Hides withoutSecrets where
  named := named
  encode_hide := by simp [Record.fields, Field.optional, withoutSecrets, secretNames]

namespace ResourceKind

/-- The arguments are the same but for the secrets, and the same secrets are set in both. -/
inductive DifferInSecrets :
    {Args Output : Type} → ResourceKind Args Output → Args → Args → Prop
  | cluster {a b : ClusterArgs} (rest : a.withoutSecrets = b.withoutSecrets)
    (token : SetAlike a.token b.token) : DifferInSecrets ResourceKind.cluster a b
  | machinePool {a b : MachinePoolArgs} (rest : a.withoutSecrets = b.withoutSecrets)
    (token : SetAlike a.token b.token) : DifferInSecrets ResourceKind.machinePool a b
  | cloudProviders {a b : CloudProvidersArgs} (rest : a.withoutSecrets = b.withoutSecrets)
    (token : SetAlike a.token b.token) : DifferInSecrets ResourceKind.cloudProviders a b
  | identityProvider (t : IdpType) {a b : IdpArgs} (rest : a.withoutSecrets = b.withoutSecrets)
    (token : SetAlike a.token b.token) (clientSecret : SetAlike a.clientSecret b.clientSecret)
    (htpasswdUsers : SetAlike a.htpasswdUsers b.htpasswdUsers) :
    DifferInSecrets (ResourceKind.identityProvider t) a b

variable {Args Output : Type} {k : ResourceKind Args Output} {a b : Args}

theorem DifferInSecrets.shipped (h : k.DifferInSecrets a b) : k.Shipped := by
  cases h with
  | cluster _ _ => exact .cluster
  | machinePool _ _ => exact .machinePool
  | cloudProviders _ _ => exact .cloudProviders
  | identityProvider t _ _ _ _ => exact .identityProvider t

theorem DifferInSecrets.stamp (h : k.DifferInSecrets a b) (url : String) :
    k.DifferInSecrets (k.stamp url a) (k.stamp url b) := by
  cases h with
  | cluster rest token =>
    exact .cluster (congrArg (fun r : ClusterArgs => { r with url := some url }) rest) token
  | machinePool rest token =>
    exact .machinePool (congrArg (fun r : MachinePoolArgs => { r with url := some url }) rest) token
  | cloudProviders rest token =>
    exact .cloudProviders
      (congrArg (fun r : CloudProvidersArgs => { r with url := some url }) rest) token
  | identityProvider t rest token clientSecret htpasswdUsers =>
    exact .identityProvider t
      (congrArg (fun r : IdpArgs => { r with gatewayUrl := some url }) rest) token clientSecret
      htpasswdUsers

theorem redact_of_named [Record Args] (hk : ∀ a, k.serialise a = .ok (encode a))
    (hn : Record.Named (Record.fields (ρ := Args))) {vars : List String} (hv : k.HasFlags a vars) :
    redact vars = ((Record.setFields a Record.fields).map masked).flatMap pair := by
  rw [hv.unique (hasFlags_setFields hk a)]
  exact Redaction.redact_pairs (Record.no_equals_of_mem_setFields hn)

theorem exists_pairs_of_named [Record Args] (hk : ∀ a, k.serialise a = .ok (encode a))
    (hn : Record.Named (Record.fields (ρ := Args))) {vars : List String} (hv : k.HasFlags a vars) :
    ∃ fields : List (String × String),
      (∀ f ∈ fields, '=' ∉ f.1.toList) ∧ vars = fields.flatMap pair :=
  ⟨_, Record.no_equals_of_mem_setFields hn, hv.unique (hasFlags_setFields hk a)⟩

theorem Shipped.exists_pairs (hk : k.Shipped) {vars : List String} (hv : k.HasFlags a vars) :
    ∃ fields : List (String × String),
      (∀ f ∈ fields, '=' ∉ f.1.toList) ∧ vars = fields.flatMap pair := by
  cases hk with
  | cluster => exact exists_pairs_of_named (fun _ => rfl) ClusterArgs.named hv
  | machinePool => exact exists_pairs_of_named (fun _ => rfl) MachinePoolArgs.named hv
  | cloudProviders => exact exists_pairs_of_named (fun _ => rfl) CloudProvidersArgs.named hv
  | identityProvider t => exact exists_pairs_of_named (fun _ => rfl) IdpArgs.named hv

theorem redact_eq_of_hides [Record Args] (hk : ∀ a, k.serialise a = .ok (encode a))
    {hide : Args → Args} (hh : Hides hide) (hr : hide a = hide b)
    (hs : ∀ f ∈ Record.fields (ρ := Args), f.name ∈ secretNames →
      (f.text? a).isSome = (f.text? b).isSome)
    {vars vars' : List String} (hv : k.HasFlags a vars) (hv' : k.HasFlags b vars') :
    redact vars = redact vars' := by
  rw [redact_of_named hk hh.named hv, redact_of_named hk hh.named hv',
    Record.map_masked_setFields_eq hh hr hs]

/-- A secret field is set in both or in neither, so it has a flag in both or in neither. -/
theorem DifferInSecrets.redact_eq (h : k.DifferInSecrets a b) {vars vars' : List String}
    (hv : k.HasFlags a vars) (hv' : k.HasFlags b vars') : redact vars = redact vars' := by
  cases h with
  | cluster rest token =>
    refine redact_eq_of_hides (fun _ => rfl) ClusterArgs.hides rest ?_ hv hv'
    simpa [Record.fields, secretNames, Record.name_optional, Record.isSome_text?_optional, SetAlike]
      using token
  | machinePool rest token =>
    refine redact_eq_of_hides (fun _ => rfl) MachinePoolArgs.hides rest ?_ hv hv'
    simpa [Record.fields, secretNames, Record.name_optional, Record.isSome_text?_optional, SetAlike]
      using token
  | cloudProviders rest token =>
    refine redact_eq_of_hides (fun _ => rfl) CloudProvidersArgs.hides rest ?_ hv hv'
    simpa [Record.fields, secretNames, Record.name_optional, Record.isSome_text?_optional, SetAlike]
      using token
  | identityProvider t rest token clientSecret htpasswdUsers =>
    refine redact_eq_of_hides (fun _ => rfl) IdpArgs.hides rest ?_ hv hv'
    simpa [Record.fields, secretNames, Record.name_optional, Record.isSome_text?_optional] using
      ⟨token, htpasswdUsers, clientSecret⟩

end ResourceKind
end Provision
