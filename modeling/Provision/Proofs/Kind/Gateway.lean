import Provision.Proofs.Kind
import Provision.Proofs.Kind.Arguments

set_option autoImplicit false

namespace Provision

open Variables (pair)

variable {ρ : Type}

namespace Record

/-- `set` writes a text into the field of a name and `clear` unsets it; other fields stay. -/
structure Writes [Record ρ] (name : String) (set : String → ρ → ρ) (clear : ρ → ρ) : Prop where
  named : Named (fields (ρ := ρ))
  listed : name ∈ (fields (ρ := ρ)).map Field.name
  encode_set : ∀ f ∈ fields (ρ := ρ), ∀ t r,
    f.encode (set t r) = if f.name = name then some (.str t) else f.encode r
  encode_clear : ∀ f ∈ fields (ρ := ρ), ∀ r,
    f.encode (clear r) = if f.name = name then none else f.encode r

section Writes

variable [Record ρ] {name : String} {set : String → ρ → ρ} {clear : ρ → ρ}

theorem Writes.text?_set (hw : Writes name set clear) {f : Field ρ} (hf : f ∈ fields) (t : String)
    (r : ρ) : f.text? (set t r) =
      if f.name = name then (if t = "" then none else some t) else f.text? (clear r) := by
  have hs := hw.encode_set f hf t r
  have hc := hw.encode_clear f hf r
  by_cases hn : f.name = name
  · rw [if_pos hn] at hs
    rw [Field.text?, hs, if_pos hn]
    by_cases ht : t = ""
    · simp [ht, Json.isZero]
    · simp [ht, Json.isZero, Variables.textOf?]
  · rw [if_neg hn] at hs hc ⊢
    rw [Field.text?, Field.text?, hs, hc]

theorem Writes.text?_clear (hw : Writes name set clear) {f : Field ρ} (hf : f ∈ fields) (r : ρ)
    (hn : f.name = name) : f.text? (clear r) = none := by
  have hc := hw.encode_clear f hf r
  rw [if_pos hn] at hc
  rw [Field.text?, hc]
  rfl

/-- The flags that a stamp makes: its own, once, unless the text is empty. -/
theorem Writes.filter_eq (hw : Writes name set clear) (t : String) (r : ρ) :
    ((setFields (set t r) fields).filter fun f => f.1 = name) =
      if t = "" then [] else [(name, t)] := by
  have ho : Ordered ((setFields (set t r) fields).filter fun f => f.1 = name) :=
    List.Pairwise.filter _ (ordered_setFields _ _)
  refine ho.eq_of_mem_iff (by split <;> simp [Ordered]) ?_
  rintro ⟨k, u⟩
  have hm : (k, u) ∈ setFields (set t r) fields ↔ _ := mem_setFields hw.named
  rw [List.mem_filter, hm, decide_eq_true_eq]
  constructor
  · rintro ⟨⟨f, hf, hk, hu⟩, hn⟩
    simp only at hn
    rw [hw.text?_set hf, if_pos (hk.trans hn)] at hu
    by_cases ht : t = ""
    · simp [ht] at hu
    · rw [if_neg ht, Option.some.injEq] at hu
      rw [if_neg ht, hn, hu]
      exact List.mem_singleton_self _
  · intro hu
    by_cases ht : t = ""
    · simp [ht] at hu
    · rw [if_neg ht, List.mem_singleton, Prod.mk.injEq] at hu
      obtain ⟨rfl, rfl⟩ := hu
      obtain ⟨f, hf, hn⟩ := List.mem_map.mp hw.listed
      refine ⟨⟨f, hf, hn, ?_⟩, rfl⟩
      rw [hw.text?_set hf, if_pos hn, if_neg ht]

/-- All other flags are those of the record without the field. -/
theorem Writes.filter_ne (hw : Writes name set clear) (t : String) (r : ρ) :
    ((setFields (set t r) fields).filter fun f => f.1 ≠ name) = setFields (clear r) fields := by
  have ho : Ordered ((setFields (set t r) fields).filter fun f => f.1 ≠ name) :=
    List.Pairwise.filter _ (ordered_setFields _ _)
  refine ho.eq_of_mem_iff (ordered_setFields _ _) ?_
  rintro ⟨k, u⟩
  have hm : (k, u) ∈ setFields (set t r) fields ↔ _ := mem_setFields hw.named
  have hm' : (k, u) ∈ setFields (clear r) fields ↔ _ := mem_setFields hw.named
  rw [List.mem_filter, hm, hm', decide_eq_true_eq]
  constructor
  · rintro ⟨⟨f, hf, hk, hu⟩, hn⟩
    rw [hw.text?_set hf, if_neg (hk ▸ hn)] at hu
    exact ⟨f, hf, hk, hu⟩
  · rintro ⟨f, hf, hk, hu⟩
    have hn : f.name ≠ name := fun hn => by simp [hw.text?_clear hf r hn] at hu
    refine ⟨⟨f, hf, hk, ?_⟩, hk ▸ hn⟩
    rw [hw.text?_set hf, if_neg hn]
    exact hu

end Writes

end Record

theorem ClusterArgs.writes_url : Record.Writes "url"
    (fun u (a : ClusterArgs) => { a with url := some u }) fun a => { a with url := none } where
  named := named
  listed := by decide
  encode_set := by simp [Record.fields, Field.optional, encode]
  encode_clear := by simp [Record.fields, Field.optional, encode]

theorem MachinePoolArgs.writes_url : Record.Writes "url"
    (fun u (a : MachinePoolArgs) => { a with url := some u }) fun a => { a with url := none } where
  named := named
  listed := by decide
  encode_set := by simp [Record.fields, Field.optional, encode]
  encode_clear := by simp [Record.fields, Field.optional, encode]

theorem CloudProvidersArgs.writes_url : Record.Writes "url"
    (fun u (a : CloudProvidersArgs) => { a with url := some u })
    fun a => { a with url := none } where
  named := named
  listed := by decide
  encode_set := by simp [Record.fields, Field.optional, encode]
  encode_clear := by simp [Record.fields, Field.optional, encode]

theorem IdpArgs.writes_gatewayUrl : Record.Writes "gateway_url"
    (fun u (a : IdpArgs) => { a with gatewayUrl := some u })
    fun a => { a with gatewayUrl := none } where
  named := named
  listed := by decide
  encode_set := by simp [Record.fields, Field.optional, encode]
  encode_clear := by simp [Record.fields, Field.optional, encode]

namespace ResourceKind

/-- The name under which a kind's arguments hold the gateway, and the arguments without it. -/
inductive Gateway : {Args Output : Type} → ResourceKind Args Output → String → (Args → Args) → Prop
  | cluster : Gateway ResourceKind.cluster "url" fun a => { a with url := none }
  | machinePool : Gateway ResourceKind.machinePool "url" fun a => { a with url := none }
  | cloudProviders : Gateway ResourceKind.cloudProviders "url" fun a => { a with url := none }
  | identityProvider (t : IdpType) :
    Gateway (ResourceKind.identityProvider t) "gateway_url" fun a => { a with gatewayUrl := none }

variable {Args Output : Type} {k : ResourceKind Args Output} {name : String} {clear : Args → Args}

theorem Gateway.shipped (hg : k.Gateway name clear) : k.Shipped := by
  cases hg with
  | cluster => exact .cluster
  | machinePool => exact .machinePool
  | cloudProviders => exact .cloudProviders
  | identityProvider t => exact .identityProvider t

theorem HasFlags.unique {args : Args} {vars vars' : List String} (h : k.HasFlags args vars)
    (h' : k.HasFlags args vars') : vars = vars' := by
  obtain ⟨record, hr, hv⟩ := h
  obtain ⟨record', hr', hv'⟩ := h'
  rw [hr, Except.ok.injEq] at hr'
  subst hr'
  rw [hv, Except.ok.injEq] at hv'
  exact hv'

theorem hasFlags_setFields [Record Args] (hk : ∀ a, k.serialise a = .ok (encode a)) (a : Args) :
    k.HasFlags a ((Record.setFields a Record.fields).flatMap pair) :=
  ⟨_, hk a, Variables.encode_obj _⟩

def Stamped (k : ResourceKind Args Output) (name : String) (clear : Args → Args) (url : String)
    (a : Args) (fields : List (String × String)) : Prop :=
  fields.filter (fun f => f.1 = name) = (if url = "" then [] else [(name, url)]) ∧
    k.HasFlags (clear a) ((fields.filter fun f => f.1 ≠ name).flatMap pair)

theorem stamped_of_writes [Record Args] (hk : ∀ a, k.serialise a = .ok (encode a))
    (hw : Record.Writes name k.stamp clear) (url : String) (a : Args) :
    ∃ fields, k.HasFlags (k.stamp url a) (fields.flatMap pair) ∧ k.Stamped name clear url a fields := by
  refine ⟨_, hasFlags_setFields hk _, hw.filter_eq url a, ?_⟩
  rw [hw.filter_ne url a]
  exact hasFlags_setFields hk _

theorem Gateway.exists_stamped (hg : k.Gateway name clear) (url : String) (a : Args) :
    ∃ fields, k.HasFlags (k.stamp url a) (fields.flatMap pair) ∧ k.Stamped name clear url a fields := by
  cases hg with
  | cluster => exact stamped_of_writes (fun _ => rfl) ClusterArgs.writes_url url a
  | machinePool => exact stamped_of_writes (fun _ => rfl) MachinePoolArgs.writes_url url a
  | cloudProviders => exact stamped_of_writes (fun _ => rfl) CloudProvidersArgs.writes_url url a
  | identityProvider t => exact stamped_of_writes (fun _ => rfl) IdpArgs.writes_gatewayUrl url a

theorem pair_infix_of_writes [Record Args] (hk : ∀ a, k.serialise a = .ok (encode a))
    (hw : Record.Writes name k.stamp clear) {f : Field Args} (hf : f ∈ Record.fields)
    (hn : f.name ≠ name) {url t : String} {a : Args} (ht : f.text? a = some t) {vars : List String}
    (hv : k.HasFlags (k.stamp url a) vars) : pair (f.name, t) <:+: vars := by
  have hs : f.text? (k.stamp url a) = some t := by
    have he := hw.encode_set f hf url a
    rw [if_neg hn] at he
    rwa [Field.text?, he]
  have hm := (Record.text?_eq_some_iff hw.named hf).mp hs
  obtain ⟨before, after, hx⟩ := List.append_of_mem hm
  refine ⟨before.flatMap pair, after.flatMap pair, ?_⟩
  rw [hv.unique (hasFlags_setFields hk _), hx]
  simp only [List.flatMap_append, List.flatMap_cons, List.append_assoc]

theorem identityProvider_url_infix {t : IdpType} {url u : String} {a : IdpArgs} (ha : a.url = some u)
    (hu : u ≠ "") {vars : List String}
    (hv : (identityProvider t).HasFlags ((identityProvider t).stamp url a) vars) :
    ["-var", "url=" ++ u] <:+: vars := by
  let f : Field IdpArgs := .optional "url" (·.url) fun v r => { r with url := v }
  have hf : f ∈ Record.fields := by simp [Record.fields, f]
  have ht : f.text? a = some u := by
    rw [Record.text?_optional, ha]
    simp [Record.present, encode, Json.isZero, hu, Option.filter_some, Variables.textOf?]
  exact pair_infix_of_writes (fun _ => rfl) IdpArgs.writes_gatewayUrl hf (by decide) ht hv

end ResourceKind
end Provision
