import Provision.Proofs.Kind.Readings

/-!
Outputs that stand for an unset field. They read like missing ones, with one exception: the item of
a catalogue takes an empty container for a provider without any name.
-/

set_option autoImplicit false

namespace Provision

theorem Binary64.truncate_of_isZero {x : Binary64} (h : x.isZero = true) : x.truncate = 0 := by
  have hc : x.code = 0 := by simpa [isZero] using h
  have hs : significand 0 = 0 := by decide
  simp [truncate, integerPart, numerator, hc, hs]

namespace Json

variable {v : Json}

theorem asString_of_isZero (h : v.isZero = true) : asString (some v) = "" := by
  cases v <;> simp_all [isZero, asString]

theorem asBool_of_isZero (h : v.isZero = true) : asBool (some v) = false := by
  cases v <;> simp_all [isZero, asBool]

theorem Number.truncate_of_isZero {n : Number} (h : n.isZero = true) : n.truncate = 0 := by
  cases n with
  | int n => simpa [isZero, truncate] using h
  | float x => exact Binary64.truncate_of_isZero h

theorem Number.inRange_of_isZero {n : Number} (h : n.isZero = true) : n.InRange := by
  cases n with
  | int n =>
    obtain rfl : n = 0 := by simpa [isZero] using h
    decide
  | float x => trivial

theorem asInt_of_isZero (h : v.isZero = true) : asInt (some v) = 0 := by
  cases v with
  | num n =>
    have hc : clamp64 0 = 0 := by decide
    rw [asInt, Number.toInt64_eq (Number.inRange_of_isZero h), Number.truncate_of_isZero h, hc]
  | _ => rfl

theorem asStringMap_of_isZero (h : v.isZero = true) : asStringMap (some v) = [] := by
  cases v <;> simp_all [isZero, asStringMap]

end Json

namespace CloudProvidersOutput

variable {v : Json}

theorem readItems_of_isZero (h : v.isZero = true) : readItems (some v) = [] := by
  cases v with
  | arr xs =>
    have hx : xs = [] := by simpa [Json.isZero] using h
    subst hx
    rfl
  | _ => rfl

theorem readItem_of_isZero (h : v.isZero = true) (ha : v ≠ .arr []) (ho : v ≠ .obj []) :
    readItem (some v) = none := by
  cases v with
  | arr xs => simp_all [Json.isZero]
  | obj ms => simp_all [Json.isZero]
  | _ => rfl

end CloudProvidersOutput

namespace ResourceKind

variable {Args Output : Type} {k : ResourceKind Args Output}

/-- An output that stands for an unset field but reads as a value. -/
def Mistakes (k : ResourceKind Args Output) (name : String) (v : Json) : Prop :=
  k.name = "cloud-providers" ∧ name = "item" ∧ (v = .arr [] ∨ v = .obj [])

theorem HasReadings.read_of_isZero {rs : List (Reading Output)} (hk : k.HasReadings rs)
    {v : Json} (hv : v.isZero = true) :
    ∀ r ∈ rs, ¬k.Mistakes r.name v → r.read (some v) = r.zero := by
  have htext : Json.asString (some v) = "" := Json.asString_of_isZero hv
  cases hk with
  | cluster =>
    simp only [ClusterOutput.readings, List.forall_mem_cons]
    exact ⟨fun _ => htext, fun _ => htext, fun _ => htext, fun _ => htext, fun _ => htext, by simp⟩
  | machinePool =>
    have hint : Json.asInt (some v) = 0 := Json.asInt_of_isZero hv
    have hmap : Json.asStringMap (some v) = [] := Json.asStringMap_of_isZero hv
    simp only [MachinePoolOutput.readings, List.forall_mem_cons]
    refine ⟨fun _ => htext, fun _ => htext, fun _ => htext, fun _ => ?_, fun _ => htext,
      fun _ => Json.asBool_of_isZero hv, fun _ => ?_, by simp⟩
    · simp [Reading.int, hint]
    · simp only [Reading.labels, hmap]
      rfl
  | cloudProviders =>
    simp only [CloudProvidersOutput.readings, List.forall_mem_cons]
    refine ⟨fun _ => htext, fun _ => htext,
      fun _ => CloudProvidersOutput.readItems_of_isZero hv, fun hm => ?_, by simp⟩
    have hne : ¬(v = .arr [] ∨ v = .obj []) := fun he => hm ⟨rfl, rfl, he⟩
    rw [not_or] at hne
    exact CloudProvidersOutput.readItem_of_isZero hv hne.1 hne.2
  | identityProvider t =>
    simp only [IdpOutput.readings, List.forall_mem_cons]
    exact ⟨fun _ => htext, by simp⟩

theorem project_report_ne_of_mistakes (hk : k.Shipped) {o : Outputs}
    {ms : List (String × Json)} (ho : o.document = .obj ms) {name : String} {v : Json}
    (hm : k.Mistakes name v) : k.project (o.report name v) ≠ k.project (o.without name) := by
  obtain ⟨hname, rfl, hv⟩ := hm
  cases hk with
  | cluster => simp [cluster, ofRecord] at hname
  | machinePool => simp [machinePool, ofRecord] at hname
  | identityProvider t => cases t <;> simp [identityProvider, ofRecord, IdpType.name] at hname
  | cloudProviders =>
    have hread (p : Outputs) : (cloudProviders.project p).item =
        CloudProvidersOutput.readItem (p.value? "item") := rfl
    have hr : (cloudProviders.project (o.report "item" v)).item = some {} := by
      rw [hread, Outputs.value?_report ho, if_pos rfl]
      -- both are read as a provider whose fields all take their defaults
      rcases hv with rfl | rfl <;> rfl
    have hw : (cloudProviders.project (o.without "item")).item = none := by
      rw [hread, Outputs.value?_without ho, if_pos rfl]
      rfl
    intro he
    rw [he, hw] at hr
    cases hr

/-- A value that stands for an unset field gives the record of the outputs without it, with the zero
of the field's type, but for the two that the item of a catalogue mistakes. -/
theorem project_report_eq_iff (hk : k.Shipped) {o : Outputs} {ms : List (String × Json)}
    (ho : o.document = .obj ms) (name : String) {v : Json} (hv : v.isZero = true) :
    ∃ rs, k.HasReadings rs ∧
      (∀ r ∈ rs, r.name = name → r.get (k.project (o.without name)) = r.zero) ∧
      (k.project (o.report name v) = k.project (o.without name) ↔ ¬k.Mistakes name v) := by
  obtain ⟨rs, hr⟩ := hk.exists_readings
  refine ⟨rs, hr, fun r hm hn => ?_, ?_⟩
  · rw [hr.get_project r hm, Outputs.value?_without ho, if_pos hn, r.absent]
  · constructor
    · exact fun he hm => project_report_ne_of_mistakes hk ho hm he
    · intro hn
      refine hr.project_congr fun r hm => ?_
      rw [Outputs.value?_report ho, Outputs.value?_without ho]
      by_cases he : r.name = name
      · rw [if_pos he, if_pos he, r.absent]
        exact hr.read_of_isZero hv r hm (he ▸ hn)
      · rw [if_neg he, if_neg he]

theorem project_report_empty_items :
    let aws := CloudProvider.named "aws" "AWS"
    let o : Outputs := ⟨.obj [("items", .obj [("value", .arr [encode aws])])]⟩
    (Json.obj []).isZero = true ∧
      cloudProviders.project (o.report "items" (.obj [])) =
        cloudProviders.project (o.without "items") := by
  intro aws o
  have hz : (Json.obj []).isZero = true := rfl
  obtain ⟨rs, -, -, h⟩ := project_report_eq_iff .cloudProviders (o := o) rfl "items" hz
  exact ⟨hz, h.mpr fun hm => absurd hm.2.1 (by decide)⟩

theorem project_report_empty_item :
    let o : Outputs := ⟨.obj [("item", .obj [("value", .null)])]⟩
    (Json.obj []).isZero = true ∧
      cloudProviders.project (o.report "item" (.obj [])) ≠
        cloudProviders.project (o.without "item") := by
  decide

end ResourceKind
end Provision
