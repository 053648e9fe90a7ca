import Provision.Outputs
import Provision.Proofs.Assoc

set_option autoImplicit false

namespace Provision

theorem Json.member?_ofMembers {ms : List (String × Json)} (h : (ms.map Prod.fst).Nodup)
    (name : String) : (Json.ofMembers ms).member? name = ms.lookup name := lookup_sortMembers h name

namespace Outputs

/-- The members of an entry with a value put in. What is no object has none to keep. -/
def withValue (v : Json) : Option Json → List (String × Json)
  | some (.obj ms) => insertMember "value" v ms
  | _ => [("value", v)]

theorem lookup_withValue (v : Json) (e : Option Json) :
    (withValue v e).lookup "value" = some v := by
  unfold withValue
  split <;> simp [lookup_insertMember]

def report (o : Outputs) (name : String) (v : Json) : Outputs :=
  match o.document with
  | .obj ms => ⟨.obj (insertMember name (.obj (withValue v (ms.lookup name))) ms)⟩
  | _ => o

def without (o : Outputs) (name : String) : Outputs :=
  match o.document with
  | .obj ms => ⟨.obj (ms.filter fun m => m.1 ≠ name)⟩
  | _ => o

/-- An output for each member of a document; its entry holds the member as the value, beside
others. -/
def wrap (others : String → List (String × Json)) : Json → Outputs
  | .obj ms => ⟨.obj (ms.map fun m => (m.1, .obj (insertMember "value" m.2 (others m.1))))⟩
  | _ => empty

theorem value?_obj {o : Outputs} {ms : List (String × Json)} (h : o.document = .obj ms)
    (n : String) : o.value? n = (ms.lookup n).bind fun e => e.step "value" := by
  simp [value?, h, Json.dig, Json.step]

theorem value?_report {o : Outputs} {ms : List (String × Json)} (h : o.document = .obj ms)
    (name : String) (v : Json) (n : String) :
    (o.report name v).value? n = if n = name then some v else o.value? n := by
  have hr : (o.report name v).document =
      .obj (insertMember name (.obj (withValue v (ms.lookup name))) ms) := by simp [report, h]
  rw [value?_obj hr, value?_obj h, lookup_insertMember]
  by_cases hn : n = name <;> simp [hn, Json.step, lookup_withValue]

theorem value?_without {o : Outputs} {ms : List (String × Json)} (h : o.document = .obj ms)
    (name n : String) :
    (o.without name).value? n = if n = name then none else o.value? n := by
  have hw : (o.without name).document = .obj (ms.filter fun m => m.1 ≠ name) := by
    simp [without, h]
  rw [value?_obj hw, value?_obj h, lookup_filter_ne]
  by_cases hn : n = name <;> simp [hn]

theorem value?_wrap (others : String → List (String × Json)) (j : Json) (n : String) :
    (wrap others j).value? n = j.member? n := by
  cases j with
  | obj ms =>
    have hd : (wrap others (.obj ms)).document =
        .obj (ms.map fun m => (m.1, .obj (insertMember "value" m.2 (others m.1)))) := rfl
    rw [value?_obj hd, lookup_map_entries fun k v => Json.obj (insertMember "value" v (others k))]
    cases hv : ms.lookup n <;> simp [Json.member?, Json.step, hv, lookup_insertMember]
  | _ => rfl

end Outputs
end Provision
