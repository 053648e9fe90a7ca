import Mathlib.Data.List.TakeWhile
import Provision.ClusterLogin
import Provision.Proofs.Variables
import Provision.Terraform.Runner

set_option autoImplicit false

namespace Provision.Redaction

open Variables (pair)
open Terraform (mutatingArgs)

def Secret (flag : String) : Prop := ∃ name ∈ secretNames, ∃ value, flag = name ++ "=" ++ value

theorem not_mem_of_secretNames {name : String} (h : name ∈ secretNames) : '=' ∉ name.toList := by
  revert name
  decide

theorem nameOf?_append {name : String} (h : '=' ∉ name.toList) (value : String) :
    nameOf? (name ++ "=" ++ value) = some name := by
  have hl : (name ++ "=" ++ value).toList = name.toList ++ '=' :: value.toList := by simp
  have hp : ∀ c ∈ name.toList, decide (c ≠ '=') = true := by
    intro c hc
    simpa using fun he : c = '=' => h (he ▸ hc)
  rw [nameOf?, hl, if_pos (by simp), List.takeWhile_append_of_pos hp]
  simp

theorem exists_eq_append_of_nameOf? {flag name : String} (h : nameOf? flag = some name) :
    ∃ value, flag = name ++ "=" ++ value := by
  unfold nameOf? at h
  split at h
  · rename_i hm
    cases h
    have hs := List.takeWhile_append_dropWhile (p := (· ≠ '=')) (l := flag.toList)
    cases hd : flag.toList.dropWhile (· ≠ '=') with
    | nil =>
      have hall := List.dropWhile_eq_nil_iff.mp hd '=' hm
      simp at hall
    | cons c cs =>
      have hc := List.head?_dropWhile_not (· ≠ '=') flag.toList
      rw [hd] at hc hs
      obtain rfl : c = '=' := by simpa using hc
      refine ⟨String.ofList cs, String.toList_inj.mp ?_⟩
      simpa using hs.symm
  · cases h

theorem redactFlag_append {name : String} (h : '=' ∉ name.toList) (value : String) :
    redactFlag (name ++ "=" ++ value) =
      name ++ "=" ++ if name ∈ secretNames then mask else value := by
  simp only [redactFlag, nameOf?_append h]
  split
  · rfl
  · rfl

theorem redactFlag_of_not_secret {flag : String} (h : ¬ Secret flag) : redactFlag flag = flag := by
  unfold redactFlag
  split
  · rename_i name hn
    obtain ⟨value, rfl⟩ := exists_eq_append_of_nameOf? hn
    rw [if_neg fun hs => h ⟨name, hs, value, rfl⟩]
  · rfl

theorem redact_append (fs gs : List String) : redact (fs ++ gs) = redact fs ++ redact gs :=
  List.map_append

/-- A flag is masked in its place, or stays there unchanged. -/
theorem getElem?_redact {flags : List String} {n : Nat} {flag : String}
    (hf : flags[n]? = some flag) :
    (¬ Secret flag → (redact flags)[n]? = some flag) ∧
      ∀ name ∈ secretNames, ∀ value, flag = name ++ "=" ++ value →
        (redact flags)[n]? = some (name ++ "=***") := by
  rw [redact, List.getElem?_map, hf, Option.map_some]
  constructor
  · intro hs
    rw [redactFlag_of_not_secret hs]
  · rintro name hn value rfl
    rw [redactFlag_append (not_mem_of_secretNames hn), if_pos hn, String.append_assoc]
    rfl

def masked (f : String × String) : String × String :=
  (f.1, if f.1 ∈ secretNames then mask else f.2)

theorem redact_pairs {fs : List (String × String)} (h : ∀ f ∈ fs, '=' ∉ f.1.toList) :
    redact (fs.flatMap pair) = (fs.map masked).flatMap pair := by
  induction fs with
  | nil => rfl
  | cons f fs ih =>
    obtain ⟨hf, hs⟩ := List.forall_mem_cons.mp h
    have hp : redact (pair f) = pair (masked f) := by
      have hv : redactFlag "-var" = "-var" := by decide
      simp only [redact, pair, List.map_cons, List.map_nil, hv, redactFlag_append hf, masked]
    rw [List.flatMap_cons, redact_append, hp, ih hs, List.map_cons, List.flatMap_cons]

theorem redact_mutatingArgs (vars : List String) :
    redact (mutatingArgs vars) = mutatingArgs (redact vars) := by
  rw [mutatingArgs, redact_append]
  rfl

end Provision.Redaction

namespace Provision.ClusterLogin

/-- A login as it may be logged is the same under every password. -/
theorem redactedArgs_password (l : ClusterLogin) (password : String) :
    ({ l with password := password } : ClusterLogin).redactedArgs = l.redactedArgs := by
  have hp (p : String) : redactArg ("--password=" ++ p) = "--password=***" := by
    simp [redactArg, passwordFlag, Redaction.mask]
  simp only [redactedArgs, args, List.map_append, List.map_cons, hp]
  rfl

end Provision.ClusterLogin
