import Provision.Proofs.Kind.Arguments
import Provision.Proofs.Record.Accepted

set_option autoImplicit false

namespace Provision

open Record (Restored Restores SomeRestored restored_assoc someRestored)

instance : Restores HtpasswdUser where
  decode_written u := by
    rw [Record.encode_htpasswdUser]
    simp [Json.written, Json.writtenMembers, decode, HtpasswdUser.single?]

theorem Binary64.Extended.exists_finite {w : Written} {v : Binary64.Extended}
    (h : decode w = some v) : ∃ x, v = .finite x := by
  cases w with
  | num n =>
    obtain ⟨x, -, rfl⟩ := Option.map_eq_some_iff.mp h
    exact ⟨x, rfl⟩
  | _ => cases h

theorem Json.restored_of_inOrder {m : Assoc Json} (h : ∀ e ∈ m.entries, e.2.InOrder) :
    Restored m :=
  restored_assoc fun e he => (h e he).value?_written

theorem Json.inOrder_of_decode {w : Written} {m : Assoc Json} (h : decode w = some m) :
    ∀ e ∈ m.entries, e.2.InOrder := by
  cases w with
  | obj ms =>
    obtain ⟨es, hes, rfl⟩ := Option.map_eq_some_iff.mp h
    intro e he
    obtain ⟨w, hw⟩ := Record.exists_of_mem_decodeEntries hes e (mem_of_mem_sortMembers he)
    exact Json.inOrder_of_value? w hw
  | _ => cases h

theorem ClusterArgs.restored (r : ClusterArgs) : Restored r := by
  refine Record.Carries.restored ?_ named
  repeat refine .optional (someRestored _) rfl ?_
  exact .done

theorem CloudProvidersArgs.restored (r : CloudProvidersArgs) : Restored r := by
  refine Record.Carries.restored ?_ named
  repeat refine .optional (someRestored _) rfl ?_
  exact .done

namespace MachinePoolArgs

def Priced (r : MachinePoolArgs) : Prop := ∀ v, r.maxSpotPrice = some v → ∃ x, v = .finite x

theorem Priced.restored {r : MachinePoolArgs} (h : r.Priced) : Restored r := by
  have hp : SomeRestored r.maxSpotPrice := by
    intro v hv
    obtain ⟨x, rfl⟩ := h v hv
    exact Record.restored_finite x
  refine Record.Carries.restored ?_ named
  repeat refine .optional (by simp [hp]) rfl ?_
  exact .done

theorem priced_of_read {w : Written} {r : MachinePoolArgs} (h : Record.read? w = some r) :
    r.Priced := by
  refine Record.read?_keeps (by simp [Priced, Record.empty]) ?_ h
  simp only [Record.fields, List.forall_mem_cons]
  and_intros
  all_goals try exact Record.keeps_other fun _ _ => rfl
  · exact Record.keeps_own (fun _ _ => rfl) fun _ _ => Binary64.Extended.exists_finite
  · simp

end MachinePoolArgs

namespace IdpArgs

def InOrder (r : IdpArgs) : Prop := ∀ m, r.attributes = some m → ∀ e ∈ m.entries, e.2.InOrder

theorem InOrder.restored {r : IdpArgs} (h : r.InOrder) : Restored r := by
  have ha : SomeRestored r.attributes := fun m hm => Json.restored_of_inOrder (h m hm)
  refine Record.Carries.restored ?_ named
  repeat refine .optional (by simp [ha]) rfl ?_
  exact .done

theorem inOrder_of_read {w : Written} {r : IdpArgs} (h : Record.read? w = some r) : r.InOrder := by
  refine Record.read?_keeps (by simp [InOrder, Record.empty]) ?_ h
  simp only [Record.fields, List.forall_mem_cons]
  and_intros
  all_goals try exact Record.keeps_other fun _ _ => rfl
  · exact Record.keeps_own (fun _ _ => rfl) fun _ _ => Json.inOrder_of_decode
  · simp

end IdpArgs

/-- Argument records come back from their documents: all of them, but for a price that is no finite
number, and attributes with an object out of order, which no document can hold. Those that were read
from a document come back whatever it was, and their flags name none but their own variables.
Documents are values here and not texts: which number the decimal digits of a text stand for is left
out, so this is no statement about printing a record and parsing the text again. -/
theorem arguments_come_back :
    (∀ r : ClusterArgs, Record.ofJson? (encode r) = some r) ∧
    (∀ r : MachinePoolArgs, Record.ofJson? (encode r) = some r ↔ r.Priced) ∧
    (∀ r : CloudProvidersArgs, Record.ofJson? (encode r) = some r) ∧
    (∀ r : IdpArgs, Record.ofJson? (encode r) = some r ↔ r.InOrder) ∧
    Record.Settles ClusterArgs ∧ Record.Settles MachinePoolArgs ∧
    Record.Settles CloudProvidersArgs ∧ Record.Settles IdpArgs := by
  refine ⟨ClusterArgs.restored, fun r => ?_, CloudProvidersArgs.restored, fun r => ?_, ?_⟩
  · exact ⟨MachinePoolArgs.priced_of_read (w := (encode r).written),
      MachinePoolArgs.Priced.restored⟩
  · exact ⟨IdpArgs.inOrder_of_read (w := (encode r).written), IdpArgs.InOrder.restored⟩
  · refine ⟨?_, ?_, ?_, ?_⟩
    · exact Record.settles ClusterArgs.named fun _ r _ => r.restored
    · exact Record.settles MachinePoolArgs.named fun _ _ h =>
        (MachinePoolArgs.priced_of_read h).restored
    · exact Record.settles CloudProvidersArgs.named fun _ r _ => r.restored
    · exact Record.settles IdpArgs.named fun _ _ h => (IdpArgs.inOrder_of_read h).restored

example : Record.names CloudProvidersArgs = ["url", "token", "search", "order"] := rfl

example : (Record.ofJson? (.obj [("color", .str "red"), ("search", .str "aws")]) :
    Option CloudProvidersArgs) = some { search := some "aws" } := by decide +kernel

end Provision
