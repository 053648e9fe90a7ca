import Provision.Kind.IdentityProvider
import Provision.Kind.MachinePool
import Provision.Proofs.Json.Wire
import Provision.Proofs.Variables

/-!
Values that their documents tell apart, and values that already the texts of their flags tell apart.
Documents of one kind differ in their texts, so values do that are written as documents of one kind.
-/

set_option autoImplicit false

namespace Provision

namespace Variables

theorem textOf?_inj {a b : Json} (hk : a.kindText = b.kindText) (h : textOf? a = textOf? b) :
    a = b := by
  cases a with
  | null =>
    cases b with
    | null => rfl
    | _ => simp [Json.kindText] at hk
  | bool a =>
    cases b with
    | bool b => cases a <;> cases b <;> simp_all [textOf?]
    | _ => simp [Json.kindText] at hk
  | num a =>
    cases b with
    | num b =>
      have ht : a.text ++ [] = b.text ++ [] := by
        simpa using String.ofList_inj.mp (Option.some.inj h)
      exact congrArg Json.num (Json.Number.text_append_inj Json.closes_nil Json.closes_nil ht).1
    | _ => simp [Json.kindText] at hk
  | str a =>
    cases b with
    | str b => exact congrArg Json.str (Option.some.inj h)
    | _ => simp [Json.kindText] at hk
  | arr xs =>
    cases b with
    | arr ys => exact Json.compact_injective (Option.some.inj h)
    | _ => simp [Json.kindText] at hk
  | obj ms =>
    cases b with
    | obj ns => exact Json.compact_injective (Option.some.inj h)
    | _ => simp [Json.kindText] at hk

end Variables

class Distinct (α : Type) [Encode α] : Prop where
  encode_inj {a b : α} : encode a = encode b → a = b

/-- Different values that stand for a set field have different texts. -/
class Faithful (α : Type) [Encode α] : Prop where
  textOf?_inj {a b : α} : (encode a).isZero = false → (encode b).isZero = false →
    Variables.textOf? (encode a) = Variables.textOf? (encode b) → a = b

variable {α : Type} [Encode α]

theorem faithful_of_kind [Distinct α] {kind : String} (h : ∀ a : α, (encode a).kindText = kind) :
    Faithful α where
  textOf?_inj {a b} _ _ ht :=
    Distinct.encode_inj (Variables.textOf?_inj ((h a).trans (h b).symm) ht)

namespace Record

theorem encodeItems_inj [Distinct α] {xs ys : List α} (h : encodeItems xs = encodeItems ys) :
    xs = ys := by
  induction xs generalizing ys with
  | nil =>
    cases ys with
    | nil => rfl
    | cons y ys => cases h
  | cons x xs ih =>
    cases ys with
    | nil => cases h
    | cons y ys =>
      obtain ⟨hx, hxs⟩ := List.cons.inj h
      rw [Distinct.encode_inj hx, ih hxs]

theorem encodeEntries_inj [Distinct α] {ms ns : List (String × α)}
    (h : encodeEntries ms = encodeEntries ns) : ms = ns := by
  induction ms generalizing ns with
  | nil =>
    cases ns with
    | nil => rfl
    | cons n ns => cases h
  | cons m ms ih =>
    cases ns with
    | nil => cases h
    | cons n ns =>
      obtain ⟨hm, hms⟩ := List.cons.inj h
      obtain ⟨hk, hv⟩ := Prod.mk.inj hm
      rw [ih hms, Prod.ext hk (Distinct.encode_inj hv)]

instance : Distinct String := ⟨Json.str.inj⟩

instance : Distinct Bool := ⟨Json.bool.inj⟩

instance : Distinct Json := ⟨id⟩

instance : Distinct Int64 :=
  ⟨fun h => Int64.toInt_inj.mp (Json.Number.int.inj (Json.num.inj h))⟩

instance [Distinct α] : Distinct (List α) := ⟨fun h => encodeItems_inj (Json.arr.inj h)⟩

instance [Distinct α] : Distinct (Assoc α) :=
  ⟨fun h => Assoc.ext_entries (encodeEntries_inj (Json.obj.inj h))⟩

theorem encode_htpasswdUser (u : HtpasswdUser) :
    encode u = .obj [("password", .str u.password), ("username", .str u.username)] := by
  have hlt : "password" < "username" := by decide
  simp [encode, Json.ofMembers, sortMembers, insertMember, hlt]

instance : Distinct HtpasswdUser where
  encode_inj {a b} h := by
    simp only [encode_htpasswdUser, Json.obj.injEq, List.cons.injEq, Prod.mk.injEq,
      Json.str.injEq, true_and, and_true] at h
    obtain ⟨hp, hn⟩ := h
    cases a
    cases b
    simp only at hp hn
    rw [hp, hn]

instance : Faithful String := faithful_of_kind fun _ => rfl

instance : Faithful Bool := faithful_of_kind fun _ => rfl

instance : Faithful Int64 := faithful_of_kind fun _ => rfl

instance [Distinct α] : Faithful (List α) := faithful_of_kind fun _ => rfl

instance [Distinct α] : Faithful (Assoc α) := faithful_of_kind fun _ => rfl

/-- Those that are no finite number are written as null, which stands for an unset field. -/
instance : Faithful Binary64.Extended where
  textOf?_inj {a b} ha hb ht := by
    cases a with
    | finite x =>
      cases b with
      | finite y =>
        have h := Variables.textOf?_inj (a := .num (.float x)) (b := .num (.float y)) rfl ht
        exact congrArg _ (Json.Number.float.inj (Json.num.inj h))
      | _ => cases hb
    | _ => cases ha

end Record
end Provision
