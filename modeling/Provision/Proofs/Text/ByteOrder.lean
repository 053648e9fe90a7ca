/-!
The order of texts is the order of their bytes: the first byte of a character in which two characters
differ is greater for the greater one.
-/

set_option autoImplicit false

namespace Provision.Text

def bytes (s : String) : List UInt8 := s.toList.flatMap String.utf8EncodeChar

theorem toUTF8_eq_bytes (s : String) : s.toUTF8.data.toList = bytes s := by
  rw [← String.ofList_toList (s := s), String.toUTF8_eq_toByteArray, String.toByteArray_ofList]
  simp [bytes, List.utf8Encode]

theorem toNat_lt (c : Char) : c.toNat < 0x110000 := by
  have h := c.valid
  simp only [UInt32.isValidChar, Nat.isValidChar, Char.toNat_val] at h
  omega

theorem encodeChar_append_lt {c d : Char} (h : c < d) (x y : List UInt8) :
    String.utf8EncodeChar c ++ x < String.utf8EncodeChar d ++ y := by
  have hv : c.toNat < d.toNat := h
  have hlow (n : Nat) : (n % 64 + 128) % 256 = n % 64 + 128 := by omega
  have hlead (e : Char) : (e.toNat / 262144 % 8 + 240) % 256 = e.toNat / 262144 + 240 := by
    have he := toNat_lt e
    omega
  have hdiv (n : Nat) : n / 64 / 64 = n / 4096 ∧ n / 4096 / 64 = n / 262144 := by omega
  have hc := hdiv c.toNat
  have hd := hdiv d.toNat
  have hc' := toNat_lt c
  have hd' := toNat_lt d
  simp only [String.utf8EncodeChar, Char.toNat_val]
  repeat' split
  all_goals
    simp only [List.cons_append, List.nil_append, List.cons_lt_cons_iff, UInt8.lt_iff_toNat_lt,
      ← UInt8.toNat_inj, UInt8.toNat_ofNat', hlow, hlead]
    omega

theorem flatMap_encodeChar_lt {cs ds : List Char} (h : cs < ds) :
    cs.flatMap String.utf8EncodeChar < ds.flatMap String.utf8EncodeChar := by
  induction h with
  | @nil d ds =>
    obtain ⟨b, bs, hb⟩ := List.exists_cons_of_ne_nil (String.utf8EncodeChar_ne_nil (c := d))
    simp [hb]
  | cons h ih => simpa using List.append_left_lt ih
  | rel h => simpa using encodeChar_append_lt h _ _

theorem bytes_lt {a b : String} (h : a < b) : bytes a < bytes b :=
  flatMap_encodeChar_lt (String.lt_iff.mp h)

end Provision.Text
