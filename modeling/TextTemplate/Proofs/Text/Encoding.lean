import Mathlib.Tactic.SplitIfs
import TextTemplate.Proofs.Text.Lines

/-!
# Texts and their bytes

A text is encoded sign by sign in UTF-8. A sign of ASCII is encoded by one byte, and no other sign
has a byte below 128 in its encoding, so that such a byte stands for its sign wherever it is
found. -/

namespace TextTemplate.Text

def bytes (text : String) : List UInt8 := text.toUTF8.toList

/-- The loop puts what comes from `start` on behind what it has already. -/
theorem toList_loop_eq (array : ByteArray) (start : Nat) (before : List UInt8) :
    ByteArray.toList.loop array start before =
      before.reverse ++ array.data.toList.drop start := by
  induction left : array.size - start generalizing start before with
  | zero =>
    have beyond : array.data.toList.length ≤ start := by
      rw [Array.length_toList]
      exact Nat.le_of_sub_eq_zero left
    have stop : ¬ start < array.size := by omega
    rw [ByteArray.toList.loop, if_neg stop, List.drop_eq_nil_of_le beyond, List.append_nil]
  | succ left' ih =>
    have within : start < array.size := by omega
    have bound : start < array.data.toList.length := by simpa using within
    rw [ByteArray.toList.loop, if_pos within, ih _ _ (by omega), List.drop_eq_getElem_cons bound]
    simp [ByteArray.get!, within]

theorem toList_eq_toList_data (array : ByteArray) : array.toList = array.data.toList := by
  simp [ByteArray.toList, toList_loop_eq]

theorem bytes_eq_flatMap (text : String) :
    bytes text = text.toList.flatMap String.utf8EncodeChar := by
  rw [bytes, toList_eq_toList_data, String.toUTF8_eq_toByteArray, ← String.utf8Encode_toList,
    List.utf8Encode, List.toList_data_toByteArray]

theorem bytes_ofList (text : List Char) :
    bytes (String.ofList text) = text.flatMap String.utf8EncodeChar := by
  rw [bytes_eq_flatMap, String.toList_ofList]

theorem toByteArray_bytes (text : String) : (⟨(bytes text).toArray⟩ : ByteArray) = text.toUTF8 := by
  rw [bytes, toList_eq_toList_data]

theorem encode_cases (sign : Char) :
    (sign.toNat < 128 ∧ String.utf8EncodeChar sign = [UInt8.ofNat sign.toNat]) ∨
      (128 ≤ sign.toNat ∧ ∀ byte ∈ String.utf8EncodeChar sign, 128 ≤ byte.toNat) := by
  have code : sign.val.toNat = sign.toNat := rfl
  unfold String.utf8EncodeChar
  simp only [code]
  by_cases small : sign.toNat ≤ 0x7F
  · exact .inl ⟨by omega, if_pos small⟩
  · refine .inr ⟨by omega, ?_⟩
    rw [if_neg small]
    split_ifs <;>
      simp only [List.forall_mem_cons, List.not_mem_nil, false_imp_iff, implies_true, and_true,
        UInt8.toNat_ofNat'] <;>
      omega

/-- The byte of a sign of ASCII is in the encoding of this sign only. -/
theorem mem_encode_iff (sign : Char) (ascii : sign.toNat < 128) (other : Char) :
    UInt8.ofNat sign.toNat ∈ String.utf8EncodeChar other ↔ sign = other := by
  have value : (UInt8.ofNat sign.toNat).toNat = sign.toNat := by simp; omega
  rcases encode_cases other with ⟨small, form⟩ | ⟨large, beyond⟩
  · have value' : (UInt8.ofNat other.toNat).toNat = other.toNat := by simp; omega
    rw [form, List.mem_singleton, ← UInt8.toNat_inj, value, value', Char.toNat_inj]
  · constructor
    · intro member
      have := beyond _ member
      omega
    · rintro rfl
      omega

/-- A sign of ASCII stands behind its byte wherever that is found. -/
theorem isCodeOf_ascii (sign : Char) (ascii : sign.toNat < 128) :
    IsCodeOf String.utf8EncodeChar sign (UInt8.ofNat sign.toNat) where
  encode_eq := by
    rcases encode_cases sign with ⟨_, form⟩ | ⟨large, _⟩
    · exact form
    · omega
  eq_of_mem other member := ((mem_encode_iff sign ascii other).mp member).symm

end TextTemplate.Text
