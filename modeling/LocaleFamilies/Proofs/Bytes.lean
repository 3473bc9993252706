import LocaleFamilies.Bytes

/-! The bytes of a text, character by character. A character below 128 is a byte of its own, and that
byte is no part of any other character. -/
namespace LocaleFamilies.Bytes

theorem ofText_eq_flatMap (text : String) :
    ofText text = text.toList.flatMap String.utf8EncodeChar := by
  simp [ofText, ← String.utf8Encode_toList, List.utf8Encode]

theorem mem_utf8EncodeChar_iff (char : Char) {byte : UInt8} (ascii : byte.toNat < 128) :
    byte ∈ String.utf8EncodeChar char ↔ char.toNat = byte.toNat := by
  have bound : char.val.toNat < 1114112 := by
    have := char.valid
    simp only [UInt32.isValidChar, Nat.isValidChar] at this
    omega
  have whole : byte = UInt8.ofNat byte.toNat := by simp
  have same (n : Nat) : byte = UInt8.ofNat n ↔ n % 256 = byte.toNat := by
    rw [← UInt8.toNat_inj, UInt8.toNat_ofNat']
    exact eq_comm
  show _ ↔ char.val.toNat = _
  unfold String.utf8EncodeChar
  simp only
  split
  · simp only [List.mem_singleton, same]
    omega
  · split
    · simp only [List.mem_cons, List.not_mem_nil, or_false, same]
      omega
    · split
      · simp only [List.mem_cons, List.not_mem_nil, or_false, same]
        omega
      · simp only [List.mem_cons, List.not_mem_nil, or_false, same]
        omega

theorem mem_ofText_iff (text : String) (char : Char) {byte : UInt8} (ascii : byte.toNat < 128)
    (same : char.toNat = byte.toNat) : byte ∈ ofText text ↔ char ∈ text.toList := by
  rw [ofText_eq_flatMap, List.mem_flatMap]
  constructor
  · rintro ⟨other, member, here⟩
    have equal := (mem_utf8EncodeChar_iff other ascii).mp here
    rw [← same] at equal
    exact Char.toNat_inj.mp equal ▸ member
  · intro member
    exact ⟨char, member, (mem_utf8EncodeChar_iff char ascii).mpr same⟩

theorem ofText_eq_nil_iff (text : String) : ofText text = [] ↔ text = "" := by
  rw [ofText_eq_flatMap, List.flatMap_eq_nil_iff, ← String.toList_eq_nil_iff,
    List.eq_nil_iff_forall_not_mem]
  simp only [String.utf8EncodeChar_ne_nil]

end LocaleFamilies.Bytes
