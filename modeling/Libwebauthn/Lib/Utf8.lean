/-
  Libwebauthn.Lib.Utf8 — slicing the bytes of a string.

  A slice of a string must start on a character boundary, and a byte that
  continues a character is none.

    • `isCharBoundary_succ` — what follows an ASCII byte is a boundary;
    • `text?_ascii` — ASCII bytes are those of a string.
-/
import Libwebauthn.Lib.CborReader

namespace Libwebauthn

/-! ## §1. The bytes of a character. -/

theorem ofNat_lt_ascii (n : Nat) : UInt8.ofNat n < 0x80 ↔ n % 256 < 128 := by
  rw [UInt8.lt_iff_toNat_lt, UInt8.toNat_ofNat']
  rfl

theorem le_ofNat_lead (n : Nat) : 0xC0 ≤ UInt8.ofNat n ↔ 192 ≤ n % 256 := by
  rw [UInt8.le_iff_toNat_le, UInt8.toNat_ofNat']
  rfl

/-- A character of several bytes has no ASCII byte. -/
theorem utf8EncodeChar_ascii {c : Char} {b : UInt8} (hmem : b ∈ String.utf8EncodeChar c)
    (hb : b < 0x80) : String.utf8EncodeChar c = [b] := by
  simp only [String.utf8EncodeChar] at hmem ⊢
  split at hmem
  · next hshort => rw [if_pos hshort, List.mem_singleton.mp hmem]
  · exfalso
    revert hb
    split at hmem
    · simp only [List.mem_cons, List.not_mem_nil, or_false] at hmem
      rcases hmem with rfl | rfl <;> rw [ofNat_lt_ascii] <;> omega
    · split at hmem
      · simp only [List.mem_cons, List.not_mem_nil, or_false] at hmem
        rcases hmem with rfl | rfl | rfl <;> rw [ofNat_lt_ascii] <;> omega
      · simp only [List.mem_cons, List.not_mem_nil, or_false] at hmem
        rcases hmem with rfl | rfl | rfl | rfl <;> rw [ofNat_lt_ascii] <;> omega

/-- The first byte of a character continues none. -/
theorem utf8EncodeChar_head {c : Char} {b : UInt8}
    (h : (String.utf8EncodeChar c).head? = some b) : b < 0x80 ∨ 0xC0 ≤ b := by
  simp only [String.utf8EncodeChar] at h
  split at h
  · cases h
    rw [ofNat_lt_ascii]
    omega
  · split at h
    · cases h
      rw [le_ofNat_lead]
      omega
    · split at h <;>
      · cases h
        rw [le_ofNat_lead]
        omega

theorem utf8EncodeChar_ofUInt8 {b : UInt8} (hb : b < 0x80) :
    String.utf8EncodeChar (Char.ofUInt8 b) = [b] := by
  have hval : (Char.ofUInt8 b).val.toNat = b.toNat := UInt8.toNat_toUInt32 b
  have hlt : b.toNat < 128 := UInt8.lt_iff_toNat_lt.mp hb
  simp only [String.utf8EncodeChar]
  rw [hval, if_pos (by omega), UInt8.ofNat_toNat]

/-! ## §2. The bytes of a string. -/

theorem utf8_eq_flatMap (s : String) : utf8 s = s.toList.flatMap String.utf8EncodeChar := by
  unfold utf8
  rw [String.toUTF8_eq_toByteArray]
  conv_lhs => rw [← String.ofList_toList (s := s)]
  rw [String.toByteArray_ofList, List.utf8Encode, List.data_toByteArray]

theorem utf8_injective {s t : String} (h : utf8 s = utf8 t) : s = t := by
  apply Option.some.inj
  rw [← Cbor.text?_utf8 s, h, Cbor.text?_utf8]

/-- ASCII bytes are those of a string. -/
theorem text?_ascii {bs : Bytes} (h : ∀ b ∈ bs, b < 0x80) : (Cbor.text? bs).isSome := by
  have hbytes : utf8 (String.ofList (bs.map Char.ofUInt8)) = bs := by
    rw [utf8_eq_flatMap, String.toList_ofList]
    induction bs with
    | nil => rfl
    | cons b bs ih =>
        rw [List.map_cons, List.flatMap_cons, utf8EncodeChar_ofUInt8 (h b List.mem_cons_self),
          ih fun c hc => h c (List.mem_cons_of_mem b hc)]
        rfl
  rw [← hbytes, Cbor.text?_utf8]
  rfl

/-! ## §3. Slices. -/

/-- `str::is_char_boundary`. -/
def isCharBoundary (text : Bytes) (index : Nat) : Bool :=
  index = 0 || match text[index]? with
    | none => index = text.length
    | some b => b < 0x80 || 0xC0 ≤ b

/-- `&text[index..]`; nothing where the slice panics. -/
def sliceFrom (text : Bytes) (index : Nat) : Option Bytes :=
  if isCharBoundary text index then some (text.drop index) else none

/-- In encoded characters, the byte after an ASCII one starts a character. -/
theorem getElem?_succ_flatMap (cs : List Char) {k : Nat} {b b' : UInt8}
    (hb : (cs.flatMap String.utf8EncodeChar)[k]? = some b) (hascii : b < 0x80)
    (hb' : (cs.flatMap String.utf8EncodeChar)[k + 1]? = some b') : b' < 0x80 ∨ 0xC0 ≤ b' := by
  induction cs generalizing k with
  | nil => cases hb
  | cons c cs ih =>
      rw [List.flatMap_cons] at hb hb'
      by_cases hk : k < (String.utf8EncodeChar c).length
      · rw [List.getElem?_append_left hk] at hb
        have hone := utf8EncodeChar_ascii (List.mem_of_getElem? hb) hascii
        rw [hone, List.length_singleton] at hk
        have hzero : k = 0 := by omega
        rw [hone, hzero] at hb'
        cases cs with
        | nil => cases hb'
        | cons d cs =>
            have hne : String.utf8EncodeChar d ≠ [] := String.utf8EncodeChar_ne_nil
            obtain ⟨x, xs, hd⟩ := List.exists_cons_of_ne_nil hne
            rw [List.flatMap_cons, hd] at hb'
            cases hb'
            exact utf8EncodeChar_head (by rw [hd, List.head?_cons])
      · rw [List.getElem?_append_right (by omega)] at hb hb'
        have hsub : k + 1 - (String.utf8EncodeChar c).length
            = k - (String.utf8EncodeChar c).length + 1 := by
          omega
        rw [hsub] at hb'
        exact ih hb hb'

/-- **What follows an ASCII byte** is a character boundary. -/
theorem isCharBoundary_succ (s : String) {k : Nat} {b : UInt8}
    (hb : (utf8 s)[k]? = some b) (hascii : b < 0x80) :
    isCharBoundary (utf8 s) (k + 1) = true := by
  unfold isCharBoundary
  rw [Bool.or_eq_true]
  right
  cases hb' : (utf8 s)[k + 1]? with
  | none =>
      have hk := (List.getElem?_eq_some_iff.mp hb).1
      have hle := List.getElem?_eq_none_iff.mp hb'
      simp only [decide_eq_true_eq]
      omega
  | some b' =>
      rw [utf8_eq_flatMap] at hb hb'
      simpa using getElem?_succ_flatMap s.toList hb hascii hb'

end Libwebauthn
