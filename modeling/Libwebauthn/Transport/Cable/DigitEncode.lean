/-
  Libwebauthn.Transport.Cable.DigitEncode — the digits of a QR code
  (`src/transport/cable/digit_encode.rs`).

  Seven bytes at a time are written as one little-endian number of 17 digits,
  and what is left over at the end with as many digits as its length takes.

    • `encodeChunk_length` — no number needs more digits than it gets;
    • `encodeChunk_value` — the number is what the digits spell;
    • `digitEncode_lossless` — the digits tell the bytes, whatever their number.
-/
import Libwebauthn.Lib.Bytes
import Libwebauthn.Lib.Segments
import Mathlib.Tactic.IntervalCases

namespace Libwebauthn.Transport.Cable

/-! ## §1. Little-endian numbers. -/

/-- `from_le_bytes`. -/
def leDecode (bs : Bytes) : Nat := beDecode bs.reverse

theorem leDecode_lt (bs : Bytes) : leDecode bs < 256 ^ bs.length := by
  have hlt := beDecode_lt bs.reverse
  rwa [List.length_reverse] at hlt

/-- Zeros at the high end count for nothing. -/
theorem leDecode_append_zeros (bs : Bytes) (n : Nat) :
    leDecode (bs ++ List.replicate n 0) = leDecode bs := by
  have hzeros : ∀ n, (List.replicate n (0 : UInt8)).foldl beStep 0 = 0 := by
    intro n
    induction n with
    | zero => rfl
    | succ n ih => exact ih
  unfold leDecode beDecode
  rw [List.reverse_append, List.reverse_replicate, List.foldl_append, hzeros]

/-- Numbers of one length are different for different bytes. -/
theorem leDecode_inj {xs ys : Bytes} (hlength : xs.length = ys.length)
    (h : leDecode xs = leDecode ys) : xs = ys := by
  have hx := beEncode_beDecode xs.reverse
  have hy := beEncode_beDecode ys.reverse
  have hreverse : xs.reverse = ys.reverse := by
    rw [← hx, ← hy, List.length_reverse, List.length_reverse, hlength]
    exact congrArg (beEncode ys.length) h
  exact List.reverse_injective hreverse

/-! ## §2. The encoding. -/

def CHUNK_SIZE : Nat := 7
def CHUNK_DIGITS : Nat := 17
def ZEROS : List Char := "00000000000000000".toList

/-- The number of digits for each length of trailing data, from 6 bytes down to
none: 15, 13, 10, 8, 5, 3, 0. -/
def PARTIAL_CHUNK_DIGITS : Nat := 0x0fda8530

def chunkDigits (length : Nat) : Nat :=
  if length = CHUNK_SIZE then CHUNK_DIGITS
  else 0x0F &&& (PARTIAL_CHUNK_DIGITS >>> (4 * length))

/-- The digits of one chunk. -/
def encodeChunk (chunkSlice : Bytes) : List Char :=
  let chunk := chunkSlice ++ List.replicate (8 - chunkSlice.length) 0
  let v := Nat.toDigits 10 (leDecode chunk)
  let padLen := chunkDigits chunkSlice.length - v.length
  (if padLen ≤ ZEROS.length then ZEROS.take padLen else []) ++ v

def encodeDigits (input : Bytes) : List Char := (chunksOf CHUNK_SIZE input).flatMap encodeChunk

def digitEncode (input : Bytes) : String := String.ofList (encodeDigits input)

/-! ## §3. One chunk. -/

theorem ZEROS_eq : ZEROS = List.replicate 17 '0' := by decide

theorem chunkDigits_le {length : Nat} (h : length ≤ 7) : chunkDigits length ≤ 17 := by
  interval_cases length <;> decide

/-- A chunk has digits enough for its value. -/
theorem pow_le_chunkDigits {length : Nat} (hpos : 1 ≤ length) (h : length ≤ 7) :
    256 ^ length ≤ 10 ^ chunkDigits length := by
  interval_cases length <;> decide

section

variable {chunk : Bytes}

theorem encodeChunk_eq (h : chunk.length ≤ 7) :
    encodeChunk chunk
      = List.replicate (chunkDigits chunk.length - (Nat.toDigits 10 (leDecode chunk)).length) '0'
        ++ Nat.toDigits 10 (leDecode chunk) := by
  have hdigits := chunkDigits_le h
  unfold encodeChunk
  dsimp only
  rw [leDecode_append_zeros, ZEROS_eq, if_pos (by rw [List.length_replicate]; omega),
    List.take_replicate]
  congr 2
  omega

/-- The value of a chunk needs no more digits than the chunk gets. -/
theorem toDigits_length_le (hpos : 1 ≤ chunk.length) (h : chunk.length ≤ 7) :
    (Nat.toDigits 10 (leDecode chunk)).length ≤ chunkDigits chunk.length := by
  have hdigits : 0 < chunkDigits chunk.length := by
    have hpow := pow_le_chunkDigits hpos h
    have hlarge : 256 ^ 1 ≤ 256 ^ chunk.length := Nat.pow_le_pow_right (by decide) hpos
    by_contra hzero
    rw [Nat.eq_zero_of_not_pos hzero, Nat.pow_zero] at hpow
    omega
  rw [Nat.length_toDigits_le_iff (by decide) hdigits]
  exact Nat.lt_of_lt_of_le (leDecode_lt chunk) (pow_le_chunkDigits hpos h)

theorem encodeChunk_length (hpos : 1 ≤ chunk.length) (h : chunk.length ≤ 7) :
    (encodeChunk chunk).length = chunkDigits chunk.length := by
  have hfits := toDigits_length_le hpos h
  rw [encodeChunk_eq h, List.length_append, List.length_replicate]
  omega

/-- **The digits spell the number.** -/
theorem encodeChunk_value (h : chunk.length ≤ 7) :
    Nat.ofDigitChars 10 (encodeChunk chunk) 0 = leDecode chunk := by
  rw [encodeChunk_eq h, Nat.ofDigitChars_append, Nat.ofDigitChars_replicate_zero, Nat.mul_zero,
    Nat.ofDigitChars_ten_toDigits]

theorem isDigit_encodeChunk (h : chunk.length ≤ 7) : ∀ c ∈ encodeChunk chunk, c.isDigit = true := by
  rw [encodeChunk_eq h]
  intro c hmem
  rcases List.mem_append.mp hmem with hmem | hmem
  · rw [List.eq_of_mem_replicate hmem]
    rfl
  · exact Nat.isDigit_of_mem_toDigits (by decide) (by decide) hmem

theorem encodeChunk_inj {chunk' : Bytes} (h : chunk.length ≤ 7)
    (hlength : chunk.length = chunk'.length) (heq : encodeChunk chunk = encodeChunk chunk') :
    chunk = chunk' := by
  have hvalue := encodeChunk_value h
  rw [heq, encodeChunk_value (hlength ▸ h)] at hvalue
  exact leDecode_inj hlength hvalue.symm

end

/-! ## §4. All chunks. -/

theorem CHUNK_SIZE_pos : 0 < CHUNK_SIZE := by decide

theorem encodeDigits_cons {input : Bytes} (h : input ≠ []) :
    encodeDigits input
      = encodeChunk (input.take CHUNK_SIZE) ++ encodeDigits (input.drop CHUNK_SIZE) := by
  unfold encodeDigits
  rw [chunksOf_of_ne_nil CHUNK_SIZE_pos h, List.flatMap_cons]

theorem isDigit_encodeDigits (input : Bytes) : ∀ c ∈ encodeDigits input, c.isDigit = true := by
  intro c hmem
  obtain ⟨chunk, hchunk, hc⟩ := List.mem_flatMap.mp hmem
  exact isDigit_encodeChunk (chunksOf_length_le CHUNK_SIZE_pos input chunk hchunk) c hc

/-- The number of digits. -/
theorem encodeDigits_length (input : Bytes) :
    (encodeDigits input).length = 17 * (input.length / 7) + chunkDigits (input.length % 7) := by
  induction input using chunksOf_induction CHUNK_SIZE_pos with
  | nil => rfl
  | step input h ih =>
      have hpos := List.length_pos_iff.mpr h
      have htake : (input.take CHUNK_SIZE).length = min 7 input.length := List.length_take
      have hfirst : (encodeChunk (input.take CHUNK_SIZE)).length
          = chunkDigits (input.take CHUNK_SIZE).length := encodeChunk_length (by omega) (by omega)
      have hdrop : (input.drop CHUNK_SIZE).length = input.length - 7 := List.length_drop
      rw [encodeDigits_cons h, List.length_append, hfirst, ih, htake, hdrop]
      by_cases hfull : 7 ≤ input.length
      · -- a full chunk, and what follows it
        have hdigits : chunkDigits (min 7 input.length) = 17 := by
          rw [Nat.min_eq_left hfull]
          rfl
        rw [hdigits, show input.length / 7 = (input.length - 7) / 7 + 1 by omega,
          show input.length % 7 = (input.length - 7) % 7 by omega]
        omega
      · -- the trailing chunk
        have hnone : chunkDigits (0 % 7) = 0 := rfl
        rw [Nat.min_eq_right (by omega), show input.length - 7 = 0 by omega,
          show input.length / 7 = 0 by omega, show input.length % 7 = input.length by omega, hnone]
        omega

/-- Equal numbers of digits, equal numbers of bytes. -/
theorem length_eq_of_encodeDigits {xs ys : Bytes}
    (h : (encodeDigits xs).length = (encodeDigits ys).length) : xs.length = ys.length := by
  rw [encodeDigits_length, encodeDigits_length] at h
  have hapart : ∀ a < 7, ∀ b < 7, chunkDigits a = chunkDigits b → a = b := by decide
  have hless : ∀ a < 7, chunkDigits a < 17 := by decide
  have hx := hless (xs.length % 7) (Nat.mod_lt _ (by decide))
  have hy := hless (ys.length % 7) (Nat.mod_lt _ (by decide))
  have hrest := hapart (xs.length % 7) (Nat.mod_lt _ (by decide)) (ys.length % 7)
    (Nat.mod_lt _ (by decide)) (by omega)
  omega

/-- **Of one length**, different bytes have different digits. -/
theorem encodeDigits_inj_of_length (xs : Bytes) :
    ∀ ys, xs.length = ys.length → encodeDigits xs = encodeDigits ys → xs = ys := by
  induction xs using chunksOf_induction CHUNK_SIZE_pos with
  | nil =>
      intro ys hlength _
      exact (List.length_eq_zero_iff.mp hlength.symm).symm
  | step xs h ih =>
      intro ys hlength heq
      have hpos := List.length_pos_iff.mpr h
      have hys : ys ≠ [] := List.length_pos_iff.mp (hlength ▸ hpos)
      have htake : (xs.take CHUNK_SIZE).length = min 7 xs.length := List.length_take
      have htake' : (ys.take CHUNK_SIZE).length = min 7 ys.length := List.length_take
      have hsame : (xs.take CHUNK_SIZE).length = (ys.take CHUNK_SIZE).length := by omega
      rw [encodeDigits_cons h, encodeDigits_cons hys] at heq
      have hdigits : (encodeChunk (xs.take CHUNK_SIZE)).length
          = (encodeChunk (ys.take CHUNK_SIZE)).length := by
        rw [encodeChunk_length (by omega) (by omega), encodeChunk_length (by omega) (by omega),
          hsame]
      obtain ⟨hfirst, hrest⟩ := List.append_inj heq hdigits
      have hdrop : (xs.drop CHUNK_SIZE).length = (ys.drop CHUNK_SIZE).length := by
        rw [List.length_drop, List.length_drop, hlength]
      rw [← List.take_append_drop CHUNK_SIZE xs, ← List.take_append_drop CHUNK_SIZE ys,
        encodeChunk_inj (by omega) hsame hfirst, ih _ hdrop hrest]

theorem digitEncode_injective : Function.Injective digitEncode := by
  intro xs ys h
  have hdigits : encodeDigits xs = encodeDigits ys := String.ofList_injective h
  exact encodeDigits_inj_of_length xs ys
    (length_eq_of_encodeDigits (congrArg List.length hdigits)) hdigits

/-- **The digits of a QR code lose nothing.**  They are decimal digits, 17 for
each seven bytes and for what is left over as many as the table says; no chunk
has a value that needs more; and the bytes can be told from them, whatever
their number. -/
theorem digitEncode_lossless :
    (∀ input : Bytes,
      (∀ c ∈ (digitEncode input).toList, c.isDigit = true) ∧
      (digitEncode input).toList.length
        = 17 * (input.length / 7) + [0, 3, 5, 8, 10, 13, 15].getD (input.length % 7) 0) ∧
    (∀ chunk : Bytes, 1 ≤ chunk.length → chunk.length ≤ 7 →
      (Nat.toDigits 10 (leDecode chunk)).length
        ≤ [0, 3, 5, 8, 10, 13, 15, 17].getD chunk.length 0 ∧
      (encodeChunk chunk).length = [0, 3, 5, 8, 10, 13, 15, 17].getD chunk.length 0) ∧
    Function.Injective digitEncode ∧
    ∃ decode : String → Bytes, ∀ input, decode (digitEncode input) = input := by
  have htable : ∀ k < 7, chunkDigits k = [0, 3, 5, 8, 10, 13, 15].getD k 0 := by decide
  have hfits : ∀ k < 8, chunkDigits k = [0, 3, 5, 8, 10, 13, 15, 17].getD k 0 := by decide
  refine ⟨?_, ?_, digitEncode_injective, digitEncode_injective.hasLeftInverse⟩
  · intro input
    unfold digitEncode
    rw [String.toList_ofList]
    refine ⟨isDigit_encodeDigits input, ?_⟩
    rw [encodeDigits_length, htable _ (Nat.mod_lt _ (by decide))]
  · intro chunk hpos h
    rw [← hfits _ (by omega)]
    exact ⟨toDigits_length_le hpos h, encodeChunk_length hpos h⟩

example : encodeDigits "hello world".toUTF8.toList = "335311851610699281684828783".toList := by
  decide +kernel

end Libwebauthn.Transport.Cable
