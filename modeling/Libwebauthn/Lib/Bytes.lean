/-
  Libwebauthn.Lib.Bytes — byte strings and big-endian integers.

  A byte string is a list of `UInt8`.  `beEncode k n` writes the low `k`
  bytes of `n`, most significant first, and `beDecode` reads a byte string
  back as a natural number.

    • `beDecode_beEncode` — reading back gives `n % 256 ^ k`;
    • `beDecode_beEncode_of_lt` — and `n` itself when it fits;
    • `beEncode_beDecode` — writing back gives the bytes read.
-/
import Mathlib.Data.Nat.Basic
import Mathlib.Tactic.Linarith
import Mathlib.Tactic.Positivity
import Mathlib.Tactic.Ring

namespace Libwebauthn

/-- A byte string. -/
abbrev Bytes := List UInt8

/-- The low `k` bytes of `n`, most significant byte first. -/
def beEncode : (k : Nat) → (n : Nat) → Bytes
  | 0, _ => []
  | k + 1, n => UInt8.ofNat (n / 256 ^ k) :: beEncode k n

/-- One more byte at the low end of an accumulated value. -/
def beStep (acc : Nat) (b : UInt8) : Nat := acc * 256 + b.toNat

/-- The natural number a byte string spells, most significant byte first. -/
def beDecode (bs : Bytes) : Nat := bs.foldl beStep 0

@[simp] theorem beEncode_length (k n : Nat) : (beEncode k n).length = k := by
  induction k with
  | zero => rfl
  | succ k ih => simp [beEncode, ih]

/-- Decoding after `acc` shifts `acc` up by the bytes read. -/
theorem foldl_beStep_beEncode (k n acc : Nat) :
    (beEncode k n).foldl beStep acc = acc * 256 ^ k + n % 256 ^ k := by
  induction k generalizing acc with
  | zero => simp [beEncode, Nat.mod_one]
  | succ k ih =>
      have hbyte : (UInt8.ofNat (n / 256 ^ k)).toNat = n / 256 ^ k % 256 := by
        simp [UInt8.toNat_ofNat']
      rw [beEncode, List.foldl_cons, ih, beStep, hbyte, Nat.mod_pow_succ]
      ring

/-- Only the low `k` bytes are written. -/
theorem beEncode_add_mul (k a n : Nat) : beEncode k (a * 256 ^ k + n) = beEncode k n := by
  induction k generalizing a with
  | zero => rfl
  | succ k ih =>
      have hsplit : a * 256 ^ (k + 1) + n = a * 256 * 256 ^ k + n := by ring
      have hbyte : (a * 256 * 256 ^ k + n) / 256 ^ k = n / 256 ^ k + a * 256 := by
        rw [Nat.add_comm, Nat.add_mul_div_right _ _ (by positivity)]
      rw [beEncode, beEncode, hsplit, ih, hbyte]
      congr 1
      rw [← UInt8.toNat_inj, UInt8.toNat_ofNat', UInt8.toNat_ofNat']
      simp

theorem beDecode_beEncode (k n : Nat) : beDecode (beEncode k n) = n % 256 ^ k := by
  rw [beDecode, foldl_beStep_beEncode, Nat.zero_mul, Nat.zero_add]

theorem beDecode_beEncode_of_lt {k n : Nat} (h : n < 256 ^ k) :
    beDecode (beEncode k n) = n := by
  rw [beDecode_beEncode, Nat.mod_eq_of_lt h]

/-- One more byte at the high end. -/
theorem foldl_beStep_add (bs : Bytes) (acc : Nat) :
    bs.foldl beStep acc = acc * 256 ^ bs.length + beDecode bs := by
  induction bs generalizing acc with
  | nil => simp [beDecode]
  | cons b bs ih =>
      unfold beDecode
      rw [List.foldl_cons, List.foldl_cons, ih, ih (beStep 0 b), List.length_cons, pow_succ,
        beStep, beStep]
      ring

theorem beDecode_lt (bs : Bytes) : beDecode bs < 256 ^ bs.length := by
  induction bs with
  | nil => exact Nat.one_pos
  | cons b bs ih =>
      have hb := b.toNat_lt
      show bs.foldl beStep (beStep 0 b) < _
      rw [foldl_beStep_add, beStep, Nat.zero_mul, Nat.zero_add, List.length_cons, pow_succ]
      nlinarith

theorem beEncode_beDecode (bs : Bytes) : beEncode bs.length (beDecode bs) = bs := by
  induction bs with
  | nil => rfl
  | cons b bs ih =>
      have hval : beDecode (b :: bs) = b.toNat * 256 ^ bs.length + beDecode bs := by
        show bs.foldl beStep (beStep 0 b) = _
        rw [foldl_beStep_add, beStep, Nat.zero_mul, Nat.zero_add]
      have hlt := beDecode_lt bs
      have hhigh : beDecode (b :: bs) / 256 ^ bs.length = b.toNat := by
        rw [hval, Nat.mul_comm, Nat.mul_add_div (by positivity), Nat.div_eq_of_lt hlt,
          Nat.add_zero]
      rw [List.length_cons, beEncode, hhigh]
      congr 1
      · simp
      · rw [hval, beEncode_add_mul, ih]

end Libwebauthn
