/-
  Libwebauthn.Lib.Base64 — base64url without padding.

  Three bytes are four digits of six bits; one or two bytes at the end are two
  or three digits.

    • `base64UrlDecode_base64Url`, `base64Url_injective` — the text determines
      the bytes;
    • `base64Url_alphabet` — letters, digits, hyphen and underscore.
-/
import Libwebauthn.Lib.Bytes

namespace Libwebauthn

/-! ## §1. Digits. -/

/-- The digit of a number below 64. -/
def base64Digit (n : Nat) : Char :=
  if n < 26 then Char.ofNat (65 + n)
  else if n < 52 then Char.ofNat (71 + n)
  else if n < 62 then Char.ofNat (n - 4)
  else if n = 62 then '-'
  else '_'

/-- A letter, a digit, a hyphen or an underscore. -/
def isBase64Digit (c : Char) : Bool :=
  c.isAlphanum || c == '-' || c == '_'

/-- The number of a digit. -/
def base64Value (c : Char) : Nat :=
  if c.isUpper then c.toNat - 65
  else if c.isLower then c.toNat - 71
  else if c.isDigit then c.toNat + 4
  else if c = '-' then 62
  else 63

/-- A digit is read as its value. -/
theorem base64Value_digit {n : Nat} (h : n < 64) : base64Value (base64Digit n) = n := by
  have hall : ∀ n < 64, base64Value (base64Digit n) = n := by decide
  exact hall n h

theorem isBase64Digit_digit {n : Nat} (h : n < 64) : isBase64Digit (base64Digit n) = true := by
  have hall : ∀ n < 64, isBase64Digit (base64Digit n) = true := by decide
  exact hall n h

/-! ## §2. Bytes. -/

def base64UrlDigits : Bytes → List Char
  | [] => []
  | [a] => [base64Digit (a.toNat / 4), base64Digit (a.toNat % 4 * 16)]
  | [a, b] =>
      [base64Digit (a.toNat / 4), base64Digit (a.toNat % 4 * 16 + b.toNat / 16),
        base64Digit (b.toNat % 16 * 4)]
  | a :: b :: c :: rest =>
      base64Digit (a.toNat / 4) :: base64Digit (a.toNat % 4 * 16 + b.toNat / 16)
        :: base64Digit (b.toNat % 16 * 4 + c.toNat / 64) :: base64Digit (c.toNat % 64)
        :: base64UrlDigits rest

def base64Url (bytes : Bytes) : String := String.ofList (base64UrlDigits bytes)

/-- Only digits are written, and no padding. -/
theorem base64UrlDigits_alphabet (bytes : Bytes) :
    ∀ c ∈ base64UrlDigits bytes, isBase64Digit c = true := by
  induction bytes using base64UrlDigits.induct with
  | case1 => intro c hc; cases hc
  | case2 a =>
      have ha := a.toNat_lt
      intro c hc
      simp only [base64UrlDigits, List.mem_cons, List.not_mem_nil, or_false] at hc
      rcases hc with rfl | rfl <;> exact isBase64Digit_digit (by omega)
  | case3 a b =>
      have ha := a.toNat_lt
      have hb := b.toNat_lt
      intro c hc
      simp only [base64UrlDigits, List.mem_cons, List.not_mem_nil, or_false] at hc
      rcases hc with rfl | rfl | rfl <;> exact isBase64Digit_digit (by omega)
  | case4 a b c rest ih =>
      have ha := a.toNat_lt
      have hb := b.toNat_lt
      have hc := c.toNat_lt
      intro d hd
      simp only [base64UrlDigits, List.mem_cons] at hd
      rcases hd with rfl | rfl | rfl | rfl | hd
      · exact isBase64Digit_digit (by omega)
      · exact isBase64Digit_digit (by omega)
      · exact isBase64Digit_digit (by omega)
      · exact isBase64Digit_digit (by omega)
      · exact ih d hd

/-- The same of the string. -/
theorem base64Url_alphabet (bytes : Bytes) :
    ∀ c ∈ (base64Url bytes).toList, isBase64Digit c = true := by
  unfold base64Url
  rw [String.toList_ofList]
  exact base64UrlDigits_alphabet bytes

/-! ## §3. Back to bytes. -/

/-- What digits stand for; two or three at the end leave no bits over. -/
def base64UrlBytes : List Char → Option Bytes
  | [] => some []
  | [_] => none
  | [w, x] =>
      if [w, x].all isBase64Digit = true ∧ base64Value x % 16 = 0 then
        some [UInt8.ofNat (base64Value w * 4 + base64Value x / 16)]
      else none
  | [w, x, y] =>
      if [w, x, y].all isBase64Digit = true ∧ base64Value y % 4 = 0 then
        some [UInt8.ofNat (base64Value w * 4 + base64Value x / 16),
          UInt8.ofNat (base64Value x % 16 * 16 + base64Value y / 4)]
      else none
  | w :: x :: y :: z :: rest =>
      if [w, x, y, z].all isBase64Digit = true then
        (base64UrlBytes rest).map fun bytes =>
          UInt8.ofNat (base64Value w * 4 + base64Value x / 16)
            :: UInt8.ofNat (base64Value x % 16 * 16 + base64Value y / 4)
            :: UInt8.ofNat (base64Value y % 4 * 64 + base64Value z) :: bytes
      else none

def base64UrlDecode (s : String) : Option Bytes := base64UrlBytes s.toList

theorem ofNat_eq {a : UInt8} {n : Nat} (h : n = a.toNat) : UInt8.ofNat n = a := by
  rw [h, UInt8.ofNat_toNat]

/-- Three bytes and four digits at a time, and what is left over at the end. -/
theorem base64UrlBytes_digits (bytes : Bytes) :
    base64UrlBytes (base64UrlDigits bytes) = some bytes := by
  induction bytes using base64UrlDigits.induct with
  | case1 => rfl
  | case2 a =>
      have ha := a.toNat_lt
      have h₁ := @base64Value_digit (a.toNat / 4) (by omega)
      have h₂ := @base64Value_digit (a.toNat % 4 * 16) (by omega)
      have hdigits := List.all_eq_true.mpr (base64UrlDigits_alphabet [a])
      unfold base64UrlDigits at hdigits ⊢
      unfold base64UrlBytes
      rw [if_pos ⟨hdigits, by omega⟩, h₁, h₂, ofNat_eq (a := a) (by omega)]
  | case3 a b =>
      have ha := a.toNat_lt
      have hb := b.toNat_lt
      have h₁ := @base64Value_digit (a.toNat / 4) (by omega)
      have h₂ := @base64Value_digit (a.toNat % 4 * 16 + b.toNat / 16) (by omega)
      have h₃ := @base64Value_digit (b.toNat % 16 * 4) (by omega)
      have hdigits := List.all_eq_true.mpr (base64UrlDigits_alphabet [a, b])
      unfold base64UrlDigits at hdigits ⊢
      unfold base64UrlBytes
      rw [if_pos ⟨hdigits, by omega⟩, h₁, h₂, h₃, ofNat_eq (a := a) (by omega),
        ofNat_eq (a := b) (by omega)]
  | case4 a b c rest ih =>
      have ha := a.toNat_lt
      have hb := b.toNat_lt
      have hc := c.toNat_lt
      have h₁ := @base64Value_digit (a.toNat / 4) (by omega)
      have h₂ := @base64Value_digit (a.toNat % 4 * 16 + b.toNat / 16) (by omega)
      have h₃ := @base64Value_digit (b.toNat % 16 * 4 + c.toNat / 64) (by omega)
      have h₄ := @base64Value_digit (c.toNat % 64) (by omega)
      have hdigits : [base64Digit (a.toNat / 4), base64Digit (a.toNat % 4 * 16 + b.toNat / 16),
          base64Digit (b.toNat % 16 * 4 + c.toNat / 64), base64Digit (c.toNat % 64)].all
          isBase64Digit = true := by
        simp only [List.all_cons, List.all_nil, Bool.and_true, Bool.and_eq_true]
        exact ⟨isBase64Digit_digit (by omega), isBase64Digit_digit (by omega),
          isBase64Digit_digit (by omega), isBase64Digit_digit (by omega)⟩
      unfold base64UrlDigits base64UrlBytes
      rw [if_pos hdigits, ih, h₁, h₂, h₃, h₄, Option.map_some, ofNat_eq (a := a) (by omega),
        ofNat_eq (a := b) (by omega), ofNat_eq (a := c) (by omega)]

/-- **Round trip**: what was encoded is decoded. -/
theorem base64UrlDecode_base64Url (bytes : Bytes) :
    base64UrlDecode (base64Url bytes) = some bytes := by
  unfold base64UrlDecode base64Url
  rw [String.toList_ofList]
  exact base64UrlBytes_digits bytes

/-- So no two byte strings are encoded alike. -/
theorem base64Url_injective {bytes bytes' : Bytes} (h : base64Url bytes = base64Url bytes') :
    bytes = bytes' := by
  have hdecoded := base64UrlDecode_base64Url bytes
  rw [h, base64UrlDecode_base64Url] at hdecoded
  exact (Option.some.inj hdecoded).symm

end Libwebauthn
