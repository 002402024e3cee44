/-
  Libwebauthn.Ctap1.ApduEncoding — what a card that reads ISO 7816-4 makes of
  an encoded request.

  The short form is that of the standard, but for data of 256 bytes and for an
  expected length of zero.  The extended form always writes three bytes of
  data length: the standard has none where there are no data, and two after
  the marker where there are.

    • `rawLong_parses_iff`, `rawShort_parses_iff` — when the request is read
      back;
    • `raw_decodes_iff` — both.
-/
import Libwebauthn.Ctap1.Model
import Libwebauthn.Lib.Iso7816
import Libwebauthn.Lib.Proc

namespace Libwebauthn

namespace ApduRequest

/-- The command that is meant. -/
def command (self : ApduRequest) : CommandApdu where
  cla := CLA
  ins := self.ins
  p1 := self.p1
  p2 := self.p2
  data := self.data.getD []
  ne := self.responseMaxLength

/-- Some data, fit for two bytes of length, and a response length other than
zero that a two-byte field holds. -/
def LongConforms (self : ApduRequest) : Prop :=
  1 ≤ (self.data.getD []).length ∧ (self.data.getD []).length ≤ 65535 ∧
    ∀ le ∈ self.responseMaxLength, 1 ≤ le ∧ le ≤ 65536

/-- Data fit for one byte of length, and no response length of zero. -/
def ShortConforms (self : ApduRequest) : Prop :=
  (self.data.getD []).length ≤ 255 ∧ ∀ le ∈ self.responseMaxLength, 1 ≤ le

variable {self : ApduRequest} {bytes : Bytes}

/-! ## §1. The extended form. -/

theorem leField_eq {le : Nat} (h : le ≤ 65536) : leField le = beEncode 2 le := by
  unfold leField
  by_cases hmax : le ≥ 0x10000
  · rw [if_pos hmax, Nat.le_antisymm h hmax]
    rfl
  · rw [if_neg hmax]

/-- What is written of a request that is accepted. -/
theorem rawLong_eq (h : self.rawLong = .ok bytes) :
    bytes = [CLA, self.ins, self.p1, self.p2] ++ beEncode 3 (self.data.getD []).length
      ++ self.data.getD [] ++ (self.responseMaxLength.map leField).getD [] := by
  unfold rawLong at h
  cases hdata : self.data with
  | none =>
      rw [hdata] at h
      rw [← Except.ok.inj h, Option.getD_none, List.append_nil]
      rfl
  | some data =>
      simp only [hdata] at h
      split at h
      next => cases h
      next => rw [← Except.ok.inj h, Option.getD_some]

theorem rawLong_parses_iff (h : self.rawLong = .ok bytes) :
    LengthFields.extended.parse bytes = some self.command ↔ self.LongConforms := by
  have hraw := rawLong_eq h
  rw [LengthFields.parse_eq_some_iff]
  constructor
  · intro hparse
    obtain ⟨hfits, hcode⟩ := hparse
    refine ⟨?_, Nat.le_of_lt_succ hfits.data, hfits.ne⟩
    -- without data the standard has fewer length bytes
    by_contra hshort
    have hnone : self.data.getD [] = [] := List.length_eq_zero_iff.mp (by omega)
    have hlength := congrArg List.length (hraw.symm.trans hcode)
    unfold CommandApdu.encode CommandApdu.body CommandApdu.le command at hlength
    cases hle : self.responseMaxLength with
    | none => simp [hnone, hle] at hlength
    | some le => simp [hnone, hle, LengthFields.extended, leField] at hlength
  · intro hconforms
    obtain ⟨hpos, hdata, hle⟩ := hconforms
    refine ⟨⟨Nat.lt_succ_of_le hdata, hle⟩, ?_⟩
    have hsome : self.data.getD [] ≠ [] := List.length_pos_iff.mp hpos
    have hlc : beEncode 3 (self.data.getD []).length
        = 0x00 :: beEncode 2 (self.data.getD []).length := by
      show UInt8.ofNat ((self.data.getD []).length / 256 ^ 2) :: _ = _
      rw [Nat.div_eq_of_lt (by omega)]
      rfl
    have hfield : (self.responseMaxLength.map leField).getD []
        = (self.responseMaxLength.map (beEncode 2)).getD [] := by
      cases hne : self.responseMaxLength with
      | none => rfl
      | some le => exact leField_eq (hle le hne).2
    rw [hraw, hlc, hfield]
    unfold CommandApdu.encode CommandApdu.body CommandApdu.le command
    rw [if_neg hsome]
    simp [LengthFields.extended]

/-! ## §2. The short form. -/

theorem shortData_eq {data : Option Bytes} (h : shortData data = .ok bytes) :
    bytes = if data.getD [] = [] then []
      else beEncode 1 (data.getD []).length ++ data.getD [] := by
  cases data with
  | none => exact (Except.ok.inj h).symm
  | some data =>
      unfold shortData at h
      dsimp only at h
      split at h
      next => cases h
      next =>
        split at h
        next => cases h
        next hsome =>
          rw [Option.getD_some, if_neg hsome, ← Except.ok.inj h]
          -- 256 is written as the byte of zero
          by_cases hmax : data.length = APDU_SHORT_MAX_DATA
          · rw [if_neg (not_not.mpr hmax), hmax]
            rfl
          · rw [if_pos hmax]
            show _ = [UInt8.ofNat (data.length / 256 ^ 0)] ++ data
            rw [Nat.pow_zero, Nat.div_one]
            rfl

theorem shortLe_eq {responseMaxLength : Option Nat} (h : shortLe responseMaxLength = .ok bytes) :
    bytes = (responseMaxLength.map (beEncode 1)).getD []
      ∧ ∀ le ∈ responseMaxLength, le ≤ APDU_SHORT_MAX_LE := by
  cases responseMaxLength with
  | none => exact ⟨(Except.ok.inj h).symm, fun _ hmem => absurd hmem (Option.not_mem_none _)⟩
  | some le =>
      unfold shortLe at h
      dsimp only at h
      split at h
      next => cases h
      next hle =>
        refine ⟨?_, fun _ hmem => Option.some.inj hmem ▸ Nat.le_of_not_lt hle⟩
        rw [← Except.ok.inj h]
        by_cases hmax : le = APDU_SHORT_MAX_LE
        · rw [if_pos hmax, hmax]
          rfl
        · rw [if_neg hmax]
          show _ = [UInt8.ofNat (le / 256 ^ 0)]
          rw [Nat.pow_zero, Nat.div_one]

/-- What is written of a request that is accepted is the code of the command,
if it has one. -/
theorem rawShort_eq (h : self.rawShort = .ok bytes) :
    bytes = self.command.encode .short
      ∧ ∀ le ∈ self.responseMaxLength, le ≤ APDU_SHORT_MAX_LE := by
  unfold rawShort at h
  obtain ⟨data, hdata, h⟩ := except_bind_eq_ok_iff.mp h
  obtain ⟨le, hle, h⟩ := except_bind_eq_ok_iff.mp h
  obtain ⟨hfield, hmax⟩ := shortLe_eq hle
  refine ⟨?_, hmax⟩
  rw [← Except.ok.inj h, shortData_eq hdata, hfield]
  unfold CommandApdu.encode CommandApdu.body CommandApdu.le command
  by_cases hnone : self.data.getD [] = []
  · rw [if_pos hnone, if_pos hnone]
    cases self.responseMaxLength with
    | none => rfl
    | some le => rfl
  · rw [if_neg hnone, if_neg hnone]
    simp [LengthFields.short]

theorem rawShort_parses_iff (h : self.rawShort = .ok bytes) :
    LengthFields.short.parse bytes = some self.command ↔ self.ShortConforms := by
  obtain ⟨hcode, hmax⟩ := rawShort_eq h
  rw [LengthFields.parse_eq_some_iff]
  constructor
  · intro hparse
    exact ⟨Nat.le_of_lt_succ hparse.1.data, fun le hmem => (hparse.1.ne le hmem).1⟩
  · intro hconforms
    exact ⟨⟨Nat.lt_succ_of_le hconforms.1, fun le hmem => ⟨hconforms.2 le hmem, hmax le hmem⟩⟩,
      hcode⟩

/-! ## §3. Both. -/

/-- **What a request is read back as.**  The bytes that are accepted parse as
the command that is meant just if, in the extended form, there are data and no
more than 65535 bytes of them, and a response length is from 1 to 65536; in
the short form, if there are no more than 255 bytes of data, and no response
length of zero. -/
theorem raw_decodes_iff (self : ApduRequest) :
    (∀ bytes, self.rawLong = .ok bytes →
      (LengthFields.extended.parse bytes = some self.command ↔ self.LongConforms)) ∧
    ∀ bytes, self.rawShort = .ok bytes →
      (LengthFields.short.parse bytes = some self.command ↔ self.ShortConforms) :=
  ⟨fun _ h => rawLong_parses_iff h, fun _ h => rawShort_parses_iff h⟩

/-- A request with two bytes of data and a response of up to 256. -/
def plainApdu : ApduRequest := ⟨U2F_AUTHENTICATE, 0x03, 0x00, some [0xAA, 0xBB], some 256⟩

theorem raw_decodes_plain :
    (∃ bytes, plainApdu.rawLong = .ok bytes ∧
      LengthFields.extended.parse bytes = some plainApdu.command) ∧
    ∃ bytes, plainApdu.rawShort = .ok bytes ∧
      LengthFields.short.parse bytes = some plainApdu.command := by
  have hle : ∀ le ∈ plainApdu.responseMaxLength, 1 ≤ le ∧ le ≤ 65536 := by
    intro le hmem
    rw [← Option.some.inj hmem]
    decide
  obtain ⟨hlong, hshort⟩ := raw_decodes_iff plainApdu
  exact ⟨⟨_, rfl, (hlong _ rfl).mpr ⟨by decide, by decide, hle⟩⟩,
    _, rfl, (hshort _ rfl).mpr ⟨by decide, fun le hmem => (hle le hmem).1⟩⟩

/-- The version request is no command of the extended form; a request of
neither data nor a response asks for 65536 bytes; and in the short form one for
a response of no bytes asks for 256. -/
theorem raw_not_decoded :
    (versionApdu.rawLong = .ok [0x00, 0x03, 0x00, 0x00, 0x00, 0x00, 0x00, 0x01, 0x00] ∧
      LengthFields.extended.parse [0x00, 0x03, 0x00, 0x00, 0x00, 0x00, 0x00, 0x01, 0x00] = none) ∧
    ((⟨0x01, 0x02, 0x03, none, none⟩ : ApduRequest).rawLong
        = .ok [0x00, 0x01, 0x02, 0x03, 0x00, 0x00, 0x00] ∧
      LengthFields.extended.parse [0x00, 0x01, 0x02, 0x03, 0x00, 0x00, 0x00]
        = some ⟨0x00, 0x01, 0x02, 0x03, [], some 65536⟩) ∧
    ((⟨0x01, 0x02, 0x03, none, some 0⟩ : ApduRequest).rawShort
        = .ok [0x00, 0x01, 0x02, 0x03, 0x00] ∧
      LengthFields.short.parse [0x00, 0x01, 0x02, 0x03, 0x00]
        = some ⟨0x00, 0x01, 0x02, 0x03, [], some 256⟩) :=
  ⟨⟨rfl, by decide⟩, ⟨rfl, by decide⟩, rfl, by decide⟩

end ApduRequest

end Libwebauthn
