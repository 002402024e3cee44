/-
  Libwebauthn.Ctap1.Device — U2F devices, seen from the other side.

    • `applicationParameter`, `keyHandleField` — an AUTHENTICATE command, as
      a device reads it;
    • `SignsFor` — a device that has some keys, and is touched for them;
    • `keyedDevice` — a concrete one.
-/
import Libwebauthn.Ctap1.Settle

namespace Libwebauthn

/-! ## §1. Reading an AUTHENTICATE command. -/

namespace ApduRequest

variable (apdu : ApduRequest)

/-- Behind the challenge. -/
def applicationParameter : Bytes := ((apdu.data.getD []).drop 32).take 32

/-- The length byte, with what is there of a key handle. -/
def keyHandleField : Option (UInt8 × Bytes) :=
  match (apdu.data.getD []).drop 64 with
  | [] => none
  | len :: keyHandle => some (len, keyHandle)

/-- The length byte is the number of bytes that follow. -/
def LengthByteAgrees : Prop :=
  ∀ field, apdu.keyHandleField = some field → field.1.toNat = field.2.length

end ApduRequest

theorem Ctap1SignRequest.fields_toApdu {request : Ctap1SignRequest}
    (hchallenge : request.challenge.length = 32) (happ : request.appIdHash.length = 32) :
    request.toApdu.applicationParameter = request.appIdHash ∧
      request.toApdu.keyHandleField
        = some (UInt8.ofNat request.keyHandle.length, request.keyHandle) := by
  have hdata : request.toApdu.data.getD []
      = request.challenge ++ (request.appIdHash
        ++ UInt8.ofNat request.keyHandle.length :: request.keyHandle) := by
    simp [Ctap1SignRequest.toApdu]
  have hhead : 64 = (request.challenge ++ request.appIdHash).length := by
    rw [List.length_append, hchallenge, happ]
  constructor
  · unfold ApduRequest.applicationParameter
    rw [hdata, List.drop_left' hchallenge, List.take_left' happ]
  · unfold ApduRequest.keyHandleField
    rw [hdata, ← List.append_assoc, hhead, List.drop_left]

/-- The byte that is cast to from a length, as a length. -/
theorem lengthByte_eq_iff (n : Nat) : (UInt8.ofNat n).toNat = n ↔ n < 256 := by
  rw [UInt8.toNat_ofNat']
  omega

/-! ## §2. Devices with keys. -/

namespace U2fPlatform

variable {σ T : Type}

/-- A device that has the keys of `holds`: it refuses an AUTHENTICATE command
with a wrong length and one for an unknown key, and is touched in time for
one of its own keys.  A wrong length may also fail in the transport, which
does not carry commands of every size. -/
structure SignsFor (p : U2fPlatform σ T) (holds : (appIdHash keyHandle : Bytes) → Bool) :
    Prop where
  wrongLength : ∀ apdu env len keyHandle, apdu.ins = U2F_AUTHENTICATE →
    apdu.keyHandleField = some (len, keyHandle) → len.toNat ≠ keyHandle.length →
      (∃ e, (p.apdu apdu env).1 = some (.error e)) ∨
      ∃ response, (p.apdu apdu env).1 = some (.ok response) ∧
        response.status = .ok .invalidRequestLength
  wrongData : ∀ apdu env len keyHandle, apdu.ins = U2F_AUTHENTICATE →
    apdu.keyHandleField = some (len, keyHandle) → len.toNat = keyHandle.length →
      holds apdu.applicationParameter keyHandle = false →
      ∃ response, (p.apdu apdu env).1 = some (.ok response) ∧
        response.status = .ok .invalidKeyHandle
  touched : ∀ apdu env len keyHandle, apdu.ins = U2F_AUTHENTICATE →
    apdu.keyHandleField = some (len, keyHandle) → len.toNat = keyHandle.length →
      holds apdu.applicationParameter keyHandle = true →
      ∃ response data, (p.settled apdu env).1 = some (.ok response) ∧
        response.status = .ok .noError ∧ response.data = some data ∧ 5 ≤ data.length

/-! ## §3. A device of fixed keys. -/

/-- A response of a status word alone. -/
def statusResponse (sw1 sw2 : UInt8) : ApduResponse := ⟨none, sw1, sw2⟩

/-- The answer to an AUTHENTICATE command. -/
def authenticateAnswer (keys : List (Bytes × Bytes)) (touched : Bool) (apdu : ApduRequest) :
    ApduResponse :=
  match apdu.keyHandleField with
  | none => statusResponse 0x67 0x00
  | some (len, keyHandle) =>
      if len.toNat ≠ keyHandle.length then statusResponse 0x67 0x00
      else if (apdu.applicationParameter, keyHandle) ∉ keys then statusResponse 0x6A 0x80
      else if touched then ⟨some [0x01, 0, 0, 0, 7, 0x30, 0x00], 0x90, 0x00⟩
      else statusResponse 0x69 0x85

/-- A device with these keys, of application parameter and key handle, that
is touched whenever it asks, or never. -/
def keyedDevice (keys : List (Bytes × Bytes)) (touched : Bool) : U2fPlatform Unit Empty where
  fromDer _ := none
  encodedPoint _ := none
  uxUpdate _ env := env
  apdu request env :=
    (some (.ok (if request.ins = U2F_AUTHENTICATE then authenticateAnswer keys touched request
      else statusResponse 0x69 0x85)), env)
  sleeps _ := 2
  versionApdu env := (.ok ⟨some (utf8 "U2F_V2"), 0x90, 0x00⟩, env)

theorem signsFor_keyedDevice (keys : List (Bytes × Bytes)) :
    (keyedDevice keys true).SignsFor fun appIdHash keyHandle =>
      decide ((appIdHash, keyHandle) ∈ keys) where
  wrongLength apdu env len keyHandle hins hfield hlen := by
    refine Or.inr ⟨statusResponse 0x67 0x00, ?_, by decide +kernel⟩
    simp [keyedDevice, hins, authenticateAnswer, hfield, hlen]
  wrongData apdu env len keyHandle hins hfield hlen hholds := by
    refine ⟨statusResponse 0x6A 0x80, ?_, by decide +kernel⟩
    have hunknown : (apdu.applicationParameter, keyHandle) ∉ keys := of_decide_eq_false hholds
    simp [keyedDevice, hins, authenticateAnswer, hfield, hlen, hunknown]
  touched apdu env len keyHandle hins hfield hlen hholds := by
    refine ⟨⟨some [0x01, 0, 0, 0, 7, 0x30, 0x00], 0x90, 0x00⟩, _, ?_, by decide +kernel, rfl,
      by simp⟩
    have hknown : (apdu.applicationParameter, keyHandle) ∈ keys := of_decide_eq_true hholds
    have hstatus : (⟨some [0x01, 0, 0, 0, 7, 0x30, 0x00], 0x90, 0x00⟩ : ApduResponse).status
        ≠ .ok .userPresenceTestFailed := by decide +kernel
    simp [settled, settle, keyedDevice, hins, authenticateAnswer, hfield, hlen, hknown, hstatus]

end U2fPlatform

end Libwebauthn
