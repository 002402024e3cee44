/-
  Libwebauthn.Ctap1.Apdu — CTAP1 requests and responses
  (`src/proto/ctap1/apdu/{request,response}.rs`), in the short form and in the
  extended one that HID carries.
-/
import Libwebauthn.Transport.IoError

namespace Libwebauthn

open Transport

abbrev APDU_SHORT_MAX_DATA : Nat := 0x100
abbrev APDU_SHORT_MAX_LE : Nat := 0x100
abbrev APDU_LONG_MAX_DATA : Nat := 0xFFFFFF
def CLA : UInt8 := 0x00

structure ApduRequest where
  ins : UInt8
  p1 : UInt8
  p2 : UInt8
  data : Option Bytes
  responseMaxLength : Option Nat
  deriving Repr, DecidableEq

/-- The length byte and the data of the short form; 0 stands for 256. -/
def shortData (data : Option Bytes) : Except IoError Bytes :=
  match data with
  | none => .ok []
  | some data =>
      if data.length > APDU_SHORT_MAX_DATA then
        .error ⟨.invalidData,
          s!"Unable to serialize {data.length} bytes of data in APDU short form."⟩
      else if data = [] then .error ⟨.invalidData, "Cannot serialize an empty payload."⟩
      else .ok ((if data.length ≠ APDU_SHORT_MAX_DATA then UInt8.ofNat data.length else 0) :: data)

def shortLe (responseMaxLength : Option Nat) : Except IoError Bytes :=
  match responseMaxLength with
  | none => .ok []
  | some le =>
      if le > APDU_SHORT_MAX_LE then
        .error ⟨.invalidData, s!"Unable to serialize L_e value ({le}) in APDU short form."⟩
      else .ok [if le = APDU_SHORT_MAX_LE then 0 else UInt8.ofNat le]

def ApduRequest.rawShort (self : ApduRequest) : Except IoError Bytes := do
  let data ← shortData self.data
  let le ← shortLe self.responseMaxLength
  pure ([CLA, self.ins, self.p1, self.p2] ++ data ++ le)

/-- The 2-byte `Le`; 0 stands for 65536 and more. -/
def leField (le : Nat) : Bytes := beEncode 2 (if le ≥ 0x10000 then 0 else le)

def ApduRequest.rawLong (self : ApduRequest) : Except IoError Bytes :=
  let header := [CLA, self.ins, self.p1, self.p2]
  let le := (self.responseMaxLength.map leField).getD []
  match self.data with
  | none => .ok (header ++ beEncode 3 0 ++ le)
  | some data =>
      if data.length > APDU_LONG_MAX_DATA then
        .error ⟨.invalidData,
          s!"Unable to serialize {data.length} bytes of data in APDU long form."⟩
      else .ok (header ++ beEncode 3 data.length ++ data ++ le)

structure ApduResponse where
  data : Option Bytes
  sw1 : UInt8
  sw2 : UInt8
  deriving Repr, DecidableEq

/-- The last two bytes are the status. -/
def ApduResponse.tryFrom (packet : Bytes) : Except IoError ApduResponse :=
  match packet.reverse with
  | sw2 :: sw1 :: body =>
      .ok ⟨if body = [] then none else some body.reverse, sw1, sw2⟩
  | _ => .error ⟨.invalidData, "Apdu response packets must contain at least 2 bytes."⟩

end Libwebauthn
