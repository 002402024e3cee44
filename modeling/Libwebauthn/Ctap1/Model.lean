/-
  Libwebauthn.Ctap1.Model — U2F requests and responses
  (`src/proto/ctap1/model.rs`, with their APDUs from
  `src/proto/ctap1/apdu/{request,response}.rs`).

  A parsed X.509 certificate is only asked how long it is: `X509` stands for
  the parser, and gives what is behind the certificate.

  Left out: the timeout of a request, which its loop is given
  (`Ctap1.Protocol`).
-/
import Libwebauthn.Ctap1.Apdu
import Libwebauthn.Webauthn.Error

namespace Libwebauthn

open Transport

/-! ## §1. Status words. -/

inductive ApduResponseStatus where
  | noError
  | userPresenceTestFailed
  | commandNotAllowed
  | invalidKeyHandle
  | invalidRequestLength
  | invalidClassByte
  | invalidInstruction
  deriving Repr, DecidableEq

def ApduResponseStatus.tryFrom (code : Nat) : Option ApduResponseStatus :=
  match code with
  | 0x9000 => some .noError
  | 0x6985 => some .userPresenceTestFailed
  | 0x6986 => some .commandNotAllowed
  | 0x6A80 => some .invalidKeyHandle
  | 0x6700 => some .invalidRequestLength
  | 0x6E00 => some .invalidClassByte
  | 0x6D00 => some .invalidInstruction
  | _ => none

/-- `From<ApduResponseStatus> for CtapError`. -/
def ApduResponseStatus.toCtapError : ApduResponseStatus → CtapError
  | .noError => .ok
  | .userPresenceTestFailed => .userPresenceRequired
  | .commandNotAllowed => .notAllowed
  | .invalidKeyHandle => .noCredentials
  | .invalidRequestLength => .invalidLength
  | .invalidClassByte => .other
  | .invalidInstruction => .invalidCommand

/-- The digits of `{:x}`. -/
def lowerHex (n : Nat) : String := String.ofList (Nat.toDigits 16 n)

def ApduResponse.status (self : ApduResponse) : Except IoError ApduResponseStatus :=
  let code := self.sw1.toNat * 256 + self.sw2.toNat
  match ApduResponseStatus.tryFrom code with
  | some status => .ok status
  | none => .error ⟨.invalidData, "Unknown APDU response code returned: " ++ lowerHex code⟩

/-- The data of a response without an error. -/
def ApduResponse.successData (self : ApduResponse) : Except IoError Bytes := do
  let status ← self.status
  if status ≠ .noError then
    .error ⟨.invalidInput, "APDU packets need to have status NoError to be converted.."⟩
  else
    match self.data with
    | none => .error ⟨.invalidInput, "Emtpy APDU packet."⟩
    | some data => .ok data

/-! ## §2. Registration. -/

inductive Ctap1Transport where
  | bt
  | ble
  | nfc
  | usb
  deriving Repr, DecidableEq

inductive Ctap1Version where
  | u2fV2
  deriving Repr, DecidableEq

structure Ctap1RegisteredKey where
  version : Ctap1Version
  keyHandle : Bytes
  transports : Option (List Ctap1Transport)
  appId : Option String
  deriving Repr, DecidableEq

structure Ctap1RegisterRequest where
  version : Ctap1Version
  appIdHash : Bytes
  challenge : Bytes
  registeredKeys : List Ctap1RegisteredKey
  requireUserPresence : Bool
  deriving Repr, DecidableEq

structure Ctap1RegisterResponse where
  version : Ctap1Version
  publicKey : Bytes
  keyHandle : Bytes
  attestation : Bytes
  signature : Bytes
  deriving Repr, DecidableEq

/-- The X.509 parser: what is left behind the certificate at the start. -/
abbrev X509 := Bytes → Option Bytes

def Ctap1RegisterResponse.tryFrom (fromDer : X509) (apdu : ApduResponse) :
    Except IoError Ctap1RegisterResponse := do
  let data ← apdu.successData
  -- the reserved byte
  let (publicKey, rest) ← readExact 65 (data.drop 1)
  let (keyHandleLen, rest) ← readExact 1 rest
  let (keyHandle, remaining) ← readExact (beDecode keyHandleLen) rest
  match fromDer remaining with
  | none => .error ⟨.invalidData, "Failed to parse X509 attestation data"⟩
  | some signature =>
      if remaining.length < signature.length then
        .error ⟨.invalidData, "Signature longer than remaining U2F register response data"⟩
      else
        .ok ⟨.u2fV2, publicKey, keyHandle,
          remaining.take (remaining.length - signature.length), signature⟩

/-! ## §3. Signing. -/

structure Ctap1SignRequest where
  appIdHash : Bytes
  challenge : Bytes
  keyHandle : Bytes
  requireUserPresence : Bool
  deriving Repr, DecidableEq

/-- The request that only tests for a key handle. -/
def Ctap1SignRequest.newPreflight (appIdHash challenge keyHandle : Bytes) : Ctap1SignRequest :=
  ⟨appIdHash, challenge, keyHandle, false⟩

structure Ctap1SignResponse where
  userPresenceVerified : Bool
  counter : Nat
  signature : Bytes
  deriving Repr, DecidableEq

def Ctap1SignResponse.tryFrom (apdu : ApduResponse) : Except IoError Ctap1SignResponse := do
  let data ← apdu.successData
  let (userPresence, rest) ← readExact 1 data
  let (counter, signature) ← readExact 4 rest
  .ok ⟨userPresence == [0x01], beDecode counter, signature⟩

/-- `Preflight for Ctap1RegisterRequest`: the registration without its list,
and a check request for every key on it. -/
def Ctap1RegisterRequest.preflight (self : Ctap1RegisterRequest) :
    Ctap1RegisterRequest × List Ctap1SignRequest :=
  ({ self with registeredKeys := [] },
    self.registeredKeys.map fun registeredKey =>
      .newPreflight self.appIdHash (List.replicate 32 0) registeredKey.keyHandle)

/-! ## §4. APDUs. -/

abbrev APDU_SHORT_LE : Nat := 0x100
abbrev APDU_EXTENDED_MAX_LE : Nat := 0x10000
def U2F_REGISTER : UInt8 := 0x01
def U2F_AUTHENTICATE : UInt8 := 0x02
def U2F_VERSION : UInt8 := 0x03
def CONTROL_BYTE_ENFORCE_UP_AND_SIGN : UInt8 := 0x03
def CONTROL_BYTE_DONT_ENFORCE_UP_AND_SIGN : UInt8 := 0x08

def Ctap1RegisterRequest.toApdu (request : Ctap1RegisterRequest) : ApduRequest where
  ins := U2F_REGISTER
  p1 := CONTROL_BYTE_ENFORCE_UP_AND_SIGN
  p2 := 0x00
  data := some (request.challenge ++ request.appIdHash)
  responseMaxLength := some APDU_EXTENDED_MAX_LE

/-- The length of the key handle is cast to a byte. -/
def Ctap1SignRequest.toApdu (request : Ctap1SignRequest) : ApduRequest where
  ins := U2F_AUTHENTICATE
  p1 := if request.requireUserPresence then CONTROL_BYTE_ENFORCE_UP_AND_SIGN
    else CONTROL_BYTE_DONT_ENFORCE_UP_AND_SIGN
  p2 := 0x00
  data := some (request.challenge ++ request.appIdHash
    ++ UInt8.ofNat request.keyHandle.length :: request.keyHandle)
  responseMaxLength := some APDU_SHORT_LE

def versionApdu : ApduRequest where
  ins := U2F_VERSION
  p1 := 0x00
  p2 := 0x00
  data := none
  responseMaxLength := some APDU_SHORT_LE

def Ctap1Version.tryFrom (apdu : ApduResponse) : Except IoError Ctap1Version := do
  let data ← apdu.successData
  match String.fromUTF8? ⟨data.toArray⟩ with
  | none => .error ⟨.invalidInput, "Invalid UTF-8 bytes in CTAP1 version string"⟩
  | some versionString =>
      if versionString = "U2F_V2" then .ok .u2fV2
      else .error ⟨.invalidInput, "Invalid CTAP1 version string: " ++ versionString⟩

end Libwebauthn
