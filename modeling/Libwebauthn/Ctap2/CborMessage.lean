/-
  Libwebauthn.Ctap2.CborMessage — CTAP2 requests and responses as the
  transports carry them (`src/proto/ctap2/cbor/{request,response}.rs`).
-/
import Libwebauthn.Transport.IoError
import Libwebauthn.Webauthn.Error

namespace Libwebauthn

/-! ## §1. Requests. -/

inductive Ctap2CommandCode where
  | authenticatorMakeCredential
  | authenticatorGetAssertion
  | authenticatorGetInfo
  | authenticatorClientPin
  | authenticatorReset
  | authenticatorGetNextAssertion
  | authenticatorBioEnrollment
  | authenticatorBioEnrollmentPreview
  | authenticatorCredentialManagement
  | authenticatorCredentialManagementPreview
  | authenticatorSelection
  | authenticatorLargeBlobs
  | authenticatorConfig
  deriving Repr, DecidableEq

/-- `self.command as u8`. -/
def Ctap2CommandCode.toU8 : Ctap2CommandCode → UInt8
  | .authenticatorMakeCredential => 0x01
  | .authenticatorGetAssertion => 0x02
  | .authenticatorGetInfo => 0x04
  | .authenticatorClientPin => 0x06
  | .authenticatorReset => 0x07
  | .authenticatorGetNextAssertion => 0x08
  | .authenticatorBioEnrollment => 0x09
  | .authenticatorBioEnrollmentPreview => 0x40
  | .authenticatorCredentialManagement => 0x0A
  | .authenticatorCredentialManagementPreview => 0x41
  | .authenticatorSelection => 0x0B
  | .authenticatorLargeBlobs => 0x0C
  | .authenticatorConfig => 0x0D

structure CborRequest where
  command : Ctap2CommandCode
  encodedData : Bytes
  deriving Repr, DecidableEq

namespace CborRequest

def ctapHidData (self : CborRequest) : Bytes := self.command.toU8 :: self.encodedData

/-- The same bytes; the source never fails here. -/
def rawLong (self : CborRequest) : Bytes := self.command.toU8 :: self.encodedData

end CborRequest

/-! ## §2. Responses. -/

/-- `From<u8>`. -/
def CtapError.fromU8 (byte : UInt8) : CtapError :=
  match byte.toNat with
  | 0x00 => .ok
  | 0x01 => .invalidCommand
  | 0x02 => .invalidParameter
  | 0x03 => .invalidLength
  | 0x04 => .invalidSeq
  | 0x05 => .timeout
  | 0x06 => .channelBusy
  | 0x0A => .lockRequired
  | 0x0B => .invalidChannel
  | 0x11 => .invalidCborType
  | 0x12 => .invalidCbor
  | 0x14 => .missingParameter
  | 0x15 => .limitExceeded
  | 0x16 => .unsupportedExtension
  | 0x17 => .fpDatabaseFull
  | 0x18 => .largeBlobStorageFull
  | 0x19 => .credentialExcluded
  | 0x21 => .processing
  | 0x22 => .invalidCredential
  | 0x23 => .userActionPending
  | 0x24 => .operationPending
  | 0x25 => .noOperations
  | 0x26 => .unsupportedAlgorithm
  | 0x27 => .operationDenied
  | 0x28 => .keyStoreFull
  | 0x2A => .noOperationPending
  | 0x2B => .unsupportedOption
  | 0x2C => .invalidOption
  | 0x2D => .keepAliveCancel
  | 0x2E => .noCredentials
  | 0x2F => .userActionTimeout
  | 0x30 => .notAllowed
  | 0x31 => .pinInvalid
  | 0x32 => .pinBlocked
  | 0x33 => .pinAuthInvalid
  | 0x34 => .pinAuthBlocked
  | 0x35 => .pinNotSet
  | 0x36 => .pinRequired
  | 0x37 => .pinPolicyViolation
  | 0x38 => .pinTokenExpired
  | 0x39 => .requestTooLarge
  | 0x3A => .actionTimeout
  | 0x3B => .userPresenceRequired
  | 0x3C => .uvBlocked
  | 0x3D => .integrityFailure
  | 0x3E => .invalidSubcommand
  | 0x3F => .uvInvalid
  | 0x40 => .unauthorizedPermission
  | 0x7F => .other
  | _ => .unknown byte

structure CborResponse where
  statusCode : CtapError
  data : Option Bytes
  deriving Repr, DecidableEq

namespace CborResponse

def newSuccessFromSlice (slice : Bytes) : CborResponse :=
  ⟨.ok, if slice = [] then none else some slice⟩

def tryFrom (packet : Bytes) : Except Transport.IoError CborResponse :=
  match packet with
  | [] => .error ⟨.invalidData, "Cbor response packets must contain at least 1 byte."⟩
  | statusByte :: body =>
      .ok ⟨.fromU8 statusByte, if body = [] then none else some body⟩

end CborResponse

end Libwebauthn
