/-
  Libwebauthn.Ctap2.ClientPin — the authenticatorClientPIN command
  (`src/proto/ctap2/model/client_pin.rs`).

  A permission set is the list of its bits, kept as a structure of flags so
  that `contains` and `intersects` are the subset tests they stand for; the
  number on the wire is `bits`.
-/
import Libwebauthn.Lib.Cbor

namespace Libwebauthn

inductive Ctap2PinUvAuthProtocol where
  | one
  | two
  deriving Repr, DecidableEq

def Ctap2PinUvAuthProtocol.toNat : Ctap2PinUvAuthProtocol → Nat
  | .one => 1
  | .two => 2

inductive Ctap2PinUvAuthProtocolCommand where
  | getPinRetries
  | getKeyAgreement
  | setPin
  | changePin
  | getPinToken
  | getPinUvAuthTokenUsingUvWithPermissions
  | getUvRetries
  | getPinUvAuthTokenUsingPinWithPermissions
  deriving Repr, DecidableEq

namespace Ctap2PinUvAuthProtocolCommand

/-- The commands that ask for a pinUvAuthToken. -/
def mintsToken : Ctap2PinUvAuthProtocolCommand → Bool
  | .getPinToken => true
  | .getPinUvAuthTokenUsingUvWithPermissions => true
  | .getPinUvAuthTokenUsingPinWithPermissions => true
  | _ => false

end Ctap2PinUvAuthProtocolCommand

/-- `Ctap2AuthTokenPermissionRole`, one flag a bit. -/
structure Ctap2AuthTokenPermissionRole where
  makeCredential : Bool := false
  getAssertion : Bool := false
  credentialManagement : Bool := false
  bioEnrollment : Bool := false
  largeBlobWrite : Bool := false
  authenticatorConfiguration : Bool := false
  persistentCredentialManagementReadOnly : Bool := false
  deriving Repr, DecidableEq

namespace Ctap2AuthTokenPermissionRole

variable (self other : Ctap2AuthTokenPermissionRole)

def flags : List Bool :=
  [self.makeCredential, self.getAssertion, self.credentialManagement, self.bioEnrollment,
    self.largeBlobWrite, self.authenticatorConfiguration,
    self.persistentCredentialManagementReadOnly]

/-- `MAKE_CREDENTIAL = 0x01` up to `PERSISTENT_… = 0x40`. -/
def bits : Nat :=
  self.makeCredential.toNat * 0x01 + self.getAssertion.toNat * 0x02
    + self.credentialManagement.toNat * 0x04 + self.bioEnrollment.toNat * 0x08
    + self.largeBlobWrite.toNat * 0x10 + self.authenticatorConfiguration.toNat * 0x20
    + self.persistentCredentialManagementReadOnly.toNat * 0x40

def contains : Bool := (self.flags.zip other.flags).all fun (mine, theirs) => mine || !theirs

def intersects : Bool := (self.flags.zip other.flags).any fun (mine, theirs) => mine && theirs

end Ctap2AuthTokenPermissionRole

/-- A COSE public key, as `cosey` parses it. -/
inductive PublicKey where
  | ecdhEsHkdf256Key (x y : Bytes)
  | p256Key (x y : Bytes)
  | ed25519Key (x : Bytes)
  | totpKey
  deriving Repr, DecidableEq

/-- The COSE_Key map of a public key. -/
def PublicKey.toCbor : PublicKey → Cbor
  | .ecdhEsHkdf256Key x y =>
      .map [(.uint 1, .uint 2), (.uint 3, .int (-25)), (.int (-1), .uint 1),
        (.int (-2), .bytes x), (.int (-3), .bytes y)]
  | .p256Key x y =>
      .map [(.uint 1, .uint 2), (.uint 3, .int (-7)), (.int (-1), .uint 1),
        (.int (-2), .bytes x), (.int (-3), .bytes y)]
  | .ed25519Key x =>
      .map [(.uint 1, .uint 1), (.uint 3, .int (-8)), (.int (-1), .uint 6), (.int (-2), .bytes x)]
  | .totpKey => .map [(.uint 1, .uint 4), (.uint 3, .int (-9))]

structure Ctap2ClientPinRequest where
  protocol : Option Ctap2PinUvAuthProtocol
  command : Ctap2PinUvAuthProtocolCommand
  keyAgreement : Option PublicKey := none
  uvAuthParam : Option Bytes := none
  newPinEncrypted : Option Bytes := none
  pinHashEncrypted : Option Bytes := none
  permissions : Option Nat := none
  permissionsRpid : Option String := none
  deriving Repr, DecidableEq

namespace Ctap2ClientPinRequest

def newGetKeyAgreement (protocol : Ctap2PinUvAuthProtocol) : Ctap2ClientPinRequest :=
  { protocol := some protocol, command := .getKeyAgreement }

def newGetPinToken (protocol : Ctap2PinUvAuthProtocol) (publicKey : PublicKey)
    (pinHashEnc : Bytes) : Ctap2ClientPinRequest :=
  { protocol := some protocol, command := .getPinToken, keyAgreement := some publicKey,
    pinHashEncrypted := some pinHashEnc }

def newGetPinRetries (pinProto : Option Ctap2PinUvAuthProtocol) : Ctap2ClientPinRequest :=
  { protocol := pinProto, command := .getPinRetries }

def newGetPinTokenWithPerm (protocol : Ctap2PinUvAuthProtocol) (publicKey : PublicKey)
    (pinHashEnc : Bytes) (permissions : Ctap2AuthTokenPermissionRole)
    (permissionsRpid : Option String) : Ctap2ClientPinRequest :=
  { protocol := some protocol, command := .getPinUvAuthTokenUsingPinWithPermissions,
    keyAgreement := some publicKey, pinHashEncrypted := some pinHashEnc,
    permissions := some permissions.bits, permissionsRpid := permissionsRpid }

def newGetUvTokenWithPerm (protocol : Ctap2PinUvAuthProtocol) (publicKey : PublicKey)
    (permissions : Ctap2AuthTokenPermissionRole) (permissionsRpid : Option String) :
    Ctap2ClientPinRequest :=
  { protocol := some protocol, command := .getPinUvAuthTokenUsingUvWithPermissions,
    keyAgreement := some publicKey, permissions := some permissions.bits,
    permissionsRpid := permissionsRpid }

def newGetUvRetries : Ctap2ClientPinRequest := { protocol := none, command := .getUvRetries }

def newChangePin (protocol : Ctap2PinUvAuthProtocol) (newPinEnc currPinEnc : Bytes)
    (publicKey : PublicKey) (uvAuthParam : Bytes) : Ctap2ClientPinRequest :=
  { protocol := some protocol, command := .changePin, keyAgreement := some publicKey,
    uvAuthParam := some uvAuthParam, newPinEncrypted := some newPinEnc,
    pinHashEncrypted := some currPinEnc }

def newSetPin (protocol : Ctap2PinUvAuthProtocol) (newPinEnc : Bytes) (publicKey : PublicKey)
    (uvAuthParam : Bytes) : Ctap2ClientPinRequest :=
  { protocol := some protocol, command := .setPin, keyAgreement := some publicKey,
    uvAuthParam := some uvAuthParam, newPinEncrypted := some newPinEnc }

/-- The requests that only read: retry counters, and the device's key. -/
inductive IsQuery : Ctap2ClientPinRequest → Prop where
  | keyAgreement (protocol : Ctap2PinUvAuthProtocol) : IsQuery (newGetKeyAgreement protocol)
  | pinRetries (protocol : Option Ctap2PinUvAuthProtocol) : IsQuery (newGetPinRetries protocol)
  | uvRetries : IsQuery newGetUvRetries

end Ctap2ClientPinRequest

structure Ctap2ClientPinResponse where
  keyAgreement : Option PublicKey := none
  pinUvAuthToken : Option Bytes := none
  pinRetries : Option Nat := none
  uvRetries : Option Nat := none
  deriving Repr, DecidableEq

end Libwebauthn
