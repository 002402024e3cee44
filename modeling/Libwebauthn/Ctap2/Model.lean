/-
  Libwebauthn.Ctap2.Model — the WebAuthn entities CTAP2 requests carry
  (`src/proto/ctap2/model.rs`), and how they are written as CBOR.
-/
import Libwebauthn.Lib.Cbor

namespace Libwebauthn

structure Ctap2PublicKeyCredentialRpEntity where
  id : String
  name : Option String
  deriving Repr, DecidableEq

namespace Ctap2PublicKeyCredentialRpEntity

def dummy : Ctap2PublicKeyCredentialRpEntity := ⟨".dummy", some ".dummy"⟩

def toCbor (self : Ctap2PublicKeyCredentialRpEntity) : Cbor :=
  .map ((.text "id", .text self.id) :: Cbor.entry? (.text "name") (self.name.map .text))

end Ctap2PublicKeyCredentialRpEntity

structure Ctap2PublicKeyCredentialUserEntity where
  id : Bytes
  name : Option String
  displayName : Option String
  deriving Repr, DecidableEq

namespace Ctap2PublicKeyCredentialUserEntity

def dummy : Ctap2PublicKeyCredentialUserEntity := ⟨[1], some "dummy", none⟩

def toCbor (self : Ctap2PublicKeyCredentialUserEntity) : Cbor :=
  .map ((.text "id", .bytes self.id)
    :: (Cbor.entry? (.text "name") (self.name.map .text)
      ++ Cbor.entry? (.text "displayName") (self.displayName.map .text)))

end Ctap2PublicKeyCredentialUserEntity

inductive Ctap2PublicKeyCredentialType where
  | publicKey
  | unknown
  deriving Repr, DecidableEq

/-- Serde writes the variant name of `Unknown` as it stands. -/
def Ctap2PublicKeyCredentialType.toCbor : Ctap2PublicKeyCredentialType → Cbor
  | .publicKey => .text "public-key"
  | .unknown => .text "Unknown"

inductive Ctap2Transport where
  | ble
  | nfc
  | usb
  | internal
  | hybrid
  | smartCard
  | other (value : String)
  deriving Repr, DecidableEq

structure Ctap2PublicKeyCredentialDescriptor where
  id : Bytes
  type : Ctap2PublicKeyCredentialType
  transports : Option (List Ctap2Transport)
  deriving Repr, DecidableEq

/-- Only `id` and `type` go on the wire. -/
def Ctap2PublicKeyCredentialDescriptor.toCbor (self : Ctap2PublicKeyCredentialDescriptor) : Cbor :=
  .map [(.text "id", .bytes self.id), (.text "type", self.type.toCbor)]

/-- `algorithm` is a COSE algorithm identifier. -/
structure Ctap2CredentialType where
  algorithm : Int
  publicKeyType : Ctap2PublicKeyCredentialType
  deriving Repr, DecidableEq

namespace Ctap2CredentialType

/-- ES256. -/
def default : Ctap2CredentialType := ⟨-7, .publicKey⟩

def toCbor (self : Ctap2CredentialType) : Cbor :=
  .map [(.text "alg", .int self.algorithm), (.text "type", self.publicKeyType.toCbor)]

end Ctap2CredentialType

inductive Ctap2UserVerificationOperation where
  | getPinUvAuthTokenUsingUvWithPermissions
  | getPinUvAuthTokenUsingPinWithPermissions
  | getPinToken
  | onlyForSharedSecret
  | legacyUv
  deriving Repr, DecidableEq

namespace Ctap2UserVerificationOperation

/-- The operations that end with a pinUvAuthToken. -/
def mintsToken : Ctap2UserVerificationOperation → Bool
  | .getPinUvAuthTokenUsingUvWithPermissions => true
  | .getPinUvAuthTokenUsingPinWithPermissions => true
  | .getPinToken => true
  | .onlyForSharedSecret => false
  | .legacyUv => false

/-- The operations that ask the user for a PIN. -/
def usesPin : Ctap2UserVerificationOperation → Bool
  | .getPinUvAuthTokenUsingPinWithPermissions => true
  | .getPinToken => true
  | _ => false

end Ctap2UserVerificationOperation

inductive UserVerificationRequirement where
  | required
  | discouraged
  | preferred
  deriving Repr, DecidableEq

namespace UserVerificationRequirement

def isDiscouraged : UserVerificationRequirement → Bool
  | .required | .preferred => false
  | .discouraged => true

/-- Preferred or required. -/
def isPreferred : UserVerificationRequirement → Bool
  | .required | .preferred => true
  | .discouraged => false

def isRequired : UserVerificationRequirement → Bool
  | .required => true
  | .preferred | .discouraged => false

end UserVerificationRequirement

end Libwebauthn
