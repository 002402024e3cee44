/-
  Libwebauthn.Ops.MakeCredential — the makeCredential operation as the
  caller states it (`src/ops/webauthn/make_credential.rs`).

  Left out: hints, attachment, attestation preference and timeout, which no
  CTAP request depends on.
-/
import Libwebauthn.Ops.GetAssertion

namespace Libwebauthn

inductive ResidentKeyRequirement where
  | required
  | preferred
  | discouraged
  deriving Repr, DecidableEq

inductive CredentialProtectionPolicy where
  | userVerificationOptional
  | userVerificationOptionalWithCredentialIDList
  | userVerificationRequired
  deriving Repr, DecidableEq

/-- The protection level on the wire. -/
def CredentialProtectionPolicy.level : CredentialProtectionPolicy → Nat
  | .userVerificationOptional => 1
  | .userVerificationOptionalWithCredentialIDList => 2
  | .userVerificationRequired => 3

structure CredentialProtectionExtension where
  policy : CredentialProtectionPolicy
  enforcePolicy : Bool
  deriving Repr, DecidableEq

inductive MakeCredentialLargeBlobExtension where
  | preferred
  | required
  | none
  deriving Repr, DecidableEq

structure MakeCredentialPrfInput where
  eval : Option PrfInputValue
  deriving Repr, DecidableEq

structure MakeCredentialsRequestExtensions where
  appidExclude : Option String
  credProps : Option Bool
  credProtect : Option CredentialProtectionExtension
  credBlob : Option Bytes
  largeBlob : Option MakeCredentialLargeBlobExtension
  minPinLength : Option Bool
  hmacCreateSecret : Option Bool
  prf : Option MakeCredentialPrfInput
  deriving Repr, DecidableEq

structure MakeCredentialRequest where
  challenge : Bytes
  origin : String
  topOrigin : Option String
  relyingParty : Ctap2PublicKeyCredentialRpEntity
  user : Ctap2PublicKeyCredentialUserEntity
  residentKey : Option ResidentKeyRequirement
  userVerification : UserVerificationRequirement
  algorithms : List Ctap2CredentialType
  exclude : Option (List Ctap2PublicKeyCredentialDescriptor)
  extensions : Option MakeCredentialsRequestExtensions
  deriving Repr, DecidableEq

def MakeCredentialRequest.clientDataHash (crypto : Crypto) (self : MakeCredentialRequest) :
    Bytes :=
  ClientData.hash crypto ⟨.makeCredential, self.challenge, self.origin, self.topOrigin⟩

structure MakeCredentialPrfOutput where
  enabled : Option Bool
  results : Option PrfOutputValue
  deriving Repr, DecidableEq

structure MakeCredentialsResponseUnsignedExtensions where
  appidExclude : Option Bool
  /-- `rk` of the credential properties. -/
  credProps : Option (Option Bool)
  hmacCreateSecret : Option Bool
  /-- `supported`. -/
  largeBlob : Option (Option Bool)
  prf : Option MakeCredentialPrfOutput
  deriving Repr, DecidableEq

structure Ctap2MakeCredentialsResponseExtensions where
  credBlob : Option Bool
  credProtect : Option CredentialProtectionPolicy
  hmacSecret : Option Bool
  hmacSecretMc : Option Ctap2HMACGetSecretOutput
  minPinLength : Option Nat
  deriving Repr, DecidableEq

structure MakeCredentialResponse where
  format : String
  authenticatorData : AuthenticatorData Ctap2MakeCredentialsResponseExtensions
  enterpriseAttestation : Option Bool
  largeBlobKey : Option Bytes
  unsignedExtensionsOutput : MakeCredentialsResponseUnsignedExtensions
  authenticatorTransports : Option (List String)
  deriving Repr, DecidableEq

end Libwebauthn
