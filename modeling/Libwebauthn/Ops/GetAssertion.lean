/-
  Libwebauthn.Ops.GetAssertion — the getAssertion operation as the caller
  states it, and the assertions it gets back
  (`src/ops/webauthn/get_assertion.rs`).

  Left out: hints and timeout, the transport stamped on the result, and the
  JSON rendering of unsigned extension outputs.
-/
import Libwebauthn.Ctap2.Model
import Libwebauthn.Ops.ClientData

namespace Libwebauthn

structure PrfInputValue where
  first : Bytes
  second : Option Bytes
  deriving Repr, DecidableEq

structure PrfOutputValue where
  first : Bytes
  second : Option Bytes
  deriving Repr, DecidableEq

structure HMACGetSecretInput where
  salt1 : Bytes
  salt2 : Option Bytes
  deriving Repr, DecidableEq

structure HMACGetSecretOutput where
  output1 : Bytes
  output2 : Option Bytes
  deriving Repr, DecidableEq

/-- The salts of a PRF input: each value hashed under the prefix
`WebAuthn PRF` and a zero byte. -/
def PrfInputValue.toHmacSecretInput (crypto : Crypto) (self : PrfInputValue) :
    HMACGetSecretInput :=
  let hash := fun slice : Bytes => crypto.sha256 (utf8 "WebAuthn PRF" ++ [0] ++ slice)
  ⟨hash self.first, self.second.map hash⟩

/-- `evalByCredential` is a hash map: a list of its entries in the order an
iteration meets them. -/
structure PrfInput where
  eval : Option PrfInputValue
  evalByCredential : List (String × PrfInputValue)
  deriving Repr, DecidableEq

inductive GetAssertionHmacOrPrfInput where
  | hmacGetSecret (input : HMACGetSecretInput)
  | prf (input : PrfInput)
  deriving Repr, DecidableEq

inductive GetAssertionLargeBlobExtension where
  | read
  | write (blob : Bytes)
  | delete
  deriving Repr, DecidableEq

structure GetAssertionRequestExtensions where
  credBlob : Bool
  prf : Option PrfInput
  largeBlob : Option GetAssertionLargeBlobExtension
  appid : Option String
  deriving Repr, DecidableEq

structure GetAssertionRequest where
  relyingPartyId : String
  challenge : Bytes
  origin : String
  topOrigin : Option String
  allow : List Ctap2PublicKeyCredentialDescriptor
  extensions : Option GetAssertionRequestExtensions
  userVerification : UserVerificationRequirement
  deriving Repr, DecidableEq

def GetAssertionRequest.clientDataHash (crypto : Crypto) (self : GetAssertionRequest) : Bytes :=
  ClientData.hash crypto ⟨.getAssertion, self.challenge, self.origin, self.topOrigin⟩

structure Ctap2HMACGetSecretOutput where
  encryptedOutput : Bytes
  deriving Repr, DecidableEq

/-- One output of 32 bytes or two; anything else is dropped. -/
def Ctap2HMACGetSecretOutput.decryptOutput (crypto : Crypto) (self : Ctap2HMACGetSecretOutput)
    (sharedSecret : Bytes) (uvProto : Ctap2PinUvAuthProtocol) : Option HMACGetSecretOutput :=
  match uvProto.decrypt crypto sharedSecret self.encryptedOutput with
  | .error _ => none
  | .ok output =>
      if output.length = 32 then some ⟨output, none⟩
      else if output.length = 64 then some ⟨output.take 32, some (output.drop 32)⟩
      else none

structure GetAssertionLargeBlobExtensionOutput where
  blob : Option Bytes
  written : Option Bool
  deriving Repr, DecidableEq

structure GetAssertionPrfOutput where
  results : Option PrfOutputValue
  deriving Repr, DecidableEq

structure GetAssertionResponseUnsignedExtensions where
  largeBlob : Option GetAssertionLargeBlobExtensionOutput := none
  prf : Option GetAssertionPrfOutput := none
  appid : Option Bool := none
  deriving Repr, DecidableEq

structure AttestedCredentialData where
  aaguid : Bytes
  credentialId : Bytes
  credentialPublicKey : Bytes
  deriving Repr, DecidableEq

/-- `From<&AttestedCredentialData>` of a descriptor. -/
def AttestedCredentialData.descriptor (self : AttestedCredentialData) :
    Ctap2PublicKeyCredentialDescriptor :=
  ⟨self.credentialId, .publicKey, none⟩

/-- `flags` is the byte of the authenticator data. -/
structure AuthenticatorData (X : Type) where
  rpIdHash : Bytes
  flags : UInt8
  signatureCount : Nat
  attestedCredential : Option AttestedCredentialData
  extensions : Option X
  raw : Option Bytes
  deriving Repr, DecidableEq

structure Ctap2GetAssertionResponseExtensions where
  credBlob : Option Bytes
  hmacSecret : Option Ctap2HMACGetSecretOutput
  deriving Repr, DecidableEq

structure Assertion where
  credentialId : Option Ctap2PublicKeyCredentialDescriptor
  authenticatorData : AuthenticatorData Ctap2GetAssertionResponseExtensions
  signature : Bytes
  user : Option Ctap2PublicKeyCredentialUserEntity
  credentialsCount : Option Nat
  userSelected : Option Bool
  unsignedExtensionsOutput : Option GetAssertionResponseUnsignedExtensions
  deriving Repr, DecidableEq

end Libwebauthn
