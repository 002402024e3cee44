/-
  Libwebauthn.Ctap2.Management — the requests that manage an authenticator:
  credential management, bio enrollment and configuration
  (`src/proto/ctap2/model/{credential_management,bio_enrollment,
  authenticator_config}.rs`, with the user verification hooks of
  `src/management/`).

  The three hooks sign a sub-command and its parameters, and do not touch
  the options of the request.
-/
import Libwebauthn.Ctap2.UserVerifiable

namespace Libwebauthn

/-! ## §1. Credential management. -/

inductive Ctap2CredentialManagementSubcommand where
  | getCredsMetadata
  | enumerateRPsBegin
  | enumerateRPsGetNextRP
  | enumerateCredentialsBegin
  | enumerateCredentialsGetNextCredential
  | deleteCredential
  | updateUserInformation
  deriving Repr, DecidableEq

namespace Ctap2CredentialManagementSubcommand

def code : Ctap2CredentialManagementSubcommand → UInt8
  | .getCredsMetadata => 0x01
  | .enumerateRPsBegin => 0x02
  | .enumerateRPsGetNextRP => 0x03
  | .enumerateCredentialsBegin => 0x04
  | .enumerateCredentialsGetNextCredential => 0x05
  | .deleteCredential => 0x06
  | .updateUserInformation => 0x07

def isReadOnly : Ctap2CredentialManagementSubcommand → Bool
  | .getCredsMetadata | .enumerateRPsBegin | .enumerateRPsGetNextRP
  | .enumerateCredentialsBegin | .enumerateCredentialsGetNextCredential => true
  | .deleteCredential | .updateUserInformation => false

end Ctap2CredentialManagementSubcommand

structure Ctap2CredentialManagementParams where
  rpidHash : Option Bytes
  credentialId : Option Ctap2PublicKeyCredentialDescriptor
  user : Option Ctap2PublicKeyCredentialUserEntity
  deriving Repr, DecidableEq

def Ctap2CredentialManagementParams.toCbor (self : Ctap2CredentialManagementParams) : Cbor :=
  .map (Cbor.entry? (.uint 1) (self.rpidHash.map .bytes)
    ++ Cbor.entry? (.uint 2) (self.credentialId.map Ctap2PublicKeyCredentialDescriptor.toCbor)
    ++ Cbor.entry? (.uint 3) (self.user.map Ctap2PublicKeyCredentialUserEntity.toCbor))

structure Ctap2CredentialManagementRequest where
  subcommand : Option Ctap2CredentialManagementSubcommand
  subcommandParams : Option Ctap2CredentialManagementParams
  protocol : Option Ctap2PinUvAuthProtocol
  uvAuthParam : Option Bytes
  useLegacyPreview : Bool
  usePersistentToken : Bool
  persistentTokenRejected : Bool
  deriving Repr, DecidableEq

instance : Ctap2UserVerifiableRequest Ctap2CredentialManagementRequest where
  ensureUvSet self := self
  calculateAndSetUvAuth crypto self uvProto uvAuthToken :=
    match self.subcommand with
    | none => .error .invalidDeviceResponse
    | some subcommand => do
        let params := (self.subcommandParams.map fun params => params.toCbor.encode).getD []
        let uvAuthParam ←
          uvProto.authenticate crypto uvAuthToken (subcommand.code :: params)
        pure { self with protocol := some uvProto, uvAuthParam := some uvAuthParam }
  permissions self :=
    if self.usePersistentToken then { persistentCredentialManagementReadOnly := true }
    else { credentialManagement := true }
  permissionsRpid _ := none
  canUseUv _ _ := true
  handleLegacyPreview self info :=
    if !info.optionEnabled "credMgmt" && info.optionEnabled "credentialMgmtPreview" then
      { self with useLegacyPreview := true }
    else self
  needsSharedSecret _ _ := false
  setPersistentTokenUse self info storeAvailable :=
    { self with
      usePersistentToken := storeAvailable
        && info.supportsPersistentCredentialManagementReadOnly
        && (self.subcommand.map (·.isReadOnly)).getD false }
  wantsPersistentToken self := self.usePersistentToken
  notePersistentTokenRejected self := { self with persistentTokenRejected := true }
  persistentTokenRejected self := self.persistentTokenRejected

/-! ## §2. Bio enrollment. -/

inductive Ctap2BioEnrollmentSubcommand where
  | enrollBegin
  | enrollCaptureNextSample
  | cancelCurrentEnrollment
  | enumerateEnrollments
  | setFriendlyName
  | removeEnrollment
  | getFingerprintSensorInfo
  deriving Repr, DecidableEq

def Ctap2BioEnrollmentSubcommand.code : Ctap2BioEnrollmentSubcommand → UInt8
  | .enrollBegin => 0x01
  | .enrollCaptureNextSample => 0x02
  | .cancelCurrentEnrollment => 0x03
  | .enumerateEnrollments => 0x04
  | .setFriendlyName => 0x05
  | .removeEnrollment => 0x06
  | .getFingerprintSensorInfo => 0x07

/-- `Ctap2BioEnrollmentModality::Fingerprint`. -/
def FINGERPRINT : UInt8 := 0x01

structure Ctap2BioEnrollmentParams where
  templateId : Option Bytes
  templateFriendlyName : Option String
  timeoutMilliseconds : Option Nat
  deriving Repr, DecidableEq

def Ctap2BioEnrollmentParams.toCbor (self : Ctap2BioEnrollmentParams) : Cbor :=
  .map (Cbor.entry? (.uint 1) (self.templateId.map .bytes)
    ++ Cbor.entry? (.uint 2) (self.templateFriendlyName.map .text)
    ++ Cbor.entry? (.uint 3) (self.timeoutMilliseconds.map .uint))

/-- `modality` is present or not; fingerprint is the only one. -/
structure Ctap2BioEnrollmentRequest where
  modality : Bool
  subcommand : Option Ctap2BioEnrollmentSubcommand
  subcommandParams : Option Ctap2BioEnrollmentParams
  protocol : Option Ctap2PinUvAuthProtocol
  uvAuthParam : Option Bytes
  getModality : Option Bool
  useLegacyPreview : Bool
  deriving Repr, DecidableEq

instance : Ctap2UserVerifiableRequest Ctap2BioEnrollmentRequest where
  ensureUvSet self := self
  calculateAndSetUvAuth crypto self uvProto uvAuthToken :=
    match self.subcommand with
    | none => .error .invalidDeviceResponse
    | some subcommand => do
        let params := (self.subcommandParams.map fun params => params.toCbor.encode).getD []
        let uvAuthParam ←
          uvProto.authenticate crypto uvAuthToken (FINGERPRINT :: subcommand.code :: params)
        pure { self with protocol := some uvProto, uvAuthParam := some uvAuthParam }
  permissions _ := { bioEnrollment := true }
  permissionsRpid _ := none
  canUseUv _ info := info.optionEnabled "uvBioEnroll"
  handleLegacyPreview self info :=
    if !info.optionEnabled "bioEnroll" && info.optionEnabled "userVerificationMgmtPreview" then
      { self with useLegacyPreview := true }
    else self
  needsSharedSecret _ _ := false

/-! ## §3. Authenticator configuration. -/

inductive Ctap2AuthenticatorConfigCommand where
  | enableEnterpriseAttestation
  | toggleAlwaysUv
  | setMinPINLength
  | vendorPrototype
  deriving Repr, DecidableEq

def Ctap2AuthenticatorConfigCommand.code : Ctap2AuthenticatorConfigCommand → UInt8
  | .enableEnterpriseAttestation => 0x01
  | .toggleAlwaysUv => 0x02
  | .setMinPINLength => 0x03
  | .vendorPrototype => 0xFF

structure Ctap2SetMinPINLengthParams where
  newMinPinLength : Option Nat
  minPinLengthRpids : Option (List String)
  forceChangePin : Option Bool
  deriving Repr, DecidableEq

def Ctap2SetMinPINLengthParams.toCbor (self : Ctap2SetMinPINLengthParams) : Cbor :=
  .map (Cbor.entry? (.uint 1) (self.newMinPinLength.map .uint)
    ++ Cbor.entry? (.uint 2) (self.minPinLengthRpids.map fun rpids => .array (rpids.map .text))
    ++ Cbor.entry? (.uint 3) (self.forceChangePin.map .bool))

/-- Both variants of `Ctap2AuthenticatorConfigParams` are written alike. -/
structure Ctap2AuthenticatorConfigRequest where
  subcommand : Ctap2AuthenticatorConfigCommand
  subcommandParams : Option Ctap2SetMinPINLengthParams
  protocol : Option Ctap2PinUvAuthProtocol
  uvAuthParam : Option Bytes
  deriving Repr, DecidableEq

namespace Ctap2AuthenticatorConfigRequest

def newToggleAlwaysUv : Ctap2AuthenticatorConfigRequest := ⟨.toggleAlwaysUv, none, none, none⟩

/-- The signed message: 32 times 0xff, the command byte, the sub-command and
its parameters. -/
def signedData (self : Ctap2AuthenticatorConfigRequest) : Bytes :=
  List.replicate 32 0xFF ++ [0x0D, self.subcommand.code]
    ++ (if self.subcommand = .setMinPINLength then
          ((self.subcommandParams.map Ctap2SetMinPINLengthParams.toCbor).getD .null).encode
        else [])

instance : Ctap2UserVerifiableRequest Ctap2AuthenticatorConfigRequest where
  ensureUvSet self := self
  calculateAndSetUvAuth crypto self uvProto uvAuthToken := do
    let uvAuthParam ← uvProto.authenticate crypto uvAuthToken self.signedData
    pure { self with protocol := some uvProto, uvAuthParam := some uvAuthParam }
  permissions _ := { authenticatorConfiguration := true }
  permissionsRpid _ := none
  canUseUv _ info := info.optionEnabled "uvAcfg"
  needsSharedSecret _ _ := false

end Ctap2AuthenticatorConfigRequest

end Libwebauthn
