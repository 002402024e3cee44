/-
  Libwebauthn.Ctap2.MakeCredential — the authenticatorMakeCredential request
  and its answer (`src/proto/ctap2/model/make_credential.rs`).

    • `fromWebauthnRequest` — the request of an operation;
    • `calculateHmacSecretMc` — the envelope of the PRF input, which is
      taken out of the request when it is used;
    • `intoMakeCredentialOutput` — the result made of an answer.

  Left out: the attestation statement, which is passed on unread.
-/
import Libwebauthn.Ctap2.GetAssertion
import Libwebauthn.Ops.MakeCredential

namespace Libwebauthn

structure Ctap2MakeCredentialOptions where
  requireResidentKey : Option Bool := none
  deprecatedRequireUserVerification : Option Bool := none
  deriving Repr, DecidableEq

namespace Ctap2MakeCredentialOptions

def skipSerializing (self : Ctap2MakeCredentialOptions) : Bool :=
  self.requireResidentKey.isNone && self.deprecatedRequireUserVerification.isNone

def toCbor (self : Ctap2MakeCredentialOptions) : Cbor :=
  .map (Cbor.entry? (.text "rk") (self.requireResidentKey.map .bool)
    ++ Cbor.entry? (.text "uv") (self.deprecatedRequireUserVerification.map .bool))

end Ctap2MakeCredentialOptions

structure Ctap2PrfMakeCredentialInput where
  eval : Option Ctap2PrfSalts
  deriving Repr, DecidableEq

structure Ctap2MakeCredentialsRequestExtensions where
  prf : Option Ctap2PrfMakeCredentialInput := none
  credBlob : Option Bytes := none
  credProtect : Option CredentialProtectionPolicy := none
  hmacSecret : Option Bool := none
  largeBlobKey : Option Bool := none
  minPinLength : Option Bool := none
  hmacSecretMc : Option CalculatedHMACGetSecretInput := none
  prfInput : Option PrfInputValue := none
  deriving Repr, DecidableEq

namespace Ctap2MakeCredentialsRequestExtensions

variable (self : Ctap2MakeCredentialsRequestExtensions)

def skipSerializing : Bool :=
  self.prf.isNone && self.credBlob.isNone && self.credProtect.isNone && self.hmacSecret.isNone
    && self.largeBlobKey.isNone && self.minPinLength.isNone && self.hmacSecretMc.isNone

def toCbor : Cbor :=
  .map (Cbor.entry? (.text "prf") (self.prf.map fun prf =>
      .map (Cbor.entry? (.text "eval") (prf.eval.map Ctap2PrfSalts.toCbor)))
    ++ Cbor.entry? (.text "credBlob") (self.credBlob.map .bytes)
    ++ Cbor.entry? (.text "credProtect") (self.credProtect.map fun policy => .uint policy.level)
    ++ Cbor.entry? (.text "hmac-secret") (self.hmacSecret.map .bool)
    ++ Cbor.entry? (.text "largeBlobKey") (self.largeBlobKey.map .bool)
    ++ Cbor.entry? (.text "minPinLength") (self.minPinLength.map .bool)
    ++ Cbor.entry? (.text "hmac-secret-mc")
      (self.hmacSecretMc.map CalculatedHMACGetSecretInput.toCbor))

/-- A protection policy to enforce takes a device that knows the extension. -/
def checkCredProtect {T : Type} (requestedExtensions : MakeCredentialsRequestExtensions)
    (info : Ctap2GetInfoResponse) : Except (WebAuthnError T) Unit :=
  match requestedExtensions.credProtect with
  | some credProtection =>
      if credProtection.enforcePolicy && credProtection.policy != .userVerificationOptional
          && !info.supportsExtension "credProtect" then
        .error (.ctap .unsupportedExtension)
      else .ok ()
  | none => .ok ()

def requestLargeBlobKey {T : Type} (requestedExtensions : MakeCredentialsRequestExtensions)
    (info : Ctap2GetInfoResponse) : Except (WebAuthnError T) (Option Bool) :=
  match requestedExtensions.largeBlob with
  | some .required =>
      if !info.optionEnabled "largeBlobs" then .error (.ctap .unsupportedExtension)
      else .ok (some true)
  | some .preferred => .ok (if info.optionEnabled "largeBlobs" then some true else none)
  | _ => .ok none

def fromWebauthnRequest {T : Type} (crypto : Crypto)
    (requestedExtensions : MakeCredentialsRequestExtensions) (info : Ctap2GetInfoResponse) :
    Except (WebAuthnError T) Ctap2MakeCredentialsRequestExtensions := do
  checkCredProtect requestedExtensions info
  let largeBlobKey ← requestLargeBlobKey requestedExtensions info
  -- the native extension is preferred to hmac-secret where it is advertised
  let nativePrf := requestedExtensions.prf.isSome && info.supportsExtension "prf"
  let hmacSecret :=
    if requestedExtensions.hmacCreateSecret == some true
        || (requestedExtensions.prf.isSome && !nativePrf) then some true
    else none
  let prfInput := (requestedExtensions.prf.bind (·.eval)).filter fun _ =>
    !nativePrf && info.supportsExtension "hmac-secret-mc" && info.supportsExtension "hmac-secret"
  let prf : Option Ctap2PrfMakeCredentialInput :=
    if nativePrf then
      requestedExtensions.prf.map fun prf => ⟨prf.eval.map (PrfInputValue.prfSalts crypto)⟩
    else none
  pure
    { prf := prf
      credBlob := requestedExtensions.credBlob
      hmacSecret := hmacSecret
      prfInput := prfInput
      credProtect := requestedExtensions.credProtect.map (·.policy)
      largeBlobKey := largeBlobKey
      minPinLength := requestedExtensions.minPinLength }

/-- `self.prf_input.take()`: the input is gone afterwards, whether or not an
envelope was made of it. -/
def calculateHmacSecretMc (crypto : Crypto) (iv : Bytes) (authData : AuthTokenData) :
    Except PlatformError Ctap2MakeCredentialsRequestExtensions :=
  match self.prfInput with
  | none => .ok self
  | some prfInput => do
      let self := { self with prfInput := none }
      match ← sealSalts crypto iv authData (prfInput.toHmacSecretInput crypto) with
      | none => pure self
      | some envelope => pure { self with hmacSecretMc := some envelope }

end Ctap2MakeCredentialsRequestExtensions

structure Ctap2MakeCredentialRequest where
  hash : Bytes
  relyingParty : Ctap2PublicKeyCredentialRpEntity
  user : Ctap2PublicKeyCredentialUserEntity
  algorithms : List Ctap2CredentialType
  exclude : Option (List Ctap2PublicKeyCredentialDescriptor)
  extensions : Option Ctap2MakeCredentialsRequestExtensions
  options : Option Ctap2MakeCredentialOptions
  pinAuthParam : Option Bytes
  pinAuthProto : Option Nat
  enterpriseAttestation : Option Nat
  deriving Repr, DecidableEq

namespace Ctap2MakeCredentialRequest

variable (crypto : Crypto) (self : Ctap2MakeCredentialRequest)

/-- A request that only makes the authenticator ask for a touch. -/
def dummy : Ctap2MakeCredentialRequest where
  hash := List.replicate 32 0
  relyingParty := .dummy
  user := .dummy
  algorithms := [.default]
  exclude := none
  extensions := none
  options := none
  pinAuthParam := some []
  pinAuthProto := some Ctap2PinUvAuthProtocol.one.toNat
  enterpriseAttestation := none

def skipSerializingOptions : Option Ctap2MakeCredentialOptions → Bool
  | none => true
  | some options => options.skipSerializing

def skipSerializingExtensions : Option Ctap2MakeCredentialsRequestExtensions → Bool
  | none => true
  | some extensions => extensions.skipSerializing

/-- `TryFrom<&Ctap2MakeCredentialRequest> for CborRequest`, command byte
0x01 included. -/
def ctapHidData : Bytes :=
  0x01 :: Cbor.encode (.map (
    [(.uint 1, .bytes self.hash), (.uint 2, self.relyingParty.toCbor),
      (.uint 3, self.user.toCbor),
      (.uint 4, .array (self.algorithms.map Ctap2CredentialType.toCbor))]
    ++ Cbor.entry? (.uint 5) (self.exclude.map fun exclude =>
      .array (exclude.map Ctap2PublicKeyCredentialDescriptor.toCbor))
    ++ (if skipSerializingExtensions self.extensions then []
        else Cbor.entry? (.uint 6)
          (self.extensions.map Ctap2MakeCredentialsRequestExtensions.toCbor))
    ++ (if skipSerializingOptions self.options then []
        else Cbor.entry? (.uint 7) (self.options.map Ctap2MakeCredentialOptions.toCbor))
    ++ Cbor.entry? (.uint 8) (self.pinAuthParam.map .bytes)
    ++ Cbor.entry? (.uint 9) (self.pinAuthProto.map .uint)
    ++ Cbor.entry? (.uint 10) (self.enterpriseAttestation.map .uint)))

/-- The extensions of a request, when it asks for any. -/
def requestExtensions {T : Type} (req : MakeCredentialRequest) (info : Ctap2GetInfoResponse) :
    Except (WebAuthnError T) (Option Ctap2MakeCredentialsRequestExtensions) :=
  match req.extensions with
  | some ext => do
      let ext ← Ctap2MakeCredentialsRequestExtensions.fromWebauthnRequest crypto ext info
      pure (some ext)
  | none => pure none

def fromWebauthnRequest {T : Type} (req : MakeCredentialRequest) (info : Ctap2GetInfoResponse) :
    Except (WebAuthnError T) Ctap2MakeCredentialRequest := do
  let extensions ← requestExtensions crypto req info
  let requireResidentKey := match req.residentKey with
    | some .discouraged => some false
    | some .preferred => if info.optionEnabled "rk" then some true else none
    | some .required => some true
    | none => none
  pure
    { hash := req.clientDataHash crypto
      relyingParty := req.relyingParty
      user := req.user
      algorithms := req.algorithms
      exclude := req.exclude
      extensions := extensions
      options := some ⟨requireResidentKey, none⟩
      pinAuthParam := none
      pinAuthProto := none
      enterpriseAttestation := none }

instance : Ctap2UserVerifiableRequest Ctap2MakeCredentialRequest where
  ensureUvSet self :=
    { self with
      options := some { self.options.getD {} with
        deprecatedRequireUserVerification := some true } }
  calculateAndSetUvAuth crypto self uvProto uvAuthToken := do
    let uvAuthParam ← uvProto.authenticate crypto uvAuthToken self.hash
    pure { self with
      pinAuthProto := some uvProto.toNat
      pinAuthParam := some uvAuthParam
      options := self.options.map fun options =>
        { options with deprecatedRequireUserVerification := none } }
  permissions _ := { makeCredential := true, getAssertion := true }
  permissionsRpid self := some self.relyingParty.id
  canUseUv _ _ := true
  needsSharedSecret self info :=
    let mcSupported :=
      info.supportsExtension "hmac-secret-mc" && info.supportsExtension "hmac-secret"
    let mcRequested := (self.extensions.bind (·.prfInput)).isSome
    mcSupported && mcRequested

instance : EphemeralTokenRequest Ctap2MakeCredentialRequest where
  handleLegacyPreview _ _ := rfl
  setPersistentTokenUse _ _ _ := rfl
  wantsPersistentToken _ := rfl

end Ctap2MakeCredentialRequest

structure Ctap2MakeCredentialResponse where
  format : String
  authenticatorData : AuthenticatorData Ctap2MakeCredentialsResponseExtensions
  enterpriseAttestation : Option Bool
  largeBlobKey : Option Bytes
  unsignedPrf : Option UnsignedPrfOutput
  deriving Repr, DecidableEq

namespace MakeCredentialsResponseUnsignedExtensions

/-- The PRF results: decrypted under the channel's secret, or else the
native ones. -/
def prfOutput (crypto : Crypto)
    (signedExtensions : Option Ctap2MakeCredentialsResponseExtensions)
    (unsignedPrf : Option UnsignedPrfOutput) (authData : Option AuthTokenData) :
    MakeCredentialPrfOutput :=
  let decryptedResults := (signedExtensions.bind (·.hmacSecretMc)).bind fun out =>
    authData.bind fun auth =>
      (out.decryptOutput crypto auth.sharedSecret auth.protocolVersion).map fun decrypted =>
        (⟨decrypted.output1, decrypted.output2⟩ : PrfOutputValue)
  { enabled := (signedExtensions.bind (·.hmacSecret)).or (unsignedPrf.bind (·.enabled))
    results := decryptedResults.or (unsignedPrf.bind (·.results)) }

def credPropsOutput (request : MakeCredentialRequest) (info : Option Ctap2GetInfoResponse) :
    Option (Option Bool) :=
  match request.extensions.bind (·.credProps) with
  | none | some false => none
  | some true =>
      if info.map (·.supportsFido21) = some true then
        match request.residentKey with
        | some .discouraged | none => some (some false)
        | some .preferred =>
            some (some ((info.map fun i => i.optionEnabled "rk").getD false))
        | some .required => some (some true)
      else some none

def fromSignedExtensions (crypto : Crypto)
    (signedExtensions : Option Ctap2MakeCredentialsResponseExtensions)
    (unsignedPrf : Option UnsignedPrfOutput) (request : MakeCredentialRequest)
    (info : Option Ctap2GetInfoResponse) (authData : Option AuthTokenData) :
    MakeCredentialsResponseUnsignedExtensions where
  appidExclude :=
    let excludePresent := match request.exclude with
      | some list => !list.isEmpty
      | none => false
    ((request.extensions.bind (·.appidExclude)).filter fun _ => excludePresent).map fun _ => true
  credProps := credPropsOutput request info
  hmacCreateSecret :=
    (request.extensions.bind (·.hmacCreateSecret)).bind fun _ =>
      signedExtensions.bind (·.hmacSecret)
  largeBlob :=
    match request.extensions.bind (·.largeBlob) with
    | none | some .none => none
    | some .preferred | some .required =>
        if info.map (fun x => x.optionEnabled "largeBlobs") = some true then some (some true)
        else none
  prf :=
    match request.extensions.bind (·.prf) with
    | some _ =>
        if signedExtensions.isSome || unsignedPrf.isSome then
          some (prfOutput crypto signedExtensions unsignedPrf authData)
        else none
    | none => none

end MakeCredentialsResponseUnsignedExtensions

def Ctap2MakeCredentialResponse.intoMakeCredentialOutput (crypto : Crypto)
    (self : Ctap2MakeCredentialResponse) (request : MakeCredentialRequest)
    (info : Option Ctap2GetInfoResponse) (authData : Option AuthTokenData) :
    MakeCredentialResponse where
  format := self.format
  authenticatorData := self.authenticatorData
  enterpriseAttestation := self.enterpriseAttestation
  largeBlobKey := self.largeBlobKey
  unsignedExtensionsOutput :=
    .fromSignedExtensions crypto self.authenticatorData.extensions self.unsignedPrf request info
      authData
  authenticatorTransports := info.bind (·.transports)

end Libwebauthn
