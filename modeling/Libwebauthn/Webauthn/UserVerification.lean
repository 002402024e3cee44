/-
  Libwebauthn.Webauthn.UserVerification — obtaining a pinUvAuthToken for a
  request (`src/webauthn/pin_uv_auth_token.rs`).

  `userVerification` reuses a stored token or else runs
  `userVerificationHelper`, whose loop picks an operation from the getInfo
  in force (`UvTurn`), and falls back to another one when built-in UV gets
  blocked.  The request is changed in place by the source; here it is part
  of the state of the loop and of the result.
-/
import Libwebauthn.Pin.Management
import Libwebauthn.Ctap2.Management

namespace Libwebauthn

open Ctap2UserVerifiableRequest

variable {σ T R : Type} [Ctap2UserVerifiableRequest R]

/-! ## §1. The choice of an operation. -/

/-- A clientPIN token must not carry the mc or ga permission on a device
that says so: built-in UV is used instead, where there is any. -/
def enforceNoMcGaWithClientPin (info : Ctap2GetInfoResponse)
    (uvOperation : Ctap2UserVerificationOperation) (permissions : Ctap2AuthTokenPermissionRole)
    (uvUnavailable : Bool) : Except PlatformError Ctap2UserVerificationOperation :=
  let isClientPin := uvOperation.usesPin
  let wantsMcOrGa := permissions.intersects { makeCredential := true, getAssertion := true }
  if !isClientPin || !wantsMcOrGa
      || !info.optionEnabled "noMcGaPermissionsWithClientPin" then
    .ok uvOperation
  else if info.optionEnabled "uv" && !uvUnavailable then
    .ok .getPinUvAuthTokenUsingUvWithPermissions
  else .error .noUvAvailable

/-- What the helper decides once, before its loop. -/
structure UvPlan where
  requirement : UserVerificationRequirement
  needsSharedSecret : Bool
  canEstablishSharedSecret : Bool
  skipUv : Bool
  deriving Repr, DecidableEq

/-- With verification discouraged, a request that only needs the shared
secret does without a token. -/
def UvPlan.downgrade (plan : UvPlan) (request : R) (info : Ctap2GetInfoResponse)
    (uvOperation : Ctap2UserVerificationOperation) : Ctap2UserVerificationOperation :=
  if plan.requirement.isDiscouraged && plan.needsSharedSecret
      && !needsPinUvAuthToken request info then
    .onlyForSharedSecret
  else uvOperation

def pinRequestReason (requirement : UserVerificationRequirement) (uvBlocked : Bool) :
    PinRequestReason :=
  if uvBlocked then .fallbackFromUV
  else if requirement.isPreferred then .relyingPartyRequest
  else .authenticatorPolicy

/-! ## §2. The loop. -/

/-- The state of the loop. -/
structure UvState (R : Type) where
  info : Ctap2GetInfoResponse
  request : R
  uvBlocked : Bool

/-- How the loop is left. -/
inductive UvExit where
  /-- `return Ok(LegacyUV)` from inside the loop. -/
  | legacyUv
  | negotiated (uvProto : PinUvAuthProtocol) (sharedSecret : Bytes) (publicKey : PublicKey)
      (uvOperation : Ctap2UserVerificationOperation)
      (tokenResponse : Option Ctap2ClientPinResponse)

namespace Platform

variable (p : Platform σ T)

/-- The PIN is asked for before the shared secret is agreed on. -/
def pinFor (plan : UvPlan) (info : Ctap2GetInfoResponse) (version : Ctap2PinUvAuthProtocol)
    (uvOperation : Ctap2UserVerificationOperation) (uvBlocked : Bool) :
    Ctap σ T (Option Bytes) :=
  if uvOperation.usesPin then do
    let pin ← p.obtainPin info version (pinRequestReason plan.requirement uvBlocked)
    pure (some pin)
  else pure none

/-- The encrypted PIN hash of a token request. -/
def pinHashEnc (version : Ctap2PinUvAuthProtocol) (sharedSecret : Bytes) (pin : Option Bytes) :
    Ctap σ T Bytes :=
  match pin with
  | none => Proc.throw (.ctap .pinRequired)
  | some pin => p.encrypt version sharedSecret (pinHash p.crypto pin)

/-- The request of a token; `none` for the operations that end with the
shared secret. -/
def tokenRequest (request : R) (uvOperation : Ctap2UserVerificationOperation)
    (version : Ctap2PinUvAuthProtocol) (sharedSecret : Bytes) (publicKey : PublicKey)
    (pin : Option Bytes) : Ctap σ T (Option Ctap2ClientPinRequest) :=
  match uvOperation with
  | .legacyUv | .onlyForSharedSecret => pure none
  | .getPinToken => do
      let pinHashEnc ← p.pinHashEnc version sharedSecret pin
      pure (some (.newGetPinToken version publicKey pinHashEnc))
  | .getPinUvAuthTokenUsingPinWithPermissions => do
      let pinHashEnc ← p.pinHashEnc version sharedSecret pin
      pure (some (.newGetPinTokenWithPerm version publicKey pinHashEnc (permissions request)
        (permissionsRpid request)))
  | .getPinUvAuthTokenUsingUvWithPermissions => do
      p.sendUxUpdate .presenceRequired
      pure (some (.newGetUvTokenWithPerm version publicKey (permissions request)
        (permissionsRpid request)))

/-- The answer to a token request.  A blocked built-in UV takes another turn. -/
def tokenAnswer (state : UvState R) (uvProto : PinUvAuthProtocol) (sharedSecret : Bytes)
    (publicKey : PublicKey) (uvOperation : Ctap2UserVerificationOperation)
    (answer : Except (WebAuthnError T) Ctap2ClientPinResponse) :
    Ctap σ T (UvState R ⊕ (UvState R × UvExit)) :=
  match answer with
  | .ok t => pure (.inr (state, .negotiated uvProto sharedSecret publicKey uvOperation (some t)))
  | .error (.ctap .uvBlocked) => pure (.inl { state with uvBlocked := true })
  | .error (.ctap .uvInvalid) => do
      let attemptsLeft ← softly (p.ctap2ClientPin .newGetUvRetries) (·.uvRetries)
      p.sendUxUpdate (.uvRetry attemptsLeft)
      if attemptsLeft = some 0 then pure (.inl { state with uvBlocked := true })
      else Proc.throw (.ctap .uvInvalid)
  | .error x => Proc.throw x

/-- The rest of a turn, from the shared secret on. -/
def negotiate (plan : UvPlan) (state : UvState R) (uvProto : PinUvAuthProtocol)
    (uvOperation : Ctap2UserVerificationOperation) :
    Ctap σ T (UvState R ⊕ (UvState R × UvExit)) := do
  let pin ← p.pinFor plan state.info uvProto.version uvOperation state.uvBlocked
  let (publicKey, sharedSecret) ← p.obtainSharedSecret uvProto
  match ← p.tokenRequest state.request uvOperation uvProto.version sharedSecret publicKey pin with
  | none => pure (.inr (state, .negotiated uvProto sharedSecret publicKey uvOperation none))
  | some tokenRequest => do
      let answer ← Proc.attempt (p.ctap2ClientPin tokenRequest)
      p.tokenAnswer state uvProto sharedSecret publicKey uvOperation answer

/-- A turn with the operation it settled on. -/
def carryOut (fuel : Nat) (plan : UvPlan) (state : UvState R)
    (uvOperation : Ctap2UserVerificationOperation) :
    Ctap σ T (UvState R ⊕ (UvState R × UvExit)) := do
  let uvOperation ← Ctap.liftPlatform (enforceNoMcGaWithClientPin state.info uvOperation
    (permissions state.request) (state.uvBlocked || plan.skipUv))
  if state.info.forcePinChange = some true ∧ uvOperation.usesPin = true then do
    p.tryToSetPin fuel state.info .pinChangeRequired
    let info ← p.ctap2GetInfo
    pure (.inl { state with info := info })
  else
    match ← p.selectUvProto state.info with
    | none => Proc.throw (.ctap .other)
    | some uvProto => p.negotiate plan state uvProto uvOperation

/-- One turn of the loop. -/
def uvTurn (fuel : Nat) (plan : UvPlan) (state : UvState R) :
    Ctap σ T (UvState R ⊕ (UvState R × UvExit)) := do
  Ctap.modifySession fun s =>
    { s with turns := s.turns ++ [⟨state.info, state.uvBlocked || plan.skipUv⟩] }
  match state.info.uvOperation (state.uvBlocked || plan.skipUv) with
  | none =>
      Proc.throw (if state.uvBlocked then .ctap .uvBlocked else .platform .noUvAvailable)
  | some .legacyUv =>
      -- the deprecated `uv` option of the request itself
      let state := { state with request := ensureUvSet state.request }
      if !plan.needsSharedSecret || !plan.canEstablishSharedSecret then
        pure (.inr (state, .legacyUv))
      else p.carryOut fuel plan state .legacyUv
  | some uvOperation =>
      p.carryOut fuel plan state (plan.downgrade state.request state.info uvOperation)

/-! ## §3. The result. -/

/-- The token of a token response, decrypted and of a valid length. -/
def decryptToken (uvProto : PinUvAuthProtocol) (sharedSecret : Bytes)
    (tokenResponse : Option Ctap2ClientPinResponse) : Ctap σ T Bytes :=
  match tokenResponse.bind (·.pinUvAuthToken) with
  | none => Proc.throw (.ctap .other)
  | some encryptedPinUvAuthToken => do
      let uvAuthToken ← Ctap.liftPlatform
        (uvProto.version.decrypt p.crypto sharedSecret encryptedPinUvAuthToken)
      if uvProto.version.pinUvAuthTokenLenValid uvAuthToken.length then pure uvAuthToken
      else Proc.throw (.ctap .other)

/-- A persistent token goes to the store only, any other one to the channel
only.  A store that fails is no error. -/
def storeToken (state : UvState R) (uvProto : PinUvAuthProtocol) (sharedSecret : Bytes)
    (publicKey : PublicKey) (uvOperation : Ctap2UserVerificationOperation)
    (uvAuthToken : Bytes) : Ctap σ T Unit :=
  if wantsPersistentToken state.request then
    if p.persistentTokenStore then do
      let _ ← Proc.attempt (p.storeMintedToken state.info uvAuthToken uvProto.version)
      pure ()
    else pure ()
  else
    Ctap.storeAuthData
      { sharedSecret := sharedSecret
        permission := some
          ⟨uvProto.version, permissions state.request, permissionsRpid state.request⟩
        pinUvAuthToken := some uvAuthToken
        protocolVersion := uvProto.version
        keyAgreement := publicKey
        uvOperation := uvOperation }

/-- Package the result of the loop. -/
def packageResult (state : UvState R) : UvExit → Ctap σ T (UsedPinUvAuthToken × R)
  | .legacyUv => pure (.legacyUV, state.request)
  | .negotiated uvProto sharedSecret publicKey uvOperation tokenResponse =>
      if uvOperation.mintsToken then do
        let uvAuthToken ← p.decryptToken uvProto sharedSecret tokenResponse
        p.storeToken state uvProto sharedSecret publicKey uvOperation uvAuthToken
        let request ← Ctap.liftPlatform
          (calculateAndSetUvAuth p.crypto state.request uvProto.version uvAuthToken)
        pure (.newlyCalculated uvOperation, request)
      else do
        Ctap.storeAuthData
          { sharedSecret := sharedSecret
            permission := none
            pinUvAuthToken := none
            protocolVersion := uvProto.version
            keyAgreement := publicKey
            uvOperation := uvOperation }
        pure (if uvOperation = .legacyUv then .legacyUV else .sharedSecretOnly, state.request)

/-- Required verification on a device without any: let the user set a PIN,
and read getInfo again. -/
def ensureUvProtected (fuel : Nat) (requirement : UserVerificationRequirement)
    (info : Ctap2GetInfoResponse) : Ctap σ T Ctap2GetInfoResponse :=
  if requirement.isRequired && !info.isUvProtected then do
    p.tryToSetPin fuel info .pinNotSet
    let info ← p.ctap2GetInfo
    if !info.isUvProtected then Proc.throw (.platform .noUvAvailable)
    else pure info
  else pure info

/-- Whether the helper returns without user verification, before its loop. -/
def skipsVerification (requirement : UserVerificationRequirement)
    (needsSharedSecret canEstablishSharedSecret devUvProtected uv : Bool) : Bool :=
  if !needsSharedSecret then !uv || (!devUvProtected && requirement.isPreferred)
  else !canEstablishSharedSecret && !uv

def userVerificationHelper (fuel : Nat) (info : Ctap2GetInfoResponse)
    (requirement : UserVerificationRequirement) (request : R) :
    Ctap σ T (UsedPinUvAuthToken × R) := do
  let canEstablishSharedSecret := info.canEstablishSharedSecret
  let needsSharedSecret := needsSharedSecret request info
  let uv := !requirement.isDiscouraged && (requirement.isPreferred || info.isUvProtected)
  let info ← p.ensureUvProtected fuel requirement info
  if skipsVerification requirement needsSharedSecret canEstablishSharedSecret
      info.isUvProtected uv then
    pure (.none, request)
  else do
    let plan : UvPlan :=
      ⟨requirement, needsSharedSecret, canEstablishSharedSecret, !canUseUv request info⟩
    let (state, exit) ← Proc.loop (p.uvTurn fuel plan) fuel ⟨info, request, false⟩
    p.packageResult state exit

/-- The stored record to reuse, when the request takes a persistent token. -/
def reusablePersistentToken (info : Ctap2GetInfoResponse) (request : R) :
    Ctap σ T (Option (PersistentTokenRecordId × PersistentTokenRecord)) :=
  if wantsPersistentToken request && !persistentTokenRejected request
      && p.persistentTokenStore then
    p.recognizeAuthenticator info
  else pure none

/-- The request after the hooks that look at getInfo. -/
def prepareRequest (info : Ctap2GetInfoResponse) (request : R) : R :=
  setPersistentTokenUse (handleLegacyPreview request info) info p.persistentTokenStore

/-- The ephemeral token of the channel that serves the request, with the
protocol it is used under. -/
def reusableEphemeralToken (info : Ctap2GetInfoResponse) (request : R) :
    Ctap σ T (Option (Ctap2PinUvAuthProtocol × Bytes)) := do
  match ← p.selectUvProto info with
  | none => pure none
  | some uvProto => do
      let authData ← Ctap.getAuthData
      pure ((getUvAuthToken authData
        ⟨uvProto.version, permissions request, permissionsRpid request⟩).map
          fun token => (uvProto.version, token))

def userVerification (fuel : Nat) (requirement : UserVerificationRequirement) (request : R) :
    Ctap σ T (UsedPinUvAuthToken × R) := do
  let info ← p.ctap2GetInfo
  let request := p.prepareRequest info request
  match ← p.reusablePersistentToken info request with
  | some (id, record) => do
      let request ← Ctap.liftPlatform (calculateAndSetUvAuth p.crypto request
        record.pinUvAuthProtocol record.persistentToken)
      pure (.fromPersistentStorage id, request)
  | none =>
      match ← p.reusableEphemeralToken info request with
      | some (uvProto, uvAuthToken) => do
          let request ← Ctap.liftPlatform
            (calculateAndSetUvAuth p.crypto request uvProto uvAuthToken)
          pure (.fromEphemeralStorage, request)
      | none => p.userVerificationHelper fuel info requirement request

end Platform

end Libwebauthn
