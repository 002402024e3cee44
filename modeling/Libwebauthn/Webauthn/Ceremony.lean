/-
  Libwebauthn.Webauthn.Ceremony — the FIDO2 ceremonies
  (`src/webauthn.rs`, `src/proto/ctap2/preflight.rs`).

    • `ctap2PreflightWithAppid` — which listed credentials the device knows;
    • `retryLoop` — the loop around user verification and the request, of
      which both ceremonies have a copy; every turn logs an `Attempt`;
    • `makeCredentialFido2`, `getAssertionFido2` — the ceremonies.

  Left out: the fallback to U2F, and the transport stamped on the results.
-/
import Libwebauthn.LargeBlob.Transfer
import Libwebauthn.Webauthn.UserVerification

namespace Libwebauthn

variable {σ T : Type}

/-! ## §1. Limits of the device. -/

/-- Drop credential ids that are too long to belong to this device. -/
def filterOversizedCredentials (info : Ctap2GetInfoResponse)
    (credentials : List Ctap2PublicKeyCredentialDescriptor) :
    List Ctap2PublicKeyCredentialDescriptor :=
  match info.maxCredentialIdLength with
  | none => credentials
  | some maxLen => credentials.filter fun credential => decide (credential.id.length ≤ maxLen)

def ensureCredentialCount (count : Nat) (info : Ctap2GetInfoResponse) :
    Except PlatformError Unit :=
  match info.maxCredentialCount with
  | some max => if count > max then .error .requestTooLarge else .ok ()
  | none => .ok ()

/-- The argument is the serialized request. -/
def ensureMsgSize (request : Bytes) (info : Ctap2GetInfoResponse) : Except PlatformError Unit :=
  if request.length > info.maxMsgSizeOrDefault then .error .requestTooLarge else .ok ()

def enforceGetAssertionLimits (request : Ctap2GetAssertionRequest)
    (info : Ctap2GetInfoResponse) : Except PlatformError Unit := do
  ensureCredentialCount request.allow.length info
  ensureMsgSize request.ctapHidData info

def enforceMakeCredentialLimits (request : Ctap2MakeCredentialRequest)
    (info : Ctap2GetInfoResponse) : Except PlatformError Unit := do
  ensureCredentialCount (request.exclude.elim 0 List.length) info
  ensureMsgSize request.ctapHidData info

namespace Platform

variable (p : Platform σ T)

/-! ## §2. Preflight. -/

/-- The silent, unauthenticated request that tests for one credential. -/
def preflightRequest (credential : Ctap2PublicKeyCredentialDescriptor) (clientDataHash : Bytes)
    (rp : String) : Ctap2GetAssertionRequest where
  relyingPartyId := rp
  clientDataHash := clientDataHash
  allow := [credential]
  extensions := none
  options := some ⟨false, false⟩
  pinAuthParam := none
  pinAuthProto := none

def preflightOne (credential : Ctap2PublicKeyCredentialDescriptor) (clientDataHash : Bytes)
    (rp : String) : Ctap σ T (Option Ctap2PublicKeyCredentialDescriptor) := do
  match ← Proc.attempt (p.ctap2GetAssertion (preflightRequest credential clientDataHash rp)) with
  | .ok resp =>
      let attested := resp.authenticatorData.attestedCredential.map
        AttestedCredentialData.descriptor
      pure (some ((resp.credentialId.or attested).getD credential))
  | .error (.ctap .noCredentials) => pure none
  | .error e => Proc.throw e

/-- The test of one credential: under the relying party, then under the
legacy AppID where there is one. -/
def preflightCredential (credential : Ctap2PublicKeyCredentialDescriptor)
    (clientDataHash : Bytes) (rp : String) (appidExclude : Option String) :
    Ctap σ T (Option Ctap2PublicKeyCredentialDescriptor) := do
  match ← p.preflightOne credential clientDataHash rp with
  | some matched => pure (some matched)
  | none =>
      match appidExclude with
      | some appid => p.preflightOne credential clientDataHash appid
      | none => pure none

def ctap2PreflightWithAppid :
    List Ctap2PublicKeyCredentialDescriptor → (clientDataHash : Bytes) → (rp : String) →
      (appidExclude : Option String) → Ctap σ T (List Ctap2PublicKeyCredentialDescriptor)
  | [], _, _, _ => pure []
  | credential :: credentials, clientDataHash, rp, appidExclude => do
      let found ← p.preflightCredential credential clientDataHash rp appidExclude
      let filtered ← ctap2PreflightWithAppid credentials clientDataHash rp appidExclude
      pure (found.toList ++ filtered)

def ctap2Preflight (credentials : List Ctap2PublicKeyCredentialDescriptor)
    (clientDataHash : Bytes) (rp : String) :
    Ctap σ T (List Ctap2PublicKeyCredentialDescriptor) :=
  p.ctap2PreflightWithAppid credentials clientDataHash rp none

/-! ## §3. The retry loop. -/

/-- `store.delete(id)`, when a store is configured. -/
def evictPersistentToken (id : PersistentTokenRecordId) : Ctap σ T Unit :=
  if p.persistentTokenStore then Ctap.tell (p.storeDelete id) else pure ()

/-- `handle_errors!` for a caller that never reuses a persistent token:
`none` when the loop continues. -/
def handleErrors {A : Type} (uvAuthUsed : UsedPinUvAuthToken)
    (resp : Except (WebAuthnError T) A) : Ctap σ T (Option A) :=
  match resp, uvAuthUsed with
  | .ok x, _ => pure (some x)
  | .error (.ctap .pinAuthInvalid), .fromEphemeralStorage => do
      Ctap.clearUvAuthTokenStore
      pure none
  | .error (.ctap .pinAuthInvalid), .fromPersistentStorage id => do
      p.evictPersistentToken id
      pure none
  | .error (.ctap .uvInvalid), _ => do
      let attemptsLeft ← softly (p.ctap2ClientPin .newGetUvRetries) (·.uvRetries)
      p.sendUxUpdate (.uvRetry attemptsLeft)
      Proc.throw (.ctap .uvInvalid)
  | .error x, _ => Proc.throw x

/-- What the two retry loops differ in: `calculateHmac` makes the hmac
envelope, and is given the random bytes of an initialization vector. -/
structure Ceremony (σ T R A : Type) where
  requirement : UserVerificationRequirement
  calculateHmac : (iv : Bytes) → AuthTokenData → R → Except PlatformError R
  send : R → Ctap σ T A
  log : List (Attempt T R A) → CeremonyLog T → CeremonyLog T

section

variable {R A : Type} [Ctap2UserVerifiableRequest R] (ceremony : Ceremony σ T R A)

/-- The envelope is made before the user is asked for a touch. -/
def applyHmac (authData : Option AuthTokenData) (request : R) : Ctap σ T R :=
  match authData with
  | none => pure request
  | some authData => do
      let iv ← p.randomBytes 16
      Ctap.liftPlatform (ceremony.calculateHmac iv authData request)

/-- Built-in UV has asked for a touch already; in all other cases the device
is to be touched now. -/
def promptForTouch (uvAuthUsed : UsedPinUvAuthToken) : Ctap σ T Unit :=
  if uvAuthUsed = .newlyCalculated .getPinUvAuthTokenUsingUvWithPermissions then pure ()
  else p.sendUxUpdate .presenceRequired

/-- What the user verification between two worlds went by. -/
def verification (start reached : World σ T) : Verification where
  before := start.session.authData
  info := (p.getInfo start.env).1.toOption
  turns := reached.session.turns.drop start.session.turns.length

/-- One turn of `loop { … }`; `inl` is the request the next one starts from.
The worlds around the user verification are read for the log only. -/
def attemptTurn (fuel : Nat) (entry : R) : Ctap σ T (R ⊕ A) := do
  let start ← Proc.get
  let (uvAuthUsed, request) ← p.userVerification fuel ceremony.requirement entry
  let reached ← Proc.get
  let authData ← Ctap.getAuthData
  let request ← p.applyHmac ceremony authData request
  p.promptForTouch uvAuthUsed
  let answer ← Proc.attempt (ceremony.send request)
  Ctap.modifyLog (ceremony.log
    [⟨entry, uvAuthUsed, authData, request, answer, p.verification start reached⟩])
  match ← p.handleErrors uvAuthUsed answer with
  | none => pure (.inl request)
  | some response => pure (.inr response)

def retryLoop (fuel : Nat) (request : R) : Ctap σ T A :=
  Proc.loop (p.attemptTurn ceremony fuel) fuel request

end

/-! ## §4. makeCredential. -/

def makeCredentialCeremony (op : MakeCredentialRequest) :
    Ceremony σ T Ctap2MakeCredentialRequest Ctap2MakeCredentialResponse where
  requirement := op.userVerification
  calculateHmac iv authData request :=
    match request.extensions with
    | none => .ok request
    | some ext => do
        let ext ← ext.calculateHmacSecretMc p.crypto iv authData
        pure { request with extensions := some ext }
  send := p.ctap2MakeCredential
  log attempts l := { l with made := l.made ++ attempts }

/-- The exclude list that is sent. -/
def excludeList (op : MakeCredentialRequest) (info : Ctap2GetInfoResponse)
    (exclude : Option (List Ctap2PublicKeyCredentialDescriptor)) :
    Ctap σ T (Option (List Ctap2PublicKeyCredentialDescriptor)) :=
  match exclude.map (filterOversizedCredentials info) with
  | none => pure none
  | some exclude =>
      if p.supportsPreflight then do
        let filteredExcludeList ← p.ctap2PreflightWithAppid exclude (op.clientDataHash p.crypto)
          op.relyingParty.id (op.extensions.bind (·.appidExclude))
        pure (some filteredExcludeList)
      else pure (some exclude)

def makeCredentialFido2 (fuel : Nat) (op : MakeCredentialRequest) :
    Ctap σ T MakeCredentialResponse := do
  let info ← p.ctap2GetInfo
  let request ← Proc.ofExcept (Ctap2MakeCredentialRequest.fromWebauthnRequest p.crypto op info)
  let exclude ← p.excludeList op info request.exclude
  let request := { request with exclude := exclude }
  Ctap.liftPlatform (enforceMakeCredentialLimits request info)
  let response ← p.retryLoop (p.makeCredentialCeremony op) fuel request
  let authData ← Ctap.getAuthData
  pure (response.intoMakeCredentialOutput p.crypto op (some info) authData)

/-! ## §5. getAssertion. -/

def getAssertionCeremony (op : GetAssertionRequest) :
    Ceremony σ T Ctap2GetAssertionRequest Ctap2GetAssertionResponse where
  requirement := op.userVerification
  calculateHmac iv authData request :=
    match request.extensions with
    | none => .ok request
    | some ext => do
        let ext ← ext.calculateHmac p.crypto iv op.allow authData
        pure { request with extensions := some ext }
  send := p.ctap2GetAssertion
  log attempts l := { l with asserted := l.asserted ++ attempts }

/-- The allow list that is sent.  When nothing of the caller's list is left,
the ceremony ends: with preflight, only after a touch for a dummy request. -/
def allowList (op : GetAssertionRequest) (info : Ctap2GetInfoResponse)
    (allow : List Ctap2PublicKeyCredentialDescriptor) :
    Ctap σ T (List Ctap2PublicKeyCredentialDescriptor) := do
  let allow := filterOversizedCredentials info allow
  if p.supportsPreflight then do
    let filteredAllowList ← p.ctap2Preflight allow (op.clientDataHash p.crypto) op.relyingPartyId
    if filteredAllowList.isEmpty && !op.allow.isEmpty then do
      p.sendUxUpdate .presenceRequired
      let _ ← (Proc.attempt (p.ctap2MakeCredential .dummy) :
        Ctap σ T (Except (WebAuthnError T) Ctap2MakeCredentialResponse))
      Proc.throw (.ctap .noCredentials)
    else pure filteredAllowList
  else if allow.isEmpty && !op.allow.isEmpty then Proc.throw (.ctap .noCredentials)
  else pure allow

def validateRpIdHash (op : GetAssertionRequest) (resp : Ctap2GetAssertionResponse) :
    Ctap σ T Unit :=
  if resp.authenticatorData.rpIdHash ≠ p.crypto.sha256 (utf8 op.relyingPartyId) then
    Proc.throw (.platform .invalidDeviceResponse)
  else pure ()

/-- `n` further assertions. -/
def nextAssertions (op : GetAssertionRequest) :
    (n : Nat) → Ctap σ T (List Ctap2GetAssertionResponse)
  | 0 => pure []
  | n + 1 => do
      let next ← p.ctap2GetNextAssertion
      p.validateRpIdHash op next
      let rest ← nextAssertions op n
      pure (next :: rest)

/-- How many assertions are fetched, whatever number the device says. -/
def assertionCount (info : Ctap2GetInfoResponse) (response : Ctap2GetAssertionResponse) : Nat :=
  min (response.credentialsCount.getD 1) (info.maxCredentialCount.getD 255)

/-! ## §6. The largeBlob extension. -/

/-- A key of another length is passed over. -/
def extractLargeBlobKey (resp : Ctap2GetAssertionResponse) : Option Bytes :=
  resp.largeBlobKey.filter fun key => key.length == 32

inductive WriteOrDelete where
  | write (blob : Bytes)
  | delete

/-- The `written` flag. -/
def writeOrDeleteForFirst (resp : Ctap2GetAssertionResponse) (authData : Option AuthTokenData)
    (maxFragment : Nat) (op : WriteOrDelete) : Ctap σ T Bool :=
  match extractLargeBlobKey resp with
  | none => pure false
  | some key => do
      let pinUvAuth := authData.bind fun d =>
        d.pinUvAuthToken.map fun token => (token, d.protocolVersion)
      let result ← Proc.attempt (match op with
        | .write payload => p.writeAuthenticatorLargeBlob key payload maxFragment pinUvAuth
        | .delete => p.deleteAuthenticatorLargeBlob key maxFragment pinUvAuth)
      pure (match result with
        | .ok () => true
        | .error _ => false)

/-- The outputs of a write or a delete: only the first one has the flag. -/
def writtenOutputs (written : Bool) :
    List Ctap2GetAssertionResponse → List GetAssertionLargeBlobExtensionOutput
  | [] => []
  | _ :: rest => ⟨none, some written⟩ :: rest.map fun _ => ⟨none, none⟩

def readOutput (entries : Option (List LargeBlobMapEntry)) (resp : Ctap2GetAssertionResponse) :
    GetAssertionLargeBlobExtensionOutput :=
  let blob := match entries, extractLargeBlobKey resp with
    | some entries, some key =>
        match (decryptFirstMatching p.crypto p.codecs key entries :
            Except (LargeBlobError T) (Option Bytes)) with
        | .ok blob => blob
        | .error _ => none
    | _, _ => none
  ⟨blob, none⟩

/-- The array is fetched once, when any of the credentials has a key. -/
def fetchEntriesFor (maxFragment : Nat) (responses : List Ctap2GetAssertionResponse) :
    Ctap σ T (Option (List LargeBlobMapEntry)) :=
  if responses.any fun r => r.largeBlobKey.isSome then do
    let fetched ← Proc.attempt (p.fetchLargeBlobEntries maxFragment)
    pure fetched.toOption
  else pure none

/-- A write or a delete is for the first response, which is the only one. -/
def writeLargeBlob (maxFragment : Nat) (responses : List Ctap2GetAssertionResponse)
    (op : WriteOrDelete) : Ctap σ T (List GetAssertionLargeBlobExtensionOutput) := do
  let authData ← Ctap.getAuthData
  match responses with
  | resp :: _ => do
      let written ← p.writeOrDeleteForFirst resp authData maxFragment op
      pure (writtenOutputs written responses)
  | [] => pure []

/-- Failures are not fatal: a blob is absent, or the flag is false. -/
def largeBlobOutputs (op : GetAssertionRequest) (info : Ctap2GetInfoResponse)
    (responses : List Ctap2GetAssertionResponse) :
    Ctap σ T (List GetAssertionLargeBlobExtensionOutput) :=
  let maxFragment := maxFragmentLength info.maxMsgSize
  match op.extensions.bind (·.largeBlob) with
  | some .read => do
      let entries ← p.fetchEntriesFor maxFragment responses
      pure (responses.map (p.readOutput entries))
  | some (.write payload) => p.writeLargeBlob maxFragment responses (.write payload)
  | some .delete => p.writeLargeBlob maxFragment responses .delete
  | none => pure []

/-- The outputs go with the assertions one by one. -/
def attachLargeBlobs : List Assertion → List GetAssertionLargeBlobExtensionOutput → List Assertion
  | assertion :: assertions, entry :: entries =>
      { assertion with
        unsignedExtensionsOutput :=
          some { assertion.unsignedExtensionsOutput.getD {} with largeBlob := some entry } }
        :: attachLargeBlobs assertions entries
  | assertions, _ => assertions

/-! ## §7. The ceremony. -/

/-- largeBlob.write and .delete are for a single credential. -/
def writesManyCredentials (op : GetAssertionRequest) : Bool :=
  match op.extensions.bind (·.largeBlob) with
  | some (.write _) | some .delete => op.allow.length != 1
  | _ => false

/-- From the accepted response on. -/
def finishAssertion (op : GetAssertionRequest) (info : Ctap2GetInfoResponse)
    (response : Ctap2GetAssertionResponse) : Ctap σ T (List Assertion) := do
  p.validateRpIdHash op response
  let rest ← p.nextAssertions op (assertionCount info response - 1)
  let responses := response :: rest
  Ctap.modifyLog fun l => { l with responses := l.responses ++ responses }
  let outputs ← p.largeBlobOutputs op info responses
  let authData ← Ctap.getAuthData
  pure (attachLargeBlobs (responses.map fun r => r.intoAssertionOutput p.crypto op authData)
    outputs)

def getAssertionFido2 (fuel : Nat) (op : GetAssertionRequest) : Ctap σ T (List Assertion) :=
  if writesManyCredentials op then Proc.throw (.platform .notSupported)
  else do
    let info ← p.ctap2GetInfo
    let request ← Ctap.liftPlatform
      (Ctap2GetAssertionRequest.fromWebauthnRequest p.crypto op info)
    let allow ← p.allowList op info request.allow
    let request := { request with allow := allow }
    Ctap.liftPlatform (enforceGetAssertionLimits request info)
    let response ← p.retryLoop (p.getAssertionCeremony op) fuel request
    p.finishAssertion op info response

end Platform

end Libwebauthn
