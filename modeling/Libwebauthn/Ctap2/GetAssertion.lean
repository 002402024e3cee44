/-
  Libwebauthn.Ctap2.GetAssertion — the authenticatorGetAssertion request and
  its answer (`src/proto/ctap2/model/get_assertion.rs`).

    • `fromWebauthnRequest` — the request of an operation;
    • `calculateHmac` — the hmac-secret envelope under the channel's secret;
    • `intoAssertionOutput` — the assertion made of an answer.

  Left out: the JSON form of unsigned extension outputs.
-/
import Libwebauthn.Ctap2.UserVerifiable
import Libwebauthn.Ops.GetAssertion
import Libwebauthn.Transport.AuthTokenStore

namespace Libwebauthn

/-! ## §1. Extensions. -/

/-- The hmac-secret envelope. -/
structure CalculatedHMACGetSecretInput where
  publicKey : PublicKey
  saltEnc : Bytes
  saltAuth : Bytes
  pinAuthProto : Option Nat
  deriving Repr, DecidableEq

def CalculatedHMACGetSecretInput.toCbor (self : CalculatedHMACGetSecretInput) : Cbor :=
  .map ([(.uint 1, self.publicKey.toCbor), (.uint 2, .bytes self.saltEnc),
      (.uint 3, .bytes self.saltAuth)]
    ++ Cbor.entry? (.uint 4) (self.pinAuthProto.map .uint))

/-- The bytes that are encrypted: one salt or two. -/
def HMACGetSecretInput.salts (self : HMACGetSecretInput) : Bytes :=
  self.salt1 ++ self.salt2.getD []

/-- The envelope of `input` under the secret the channel holds.  `ok none`
when the salts cannot be encrypted, which drops the extension. -/
def sealSalts (crypto : Crypto) (iv : Bytes) (authData : AuthTokenData)
    (input : HMACGetSecretInput) : Except PlatformError (Option CalculatedHMACGetSecretInput) :=
  match authData.protocolVersion.encrypt crypto iv authData.sharedSecret input.salts with
  | .error _ => .ok none
  | .ok saltEnc => do
      let saltAuth ← authData.protocolVersion.authenticate crypto authData.sharedSecret saltEnc
      pure (some ⟨authData.keyAgreement, saltEnc, saltAuth, some authData.protocolVersion.toNat⟩)

structure Ctap2PrfSalts where
  first : Bytes
  second : Option Bytes
  deriving Repr, DecidableEq

def Ctap2PrfSalts.toCbor (self : Ctap2PrfSalts) : Cbor :=
  .map ((.text "first", .bytes self.first)
    :: Cbor.entry? (.text "second") (self.second.map .bytes))

/-- `From<&PrfInputValue>`. -/
def PrfInputValue.prfSalts (crypto : Crypto) (value : PrfInputValue) : Ctap2PrfSalts :=
  ⟨(value.toHmacSecretInput crypto).salt1, (value.toHmacSecretInput crypto).salt2⟩

/-- Lexicographic order of byte strings, the order of a `BTreeMap`'s keys. -/
def bytesLe (a b : Bytes) : Bool := decide (a.map UInt8.toNat ≤ b.map UInt8.toNat)

/-- Canonical order of byte-string keys: shorter first, then bytewise. -/
def canonicalBytesLe (a b : Bytes) : Bool :=
  a.length < b.length || (a.length == b.length && bytesLe a b)

/-- `evalByCredential` is a map from credential ids: distinct keys, in
lexicographic order. -/
structure Ctap2PrfGetAssertionInput where
  eval : Option Ctap2PrfSalts
  evalByCredential : Option (List (Bytes × Ctap2PrfSalts))
  deriving Repr, DecidableEq

def Ctap2PrfGetAssertionInput.toCbor (self : Ctap2PrfGetAssertionInput) : Cbor :=
  .map (Cbor.entry? (.text "eval") (self.eval.map Ctap2PrfSalts.toCbor)
    ++ Cbor.entry? (.text "evalByCredential") (self.evalByCredential.map fun entries =>
      .map ((entries.mergeSort fun a b => canonicalBytesLe a.1 b.1).map fun (id, salts) =>
        (.bytes id, salts.toCbor))))

structure Ctap2GetAssertionRequestExtensions where
  prf : Option Ctap2PrfGetAssertionInput := none
  credBlob : Bool := false
  hmacSecret : Option CalculatedHMACGetSecretInput := none
  largeBlobKey : Option Bool := none
  hmacOrPrf : Option GetAssertionHmacOrPrfInput := none
  largeBlobWrite : Bool := false
  deriving Repr, DecidableEq

/-- `From<GetAssertionRequestExtensions>`. -/
def GetAssertionRequestExtensions.toCtap2 (other : GetAssertionRequestExtensions) :
    Ctap2GetAssertionRequestExtensions :=
  { credBlob := other.credBlob
    hmacOrPrf := other.prf.map .prf
    largeBlobKey := match other.largeBlob with
      | some _ => some true
      | none => none
    largeBlobWrite := match other.largeBlob with
      | some (.write _) => true
      | some .delete => true
      | _ => false }

namespace Ctap2GetAssertionRequestExtensions

variable (crypto : Crypto) (self : Ctap2GetAssertionRequestExtensions)

def skipSerializing : Bool :=
  self.prf.isNone && !self.credBlob && self.hmacSecret.isNone && self.largeBlobKey.isNone
    && self.hmacOrPrf.isNone

def toCbor : Cbor :=
  .map (Cbor.entry? (.text "prf") (self.prf.map Ctap2PrfGetAssertionInput.toCbor)
    ++ (if self.credBlob then [(.text "credBlob", .bool true)] else [])
    ++ Cbor.entry? (.text "hmac-secret") (self.hmacSecret.map CalculatedHMACGetSecretInput.toCbor)
    ++ Cbor.entry? (.text "largeBlobKey") (self.largeBlobKey.map .bool))

/-- The loop of `convert_prf_to_native`: entries of the allow list, keyed by
the decoded id. -/
def nativeEvalByCredential (allowList : List Ctap2PublicKeyCredentialDescriptor) :
    List (String × PrfInputValue) → Except PlatformError (List (Bytes × Ctap2PrfSalts))
  | [] => .ok []
  | (encCredId, value) :: entries =>
      if encCredId = "" then .error .syntaxError
      else
        match crypto.base64UrlDecode encCredId with
        | none => .error .syntaxError
        | some credId => do
            let rest ← nativeEvalByCredential allowList entries
            -- an entry inserted later replaces one under the same id
            if allowList.any (fun cred => cred.id == credId)
                && !rest.any (fun entry => entry.1 == credId) then
              pure ((credId, value.prfSalts crypto) :: rest)
            else pure rest

def convertPrfToNative (allowList : List Ctap2PublicKeyCredentialDescriptor) :
    Except PlatformError Ctap2GetAssertionRequestExtensions :=
  match self.hmacOrPrf with
  | some (.prf prfInput) =>
      if prfInput.evalByCredential ≠ [] ∧ allowList = [] then .error .notSupported
      else do
        let entries ← nativeEvalByCredential crypto allowList prfInput.evalByCredential
        let evalByCredential := entries.mergeSort fun a b => bytesLe a.1 b.1
        let eval := prfInput.eval.map (PrfInputValue.prfSalts crypto)
        let prf :=
          if eval.isSome || !evalByCredential.isEmpty then
            some ⟨eval, if evalByCredential.isEmpty then none else some evalByCredential⟩
          else self.prf
        pure { self with prf := prf, hmacOrPrf := none }
  | _ => .ok self

/-- The loop of `prf_to_hmac_input`: the first entry that names a credential
of the allow list, in iteration order. -/
def findPrfEntry (allowList : List Ctap2PublicKeyCredentialDescriptor) :
    List (String × PrfInputValue) → Except PlatformError (Option PrfInputValue)
  | [] => .ok none
  | (encCredId, prfValue) :: entries =>
      if encCredId = "" then .error .syntaxError
      else
        match crypto.base64UrlDecode encCredId with
        | none => .error .syntaxError
        | some credId =>
            if (allowList.find? fun x => x.id == credId).isSome then .ok (some prfValue)
            else findPrfEntry allowList entries

def prfToHmacInput (eval : Option PrfInputValue)
    (evalByCredential : List (String × PrfInputValue))
    (allowList : List Ctap2PublicKeyCredentialDescriptor) :
    Except PlatformError (Option HMACGetSecretInput) :=
  if evalByCredential ≠ [] ∧ allowList = [] then .error .notSupported
  else do
    let ev ← findPrfEntry crypto allowList evalByCredential
    let ev := if ev.isNone then eval else ev
    pure (ev.map (PrfInputValue.toHmacSecretInput crypto))

/-- The input of the envelope, raw or from the PRF input. -/
def hmacInput (allowList : List Ctap2PublicKeyCredentialDescriptor) :
    Except PlatformError (Option HMACGetSecretInput) :=
  match self.hmacOrPrf with
  | none => .ok none
  | some (.hmacGetSecret input) => .ok (some input)
  | some (.prf prfInput) =>
      prfToHmacInput crypto prfInput.eval prfInput.evalByCredential allowList

def calculateHmac (iv : Bytes) (allowList : List Ctap2PublicKeyCredentialDescriptor)
    (authData : AuthTokenData) : Except PlatformError Ctap2GetAssertionRequestExtensions := do
  match ← self.hmacInput crypto allowList with
  | none => pure self
  | some input =>
      match ← sealSalts crypto iv authData input with
      -- the salts could not be encrypted: the extension stays as it was
      | none => pure self
      | some envelope => pure { self with hmacSecret := some envelope }

end Ctap2GetAssertionRequestExtensions

/-! ## §2. The request. -/

structure Ctap2GetAssertionOptions where
  requireUserPresence : Bool := false
  requireUserVerification : Bool := false
  deriving Repr, DecidableEq

def Ctap2GetAssertionOptions.toCbor (self : Ctap2GetAssertionOptions) : Cbor :=
  .map ((.text "up", .bool self.requireUserPresence)
    :: (if self.requireUserVerification then [(.text "uv", .bool true)] else []))

structure Ctap2GetAssertionRequest where
  relyingPartyId : String
  clientDataHash : Bytes
  allow : List Ctap2PublicKeyCredentialDescriptor
  extensions : Option Ctap2GetAssertionRequestExtensions
  options : Option Ctap2GetAssertionOptions
  pinAuthParam : Option Bytes
  pinAuthProto : Option Nat
  deriving Repr, DecidableEq

/-- `From<GetAssertionRequest>`. -/
def GetAssertionRequest.toCtap2 (crypto : Crypto) (op : GetAssertionRequest) :
    Ctap2GetAssertionRequest where
  relyingPartyId := op.relyingPartyId
  clientDataHash := op.clientDataHash crypto
  allow := op.allow
  extensions := op.extensions.map GetAssertionRequestExtensions.toCtap2
  options := some ⟨true, op.userVerification.isRequired⟩
  pinAuthParam := none
  pinAuthProto := none

namespace Ctap2GetAssertionRequest

variable (crypto : Crypto) (self : Ctap2GetAssertionRequest)

def skipSerializingExtensions : Option Ctap2GetAssertionRequestExtensions → Bool
  | none => true
  | some extensions => extensions.skipSerializing

/-- `TryFrom<&Ctap2GetAssertionRequest> for CborRequest`, command byte 0x02
included. -/
def ctapHidData : Bytes :=
  0x02 :: Cbor.encode (.map (
    [(.uint 1, .text self.relyingPartyId), (.uint 2, .bytes self.clientDataHash)]
    ++ (if self.allow.isEmpty then []
        else [(.uint 3, .array (self.allow.map Ctap2PublicKeyCredentialDescriptor.toCbor))])
    ++ (if skipSerializingExtensions self.extensions then []
        else Cbor.entry? (.uint 4)
          (self.extensions.map Ctap2GetAssertionRequestExtensions.toCbor))
    ++ Cbor.entry? (.uint 5) (self.options.map Ctap2GetAssertionOptions.toCbor)
    ++ Cbor.entry? (.uint 6) (self.pinAuthParam.map .bytes)
    ++ Cbor.entry? (.uint 7) (self.pinAuthProto.map .uint)))

def fromWebauthnRequest (req : GetAssertionRequest) (info : Ctap2GetInfoResponse) :
    Except PlatformError Ctap2GetAssertionRequest := do
  -- largeBlob is dropped silently when the device does not support it
  let req : GetAssertionRequest :=
    if !info.optionEnabled "largeBlobs" then
      { req with extensions := req.extensions.map fun ext => { ext with largeBlob := none } }
    else req
  let ctap2Request := req.toCtap2 crypto
  if info.supportsExtension "prf" then
    match ctap2Request.extensions with
    | some ext => do
        let ext ← ext.convertPrfToNative crypto ctap2Request.allow
        pure { ctap2Request with extensions := some ext }
    | none => pure ctap2Request
  else pure ctap2Request

def largeBlobWrite : Bool :=
  match self.extensions with
  | some e => e.largeBlobWrite
  | none => false

def needsPinUvAuthToken (info : Ctap2GetInfoResponse) : Bool :=
  self.largeBlobWrite && info.optionEnabled "largeBlobs" && info.isUvProtected

def hmacRequested : Bool :=
  match self.extensions with
  | some e => e.hmacOrPrf.isSome
  | none => false

instance : Ctap2UserVerifiableRequest Ctap2GetAssertionRequest where
  ensureUvSet self :=
    { self with options := some { self.options.getD {} with requireUserVerification := true } }
  calculateAndSetUvAuth crypto self uvProto uvAuthToken := do
    let uvAuthParam ← uvProto.authenticate crypto uvAuthToken self.clientDataHash
    pure { self with
      pinAuthProto := some uvProto.toNat
      pinAuthParam := some uvAuthParam
      options := self.options.map fun options =>
        { options with requireUserVerification := false } }
  permissions self := { getAssertion := true, largeBlobWrite := self.largeBlobWrite }
  permissionsRpid self := some self.relyingPartyId
  canUseUv _ _ := true
  needsSharedSecret self info :=
    (self.hmacRequested && info.supportsExtension "hmac-secret") || self.needsPinUvAuthToken info
  needsPinUvAuthToken := needsPinUvAuthToken

instance : EphemeralTokenRequest Ctap2GetAssertionRequest where
  handleLegacyPreview _ _ := rfl
  setPersistentTokenUse _ _ _ := rfl
  wantsPersistentToken _ := rfl

end Ctap2GetAssertionRequest

/-! ## §3. The answer. -/

/-- The PRF entry of the unsigned extension outputs, parsed: whether it is
enabled, and its results. -/
structure UnsignedPrfOutput where
  enabled : Option Bool
  results : Option PrfOutputValue
  deriving Repr, DecidableEq

/-- `unsignedPrf` is what `parse_unsigned_prf` gives for the unsigned
extension outputs. -/
structure Ctap2GetAssertionResponse where
  credentialId : Option Ctap2PublicKeyCredentialDescriptor
  authenticatorData : AuthenticatorData Ctap2GetAssertionResponseExtensions
  signature : Bytes
  user : Option Ctap2PublicKeyCredentialUserEntity
  credentialsCount : Option Nat
  userSelected : Option Bool
  largeBlobKey : Option Bytes
  unsignedPrf : Option UnsignedPrfOutput
  deriving Repr, DecidableEq

def Ctap2GetAssertionResponseExtensions.toUnsignedExtensions (crypto : Crypto)
    (self : Ctap2GetAssertionResponseExtensions) (request : GetAssertionRequest)
    (authData : Option AuthTokenData) : GetAssertionResponseUnsignedExtensions :=
  let decryptedHmac := self.hmacSecret.bind fun x =>
    authData.bind fun authData =>
      x.decryptOutput crypto authData.sharedSecret authData.protocolVersion
  { prf := decryptedHmac.bind fun decrypted =>
      (request.extensions.bind (·.prf)).map fun _ =>
        ⟨some ⟨decrypted.output1, decrypted.output2⟩⟩
    largeBlob := (request.extensions.bind (·.largeBlob)).map fun _ => ⟨none, none⟩
    appid := (request.extensions.bind (·.appid)).map fun _ => false }

namespace Ctap2GetAssertionResponse

variable (crypto : Crypto) (self : Ctap2GetAssertionResponse)

/-- The native PRF results, which fill `prf` when nothing else did. -/
def mergeUnsignedPrf (request : GetAssertionRequest)
    (unsigned : Option GetAssertionResponseUnsignedExtensions) :
    Option GetAssertionResponseUnsignedExtensions :=
  if (request.extensions.bind (·.prf)).isSome then
    match self.unsignedPrf.bind (·.results) with
    | none => unsigned
    | some results =>
        let unsigned := unsigned.getD {}
        some (if unsigned.prf.isNone then { unsigned with prf := some ⟨some results⟩ }
          else unsigned)
  else unsigned

/-- A missing credential is filled in from the caller's allow list when that
has one entry. -/
def intoAssertionOutput (request : GetAssertionRequest) (authData : Option AuthTokenData) :
    Assertion where
  credentialId := self.credentialId.or (if request.allow.length = 1 then request.allow.head?
    else none)
  authenticatorData := self.authenticatorData
  signature := self.signature
  user := self.user
  credentialsCount := self.credentialsCount
  userSelected := self.userSelected
  unsignedExtensionsOutput := self.mergeUnsignedPrf request
    (self.authenticatorData.extensions.map fun x =>
      x.toUnsignedExtensions crypto request authData)

end Ctap2GetAssertionResponse

end Libwebauthn
