/-
  Libwebauthn.Ops.ResponseJson — responses as the JSON models that a relying
  party gets (`WebAuthnIDLResponse` for the responses of
  `src/ops/webauthn/make_credential.rs` and `src/ops/webauthn/get_assertion.rs`,
  and `src/ops/webauthn/idl/response.rs`).

  Left out: outputs of extensions that the model does not have.  `parse` stands
  for the CBOR parser that reads COSE_Keys, and `crate` for the DER library.
-/
import Mathlib.Data.List.Destutter
import Mathlib.Data.List.Sort
import Mathlib.Data.String.Basic
import Libwebauthn.Ctap2.Cose
import Libwebauthn.Ops.AuthenticatorData
import Libwebauthn.Ops.Hints
import Libwebauthn.Transport.Mock

namespace Libwebauthn

/-! ## §1. Transports. -/

/-- What a channel stamps on a response. -/
inductive Transport where
  | usb
  | ble
  | nfc
  | hybrid
  deriving Repr, DecidableEq

def Transport.authenticatorAttachment : Transport → String
  | .usb | .ble | .nfc | .hybrid => "cross-platform"

/-- `From<Transport>`. -/
def Transport.toCtap2 : Transport → Ctap2Transport
  | .usb => .usb
  | .ble => .ble
  | .nfc => .nfc
  | .hybrid => .hybrid

def Ctap2Transport.asStr : Ctap2Transport → String
  | .ble => "ble"
  | .nfc => "nfc"
  | .usb => "usb"
  | .internal => "internal"
  | .hybrid => "hybrid"
  | .smartCard => "smart-card"
  | .other value => value

section

variable {α : Type} [LinearOrder α]

/-- `sort` and `dedup` of a vector. -/
def sortDedup (l : List α) : List α := (l.mergeSort (· ≤ ·)).destutter (· ≠ ·)

/-- Sorted, each element of the list once. -/
theorem sortDedup_spec (l : List α) :
    (sortDedup l).Pairwise (· < ·) ∧ ∀ a, a ∈ sortDedup l ↔ a ∈ l := by
  have hsorted : (l.mergeSort (· ≤ ·)).Pairwise (· ≤ ·) := List.pairwise_mergeSort' (· ≤ ·) l
  have hdedup : sortDedup l = (l.mergeSort (· ≤ ·)).dedup := hsorted.destutter_eq_dedup
  rw [hdedup]
  refine ⟨?_, fun a => ?_⟩
  · have hle := hsorted.sublist (List.dedup_sublist _)
    exact hle.imp₂ (fun a b hle hne => lt_of_le_of_ne hle hne) (List.nodup_dedup _)
  · rw [List.mem_dedup, (List.mergeSort_perm l _).mem_iff]

end

def registrationTransports (transport : Option Transport) : List String :=
  sortDedup (transport.toList.map fun t => t.toCtap2.asStr)

theorem mem_registrationTransports {transport : Option Transport} {token : String} :
    token ∈ registrationTransports transport ↔ ∃ t ∈ transport, t.toCtap2.asStr = token := by
  unfold registrationTransports
  rw [(sortDedup_spec _).2, List.mem_map]
  simp only [Option.mem_toList, Option.mem_def]

/-! ## §2. Attestation objects. -/

structure PackedAttestationStmt where
  algorithm : Cose.Ctap2COSEAlgorithmIdentifier
  signature : Bytes
  certificates : List Bytes

structure TpmAttestationStmt where
  version : String
  algorithm : Cose.Ctap2COSEAlgorithmIdentifier
  signature : Bytes
  certificates : List Bytes
  certificateInfo : Bytes
  publicArea : Bytes

structure AppleAnonymousAttestationStmt where
  certificates : List Bytes

inductive Ctap2AttestationStatement where
  | packedOrAndroid (stmt : PackedAttestationStmt)
  | tpm (stmt : TpmAttestationStmt)
  | fidoU2F (stmt : FidoU2fAttestationStmt)
  | appleAnonymous (stmt : AppleAnonymousAttestationStmt)
  /-- The entries of a map, in order. -/
  | none (entries : List (Cbor × Cbor))

/-- `x5c`, which some statements skip when it is empty. -/
def x5cEntry (certificates : List Bytes) : Cbor × Cbor :=
  (.text "x5c", .array (certificates.map .bytes))

def x5cUnlessEmpty (certificates : List Bytes) : List (Cbor × Cbor) :=
  if certificates.isEmpty then [] else [x5cEntry certificates]

def Ctap2AttestationStatement.toCbor : Ctap2AttestationStatement → Cbor
  | .packedOrAndroid stmt =>
      .map <| [(.text "alg", .int stmt.algorithm), (.text "sig", .bytes stmt.signature)]
        ++ x5cUnlessEmpty stmt.certificates
  | .tpm stmt =>
      .map <| [(.text "ver", .text stmt.version), (.text "alg", .int stmt.algorithm),
          (.text "sig", .bytes stmt.signature)]
        ++ x5cUnlessEmpty stmt.certificates
        ++ [(.text "certInfo", .bytes stmt.certificateInfo),
          (.text "pubArea", .bytes stmt.publicArea)]
  | .fidoU2F stmt => .map [(.text "sig", .bytes stmt.signature), x5cEntry stmt.certificates]
  | .appleAnonymous stmt => .map (x5cUnlessEmpty stmt.certificates)
  | .none entries => .map entries

structure AttestationObject where
  format : String
  authData : Bytes
  attestationStatement : Ctap2AttestationStatement

def AttestationObject.toCbor (self : AttestationObject) : Cbor :=
  .map [(.text "fmt", .text self.format), (.text "authData", .bytes self.authData),
    (.text "attStmt", self.attestationStatement.toCbor)]

def buildAttestationObject (format : String) (attestationStatement : Ctap2AttestationStatement)
    (authenticatorDataBytes : Bytes) : Bytes :=
  (AttestationObject.mk format authenticatorDataBytes attestationStatement).toCbor.encode

/-- The errors of `ResponseSerializationError` that are returned. -/
inductive ResponseSerializationError where
  | authenticatorDataError (message : String)
  | publicKeyError (message : String)
  deriving Repr, DecidableEq

abbrev AAGUID_OFFSET : Nat := 37
abbrev AAGUID_LEN : Nat := 16

/-- `authenticator_data` with zeros for the AAGUID. -/
def scrubAaguid (authenticatorData : Bytes) : Except ResponseSerializationError Bytes :=
  if AAGUID_OFFSET + AAGUID_LEN ≤ authenticatorData.length then
    .ok (authenticatorData.take AAGUID_OFFSET ++ List.replicate AAGUID_LEN 0
      ++ authenticatorData.drop (AAGUID_OFFSET + AAGUID_LEN))
  else .error (.authenticatorDataError "authenticator data too short to scrub AAGUID")

/-! ## §3. The models. -/

structure CredentialPropertiesOutputJSON where
  rk : Option Bool
  deriving Repr, DecidableEq

structure LargeBlobOutputJSON where
  supported : Option Bool
  blob : Option String
  written : Option Bool
  deriving Repr, DecidableEq

structure PRFValuesJSON where
  first : String
  second : Option String
  deriving Repr, DecidableEq

structure PRFOutputJSON where
  enabled : Option Bool
  results : Option PRFValuesJSON
  deriving Repr, DecidableEq

structure AuthenticationExtensionsClientOutputsJSON where
  appid : Option Bool := none
  appidExclude : Option Bool := none
  credProps : Option CredentialPropertiesOutputJSON := none
  hmacCreateSecret : Option Bool := none
  largeBlob : Option LargeBlobOutputJSON := none
  prf : Option PRFOutputJSON := none
  deriving Repr, DecidableEq

/-- A `Base64UrlString` is the text of its bytes. -/
structure AuthenticatorAttestationResponseJSON where
  clientDataJson : String
  authenticatorData : String
  transports : List String
  publicKey : Option String
  publicKeyAlgorithm : Int
  attestationObject : String
  deriving Repr, DecidableEq

structure RegistrationResponseJSON where
  id : String
  rawId : String
  response : AuthenticatorAttestationResponseJSON
  authenticatorAttachment : Option String
  clientExtensionResults : AuthenticationExtensionsClientOutputsJSON
  type : String
  deriving Repr, DecidableEq

structure AuthenticatorAssertionResponseJSON where
  clientDataJson : String
  authenticatorData : String
  signature : String
  userHandle : Option String
  deriving Repr, DecidableEq

structure AuthenticationResponseJSON where
  id : String
  rawId : String
  response : AuthenticatorAssertionResponseJSON
  authenticatorAttachment : Option String
  clientExtensionResults : AuthenticationExtensionsClientOutputsJSON
  type : String
  deriving Repr, DecidableEq

/-- A `MakeCredentialResponse` with its statement, and the transport that the
channel stamped. -/
structure StampedMakeCredentialResponse extends MakeCredentialResponse where
  attestationStatement : Ctap2AttestationStatement
  transport : Option Transport

/-- An `Assertion` with the transport that the channel stamped. -/
structure StampedAssertion extends Assertion where
  transport : Option Transport

section

variable (crypto : Crypto) (parse : Bytes → Option Cbor) (crate : Cose.DerCrate)

def prfValuesJson (values : PrfOutputValue) : PRFValuesJSON where
  first := crypto.base64UrlEncode values.first
  second := values.second.map crypto.base64UrlEncode

def MakeCredentialResponse.buildClientExtensionResults (self : MakeCredentialResponse) :
    AuthenticationExtensionsClientOutputsJSON where
  appidExclude := self.unsignedExtensionsOutput.appidExclude
  credProps := self.unsignedExtensionsOutput.credProps.map fun rk => ⟨rk⟩
  hmacCreateSecret := self.unsignedExtensionsOutput.hmacCreateSecret
  largeBlob := self.unsignedExtensionsOutput.largeBlob.map fun supported =>
    ⟨supported, none, none⟩
  prf := self.unsignedExtensionsOutput.prf.map fun prf =>
    ⟨prf.enabled, prf.results.map (prfValuesJson crypto)⟩

def Assertion.buildClientExtensionResults (self : Assertion) :
    AuthenticationExtensionsClientOutputsJSON :=
  match self.unsignedExtensionsOutput with
  | none => {}
  | some unsignedExt =>
      { appid := unsignedExt.appid
        largeBlob := unsignedExt.largeBlob.map fun largeBlob =>
          ⟨none, largeBlob.blob.map crypto.base64UrlEncode, largeBlob.written⟩
        prf := unsignedExt.prf.map fun prf =>
          ⟨none, prf.results.map (prfValuesJson crypto)⟩ }

def MakeCredentialRequest.clientDataJson (self : MakeCredentialRequest) : String :=
  ClientData.toJson crypto ⟨.makeCredential, self.challenge, self.origin, self.topOrigin⟩

def GetAssertionRequest.clientDataJson (self : GetAssertionRequest) : String :=
  ClientData.toJson crypto ⟨.getAssertion, self.challenge, self.origin, self.topOrigin⟩

/-- `map_err` of a `PlatformError`. -/
def mapPlatformError {α : Type} (error : String → ResponseSerializationError)
    (r : Except PlatformError α) : Except ResponseSerializationError α :=
  r.mapError fun _ => error "invalid device response"

def HintedMakeCredentialRequest.scrubs (request : HintedMakeCredentialRequest) : Bool :=
  request.attestation == some "none"

/-- The authenticator data that a relying party is shown. -/
def HintedMakeCredentialRequest.shownBytes (request : HintedMakeCredentialRequest)
    (received : Bytes) : Except ResponseSerializationError Bytes :=
  if request.scrubs then scrubAaguid received else .ok received

/-- The `Ok` of `to_idl_model`, from what is put together before it. -/
def StampedMakeCredentialResponse.registrationModel (self : StampedMakeCredentialResponse)
    (request : HintedMakeCredentialRequest) (attested : AttestedCredentialData)
    (authenticatorDataBytes : Bytes) (publicKeyAlgorithm : Int) (publicKey : Option Bytes)
    (attestationObjectBytes : Bytes) (transports : List String) : RegistrationResponseJSON where
  id := crypto.base64UrlEncode attested.credentialId
  rawId := crypto.base64UrlEncode attested.credentialId
  response :=
    { clientDataJson := crypto.base64UrlEncode (utf8 (request.clientDataJson crypto))
      authenticatorData := crypto.base64UrlEncode authenticatorDataBytes
      transports
      publicKey := publicKey.map crypto.base64UrlEncode
      publicKeyAlgorithm
      attestationObject := crypto.base64UrlEncode attestationObjectBytes }
  authenticatorAttachment := self.transport.map (·.authenticatorAttachment)
  clientExtensionResults := self.buildClientExtensionResults crypto
  type := "public-key"

/-- The format and the statement that are shown. -/
def StampedMakeCredentialResponse.shownStatement (self : StampedMakeCredentialResponse)
    (request : HintedMakeCredentialRequest) : String × Ctap2AttestationStatement :=
  if request.scrubs then ("none", .none []) else (self.format, self.attestationStatement)

/-- `getTransports()`. -/
def StampedMakeCredentialResponse.transports (self : StampedMakeCredentialResponse) :
    List String :=
  sortDedup (self.authenticatorTransports.getD [] ++ registrationTransports self.transport)

theorem StampedMakeCredentialResponse.transports_spec (self : StampedMakeCredentialResponse) :
    self.transports.Pairwise (· < ·)
      ∧ ∀ token, token ∈ self.transports ↔ token ∈ self.authenticatorTransports.getD []
        ∨ ∃ t ∈ self.transport, t.toCtap2.asStr = token := by
  obtain ⟨hsorted, hmem⟩ :=
    sortDedup_spec (self.authenticatorTransports.getD [] ++ registrationTransports self.transport)
  refine ⟨hsorted, fun token => ?_⟩
  unfold StampedMakeCredentialResponse.transports
  rw [hmem, List.mem_append, mem_registrationTransports]

/-- `to_idl_model`, once there is a credential. -/
def StampedMakeCredentialResponse.modelOf
    (toVec : Option Ctap2MakeCredentialsResponseExtensions → Option Bytes)
    (self : StampedMakeCredentialResponse) (request : HintedMakeCredentialRequest)
    (attested : AttestedCredentialData) :
    Except ResponseSerializationError RegistrationResponseJSON := do
  let received ← mapPlatformError .authenticatorDataError
    (self.authenticatorData.toResponseBytes toVec)
  let authenticatorDataBytes ← request.shownBytes received
  let publicKeyAlgorithm ← mapPlatformError .publicKeyError
    (Cose.readAlg parse attested.credentialPublicKey)
  let publicKey ← mapPlatformError .publicKeyError
    (Cose.toSpki parse crate attested.credentialPublicKey)
  let (format, attestationStatement) := self.shownStatement request
  let attestationObjectBytes :=
    buildAttestationObject format attestationStatement authenticatorDataBytes
  pure (self.registrationModel crypto request attested authenticatorDataBytes
    publicKeyAlgorithm publicKey attestationObjectBytes self.transports)

def StampedMakeCredentialResponse.toIdlModel
    (toVec : Option Ctap2MakeCredentialsResponseExtensions → Option Bytes)
    (self : StampedMakeCredentialResponse) (request : HintedMakeCredentialRequest) :
    Except ResponseSerializationError RegistrationResponseJSON :=
  match self.authenticatorData.attestedCredential with
  | none => .error (.authenticatorDataError "missing attested credential data")
  | some attested => self.modelOf crypto parse crate toVec request attested

def StampedAssertion.toIdlModel
    (toVec : Option Ctap2GetAssertionResponseExtensions → Option Bytes)
    (self : StampedAssertion) (request : GetAssertionRequest) :
    Except ResponseSerializationError AuthenticationResponseJSON := do
  let credentialIdBytes := (self.credentialId.map (·.id)).getD []
  let authenticatorDataBytes ← mapPlatformError .authenticatorDataError
    (self.authenticatorData.toResponseBytes toVec)
  pure
    { id := crypto.base64UrlEncode credentialIdBytes
      rawId := crypto.base64UrlEncode credentialIdBytes
      response :=
        { clientDataJson := crypto.base64UrlEncode (utf8 (request.clientDataJson crypto))
          authenticatorData := crypto.base64UrlEncode authenticatorDataBytes
          signature := crypto.base64UrlEncode self.signature
          userHandle := self.user.map fun user => crypto.base64UrlEncode user.id }
      authenticatorAttachment := self.transport.map (·.authenticatorAttachment)
      clientExtensionResults := self.buildClientExtensionResults crypto
      type := "public-key" }

end

/-! ## §4. What a registration tells. -/

theorem mapPlatformError_eq_ok_iff {α : Type} {error : String → ResponseSerializationError}
    {r : Except PlatformError α} {a : α} : mapPlatformError error r = .ok a ↔ r = .ok a := by
  unfold mapPlatformError
  cases r with
  | error e => exact ⟨fun h => (by cases h), fun h => (by cases h)⟩
  | ok a' => exact ⟨fun h => congrArg _ (Except.ok.inj h), fun h => congrArg _ (Except.ok.inj h)⟩

/-- Without the model of the authenticator. -/
def AttestedCredentialData.scrubbed (self : AttestedCredentialData) : AttestedCredentialData :=
  { self with aaguid := List.replicate AAGUID_LEN 0 }

/-- The credential that a relying party is shown. -/
def HintedMakeCredentialRequest.shown (request : HintedMakeCredentialRequest)
    (attested : AttestedCredentialData) : AttestedCredentialData :=
  if request.scrubs then attested.scrubbed else attested

/-- Byte by byte: zero in the AAGUID, and the byte that was there elsewhere. -/
theorem getElem?_scrubAaguid {data bytes : Bytes} (h : scrubAaguid data = .ok bytes) (i : Nat) :
    bytes[i]? =
      if AAGUID_OFFSET ≤ i ∧ i < AAGUID_OFFSET + AAGUID_LEN then some 0 else data[i]? := by
  unfold scrubAaguid at h
  split at h
  next hlong =>
    obtain rfl := Except.ok.inj h
    have htake : (data.take AAGUID_OFFSET).length = AAGUID_OFFSET := by
      rw [List.length_take]
      omega
    have hfront : (data.take AAGUID_OFFSET ++ List.replicate AAGUID_LEN (0 : UInt8)).length
        = AAGUID_OFFSET + AAGUID_LEN := by
      rw [List.length_append, htake, List.length_replicate]
    rcases Nat.lt_or_ge i AAGUID_OFFSET with hbefore | hfrom
    · rw [if_neg (by omega), List.getElem?_append_left (by omega),
        List.getElem?_append_left (by omega), List.getElem?_take_of_lt hbefore]
    rcases Nat.lt_or_ge i (AAGUID_OFFSET + AAGUID_LEN) with hinside | hafter
    · rw [if_pos ⟨hfrom, hinside⟩, List.getElem?_append_left (by omega),
        List.getElem?_append_right (by omega), htake,
        List.getElem?_replicate_of_lt (by omega)]
    · rw [if_neg (by omega), List.getElem?_append_right (by omega), hfront, List.getElem?_drop]
      congr 1
      omega
  next => cases h

section

variable {V X : Type} {cursor : FromCursor V X}

/-- What is scrubbed of authenticator data is the AAGUID of its credential. -/
theorem scrubAaguid_front {self : AuthenticatorData X} (hformed : self.Formed cursor.value)
    {attested : AttestedCredentialData} (hattested : self.attestedCredential = some attested)
    (bytes : Bytes) :
    scrubAaguid (self.front ++ bytes) = .ok
      ({ self with attestedCredential := some attested.scrubbed : AuthenticatorData X }.front
        ++ bytes) := by
  have haaguid := (hformed.credential attested hattested).aaguid
  have hheader : (self.rpIdHash ++ self.flags :: beEncode 4 self.signatureCount).length
      = AAGUID_OFFSET := by
    rw [List.length_append, List.length_cons, beEncode_length, hformed.rpIdHash]
  have hfront : self.front ++ bytes
      = (self.rpIdHash ++ self.flags :: beEncode 4 self.signatureCount)
        ++ (attested.aaguid ++ (beEncode 2 attested.credentialId.length
          ++ attested.credentialId ++ attested.credentialPublicKey ++ bytes)) := by
    unfold AuthenticatorData.front
    rw [hattested, Option.map_some, Option.getD_some, AttestedCredentialData.toBytes_eq]
    simp only [List.append_assoc]
  have hlong : AAGUID_OFFSET + AAGUID_LEN ≤ (self.front ++ bytes).length := by
    rw [hfront, List.length_append, hheader, List.length_append, haaguid]
    exact Nat.add_le_add_left (Nat.le_add_right 16 _) _
  rw [scrubAaguid, if_pos hlong, hfront, List.take_left' hheader, ← List.drop_drop,
    List.drop_left' hheader, List.drop_left' haaguid]
  unfold AuthenticatorData.front
  rw [Option.map_some, Option.getD_some, AttestedCredentialData.toBytes_eq]
  simp only [List.append_assoc]
  rfl

variable (hcursor : cursor.Lawful)

include hcursor

/-- What a relying party is shown of authenticator data that was read. -/
theorem visitBytes_shown {data : Bytes} {self : AuthenticatorData X}
    (hread : visitBytes cursor data = .ok self) {attested : AttestedCredentialData}
    (hattested : self.attestedCredential = some attested)
    (request : HintedMakeCredentialRequest) :
    ∃ bytes, request.shownBytes data = .ok bytes
      ∧ visitBytes cursor bytes = .ok
        { self with
          attestedCredential := some (request.shown attested)
          raw := some bytes } := by
  obtain ⟨hraw, hformed, extensions, rfl, hextensions⟩ := (visitBytes_eq_ok_iff hcursor).mp hread
  unfold HintedMakeCredentialRequest.shown HintedMakeCredentialRequest.shownBytes
  by_cases hscrubs : request.scrubs = true
  · rw [if_pos hscrubs, if_pos hscrubs, scrubAaguid_front hformed hattested]
    refine ⟨_, rfl, (visitBytes_eq_ok_iff hcursor).mpr ⟨rfl, ?_, extensions, rfl, hextensions⟩⟩
    refine ⟨hformed.rpIdHash, hformed.signatureCount, ?_, ?_⟩
    · rw [← hformed.attested, hattested]
      rfl
    · intro credential hmem
      obtain rfl := Option.some.inj hmem
      have hcredential := hformed.credential attested hattested
      exact ⟨List.length_replicate, hcredential.credentialId, hcredential.credentialPublicKey⟩
  · rw [if_neg hscrubs, if_neg hscrubs]
    refine ⟨_, rfl, ?_⟩
    rw [hread]
    obtain ⟨rpIdHash, flags, signatureCount, attestedCredential, _, raw⟩ := self
    dsimp only at hraw hattested ⊢
    rw [hraw, hattested]
    rfl

end

section

variable {V : Type} {cursor : FromCursor V Ctap2MakeCredentialsResponseExtensions}
  {crypto : Crypto} {parse : Bytes → Option Cbor} {crate : Cose.DerCrate}
  {toVec : Option Ctap2MakeCredentialsResponseExtensions → Option Bytes}

/-- The model, once the authenticator data are those that are shown. -/
theorem modelOf_eq {self : StampedMakeCredentialResponse} {data bytes : Bytes}
    (hraw : self.authenticatorData.raw = some data) {request : HintedMakeCredentialRequest}
    (hbytes : request.shownBytes data = .ok bytes) (attested : AttestedCredentialData) :
    self.modelOf crypto parse crate toVec request attested = (do
      let alg ← mapPlatformError .publicKeyError
        (Cose.readAlg parse attested.credentialPublicKey)
      let publicKey ← mapPlatformError .publicKeyError
        (Cose.toSpki parse crate attested.credentialPublicKey)
      pure (self.registrationModel crypto request attested bytes alg publicKey
        (buildAttestationObject (self.shownStatement request).1 (self.shownStatement request).2
          bytes) self.transports)) := by
  have hreceived : self.authenticatorData.toResponseBytes toVec = .ok data := by
    unfold AuthenticatorData.toResponseBytes
    rw [hraw]
  unfold StampedMakeCredentialResponse.modelOf
  rw [hreceived]
  show (request.shownBytes data).bind _ = _
  rw [hbytes]
  rfl

/-- The model of a response, from `data` that were received: the authenticator
data in it are `bytes`, and say what the other members say. -/
structure ReadsBack (crypto : Crypto) (parse : Bytes → Option Cbor) (crate : Cose.DerCrate)
    (cursor : FromCursor V Ctap2MakeCredentialsResponseExtensions)
    (self : StampedMakeCredentialResponse) (data : Bytes) (request : HintedMakeCredentialRequest)
    (json : RegistrationResponseJSON) (attested : AttestedCredentialData) (bytes : Bytes) :
    Prop where
  received : self.authenticatorData.attestedCredential = some attested
  /-- With attestation, not a byte is other than the device sent it. -/
  verbatim : request.scrubs = false → bytes = data
  /-- Without it, no byte but those of the AAGUID, which are zero. -/
  anonymous : request.scrubs = true → ∀ i, bytes[i]? =
    if AAGUID_OFFSET ≤ i ∧ i < AAGUID_OFFSET + AAGUID_LEN then some 0 else data[i]?
  clientDataJson : json.response.clientDataJson = crypto.base64UrlEncode
    (utf8 (ClientData.toJson crypto
      ⟨.makeCredential, request.challenge, request.origin, request.topOrigin⟩))
  authenticatorData : json.response.authenticatorData = crypto.base64UrlEncode bytes
  attestationObject : json.response.attestationObject = crypto.base64UrlEncode
    (AttestationObject.mk (self.shownStatement request).1 bytes
      (self.shownStatement request).2).toCbor.encode
  credential : visitBytes cursor bytes = .ok
    { self.authenticatorData with
      attestedCredential := some (request.shown attested)
      raw := some bytes }
  id : json.id = crypto.base64UrlEncode (request.shown attested).credentialId
  rawId : json.rawId = json.id
  publicKeyAlgorithm : Cose.readAlg parse (request.shown attested).credentialPublicKey
    = .ok json.response.publicKeyAlgorithm
  publicKey : ∃ publicKey,
    Cose.toSpki parse crate (request.shown attested).credentialPublicKey = .ok publicKey
      ∧ json.response.publicKey = publicKey.map crypto.base64UrlEncode
  /-- Sorted, each once: those of the authenticator and the one it was reached by. -/
  transports : json.response.transports.Pairwise (· < ·)
    ∧ ∀ token, token ∈ json.response.transports ↔ token ∈ self.authenticatorTransports.getD []
      ∨ ∃ t ∈ self.transport, t.toCtap2.asStr = token

/-- **A registration read back**: the authenticator data of the model are what
the device sent, but for the AAGUID when no attestation was asked for, and so
are those in the attestation object; and the credential in them is the one that
the other members name. -/
theorem registration_readBack (hcursor : cursor.Lawful) {self : StampedMakeCredentialResponse}
    {data : Bytes} (hread : visitBytes cursor data = .ok self.authenticatorData)
    {request : HintedMakeCredentialRequest} {json : RegistrationResponseJSON}
    (h : self.toIdlModel crypto parse crate toVec request = .ok json) :
    ∃ received bytes,
      ReadsBack crypto parse crate cursor self data request json received bytes := by
  have hraw := ((visitBytes_eq_ok_iff hcursor).mp hread).1
  unfold StampedMakeCredentialResponse.toIdlModel at h
  split at h
  next => cases h
  next received hattested =>
  obtain ⟨bytes, hbytes, hshown⟩ := visitBytes_shown hcursor hread hattested request
  rw [modelOf_eq hraw hbytes] at h
  obtain ⟨alg, halg, h⟩ := except_bind_eq_ok_iff.mp h
  obtain ⟨publicKey, hkey, h⟩ := except_bind_eq_ok_iff.mp h
  obtain rfl := Except.ok.inj h
  have hid : (request.shown received).credentialId = received.credentialId := by
    unfold HintedMakeCredentialRequest.shown
    split <;> rfl
  have hsame : (request.shown received).credentialPublicKey = received.credentialPublicKey := by
    unfold HintedMakeCredentialRequest.shown
    split <;> rfl
  unfold HintedMakeCredentialRequest.shownBytes at hbytes
  refine ⟨received, bytes, hattested, fun hscrubs => ?_, fun hscrubs => ?_, rfl, rfl, rfl,
    hshown, ?_, rfl, ?_, ⟨publicKey, ?_, rfl⟩, self.transports_spec⟩
  · rw [if_neg (by rw [hscrubs]; exact Bool.false_ne_true)] at hbytes
    exact (Except.ok.inj hbytes).symm
  · rw [if_pos hscrubs] at hbytes
    exact getElem?_scrubAaguid hbytes
  · rw [hid]
    rfl
  · rw [hsame]
    exact mapPlatformError_eq_ok_iff.mp halg
  · rw [hsame]
    exact mapPlatformError_eq_ok_iff.mp hkey

/-- A response of another authenticator: another AAGUID, statement and format. -/
def StampedMakeCredentialResponse.withProvenance (self : StampedMakeCredentialResponse)
    (format : String) (attestationStatement : Ctap2AttestationStatement)
    (authenticatorData : AuthenticatorData Ctap2MakeCredentialsResponseExtensions) :
    StampedMakeCredentialResponse :=
  { self with format, attestationStatement, authenticatorData }

/-- The header of authenticator data. -/
theorem take_of_visitBytes (hcursor : cursor.Lawful) {data : Bytes}
    {self : AuthenticatorData Ctap2MakeCredentialsResponseExtensions}
    (hread : visitBytes cursor data = .ok self) :
    data.take AAGUID_OFFSET = self.rpIdHash ++ self.flags :: beEncode 4 self.signatureCount
      ∧ self.rpIdHash.length = 32 := by
  obtain ⟨-, hformed, extensions, rfl, -⟩ := (visitBytes_eq_ok_iff hcursor).mp hread
  refine ⟨?_, hformed.rpIdHash⟩
  unfold AuthenticatorData.front
  rw [List.append_assoc, List.take_left']
  rw [List.length_append, List.length_cons, beEncode_length, hformed.rpIdHash]

/-- Only what is left of the AAGUID shows. -/
theorem scrubAaguid_congr {data data' bytes bytes' : Bytes}
    (hfront : data.take AAGUID_OFFSET = data'.take AAGUID_OFFSET)
    (hback : data.drop (AAGUID_OFFSET + AAGUID_LEN) = data'.drop (AAGUID_OFFSET + AAGUID_LEN))
    (h : scrubAaguid data = .ok bytes) (h' : scrubAaguid data' = .ok bytes') :
    bytes = bytes' := by
  unfold scrubAaguid at h h'
  split at h
  next =>
    split at h'
    next =>
      rw [← Except.ok.inj h, ← Except.ok.inj h', hfront, hback]
    next => cases h'
  next => cases h

/-- **Without attestation** the model is the same whatever the AAGUID, the
statement and its format were. -/
theorem registration_anonymous (hcursor : cursor.Lawful) {self : StampedMakeCredentialResponse}
    {data data' : Bytes}
    {authenticatorData : AuthenticatorData Ctap2MakeCredentialsResponseExtensions}
    (hread : visitBytes cursor data = .ok self.authenticatorData)
    (hread' : visitBytes cursor data' = .ok authenticatorData)
    (hfront : data.take AAGUID_OFFSET = data'.take AAGUID_OFFSET)
    (hback : data.drop (AAGUID_OFFSET + AAGUID_LEN) = data'.drop (AAGUID_OFFSET + AAGUID_LEN))
    {request : HintedMakeCredentialRequest} (hnone : request.attestation = some "none")
    (format : String) (attestationStatement : Ctap2AttestationStatement) :
    (self.withProvenance format attestationStatement authenticatorData).toIdlModel
        crypto parse crate toVec request
      = self.toIdlModel crypto parse crate toVec request := by
  have hscrubs : request.scrubs = true := by
    unfold HintedMakeCredentialRequest.scrubs
    rw [hnone]
    rfl
  obtain ⟨hraw, hformed, -⟩ := (visitBytes_eq_ok_iff hcursor).mp hread
  obtain ⟨hraw', hformed', -⟩ := (visitBytes_eq_ok_iff hcursor).mp hread'
  obtain ⟨htake, hhash⟩ := take_of_visitBytes hcursor hread
  obtain ⟨htake', hhash'⟩ := take_of_visitBytes hcursor hread'
  -- the flags are before the AAGUID, and say whether there is a credential
  have hheader := (htake.symm.trans hfront).trans htake'
  have hflags := (List.cons.inj (List.append_inj hheader (hhash.trans hhash'.symm)).2).1
  have hsome := hformed.attested.trans ((congrArg (flagsContain · _) hflags).trans
    hformed'.attested.symm)
  unfold StampedMakeCredentialResponse.toIdlModel
  rw [show (self.withProvenance format attestationStatement authenticatorData).authenticatorData
    = authenticatorData from rfl]
  cases hattested : self.authenticatorData.attestedCredential with
  | none =>
      rw [hattested] at hsome
      rw [Option.isNone_iff_eq_none.mp (Option.isSome_eq_false_iff.mp hsome.symm)]
  | some attested =>
      rw [hattested] at hsome
      obtain ⟨attested', hattested'⟩ := Option.isSome_iff_exists.mp hsome.symm
      rw [hattested']
      obtain ⟨bytes, hbytes, hshown⟩ := visitBytes_shown hcursor hread hattested request
      obtain ⟨bytes', hbytes', hshown'⟩ := visitBytes_shown hcursor hread' hattested' request
      have hbytesOf : ∀ data, request.shownBytes data = scrubAaguid data := fun _ => if_pos hscrubs
      obtain rfl := scrubAaguid_congr hfront hback ((hbytesOf data).symm.trans hbytes)
        ((hbytesOf data').symm.trans hbytes')
      -- what is shown of the two credentials is read from the same bytes
      have hsame : attested.scrubbed = attested'.scrubbed := by
        have hcredential := congrArg AuthenticatorData.attestedCredential
          (Except.ok.inj (hshown.symm.trans hshown'))
        have hshownOf : ∀ a, request.shown a = a.scrubbed := fun _ => if_pos hscrubs
        rw [hshownOf, hshownOf] at hcredential
        exact Option.some.inj hcredential
      have hid : attested'.credentialId = attested.credentialId := by
        have hscrubbed := congrArg AttestedCredentialData.credentialId hsame
        exact hscrubbed.symm
      have hkey : attested'.credentialPublicKey = attested.credentialPublicKey := by
        have hscrubbed := congrArg AttestedCredentialData.credentialPublicKey hsame
        exact hscrubbed.symm
      have hmodel : ∀ alg publicKey,
          (self.withProvenance format attestationStatement authenticatorData).registrationModel
              crypto request attested' bytes alg publicKey
              (buildAttestationObject "none" (.none []) bytes)
              (self.withProvenance format attestationStatement authenticatorData).transports
            = self.registrationModel crypto request attested bytes alg publicKey
              (buildAttestationObject "none" (.none []) bytes) self.transports := by
        intro alg publicKey
        unfold StampedMakeCredentialResponse.registrationModel
        rw [hid]
        rfl
      have hstatement : ∀ response : StampedMakeCredentialResponse,
          response.shownStatement request = ("none", .none []) := fun _ => if_pos hscrubs
      dsimp only
      rw [modelOf_eq hraw' hbytes', modelOf_eq hraw hbytes, hkey, hstatement, hstatement]
      simp only [hmodel]

end

/-! ### A registration of a P-256 key. -/

/-- A reader for responses without extensions. -/
def plainCursor : FromCursor Cbor Ctap2MakeCredentialsResponseExtensions where
  value := Cbor.readItem 4
  extensions := Reader.fail

theorem lawful_plainCursor : plainCursor.Lawful where
  value := Cbor.exact_readItem 4
  extensions := Reader.Exact.fail

/-- The COSE_Key of `Cose.p256Cose`. -/
def p256CoseBytes : Bytes := (Cbor.map Cose.p256Cose).encode

def registeredBy (aaguid : UInt8) : AuthenticatorData Ctap2MakeCredentialsResponseExtensions where
  rpIdHash := List.replicate 32 0xA3
  flags := 0x45
  signatureCount := 7
  attestedCredential := some ⟨List.replicate 16 aaguid, [0x01, 0x01, 0x03], p256CoseBytes⟩
  extensions := none
  raw := none

theorem formed_registeredBy (aaguid : UInt8) :
    (registeredBy aaguid).Formed plainCursor.value where
  rpIdHash := List.length_replicate
  signatureCount := by
    show 7 < 2 ^ 32
    decide
  attested := by
    show true = flagsContain 0x45 ATTESTED_CREDENTIALS
    decide
  credential := by
    intro attested hmem
    obtain rfl := Option.some.inj hmem
    have hitem := Cbor.reads_encode 4 (Cbor.map Cose.p256Cose) (by simp [Cose.p256Cose, Cbor.Fits])
    exact ⟨List.length_replicate, Nat.le_of_ble_eq_true rfl, _, hitem.apply⟩

theorem visitBytes_registeredBy (aaguid : UInt8) :
    visitBytes plainCursor (registeredBy aaguid).front
      = .ok { registeredBy aaguid with raw := some (registeredBy aaguid).front } := by
  refine (visitBytes_eq_ok_iff lawful_plainCursor).mpr ⟨rfl, ?_, [], ?_, ?_⟩
  · have hformed := formed_registeredBy aaguid
    exact ⟨hformed.rpIdHash, hformed.signatureCount, hformed.attested, hformed.credential⟩
  · exact (List.append_nil _).symm
  · show plainCursor.ReadsExtensions 0x45 [] none
    unfold FromCursor.ReadsExtensions
    rw [if_neg (by decide)]
    exact ⟨rfl, rfl⟩

def registrationBy (aaguid : UInt8) : StampedMakeCredentialResponse where
  format := "packed"
  authenticatorData := { registeredBy aaguid with raw := some (registeredBy aaguid).front }
  enterpriseAttestation := none
  largeBlobKey := none
  unsignedExtensionsOutput := ⟨none, none, none, none, none⟩
  authenticatorTransports := none
  attestationStatement := .packedOrAndroid ⟨-7, [0x30], []⟩
  transport := some .usb

def anonymousRequest : HintedMakeCredentialRequest where
  challenge := [0x01]
  origin := "https://example.org"
  topOrigin := none
  relyingParty := ⟨"example.org", none⟩
  user := ⟨[0x02], none, none⟩
  residentKey := none
  userVerification := .preferred
  algorithms := []
  exclude := none
  extensions := none
  hints := []
  authenticatorAttachment := none
  attestation := some "none"
  timeout := 60000

theorem registration_anonymous_p256 :
    ((registrationBy 0x24).withProvenance "tpm" (.none [])
        (registrationBy 0x25).authenticatorData).toIdlModel transparentCrypto
          (Reader.whole (Cbor.readItem 4)) Cose.derCrate (fun _ => none) anonymousRequest
      = (registrationBy 0x24).toIdlModel transparentCrypto (Reader.whole (Cbor.readItem 4))
        Cose.derCrate (fun _ => none) anonymousRequest :=
  registration_anonymous lawful_plainCursor (visitBytes_registeredBy 0x24)
    (visitBytes_registeredBy 0x25) (by decide +kernel) (by decide +kernel) rfl "tpm" (.none [])

theorem registration_readBack_p256 :
    ∃ json, (registrationBy 0x24).toIdlModel transparentCrypto (Reader.whole (Cbor.readItem 4))
        Cose.derCrate (fun _ => none) anonymousRequest = .ok json
      ∧ ∃ received bytes, ReadsBack transparentCrypto (Reader.whole (Cbor.readItem 4))
        Cose.derCrate plainCursor (registrationBy 0x24) (registeredBy 0x24).front
        anonymousRequest json received bytes := by
  have hparse : Reader.whole (Cbor.readItem 4) p256CoseBytes = some (.map Cose.p256Cose) :=
    (Cbor.reads_encode 4 _ (by simp [Cose.p256Cose, Cbor.Fits])).whole
  have halg : Cose.readAlg (Reader.whole (Cbor.readItem 4)) p256CoseBytes = .ok Cose.ES256 := by
    unfold Cose.readAlg
    rw [(Cose.parseCoseMap_eq_ok_iff _).mpr hparse]
    rfl
  have hkey : Cose.CoseMap.IsKey Cose.p256Cose Cose.p256Key := ⟨Or.inl rfl, rfl, rfl, rfl, rfl⟩
  have hspki : Cose.toSpki (Reader.whole (Cbor.readItem 4)) Cose.derCrate p256CoseBytes
      = .ok (some Cose.p256Key.info.toDer) := by
    rw [Cose.toSpki_of_isKey _ _ Cose.documented_derCrate hparse hkey,
      Cose.fitting_of_le (by decide)]
    rfl
  obtain ⟨bytes, hbytes, -⟩ := visitBytes_shown lawful_plainCursor (visitBytes_registeredBy 0x24)
    rfl anonymousRequest
  have hmodel := @modelOf_eq transparentCrypto (Reader.whole (Cbor.readItem 4)) Cose.derCrate
    (fun _ => none) (registrationBy 0x24) _ bytes rfl anonymousRequest hbytes
    ⟨List.replicate 16 0x24, [0x01, 0x01, 0x03], p256CoseBytes⟩
  rw [halg, hspki] at hmodel
  have hjson : (registrationBy 0x24).toIdlModel transparentCrypto (Reader.whole (Cbor.readItem 4))
      Cose.derCrate (fun _ => none) anonymousRequest = .ok _ := hmodel
  exact ⟨_, hjson, registration_readBack lawful_plainCursor (visitBytes_registeredBy 0x24) hjson⟩

end Libwebauthn
