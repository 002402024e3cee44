/-
  Libwebauthn.Ops.U2f — U2F requests made of WebAuthn operations, and results
  made of U2F responses (`src/ops/u2f.rs`, with `DowngradableRequest` of
  `src/ops/webauthn/{make_credential,get_assertion}.rs` and
  `to_response_bytes` of `src/fido.rs`).

  The points of SEC 1 come from a third-party crate: `EncodedPoints` stands
  for its parser, which gives the coordinates a point has.
-/
import Libwebauthn.Ctap1.Model
import Libwebauthn.Ctap2.MakeCredential

namespace Libwebauthn

/-- `EncodedPoint::from_bytes`, with `x()` and `y()` of the point. -/
abbrev EncodedPoints := Bytes → Option (Option Bytes × Option Bytes)

/-! ## §1. Authenticator data. -/

def USER_PRESENT : UInt8 := 0x01
def ATTESTED_CREDENTIALS : UInt8 := 0x40
def EXTENSION_DATA : UInt8 := 0x80

def AttestedCredentialData.toBytes (self : AttestedCredentialData) : Bytes :=
  self.aaguid ++ beEncode 2 self.credentialId.length ++ self.credentialId
    ++ self.credentialPublicKey

/-- What a device sent is given back as it was; anything else is put together
from the fields.  `toVec` writes the extensions. -/
def AuthenticatorData.toResponseBytes {X : Type} (toVec : Option X → Option Bytes)
    (self : AuthenticatorData X) : Except PlatformError Bytes :=
  match self.raw with
  | some raw => .ok raw
  | none =>
      let res := self.rpIdHash ++ self.flags :: beEncode 4 self.signatureCount
        ++ (self.attestedCredential.map AttestedCredentialData.toBytes).getD []
      if self.extensions.isSome || self.flags &&& EXTENSION_DATA == EXTENSION_DATA then
        match toVec self.extensions with
        | some extensions => .ok (res ++ extensions)
        | none => .error .invalidDeviceResponse
      else .ok res

/-! ## §2. Downgrades. -/

/-- `TryFrom<&Ctap2Transport>`. -/
def Ctap1Transport.tryFrom : Ctap2Transport → Except CtapError Ctap1Transport
  | .ble => .ok .ble
  | .usb => .ok .usb
  | .nfc => .ok .nfc
  | _ => .error .unsupportedOption

namespace MakeCredentialRequest

variable (crypto : Crypto) (self : MakeCredentialRequest)

def isDowngradable : Bool :=
  -- ES256 is among the algorithms
  self.algorithms.any (fun a => a.algorithm == -7)
    && self.residentKey != some .required
    && self.userVerification != .required
    && (self.extensions.bind (·.credProtect)).all (fun credProtect =>
      !(credProtect.enforcePolicy && credProtect.policy != .userVerificationOptional))
    && self.extensions.bind (·.largeBlob) != some .required

def tryDowngrade : Ctap1RegisterRequest where
  version := .u2fV2
  appIdHash := crypto.sha256 (utf8 self.relyingParty.id)
  challenge := self.clientDataHash crypto
  registeredKeys := (self.exclude.getD []).map fun exclude =>
    { version := .u2fV2
      keyHandle := exclude.id
      -- one transport that U2F does not know drops them all
      transports := exclude.transports.bind fun transports =>
        (transports.mapM Ctap1Transport.tryFrom).toOption
      appId := some self.relyingParty.id }
  requireUserPresence := true

end MakeCredentialRequest

/-- `SignRequest::new_upgraded`. -/
def Ctap1SignRequest.newUpgraded (rpIdHash challenge keyHandle : Bytes) : Ctap1SignRequest :=
  ⟨rpIdHash, challenge, keyHandle, true⟩

namespace GetAssertionRequest

variable (crypto : Crypto) (self : GetAssertionRequest)

def isDowngradable : Bool :=
  self.userVerification != .required
    && !self.allow.isEmpty
    && (match self.extensions.bind (·.largeBlob) with
      | some (.write _) | some .delete => false
      | _ => true)

/-- The hash of the legacy AppID, where the caller gave one. -/
def appidHash : Option Bytes :=
  (self.extensions.bind (·.appid)).map fun appid => crypto.sha256 (utf8 appid)

/-- For every credential a request under the relying party, and one under
the AppID. -/
def tryDowngrade : List Ctap1SignRequest :=
  let challenge := self.clientDataHash crypto
  let rpIdHash := crypto.sha256 (utf8 self.relyingPartyId)
  self.allow.flatMap fun credential =>
    .newUpgraded rpIdHash challenge credential.id
      :: ((self.appidHash crypto).map fun appidHash =>
        Ctap1SignRequest.newUpgraded appidHash challenge credential.id).toList

/-- The sign requests carry the operation's own client data hash. -/
theorem sized_of_mem_tryDowngrade {crypto : Crypto} {op : GetAssertionRequest}
    {request : Ctap1SignRequest} (h : request ∈ op.tryDowngrade crypto) :
    request.challenge = op.clientDataHash crypto ∧ request.appIdHash.length = 32 := by
  unfold tryDowngrade at h
  obtain ⟨credential, -, hrequest⟩ := List.mem_flatMap.mp h
  rcases List.mem_cons.mp hrequest with rfl | hlegacy
  · exact ⟨rfl, crypto.sha256_length _⟩
  · obtain ⟨hash, hhash, rfl⟩ := Option.map_eq_some_iff.mp (Option.mem_toList.mp hlegacy)
    obtain ⟨appid, -, rfl⟩ := Option.map_eq_some_iff.mp hhash
    exact ⟨rfl, crypto.sha256_length _⟩

end GetAssertionRequest

/-! ## §3. Upgrades. -/

structure FidoU2fAttestationStmt where
  signature : Bytes
  certificates : List Bytes
  deriving Repr, DecidableEq

namespace Ctap1RegisterResponse

variable {T : Type} (crypto : Crypto) (encodedPoint : EncodedPoints)
  (self : Ctap1RegisterResponse)

/-- A coordinate the point has to have. -/
def present (coordinate : Option Bytes) (missing : String) : Except (WebAuthnError T) Bytes :=
  match coordinate with
  | none => .error (.platform (.cryptoError missing))
  | some bytes => .ok bytes

/-- A vector of at most 32 bytes. -/
def fromSlice (bytes : Bytes) (tooLong : String) : Except (WebAuthnError T) Bytes :=
  if bytes.length ≤ 32 then .ok bytes else .error (.platform (.cryptoError tooLong))

/-- The public key as a COSE key. -/
def cosePublicKey : Except (WebAuthnError T) Bytes := do
  match encodedPoint self.publicKey with
  | none => .error (.ctap .other)
  | some point => do
      let xBytes ← present point.1 "public key is the identity point"
      let yBytes ← present point.2 "public key is identity or compressed"
      let x ← fromSlice xBytes "x coordinate exceeds 32 bytes"
      let y ← fromSlice yBytes "y coordinate exceeds 32 bytes"
      let coseEncodedPublicKey := (PublicKey.p256Key x y).toCbor.encode
      if coseEncodedPublicKey.length ≠ 77 then
        .error (.platform (.cryptoError "unexpected COSE-encoded public key length"))
      else .ok coseEncodedPublicKey

/-- The statement that goes with the upgraded response. -/
def attestationStatement : FidoU2fAttestationStmt := ⟨self.signature, [self.attestation]⟩

def tryUpgrade (request : MakeCredentialRequest) :
    Except (WebAuthnError T) MakeCredentialResponse := do
  let coseEncodedPublicKey ← self.cosePublicKey encodedPoint
  let resp : Ctap2MakeCredentialResponse :=
    { format := "fido-u2f"
      authenticatorData :=
        { rpIdHash := crypto.sha256 (utf8 request.relyingParty.id)
          flags := USER_PRESENT ||| ATTESTED_CREDENTIALS
          signatureCount := 0
          attestedCredential :=
            some ⟨List.replicate 16 0, self.keyHandle, coseEncodedPublicKey⟩
          extensions := none
          raw := none }
      enterpriseAttestation := none
      largeBlobKey := none
      unsignedPrf := none }
  .ok (resp.intoMakeCredentialOutput crypto request none none)

end Ctap1RegisterResponse

namespace Ctap1SignResponse

variable {T : Type} (crypto : Crypto) (self : Ctap1SignResponse)

/-- The request that stands for the original one, which is not at hand. -/
def origRequest (request : Ctap1SignRequest) : GetAssertionRequest where
  relyingPartyId := ""
  challenge := []
  origin := ""
  topOrigin := none
  allow := [⟨request.keyHandle, .publicKey, none⟩]
  extensions := none
  userVerification := if request.requireUserPresence then .required else .preferred

/-- The user presence byte of the response is not asked: UP is always set,
and bit 1 never. -/
def tryUpgrade (request : Ctap1SignRequest) : Except (WebAuthnError T) (List Assertion) :=
  if request.appIdHash.length ≠ 32 then .error (.platform .invalidDeviceResponse)
  else
    let response : Ctap2GetAssertionResponse :=
      { credentialId := some ⟨request.keyHandle, .publicKey, none⟩
        authenticatorData :=
          { rpIdHash := request.appIdHash
            flags := USER_PRESENT
            signatureCount := self.counter
            attestedCredential := none
            extensions := none
            raw := none }
        signature := self.signature
        user := none
        credentialsCount := none
        userSelected := none
        largeBlobKey := none
        unsignedPrf := none }
    .ok [response.intoAssertionOutput crypto (origRequest request) none]

end Ctap1SignResponse

end Libwebauthn
