/-
  Libwebauthn.Webauthn.MessageSize — the device's limits and the requests on
  the wire (`enforce_*_limits` of `src/webauthn.rs`).

  The limits are enforced once, on the request the retry loop is entered
  with.  Every turn then writes into it: a pinUvAuthParam or the `uv` option,
  and an hmac-secret envelope.  Which of these, and under which protocol, is
  told by the cached token and the getInfo answers (`Verification.written`,
  `Verification.keys`), and so is the head-room it takes (`reserveGet`,
  `reserveMake`).
-/
import Libwebauthn.Webauthn.Restricted
import Libwebauthn.Webauthn.PrfSalts

namespace Libwebauthn

open Platform Ctap2UserVerifiableRequest

variable {σ T : Type}

/-! ## §1. What a turn writes. -/

/-- AES-CBC without padding, by its lengths: whole blocks are encrypted to as
many under a key of 32 bytes, and under no other. -/
def Crypto.CbcSizes (crypto : Crypto) : Prop :=
  ∀ key iv plaintext : Bytes, iv.length = 16 → plaintext.length % 16 = 0 →
    if key.length = 32 then
      ∃ ciphertext, crypto.aes256CbcEncrypt key iv plaintext = some ciphertext
        ∧ ciphertext.length = plaintext.length
    else crypto.aes256CbcEncrypt key iv plaintext = none

/-- The lengths of what the cryptography of the platform yields. -/
structure Crypto.Sizes (crypto : Crypto) : Prop where
  cbc : crypto.CbcSizes
  hkdf : ∀ salt ikm info, (crypto.hkdfSha256 salt ikm info 32).length = 32
  publicKey : ∀ privateKey : Bytes, privateKey.length = 32 →
    (crypto.publicKey privateKey).1.length = 32 ∧ (crypto.publicKey privateKey).2.length = 32

def blankBytes (n : Nat) : Bytes := List.replicate n 0

/-- The length of an authentication parameter. -/
def Ctap2PinUvAuthProtocol.paramLength : Ctap2PinUvAuthProtocol → Nat
  | .one => 16
  | .two => 32

/-- A parameter is as long as its protocol says, whatever the message. -/
theorem Ctap2PinUvAuthProtocol.length_authenticate {crypto : Crypto}
    {version : Ctap2PinUvAuthProtocol} {key message param : Bytes}
    (h : version.authenticate crypto key message = .ok param) :
    param.length = version.paramLength := by
  cases version with
  | one =>
      rw [← Except.ok.inj h, List.length_take, crypto.hmacSha256_length]
      rfl
  | two =>
      unfold authenticate at h
      dsimp only at h
      split at h
      · cases h
      · rw [← Except.ok.inj h, crypto.hmacSha256_length]
        rfl

/-- Protocol two sends its IV in front. -/
def Ctap2PinUvAuthProtocol.sealedLength : Ctap2PinUvAuthProtocol → (n : Nat) → Nat
  | .one, n => n
  | .two, n => 16 + n

/-- A shared secret of the size that the protocol encrypts under. -/
def AuthTokenData.seals (self : AuthTokenData) : Bool :=
  match self.protocolVersion with
  | .one => self.sharedSecret.length == 32
  | .two => self.sharedSecret.length == 64

/-- What AES takes comes out in whole blocks, behind the vector of the second
protocol. -/
theorem AuthTokenData.encrypt_of_seals {crypto : Crypto} (hcbc : crypto.CbcSizes)
    {data : AuthTokenData} (hseals : data.seals = true) {iv salts : Bytes}
    (hiv : iv.length = 16) (hblocks : salts.length % 16 = 0) :
    ∃ saltEnc, data.protocolVersion.encrypt crypto iv data.sharedSecret salts = .ok saltEnc
      ∧ saltEnc.length = data.protocolVersion.sealedLength salts.length := by
  unfold seals at hseals
  cases hversion : data.protocolVersion with
  | one =>
      rw [hversion] at hseals
      have hkey := hcbc data.sharedSecret (List.replicate 16 0) salts rfl hblocks
      rw [if_pos (eq_of_beq hseals)] at hkey
      obtain ⟨ciphertext, hencrypt, hlength⟩ := hkey
      refine ⟨ciphertext, ?_, hlength⟩
      unfold Ctap2PinUvAuthProtocol.encrypt
      dsimp only
      rw [hencrypt]
  | two =>
      rw [hversion] at hseals
      have hsecret : data.sharedSecret.length = 64 := eq_of_beq hseals
      have hkey := hcbc (data.sharedSecret.drop 32) iv salts hiv hblocks
      rw [if_pos (by rw [List.length_drop, hsecret])] at hkey
      obtain ⟨ciphertext, hencrypt, hlength⟩ := hkey
      refine ⟨iv ++ ciphertext, ?_, ?_⟩
      · unfold Ctap2PinUvAuthProtocol.encrypt
        dsimp only
        rw [if_neg (by omega), hencrypt]
      · rw [List.length_append, hiv, hlength]
        rfl

/-- A key of no AES length is refused before anything is sealed. -/
theorem AuthTokenData.encrypt_of_not_seals {crypto : Crypto} (hcbc : crypto.CbcSizes)
    {data : AuthTokenData} (hseals : data.seals = false) {iv salts : Bytes}
    (hiv : iv.length = 16) (hblocks : salts.length % 16 = 0) :
    data.protocolVersion.encrypt crypto iv data.sharedSecret salts = .error cryptoFailed := by
  unfold seals at hseals
  cases hversion : data.protocolVersion with
  | one =>
      rw [hversion] at hseals
      have hkey := hcbc data.sharedSecret (List.replicate 16 0) salts rfl hblocks
      rw [if_neg fun h => by simp [h] at hseals] at hkey
      unfold Ctap2PinUvAuthProtocol.encrypt
      dsimp only
      rw [hkey]
  | two =>
      rw [hversion] at hseals
      have hsecret : data.sharedSecret.length ≠ 64 := fun h => by simp [h] at hseals
      unfold Ctap2PinUvAuthProtocol.encrypt
      dsimp only
      by_cases hshort : data.sharedSecret.length < 32
      · rw [if_pos hshort]
      · have hkey := hcbc (data.sharedSecret.drop 32) iv salts hiv hblocks
        rw [if_neg (by rw [List.length_drop]; omega)] at hkey
        rw [if_neg hshort, hkey]

/-- A P-256 key with zeros for its coordinates. -/
def PublicKey.blanked : PublicKey → PublicKey
  | .ecdhEsHkdf256Key x y => .ecdhEsHkdf256Key (blankBytes x.length) (blankBytes y.length)
  | key => key

/-- The keys of an envelope, as far as its size depends on them: the protocol,
the platform's key, and whether the secret is one to seal with. -/
structure EnvelopeKeys where
  protocol : Ctap2PinUvAuthProtocol
  publicKey : PublicKey
  seals : Bool
  deriving Repr, DecidableEq

def AuthTokenData.keys (self : AuthTokenData) : EnvelopeKeys :=
  ⟨self.protocolVersion, self.keyAgreement.blanked, self.seals⟩

/-- The keys of a key agreement. -/
def EnvelopeKeys.agreed (protocol : Ctap2PinUvAuthProtocol) : EnvelopeKeys :=
  ⟨protocol, .ecdhEsHkdf256Key (blankBytes 32) (blankBytes 32), true⟩

/-- Keys that were agreed on have these sizes. -/
theorem AuthTokenData.AgreedUnder.keys {crypto : Crypto} (hsizes : crypto.Sizes)
    {info : Ctap2GetInfoResponse} {data : AuthTokenData} (h : data.AgreedUnder crypto info) :
    info.uvProto.map EnvelopeKeys.agreed = some data.keys := by
  obtain ⟨privateKey, hagreed⟩ := h
  obtain ⟨peer, hencapsulate⟩ := hagreed.encapsulated
  obtain ⟨sharedSecret, hecdh, hencapsulate⟩ := except_bind_eq_ok_iff.mp hencapsulate
  obtain ⟨hpublic, hsecret⟩ := Prod.mk.inj (Except.ok.inj hencapsulate)
  rw [hagreed.selected, Option.map_some]
  -- the platform's coordinates, and the output of the key derivation
  have hkey : data.keyAgreement.blanked
      = .ecdhEsHkdf256Key (blankBytes 32) (blankBytes 32) := by
    rw [← hpublic]
    unfold PinUvAuthProtocol.getPublicKey PublicKey.blanked
    dsimp only
    rw [(hsizes.publicKey privateKey hagreed.drawn).1,
      (hsizes.publicKey privateKey hagreed.drawn).2]
  have hseals : data.seals = true := by
    unfold PinUvAuthProtocol.ecdh at hecdh
    split at hecdh
    case h_2 => cases hecdh
    split at hecdh
    case isFalse => cases hecdh
    split at hecdh
    case h_2 => cases hecdh
    rw [← Except.ok.inj hecdh] at hsecret
    unfold AuthTokenData.seals
    rw [← hsecret]
    unfold PinUvAuthProtocol.kdf
    cases data.protocolVersion with
    | one => simp [crypto.sha256_length]
    | two => simp [hsizes.hkdf]
  unfold EnvelopeKeys.agreed AuthTokenData.keys
  rw [hkey, hseals]

/-- The envelope with zeros in place of what is computed. -/
def CalculatedHMACGetSecretInput.blanked (self : CalculatedHMACGetSecretInput) :
    CalculatedHMACGetSecretInput where
  publicKey := self.publicKey.blanked
  saltEnc := blankBytes self.saltEnc.length
  saltAuth := blankBytes self.saltAuth.length
  pinAuthProto := self.pinAuthProto

/-- The envelope of some salts with zeros, under keys of that kind. -/
def blankEnvelope (keys : EnvelopeKeys) (input : HMACGetSecretInput) :
    CalculatedHMACGetSecretInput where
  publicKey := keys.publicKey.blanked
  saltEnc := blankBytes (keys.protocol.sealedLength input.salts.length)
  saltAuth := blankBytes keys.protocol.paramLength
  pinAuthProto := some keys.protocol.toNat

theorem PublicKey.blanked_blanked (key : PublicKey) : key.blanked.blanked = key.blanked := by
  cases key with
  | ecdhEsHkdf256Key x y =>
      unfold blanked blankBytes
      simp only [List.length_replicate]
  | _ => rfl

/-- A reserved envelope has nothing left to blank. -/
theorem blanked_blankEnvelope (keys : EnvelopeKeys) (input : HMACGetSecretInput) :
    (blankEnvelope keys input).blanked = blankEnvelope keys input := by
  unfold blankEnvelope CalculatedHMACGetSecretInput.blanked
  dsimp only
  rw [PublicKey.blanked_blanked]
  unfold blankBytes
  simp only [List.length_replicate]

/-- The envelope of a turn, up to what is computed; none when the channel's
secret is not one to seal with. -/
theorem blanked_sealSalts {crypto : Crypto} (hcbc : crypto.CbcSizes) {data : AuthTokenData}
    {iv : Bytes} (hiv : iv.length = 16) {input : HMACGetSecretInput}
    (hblocks : input.salts.length % 16 = 0) {envelope : Option CalculatedHMACGetSecretInput}
    (h : sealSalts crypto iv data input = .ok envelope) :
    envelope.map CalculatedHMACGetSecretInput.blanked
      = if data.seals then some (blankEnvelope data.keys input) else none := by
  unfold sealSalts at h
  cases hseals : data.seals with
  | true =>
      obtain ⟨saltEnc, hencrypt, hlength⟩ :=
        AuthTokenData.encrypt_of_seals hcbc hseals hiv hblocks
      rw [hencrypt] at h
      obtain ⟨saltAuth, hauth, h⟩ := except_bind_eq_ok_iff.mp h
      rw [← Except.ok.inj h, if_pos rfl]
      unfold blankEnvelope AuthTokenData.keys
      dsimp only
      rw [← hlength, ← Ctap2PinUvAuthProtocol.length_authenticate hauth,
        PublicKey.blanked_blanked]
      rfl
  | false =>
      rw [AuthTokenData.encrypt_of_not_seals hcbc hseals hiv hblocks] at h
      rw [← Except.ok.inj h]
      rfl

/-! ## §2. Only lengths count. -/

/-- Entries of a map that take as many bytes. -/
structure SameRoom (entries entries' : List (Cbor × Cbor)) : Prop where
  count : entries.length = entries'.length
  length : (Cbor.encodeEntries entries).length = (Cbor.encodeEntries entries').length

namespace SameRoom

theorem refl (entries : List (Cbor × Cbor)) : SameRoom entries entries := ⟨rfl, rfl⟩

/-- Room is counted entry by entry. -/
theorem append {xs xs' ys ys' : List (Cbor × Cbor)} (hx : SameRoom xs xs')
    (hy : SameRoom ys ys') : SameRoom (xs ++ ys) (xs' ++ ys') where
  count := by
    rw [List.length_append, List.length_append, hx.count, hy.count]
  length := by
    rw [Cbor.encodeEntries_append, Cbor.encodeEntries_append, List.length_append,
      List.length_append, hx.length, hy.length]

theorem entry {key value value' : Cbor} (h : value.encode.length = value'.encode.length) :
    SameRoom (Cbor.entry? key (some value)) (Cbor.entry? key (some value')) where
  count := rfl
  length := by
    rw [Cbor.length_encodeEntries_optional, Cbor.length_encodeEntries_optional]
    show _ + _ = _ + _
    rw [h]

theorem map {α : Type} {key : Cbor} {f : α → Cbor} {g : α → α}
    (h : ∀ a, (f (g a)).encode.length = (f a).encode.length) (value : Option α) :
    SameRoom (Cbor.entry? key ((value.map g).map f)) (Cbor.entry? key (value.map f)) := by
  cases value with
  | none => exact refl _
  | some a => exact entry (h a)

/-- Two maps with the same room take as many bytes. -/
theorem encode {entries entries' : List (Cbor × Cbor)} (h : SameRoom entries entries') :
    (Cbor.map entries).encode.length = (Cbor.map entries').encode.length :=
  Cbor.length_encode_map_congr h.count h.length

/-- Of a parameter only its length takes room. -/
theorem param (key : Cbor) (value : Option Bytes) :
    SameRoom (Cbor.entry? key ((value.map fun param => blankBytes param.length).map Cbor.bytes))
      (Cbor.entry? key (value.map Cbor.bytes)) :=
  map (fun _ => Cbor.length_encode_bytes_congr List.length_replicate) value

end SameRoom

theorem PublicKey.size_blanked (self : PublicKey) :
    self.blanked.toCbor.encode.length = self.toCbor.encode.length := by
  cases self with
  | ecdhEsHkdf256Key x y =>
      refine Cbor.length_encode_map_congr rfl ?_
      simp [blankBytes, Cbor.encodeEntries, Cbor.encode]
  | _ => rfl

/-- An envelope takes the room of its blank. -/
theorem CalculatedHMACGetSecretInput.size_blanked (self : CalculatedHMACGetSecretInput) :
    self.blanked.toCbor.encode.length = self.toCbor.encode.length := by
  unfold toCbor
  refine Cbor.length_encode_map_congr ?_ ?_
  · rfl
  · simp only [Cbor.encodeEntries_append, List.length_append]
    congr 1
    simp [blanked, blankBytes, Cbor.encodeEntries, Cbor.encode, PublicKey.size_blanked]

def Ctap2GetAssertionRequestExtensions.blanked (self : Ctap2GetAssertionRequestExtensions) :
    Ctap2GetAssertionRequestExtensions :=
  { self with hmacSecret := self.hmacSecret.map CalculatedHMACGetSecretInput.blanked }

/-- The request with zeros in place of what the turns compute. -/
def Ctap2GetAssertionRequest.blanked (self : Ctap2GetAssertionRequest) :
    Ctap2GetAssertionRequest :=
  { self with
    pinAuthParam := self.pinAuthParam.map fun param => blankBytes param.length
    extensions := self.extensions.map Ctap2GetAssertionRequestExtensions.blanked }

theorem Ctap2GetAssertionRequestExtensions.size_blanked
    (self : Ctap2GetAssertionRequestExtensions) :
    self.blanked.toCbor.encode.length = self.toCbor.encode.length := by
  unfold toCbor
  refine SameRoom.encode (SameRoom.append (SameRoom.append (.refl _) ?_) (.refl _))
  exact SameRoom.map CalculatedHMACGetSecretInput.size_blanked _

/-- **A request takes the room of its blank**: the two messages are of one
length. -/
theorem Ctap2GetAssertionRequest.size_blanked (self : Ctap2GetAssertionRequest) :
    self.blanked.ctapHidData.length = self.ctapHidData.length := by
  have hskip : skipSerializingExtensions self.blanked.extensions
      = skipSerializingExtensions self.extensions := by
    unfold blanked
    cases self.extensions with
    | none => rfl
    | some ext =>
        show ext.blanked.skipSerializing = ext.skipSerializing
        unfold Ctap2GetAssertionRequestExtensions.skipSerializing
        show (_ && (ext.hmacSecret.map _).isNone && _ && _) = _
        rw [Option.isNone_map]
        rfl
  unfold ctapHidData
  rw [hskip]
  refine congrArg (· + 1) (SameRoom.encode ?_)
  refine SameRoom.append (SameRoom.append (SameRoom.append (SameRoom.append ?_ ?_) ?_) ?_) ?_
  · exact .refl _
  · split
    · exact .refl _
    · exact SameRoom.map Ctap2GetAssertionRequestExtensions.size_blanked _
  · exact .refl _
  · exact .param _ _
  · exact .refl _

def Ctap2MakeCredentialsRequestExtensions.blanked (self : Ctap2MakeCredentialsRequestExtensions) :
    Ctap2MakeCredentialsRequestExtensions :=
  { self with hmacSecretMc := self.hmacSecretMc.map CalculatedHMACGetSecretInput.blanked }

def Ctap2MakeCredentialRequest.blanked (self : Ctap2MakeCredentialRequest) :
    Ctap2MakeCredentialRequest :=
  { self with
    pinAuthParam := self.pinAuthParam.map fun param => blankBytes param.length
    extensions := self.extensions.map Ctap2MakeCredentialsRequestExtensions.blanked }

theorem Ctap2MakeCredentialsRequestExtensions.size_blanked
    (self : Ctap2MakeCredentialsRequestExtensions) :
    self.blanked.toCbor.encode.length = self.toCbor.encode.length := by
  unfold toCbor
  refine SameRoom.encode (SameRoom.append (.refl _) ?_)
  exact SameRoom.map CalculatedHMACGetSecretInput.size_blanked _

/-- **A request takes the room of its blank**, as for assertions. -/
theorem Ctap2MakeCredentialRequest.size_blanked (self : Ctap2MakeCredentialRequest) :
    self.blanked.ctapHidData.length = self.ctapHidData.length := by
  -- blanking a secret drops no extension
  have hskip : skipSerializingExtensions self.blanked.extensions
      = skipSerializingExtensions self.extensions := by
    unfold blanked
    cases self.extensions with
    | none => rfl
    | some ext =>
        show ext.blanked.skipSerializing = ext.skipSerializing
        unfold Ctap2MakeCredentialsRequestExtensions.skipSerializing
        show (_ && _ && _ && _ && _ && _ && (ext.hmacSecretMc.map _).isNone) = _
        rw [Option.isNone_map]
        rfl
  unfold ctapHidData
  rw [hskip]
  refine congrArg (· + 1) (SameRoom.encode ?_)
  refine SameRoom.append (SameRoom.append (SameRoom.append (SameRoom.append (SameRoom.append
    (SameRoom.append ?_ ?_) ?_) ?_) ?_) ?_) ?_
  · exact .refl _
  · exact .refl _
  · split
    · exact .refl _
    · exact SameRoom.map Ctap2MakeCredentialsRequestExtensions.size_blanked _
  · exact .refl _
  · exact .param _ _
  · exact .refl _
  · exact .refl _

/-! ## §3. What a verification writes, beforehand. -/

/-- What a user verification writes into its request. -/
inductive Written where
  | nothing
  /-- The `uv` option. -/
  | option
  | param (protocol : Ctap2PinUvAuthProtocol)
  deriving Repr, DecidableEq

section

variable {R : Type} [Ctap2UserVerifiableRequest R]

/-- What a verification writes: the parameter of a cached token, and else what
the last getInfo of its loop makes of the request. -/
def Verification.written (self : Verification) (requirement : UserVerificationRequirement)
    (request : R) : Written :=
  match self.info with
  | none => .nothing
  | some info =>
      match cachedProtocol info request self.before with
      | some protocol => .param protocol
      | none =>
          match self.turns.getLast? with
          | none => .nothing
          | some last =>
              match last.settled (helperPlan requirement info request) request with
              | some .legacyUv => .option
              | some .onlyForSharedSecret | none => .nothing
              | some _ => last.info.uvProto.elim .nothing .param

/-- The keys of the channel after a verification: those it had before, unless
the loop agreed on others. -/
def Verification.keys (self : Verification) (requirement : UserVerificationRequirement)
    (request : R) : Option EnvelopeKeys :=
  match self.info, self.turns.getLast? with
  | some info, some last =>
      if last.operation = some .legacyUv
          ∧ (helperPlan requirement info request).agrees = false then
        self.before.map AuthTokenData.keys
      else last.info.uvProto.map EnvelopeKeys.agreed
  | _, _ => self.before.map AuthTokenData.keys

end

/-- A request with room for an authentication parameter.  Blanking leaves the
answers of the request's hooks alone. -/
class RoomyRequest (R : Type) [Ctap2UserVerifiableRequest R] where
  withParam : R → (param : Bytes) → (protocol : Nat) → R
  blanked : R → R
  calculateAndSetUvAuth_ok : ∀ {crypto : Crypto} {r r' : R} {version : Ctap2PinUvAuthProtocol}
    {token : Bytes}, calculateAndSetUvAuth crypto r version token = .ok r' →
      ∃ param, param.length = version.paramLength ∧ r' = withParam r param version.toNat
  blanked_withParam : ∀ (r : R) (param : Bytes) (protocol : Nat),
    blanked (withParam r param protocol)
      = withParam (blanked r) (blankBytes param.length) protocol
  blanked_ensureUvSet : ∀ r, blanked (ensureUvSet r) = ensureUvSet (blanked r)
  permissions_blanked : ∀ r, permissions (blanked r) = permissions r
  permissionsRpid_blanked : ∀ r, permissionsRpid (blanked r) = permissionsRpid r
  canUseUv_blanked : ∀ r info, canUseUv (blanked r) info = canUseUv r info
  needsSharedSecret_blanked : ∀ r info, needsSharedSecret (blanked r) info
    = needsSharedSecret r info
  needsPinUvAuthToken_blanked : ∀ r info, needsPinUvAuthToken (blanked r) info
    = needsPinUvAuthToken r info

theorem Ctap2GetAssertionRequest.hmacRequested_blanked (self : Ctap2GetAssertionRequest) :
    self.blanked.hmacRequested = self.hmacRequested := by
  unfold hmacRequested blanked
  cases self.extensions <;> rfl

theorem Ctap2GetAssertionRequest.largeBlobWrite_blanked (self : Ctap2GetAssertionRequest) :
    self.blanked.largeBlobWrite = self.largeBlobWrite := by
  unfold largeBlobWrite blanked
  cases self.extensions <;> rfl

/-- Whether a token is needed does not depend on what was blanked. -/
theorem Ctap2GetAssertionRequest.tokenNeed_blanked (self : Ctap2GetAssertionRequest)
    (info : Ctap2GetInfoResponse) :
    Ctap2GetAssertionRequest.needsPinUvAuthToken self.blanked info
      = Ctap2GetAssertionRequest.needsPinUvAuthToken self info := by
  unfold Ctap2GetAssertionRequest.needsPinUvAuthToken
  rw [largeBlobWrite_blanked]

instance : RoomyRequest Ctap2GetAssertionRequest where
  withParam r param protocol :=
    { r with
      pinAuthProto := some protocol
      pinAuthParam := some param
      options := r.options.map fun options => { options with requireUserVerification := false } }
  blanked := Ctap2GetAssertionRequest.blanked
  calculateAndSetUvAuth_ok h := by
    obtain ⟨param, hparam, h⟩ := except_bind_eq_ok_iff.mp h
    exact ⟨param, Ctap2PinUvAuthProtocol.length_authenticate hparam, (Except.ok.inj h).symm⟩
  blanked_withParam _ _ _ := rfl
  blanked_ensureUvSet _ := rfl
  permissions_blanked r := by
    show ({ getAssertion := true, largeBlobWrite := r.blanked.largeBlobWrite } :
      Ctap2AuthTokenPermissionRole) = _
    rw [r.largeBlobWrite_blanked]
    rfl
  permissionsRpid_blanked _ := rfl
  canUseUv_blanked _ _ := rfl
  needsSharedSecret_blanked r info := by
    show ((r.blanked.hmacRequested && info.supportsExtension "hmac-secret")
      || Ctap2GetAssertionRequest.needsPinUvAuthToken r.blanked info) = _
    rw [r.hmacRequested_blanked, r.tokenNeed_blanked]
    rfl
  needsPinUvAuthToken_blanked r info := r.tokenNeed_blanked info

instance : RoomyRequest Ctap2MakeCredentialRequest where
  withParam r param protocol :=
    { r with
      pinAuthProto := some protocol
      pinAuthParam := some param
      options := r.options.map fun options =>
        { options with deprecatedRequireUserVerification := none } }
  blanked := Ctap2MakeCredentialRequest.blanked
  calculateAndSetUvAuth_ok h := by
    obtain ⟨param, hparam, h⟩ := except_bind_eq_ok_iff.mp h
    exact ⟨param, Ctap2PinUvAuthProtocol.length_authenticate hparam, (Except.ok.inj h).symm⟩
  blanked_withParam _ _ _ := rfl
  blanked_ensureUvSet _ := rfl
  permissions_blanked _ := rfl
  permissionsRpid_blanked _ := rfl
  canUseUv_blanked _ _ := rfl
  needsSharedSecret_blanked r info := by
    have hinput : r.blanked.extensions.bind (·.prfInput) = r.extensions.bind (·.prfInput) := by
      unfold Ctap2MakeCredentialRequest.blanked
      cases r.extensions <;> rfl
    show (_ && (r.blanked.extensions.bind (·.prfInput)).isSome) = _
    rw [hinput]
    rfl
  needsPinUvAuthToken_blanked _ _ := rfl

section

variable {R : Type} [Ctap2UserVerifiableRequest R] [RoomyRequest R]

open RoomyRequest

/-- The request with blanks for what a verification writes. -/
def writeInto (request : R) : Written → R
  | .nothing => request
  | .option => ensureUvSet request
  | .param protocol => withParam request (blankBytes protocol.paramLength) protocol.toNat

theorem blanked_writeInto (request : R) (written : Written) :
    blanked (writeInto request written) = writeInto (blanked request) written := by
  cases written with
  | nothing => rfl
  | option => exact blanked_ensureUvSet request
  | param protocol =>
      unfold writeInto
      dsimp only
      rw [blanked_withParam, show (blankBytes protocol.paramLength).length = _ from
        List.length_replicate]

/-- The plan is made from what a blank keeps. -/
theorem helperPlan_blanked (requirement : UserVerificationRequirement)
    (info : Ctap2GetInfoResponse) (request : R) :
    helperPlan requirement info (blanked request) = helperPlan requirement info request := by
  unfold helperPlan
  rw [needsSharedSecret_blanked, canUseUv_blanked]

/-- So what a verification writes can be told from the blank of the request. -/
theorem Verification.written_blanked (self : Verification)
    (requirement : UserVerificationRequirement) (request : R) :
    self.written requirement (blanked request) = self.written requirement request := by
  have hcached : ∀ info, cachedProtocol info (blanked request) self.before
      = cachedProtocol info request self.before := fun info => by
    unfold cachedProtocol
    rw [permissions_blanked, permissionsRpid_blanked]
  have hsettled : ∀ (last : UvTurn) plan, last.settled plan (blanked request)
      = last.settled plan request := fun last plan => by
    unfold UvTurn.settled UvPlan.downgrade
    simp only [needsPinUvAuthToken_blanked]
  unfold Verification.written
  simp only [hcached, hsettled, helperPlan_blanked]

theorem Verification.keys_blanked (self : Verification)
    (requirement : UserVerificationRequirement) (request : R) :
    self.keys requirement (blanked request) = self.keys requirement request := by
  unfold Verification.keys
  simp only [helperPlan_blanked]

/-- Whatever the parameter is, its blank is the one that was reserved. -/
theorem blanked_of_authenticated {crypto : Crypto} {request request' : R}
    {protocol : Ctap2PinUvAuthProtocol} {token : Bytes}
    (hauth : calculateAndSetUvAuth crypto request protocol token = .ok request') :
    blanked request' = blanked (writeInto request (.param protocol)) := by
  obtain ⟨param, hlength, rfl⟩ := calculateAndSetUvAuth_ok hauth
  rw [blanked_withParam, blanked_writeInto, hlength]
  rfl

/-- A verification writes what it goes by says. -/
theorem UvOutcome.blanked [EphemeralTokenRequest R] {crypto : Crypto}
    {requirement : UserVerificationRequirement} {info : Ctap2GetInfoResponse}
    {request request' : R} {before after : Option AuthTokenData} {turns : List UvTurn}
    {used : UsedPinUvAuthToken}
    (h : UvOutcome crypto requirement info request before turns after used request') :
    blanked request' = RoomyRequest.blanked (writeInto request
      (Verification.written ⟨before, some info, turns⟩ requirement request)) := by
  unfold Verification.written
  dsimp only
  cases h with
  | persistent hwants =>
      rw [EphemeralTokenRequest.wantsPersistentToken] at hwants
      cases hwants
  | @ephemeral protocol token _ htoken hauth hselected =>
      have hcached : cachedProtocol info request before = some protocol := by
        unfold cachedProtocol
        rw [hselected, Option.filter_some, htoken]
        rfl
      rw [hcached]
      exact blanked_of_authenticated hauth
  | skipped _ huncached =>
      rw [huncached]
      rfl
  | legacy _ hlast _ huncached =>
      rw [huncached, List.getLast?_concat]
      unfold UvTurn.settled
      dsimp only
      rw [hlast]
      rfl
  | sharedSecret _ _ _ _ huncached hsettled =>
      rw [huncached, List.getLast?_concat]
      dsimp only
      rw [hsettled]
      rfl
  | minted _ _ _ _ hauth huncached hsettled hselected =>
      obtain ⟨settled, hsettled, hmints⟩ := hsettled
      rw [huncached, List.getLast?_concat]
      dsimp only
      rw [hsettled, hselected, blanked_of_authenticated hauth]
      -- an operation that mints is none of those that write something else
      cases settled with
      | legacyUv => cases hmints
      | onlyForSharedSecret => cases hmints
      | _ => rfl

omit [RoomyRequest R] in
/-- The channel has the keys that a verification goes by. -/
theorem UvOutcome.keys [EphemeralTokenRequest R] {crypto : Crypto} (hsizes : crypto.Sizes)
    {requirement : UserVerificationRequirement} {info : Ctap2GetInfoResponse}
    {request request' : R} {before after : Option AuthTokenData} {turns : List UvTurn}
    {used : UsedPinUvAuthToken}
    (h : UvOutcome crypto requirement info request before turns after used request') :
    after.map AuthTokenData.keys
      = Verification.keys ⟨before, some info, turns⟩ requirement request := by
  unfold Verification.keys
  dsimp only
  -- what is settled for the legacy option is the legacy option
  have hlegacy : ∀ {last : UvTurn} {settled : Ctap2UserVerificationOperation},
      last.settled (helperPlan requirement info request) request = some settled →
      settled ≠ .legacyUv → last.operation ≠ some .legacyUv := by
    intro last settled hsettled hne hlast
    unfold UvTurn.settled at hsettled
    rw [hlast, Option.map_some, if_pos rfl] at hsettled
    exact hne (Option.some.inj hsettled).symm
  cases h with
  | persistent => rfl
  | ephemeral => rfl
  | skipped => rfl
  | legacy _ hlast _ _ hkeys =>
      rw [List.getLast?_concat]
      dsimp only
      cases hagrees : (helperPlan requirement info request).agrees with
      | false =>
          rw [hagrees] at hkeys
          rw [if_pos ⟨hlast, rfl⟩, show after = before from hkeys]
      | true =>
          rw [hagrees] at hkeys
          obtain ⟨data, rfl, hdata⟩ := hkeys
          rw [if_neg fun h => (by cases h.2), hdata.keys hsizes]
          rfl
  | sharedSecret _ _ _ _ _ hsettled hkeys =>
      rw [List.getLast?_concat]
      dsimp only
      rw [if_neg fun h => hlegacy hsettled (by decide) h.1, hkeys.keys hsizes]
      rfl
  | minted _ _ _ _ _ _ hsettled _ hkeys =>
      obtain ⟨settled, hsettled, hmints⟩ := hsettled
      obtain ⟨data, rfl, hdata⟩ := hkeys (EphemeralTokenRequest.wantsPersistentToken _)
      rw [List.getLast?_concat]
      dsimp only
      rw [if_neg fun h => hlegacy hsettled (fun heq => by rw [heq] at hmints; cases hmints) h.1,
        hdata.keys hsizes]
      rfl

end

/-- The request with a blank envelope, when the turn makes one. -/
def Ctap2GetAssertionRequest.reserveEnvelope (crypto : Crypto)
    (allow : List Ctap2PublicKeyCredentialDescriptor) (keys : Option EnvelopeKeys)
    (request : Ctap2GetAssertionRequest) : Ctap2GetAssertionRequest :=
  match keys, request.extensions with
  | some keys, some ext =>
      match ext.hmacInput crypto allow with
      | .ok (some input) =>
          if keys.seals then
            { request with
              extensions := some { ext with hmacSecret := some (blankEnvelope keys input) } }
          else request
      | _ => request
  | _, _ => request

/-- Reserving and blanking commute. -/
theorem Ctap2GetAssertionRequest.blanked_reserveEnvelope (crypto : Crypto)
    (allow : List Ctap2PublicKeyCredentialDescriptor) (keys : Option EnvelopeKeys)
    (request : Ctap2GetAssertionRequest) :
    (request.reserveEnvelope crypto allow keys).blanked
      = request.blanked.reserveEnvelope crypto allow keys := by
  cases keys with
  | none => rfl
  | some keys =>
      obtain ⟨rp, hash, list, extensions, options, param, proto⟩ := request
      cases extensions with
      | none => rfl
      | some ext =>
          have hinput : ext.blanked.hmacInput crypto allow = ext.hmacInput crypto allow := rfl
          unfold reserveEnvelope blanked
          dsimp only [Option.map_some]
          rw [hinput]
          split
          · split
            · simp only [Option.map_some, Ctap2GetAssertionRequestExtensions.blanked,
                blanked_blankEnvelope]
            · rfl
          · rfl

/-- An envelope is what was reserved for it. -/
theorem Ctap2GetAssertionRequest.blanked_of_sealed (p : Platform σ T)
    (hcbc : p.crypto.CbcSizes) {op : GetAssertionRequest} {authData : Option AuthTokenData}
    {request sent : Ctap2GetAssertionRequest} (honly : request.OnlyPrf)
    (hsealed : (p.getAssertionCeremony op).Sealed authData request sent) :
    sent.blanked
      = (request.reserveEnvelope p.crypto op.allow (authData.map AuthTokenData.keys)).blanked := by
  cases authData with
  | none => rw [show sent = request from hsealed]; rfl
  | some data =>
      obtain ⟨iv, hlength, hiv⟩ := hsealed
      unfold getAssertionCeremony at hiv
      dsimp only at hiv
      unfold reserveEnvelope
      dsimp only [Option.map_some]
      cases hext : request.extensions with
      | none =>
          rw [hext] at hiv
          rw [← Except.ok.inj hiv]
      | some ext =>
          rw [hext] at hiv
          obtain ⟨ext', hcalc, hiv⟩ := except_bind_eq_ok_iff.mp hiv
          unfold Ctap2GetAssertionRequestExtensions.calculateHmac at hcalc
          obtain ⟨input, hinput, hcalc⟩ := except_bind_eq_ok_iff.mp hcalc
          have hsame : ({ request with extensions := some ext } : Ctap2GetAssertionRequest)
              = request := by
            rw [← hext]
          rw [← Except.ok.inj hiv]
          dsimp only
          rw [hinput]
          cases input with
          | none =>
              rw [← Except.ok.inj hcalc, hsame]
          -- salts are sealed or not, and have the size that was reserved for them
          | some input =>
              obtain ⟨envelope, hseal, hcalc⟩ := except_bind_eq_ok_iff.mp hcalc
              have hblocks := Ctap2GetAssertionRequestExtensions.hmacInput_length
                (fun input => honly ext input hext) hinput
              have hblanked := blanked_sealSalts hcbc hlength hblocks hseal
              cases hseals : data.keys.seals with
              | true =>
                  rw [show data.seals = true from hseals, if_pos rfl] at hblanked
                  obtain ⟨envelope, rfl, hblank⟩ := Option.map_eq_some_iff.mp hblanked
                  rw [← Except.ok.inj hcalc]
                  dsimp only
                  rw [if_pos rfl]
                  unfold blanked
                  simp only [Option.map_some, Ctap2GetAssertionRequestExtensions.blanked, hblank,
                    blanked_blankEnvelope]
              | false =>
                  rw [show data.seals = false from hseals] at hblanked
                  rw [Option.map_eq_none_iff.mp hblanked] at hcalc
                  rw [← Except.ok.inj hcalc, hsame]
                  rfl

/-- A turn of makeCredential uses its PRF input up, sealed or not. -/
def Ctap2MakeCredentialRequest.reserveEnvelope (crypto : Crypto)
    (keys : Option EnvelopeKeys) (request : Ctap2MakeCredentialRequest) :
    Ctap2MakeCredentialRequest :=
  match keys, request.extensions with
  | some keys, some ext =>
      match ext.prfInput with
      | some input =>
          { request with
            extensions := some { ext with
              prfInput := none
              hmacSecretMc :=
                if keys.seals then some (blankEnvelope keys (input.toHmacSecretInput crypto))
                else ext.hmacSecretMc } }
      | none => request
  | _, _ => request

/-- Reserving and blanking commute. -/
theorem Ctap2MakeCredentialRequest.blanked_reserveEnvelope (crypto : Crypto)
    (keys : Option EnvelopeKeys) (request : Ctap2MakeCredentialRequest) :
    (request.reserveEnvelope crypto keys).blanked
      = request.blanked.reserveEnvelope crypto keys := by
  cases keys with
  | none => rfl
  | some keys =>
      obtain ⟨hash, rp, user, algorithms, exclude, extensions, options, param, proto, enterprise⟩ :=
        request
      cases extensions with
      | none => rfl
      | some ext =>
          have hinput : ext.blanked.prfInput = ext.prfInput := rfl
          unfold reserveEnvelope blanked
          dsimp only [Option.map_some]
          rw [hinput]
          split
          · cases keys.seals with
            | true =>
                simp only [if_true, Option.map_some, Ctap2MakeCredentialsRequestExtensions.blanked,
                  blanked_blankEnvelope]
            | false => rfl
          · rfl

/-- What a turn seals is what was reserved for it, up to blanks. -/
theorem Ctap2MakeCredentialRequest.blanked_of_sealed (p : Platform σ T)
    (hcbc : p.crypto.CbcSizes) {op : MakeCredentialRequest} {authData : Option AuthTokenData}
    {request sent : Ctap2MakeCredentialRequest}
    (hsealed : (p.makeCredentialCeremony op).Sealed authData request sent) :
    sent.blanked
      = (request.reserveEnvelope p.crypto (authData.map AuthTokenData.keys)).blanked := by
  cases authData with
  | none => rw [show sent = request from hsealed]; rfl
  | some data =>
      obtain ⟨iv, hlength, hiv⟩ := hsealed
      unfold makeCredentialCeremony at hiv
      dsimp only at hiv
      unfold reserveEnvelope
      dsimp only [Option.map_some]
      cases hext : request.extensions with
      | none =>
          rw [hext] at hiv
          rw [← Except.ok.inj hiv]
      | some ext =>
          rw [hext] at hiv
          obtain ⟨ext', hcalc, hiv⟩ := except_bind_eq_ok_iff.mp hiv
          rw [← Except.ok.inj hiv]
          dsimp only
          unfold Ctap2MakeCredentialsRequestExtensions.calculateHmacSecretMc at hcalc
          split at hcalc
          next hnone =>
            have hsame : ({ request with extensions := some ext } : Ctap2MakeCredentialRequest)
                = request := by
              rw [← hext]
            rw [← Except.ok.inj hcalc, hnone, hsame]
          next input hsome =>
            obtain ⟨envelope, hseal, hcalc⟩ := except_bind_eq_ok_iff.mp hcalc
            -- the envelope has the size that was reserved for it
            have hblanked := blanked_sealSalts hcbc hlength (input.salts_length p.crypto) hseal
            rw [hsome]
            cases hseals : data.keys.seals with
            | true =>
                rw [show data.seals = true from hseals, if_pos rfl] at hblanked
                obtain ⟨envelope, rfl, hblank⟩ := Option.map_eq_some_iff.mp hblanked
                rw [← Except.ok.inj hcalc]
                unfold blanked
                simp only [Option.map_some, Ctap2MakeCredentialsRequestExtensions.blanked, hblank,
                  if_true, blanked_blankEnvelope]
            | false =>
                rw [show data.seals = false from hseals] at hblanked
                rw [Option.map_eq_none_iff.mp hblanked] at hcalc
                rw [← Except.ok.inj hcalc]
                rfl

/-! ## §4. One turn. -/

/-- The request of a turn, as its verification tells it beforehand: with blanks
for the parameter and the envelope. -/
def reserveGet (crypto : Crypto) (op : GetAssertionRequest) (request : Ctap2GetAssertionRequest)
    (verification : Verification) : Ctap2GetAssertionRequest :=
  (writeInto request (verification.written op.userVerification request)).reserveEnvelope crypto
    op.allow (verification.keys op.userVerification request)

def reserveMake (crypto : Crypto) (op : MakeCredentialRequest)
    (request : Ctap2MakeCredentialRequest) (verification : Verification) :
    Ctap2MakeCredentialRequest :=
  (writeInto request (verification.written op.userVerification request)).reserveEnvelope crypto
    (verification.keys op.userVerification request)

theorem blanked_reserveGet (crypto : Crypto) (op : GetAssertionRequest)
    (request : Ctap2GetAssertionRequest) (verification : Verification) :
    (reserveGet crypto op request verification).blanked
      = reserveGet crypto op request.blanked verification := by
  unfold reserveGet
  rw [Ctap2GetAssertionRequest.blanked_reserveEnvelope,
    show Ctap2GetAssertionRequest.blanked _ = _ from blanked_writeInto request _,
    show Verification.written _ _ request.blanked = _ from verification.written_blanked _ request,
    show Verification.keys _ _ request.blanked = _ from verification.keys_blanked _ request]
  rfl

theorem blanked_reserveMake (crypto : Crypto) (op : MakeCredentialRequest)
    (request : Ctap2MakeCredentialRequest) (verification : Verification) :
    (reserveMake crypto op request verification).blanked
      = reserveMake crypto op request.blanked verification := by
  unfold reserveMake
  rw [Ctap2MakeCredentialRequest.blanked_reserveEnvelope,
    show Ctap2MakeCredentialRequest.blanked _ = _ from blanked_writeInto request _,
    show Verification.written _ _ request.blanked = _ from verification.written_blanked _ request,
    show Verification.keys _ _ request.blanked = _ from verification.keys_blanked _ request]
  rfl

/-- A turn sends what was reserved for it, up to blanks. -/
theorem Attempted.blanked_get {p : Platform σ T} (hsizes : p.crypto.Sizes)
    {op : GetAssertionRequest} {a : Attempt T Ctap2GetAssertionRequest Ctap2GetAssertionResponse}
    (h : Attempted p.crypto (p.getAssertionCeremony op) a) (honly : a.entry.OnlyPrf) :
    a.sent.blanked = (reserveGet p.crypto op a.entry a.verification).blanked := by
  obtain @⟨info, verified, houtcome, hsealed, hinfo⟩ := h
  have hverification : a.verification = ⟨a.verification.before, some info,
      a.verification.turns⟩ := by
    rw [← hinfo]
  have hext := Ctap2GetAssertionRequest.extensions_of_uvOutcome houtcome
  have hverified := houtcome.blanked
  have hkeys := houtcome.keys hsizes
  rw [← hverification] at hverified hkeys
  rw [Ctap2GetAssertionRequest.blanked_of_sealed p hsizes.cbc
    (fun ext input hsome => honly ext input (hext ▸ hsome)) hsealed, hkeys]
  unfold reserveGet
  rw [Ctap2GetAssertionRequest.blanked_reserveEnvelope,
    Ctap2GetAssertionRequest.blanked_reserveEnvelope]
  exact congrArg _ hverified

/-- What a turn sends is its entry with the room it reserved, up to blanks. -/
theorem Attempted.blanked_make {p : Platform σ T} (hsizes : p.crypto.Sizes)
    {op : MakeCredentialRequest}
    {a : Attempt T Ctap2MakeCredentialRequest Ctap2MakeCredentialResponse}
    (h : Attempted p.crypto (p.makeCredentialCeremony op) a) :
    a.sent.blanked = (reserveMake p.crypto op a.entry a.verification).blanked := by
  obtain @⟨info, verified, houtcome, hsealed, hinfo⟩ := h
  have hverification : a.verification = ⟨a.verification.before, some info,
      a.verification.turns⟩ := by
    rw [← hinfo]
  have hverified := houtcome.blanked
  have hkeys := houtcome.keys hsizes
  rw [← hverification] at hverified hkeys
  rw [Ctap2MakeCredentialRequest.blanked_of_sealed p hsizes.cbc hsealed, hkeys]
  unfold reserveMake
  rw [Ctap2MakeCredentialRequest.blanked_reserveEnvelope,
    Ctap2MakeCredentialRequest.blanked_reserveEnvelope]
  exact congrArg _ hverified

/-! ## §5. The turns of a loop. -/

/-- The request that some turns leave, as their verifications tell it
beforehand. -/
def reservedGet (crypto : Crypto) (op : GetAssertionRequest) (request : Ctap2GetAssertionRequest)
    (verifications : List Verification) : Ctap2GetAssertionRequest :=
  verifications.foldl (reserveGet crypto op) request

def reservedMake (crypto : Crypto) (op : MakeCredentialRequest)
    (request : Ctap2MakeCredentialRequest) (verifications : List Verification) :
    Ctap2MakeCredentialRequest :=
  verifications.foldl (reserveMake crypto op) request

section

variable {R A : Type} [Ctap2UserVerifiableRequest R] {crypto : Crypto}
  {ceremony : Ceremony σ T R A} {request : R} {reserve : R → Verification → R} {blank : R → R}
  {I : R → Prop}

/-- Turn by turn, what is sent is what was reserved, up to blanks. -/
theorem Retried.blank_eq (hblank : ∀ r v, blank (reserve r v) = reserve (blank r) v)
    (hturn : ∀ a : Attempt T R A, Attempted crypto ceremony a → I a.entry →
      blank a.sent = blank (reserve a.entry a.verification))
    (hstep : ∀ a : Attempt T R A, Attempted crypto ceremony a → I a.entry → I a.sent)
    (hstart : I request) {as : List (Attempt T R A)} {next : R}
    (h : Retried crypto ceremony request as next) :
    blank next = blank ((as.map (·.verification)).foldl reserve request) ∧ I next
      ∧ ∀ before a, before ++ [a] <+: as → blank a.sent
        = blank (((before ++ [a]).map (·.verification)).foldl reserve request) := by
  induction h with
  | start => exact ⟨rfl, hstart, fun before a h => absurd (List.prefix_nil.mp h) (by simp)⟩
  | @retry as a hbefore hattempted _ _ ih =>
      obtain ⟨hentry, hI, hearlier⟩ := ih
      have hsent : blank a.sent
          = blank (((as ++ [a]).map (·.verification)).foldl reserve request) := by
        rw [hturn a hattempted hI, hblank, hentry, ← hblank, List.map_append, List.foldl_append]
        rfl
      refine ⟨hsent, hstep a hattempted hI, fun before b hinit => ?_⟩
      rcases List.prefix_concat_iff.mp hinit with heq | hinit
      · rw [heq, (List.append_inj' heq rfl).2 |> List.singleton_inj.mp]
        exact hsent
      · exact hearlier before b hinit

/-- By induction on the turns: a run's requests are known, up to blanks, from
its first request and its verifications. -/
theorem Logged.blank_eq (hblank : ∀ r v, blank (reserve r v) = reserve (blank r) v)
    (hturn : ∀ a : Attempt T R A, Attempted crypto ceremony a → I a.entry →
      blank a.sent = blank (reserve a.entry a.verification))
    (hstep : ∀ a : Attempt T R A, Attempted crypto ceremony a → I a.entry → I a.sent)
    (hstart : I request) {as : List (Attempt T R A)} (h : Logged crypto ceremony request as) :
    ∀ before a, before ++ [a] <+: as → blank a.sent
      = blank (((before ++ [a]).map (·.verification)).foldl reserve request) := by
  cases h with
  | going hbefore => exact (hbefore.blank_eq hblank hturn hstep hstart).2.2
  | @ended as a hbefore hattempted =>
      obtain ⟨hentry, hI, hearlier⟩ := hbefore.blank_eq hblank hturn hstep hstart
      intro before b hinit
      rcases List.prefix_concat_iff.mp hinit with heq | hinit
      · rw [heq, (List.append_inj' heq rfl).2 |> List.singleton_inj.mp,
          hturn a hattempted hI, hblank, hentry, ← hblank, List.map_append, List.foldl_append]
        rfl
      · exact hearlier before b hinit

omit [Ctap2UserVerifiableRequest R] in
/-- Every turn sends at most `max` bytes when everything reserved takes no
more. -/
theorem sent_le_iff (size : R → Nat) {as : List (Attempt T R A)} {max : Nat}
    (hrequest : size request ≤ max)
    (hturns : ∀ before a, before ++ [a] <+: as → size a.sent
      = size (((before ++ [a]).map (·.verification)).foldl reserve request)) :
    (∀ a ∈ as, size a.sent ≤ max)
      ↔ ∀ verifications, verifications <+: as.map (·.verification) →
          size (verifications.foldl reserve request) ≤ max := by
  constructor
  · intro hsent verifications hinit
    obtain ⟨part, hpart, rfl⟩ := List.prefix_map_iff.mp hinit
    rcases List.eq_nil_or_concat part with rfl | ⟨before, a, rfl⟩
    · exact hrequest
    · rw [List.concat_eq_append] at hpart ⊢
      rw [← hturns before a hpart]
      exact hsent a (hpart.subset (List.mem_append_right _ List.mem_cons_self))
  · intro hreserved a hmem
    obtain ⟨before, rest, rfl⟩ := List.append_of_mem hmem
    have hinit : before ++ [a] <+: before ++ a :: rest := ⟨rest, by simp⟩
    rw [hturns before a hinit]
    exact hreserved _ (hinit.map _)

end

/-! ## §6. The limits. -/

/-- A message of the device's size, with a list of its length. -/
structure WithinLimits (info : Ctap2GetInfoResponse) (message : Bytes) (count : Nat) : Prop where
  size : message.length ≤ info.maxMsgSizeOrDefault
  count : ∀ max, info.maxCredentialCount = some max → count ≤ max

/-- The one check of a message, as it answers. -/
theorem ensureMsgSize_cases (message : Bytes) (info : Ctap2GetInfoResponse) :
    (ensureMsgSize message info = .ok () ∧ message.length ≤ info.maxMsgSizeOrDefault)
      ∨ (ensureMsgSize message info = .error .requestTooLarge
        ∧ ¬message.length ≤ info.maxMsgSizeOrDefault) := by
  unfold ensureMsgSize
  split
  · exact Or.inr ⟨rfl, by omega⟩
  · exact Or.inl ⟨rfl, by omega⟩

/-- The limits are enforced: one of two outcomes. -/
theorem limits_cases (info : Ctap2GetInfoResponse) (message : Bytes) (count : Nat) :
    ((do ensureCredentialCount count info; ensureMsgSize message info) = .ok ()
        ∧ WithinLimits info message count)
      ∨ ((do ensureCredentialCount count info; ensureMsgSize message info)
          = .error .requestTooLarge ∧ ¬WithinLimits info message count) := by
  unfold ensureCredentialCount
  cases hmax : info.maxCredentialCount with
  | none =>
      rcases ensureMsgSize_cases message info with ⟨hok, hsize⟩ | ⟨herror, hsize⟩
      · exact Or.inl ⟨hok, hsize, fun max h => by rw [hmax] at h; cases h⟩
      · exact Or.inr ⟨herror, fun h => hsize h.size⟩
  | some max =>
      by_cases hcount : count > max
      · refine Or.inr ⟨?_, fun h => ?_⟩
        · dsimp only
          rw [if_pos hcount]
          rfl
        · have := h.count max hmax
          omega
      · dsimp only
        rw [if_neg hcount]
        rcases ensureMsgSize_cases message info with ⟨hok, hsize⟩ | ⟨herror, hsize⟩
        · refine Or.inl ⟨hok, hsize, fun max' h => ?_⟩
          rw [hmax] at h
          obtain rfl := Option.some.inj h
          omega
        · exact Or.inr ⟨herror, fun h => hsize h.size⟩

namespace Platform

variable (p : Platform σ T)

/-- The opening of a getAssertion up to its limits. -/
def listAssertion (op : GetAssertionRequest) :
    Ctap σ T (Ctap2GetInfoResponse × Ctap2GetAssertionRequest) :=
  if writesManyCredentials op then Proc.throw (.platform .notSupported)
  else do
    let info ← p.ctap2GetInfo
    let request ← Ctap.liftPlatform
      (Ctap2GetAssertionRequest.fromWebauthnRequest p.crypto op info)
    let allow ← p.allowList op info request.allow
    pure (info, { request with allow := allow })

/-- The limits are enforced last, on what the probes left. -/
theorem openAssertion_eq (op : GetAssertionRequest) :
    p.openAssertion op = (do
      let listed ← p.listAssertion op
      Ctap.liftPlatform (enforceGetAssertionLimits listed.2 listed.1)
      pure listed) := by
  unfold openAssertion listAssertion
  split
  · rfl
  · simp only [bind_assoc, pure_bind]

def listMake (op : MakeCredentialRequest) :
    Ctap σ T (Ctap2GetInfoResponse × Ctap2MakeCredentialRequest) := do
  let info ← p.ctap2GetInfo
  let request ← Proc.ofExcept (Ctap2MakeCredentialRequest.fromWebauthnRequest p.crypto op info)
  let exclude ← p.excludeList op info request.exclude
  pure (info, { request with exclude := exclude })

/-- The limits are enforced last, on what the probes left. -/
theorem openMake_eq (op : MakeCredentialRequest) :
    p.openMake op = (do
      let listed ← p.listMake op
      Ctap.liftPlatform (enforceMakeCredentialLimits listed.2 listed.1)
      pure listed) := by
  simp only [openMake, listMake, bind_assoc, pure_bind]

/-- A request beyond a limit before the loop is not sent. -/
theorem refused_getAssertion {fuel : Nat} {op : GetAssertionRequest} {w w' : World σ T}
    (hlog : w.session.log = {}) {info : Ctap2GetInfoResponse}
    {request : Ctap2GetAssertionRequest} (hlist : p.listAssertion op w = (.ok (info, request), w'))
    (hbeyond : ¬WithinLimits info request.ctapHidData request.allow.length) :
    (p.getAssertionFido2 fuel op w).1 = .error (.platform .requestTooLarge)
      ∧ p.assertedAttempts fuel op w = [] := by
  have hopening : (p.openAssertion op w).1 = .error (.platform .requestTooLarge) := by
    rw [p.openAssertion_eq, Proc.bind_of_ok hlist]
    unfold enforceGetAssertionLimits
    rw [((limits_cases info _ _).resolve_left fun h => hbeyond h.2).1]
    rfl
  have hstopped : ∀ opened, (p.openAssertion op w).1 ≠ .ok opened := by
    intro opened h
    rw [hopening] at h
    cases h
  refine ⟨?_, p.assertedAttempts_stopped fuel hlog hstopped⟩
  rw [p.getAssertionFido2_eq]
  exact ((Proc.bind_of_not_ok hstopped).2 _).mpr hopening

/-- A registration beyond the limits stops there, with nothing attempted. -/
theorem refused_makeCredential {fuel : Nat} {op : MakeCredentialRequest} {w w' : World σ T}
    (hlog : w.session.log = {}) {info : Ctap2GetInfoResponse}
    {request : Ctap2MakeCredentialRequest} (hlist : p.listMake op w = (.ok (info, request), w'))
    (hbeyond : ¬WithinLimits info request.ctapHidData (request.exclude.elim 0 List.length)) :
    (p.makeCredentialFido2 fuel op w).1 = .error (.platform .requestTooLarge)
      ∧ p.madeAttempts fuel op w = [] := by
  have hopening : (p.openMake op w).1 = .error (.platform .requestTooLarge) := by
    rw [p.openMake_eq, Proc.bind_of_ok hlist]
    unfold enforceMakeCredentialLimits
    rw [((limits_cases info _ _).resolve_left fun h => hbeyond h.2).1]
    rfl
  have hstopped : ∀ opened, (p.openMake op w).1 ≠ .ok opened := by
    intro opened h
    rw [hopening] at h
    cases h
  refine ⟨?_, p.madeAttempts_stopped fuel hlog hstopped⟩
  rw [p.makeCredentialFido2_eq]
  exact ((Proc.bind_of_not_ok hstopped).2 _).mpr hopening

end Platform

/-! ## §7. Runs. -/

namespace Platform

variable (p : Platform σ T)

/-- Within the limits the loop begins with the request that was measured. -/
theorem openAssertion_of_within {op : GetAssertionRequest} {w w' : World σ T}
    {info : Ctap2GetInfoResponse} {request : Ctap2GetAssertionRequest}
    (hlist : p.listAssertion op w = (.ok (info, request), w'))
    (hwithin : WithinLimits info request.ctapHidData request.allow.length) :
    p.openAssertion op w = (.ok (info, request), w') := by
  rw [p.openAssertion_eq, Proc.bind_of_ok hlist]
  unfold enforceGetAssertionLimits
  rw [((limits_cases info _ _).resolve_right fun h => h.2 hwithin).1]
  rfl

/-- Within the limits the loop begins with the request that was measured. -/
theorem openMake_of_within {op : MakeCredentialRequest} {w w' : World σ T}
    {info : Ctap2GetInfoResponse} {request : Ctap2MakeCredentialRequest}
    (hlist : p.listMake op w = (.ok (info, request), w'))
    (hwithin : WithinLimits info request.ctapHidData (request.exclude.elim 0 List.length)) :
    p.openMake op w = (.ok (info, request), w') := by
  rw [p.openMake_eq, Proc.bind_of_ok hlist]
  unfold enforceMakeCredentialLimits
  rw [((limits_cases info _ _).resolve_right fun h => h.2 hwithin).1]
  rfl

/-- What the turns of getAssertion send is within the limits when the room
that their verifications ask for is there; their lists always are. -/
theorem assertedAttempts_within_iff (hsizes : p.crypto.Sizes) (fuel : Nat)
    {op : GetAssertionRequest} {w w' : World σ T} (hlog : w.session.log = {})
    {info : Ctap2GetInfoResponse} {request : Ctap2GetAssertionRequest}
    (hlist : p.listAssertion op w = (.ok (info, request), w'))
    (hwithin : WithinLimits info request.ctapHidData request.allow.length) :
    (∀ a ∈ p.assertedAttempts fuel op w,
        WithinLimits info a.sent.ctapHidData a.sent.allow.length)
      ↔ ∀ verifications,
          verifications <+: (p.assertedAttempts fuel op w).map (·.verification) →
          (reservedGet p.crypto op request verifications).ctapHidData.length
            ≤ info.maxMsgSizeOrDefault := by
  have hopened := p.openAssertion_of_within hlist hwithin
  obtain ⟨request₀, allow, w₁, -, hrequest, -, -, rfl⟩ := p.openAssertion_ok hopened
  have hlogged := p.assertedAttempts_opened fuel hlog hopened
  have hresealable : Ctap2GetAssertionRequest.Resealable p.crypto op.allow
      { request₀ with allow := allow } :=
    (Ctap2GetAssertionRequest.resealable_of_opens ⟨request₀, allow, hrequest, rfl⟩).2
  have hallow := hlogged.invariant (I := fun r => r.allow = allow) rfl
    fun b hb hI => hb.allow.trans hI
  have hblanks := hlogged.blank_eq (I := fun r => r.Resealable p.crypto op.allow)
    (blanked_reserveGet p.crypto op) (fun a ha hI => ha.blanked_get hsizes hI.onlyPrf)
    (fun a ha hI => ha.resealable hI) hresealable
  refine Iff.trans (forall₂_congr fun a hmem => ⟨fun h => h.size, fun hsize => ⟨hsize, ?_⟩⟩)
    (sent_le_iff (fun r : Ctap2GetAssertionRequest => r.ctapHidData.length) hwithin.size
      fun before a hinit => ?_)
  · intro max hmax
    rw [(hlogged.attempted a hmem).allow, hallow a hmem]
    exact hwithin.count max hmax
  · rw [← a.sent.size_blanked, hblanks before a hinit, Ctap2GetAssertionRequest.size_blanked]

/-- Each registration request sent is within the limit just when the measured
one had room for what its turns added. -/
theorem madeAttempts_within_iff (hsizes : p.crypto.Sizes) (fuel : Nat)
    {op : MakeCredentialRequest} {w w' : World σ T} (hlog : w.session.log = {})
    {info : Ctap2GetInfoResponse} {request : Ctap2MakeCredentialRequest}
    (hlist : p.listMake op w = (.ok (info, request), w'))
    (hwithin : WithinLimits info request.ctapHidData (request.exclude.elim 0 List.length)) :
    (∀ a ∈ p.madeAttempts fuel op w,
        WithinLimits info a.sent.ctapHidData (a.sent.exclude.elim 0 List.length))
      ↔ ∀ verifications,
          verifications <+: (p.madeAttempts fuel op w).map (·.verification) →
          (reservedMake p.crypto op request verifications).ctapHidData.length
            ≤ info.maxMsgSizeOrDefault := by
  have hlogged := p.madeAttempts_opened fuel hlog (p.openMake_of_within hlist hwithin)
  have hexclude := hlogged.invariant (I := fun r => r.exclude = request.exclude) rfl
    fun b hb hI => hb.exclude.trans hI
  have hblanks := hlogged.blank_eq (I := fun _ => True) (blanked_reserveMake p.crypto op)
    (fun a ha _ => ha.blanked_make hsizes) (fun _ _ _ => trivial) trivial
  refine Iff.trans (forall₂_congr fun a hmem => ⟨fun h => h.size, fun hsize => ⟨hsize, ?_⟩⟩)
    (sent_le_iff (fun r : Ctap2MakeCredentialRequest => r.ctapHidData.length) hwithin.size
      fun before a hinit => ?_)
  · intro max hmax
    rw [(hlogged.attempted a hmem).exclude, hexclude a hmem]
    exact hwithin.count max hmax
  · rw [← a.sent.size_blanked, hblanks before a hinit, Ctap2MakeCredentialRequest.size_blanked]

end Platform

theorem cbcSizes_transparent : transparentCrypto.CbcSizes := by
  intro key iv plaintext hiv _
  by_cases hkey : key.length = 32
  · rw [if_pos hkey]
    exact ⟨plaintext, if_pos ⟨hkey, hiv⟩, rfl⟩
  · rw [if_neg hkey]
    exact if_neg fun h => hkey h.1

theorem sizes_transparent : transparentCrypto.Sizes where
  cbc := cbcSizes_transparent
  hkdf _ ikm _ := fitBytes_length 32 ikm
  publicKey _ h := ⟨h, h⟩

/-- A check over `inits` is one over prefixes. -/
theorem forall_prefix_of_inits {α : Type} {l : List α} {P : List α → Prop}
    (h : ∀ part ∈ l.inits, P part) : ∀ part, part <+: l → P part :=
  fun part hinit => h part ((List.mem_inits part l).mpr hinit)

/-- A device with a PIN, which takes messages of 1024 bytes. -/
def pinDevice : MockChannel :=
  { getInfo := List.replicate 2
      { options := some [("clientPin", true), ("pinUvAuthToken", true)], pinAuthProtos := some [1] }
    getAssertion := [.ok (plainGetAssertionResponse (some (listedCredential 1)))] }

/-- One credential, with a long id. -/
def longListedOp : GetAssertionRequest :=
  { plainGetAssertionOp with allow := [⟨blankBytes 930, .publicKey, none⟩] }

end Libwebauthn
