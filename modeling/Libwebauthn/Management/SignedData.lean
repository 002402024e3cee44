/-
  Libwebauthn.Management.SignedData — the requests of the management
  operations, as they go on the wire and as a token authenticates them
  (`src/proto/ctap2/model/`, `src/proto/ctap2/cbor/request.rs`, `src/management/`).

  A pinUvAuthParam authenticates a message, not a request, and each command
  puts its message together in a way of its own.  `readSigned` takes a message
  apart again without knowing the command; two operations have one message only
  where they send one request (`signedData_eq_iff`), but for the length that a
  first fragment announces.
-/
import Libwebauthn.Ctap2.CborMessage
import Libwebauthn.Ctap2.Management
import Libwebauthn.LargeBlob.Chunks
import Libwebauthn.Lib.Canonical
import Libwebauthn.Lib.CborReader
import Libwebauthn.Transport.Mock

namespace Libwebauthn

open Ctap2UserVerifiableRequest

/-! ## §1. The requests. -/

/-- The bytes that a parameter map adds to a message. -/
def encodeParams (params : Option Cbor) : Bytes := (params.map Cbor.encode).getD []

namespace Ctap2CredentialManagementRequest

def new (subcommand : Ctap2CredentialManagementSubcommand)
    (params : Option Ctap2CredentialManagementParams) : Ctap2CredentialManagementRequest :=
  ⟨some subcommand, params, none, none, false, false, false⟩

def newGetCredentialMetadata : Ctap2CredentialManagementRequest := new .getCredsMetadata none

def newEnumerateRpsBegin : Ctap2CredentialManagementRequest := new .enumerateRPsBegin none

def newEnumerateRpsNextRp : Ctap2CredentialManagementRequest := new .enumerateRPsGetNextRP none

def newEnumerateCredentialsBegin (rpidHash : Bytes) : Ctap2CredentialManagementRequest :=
  new .enumerateCredentialsBegin (some ⟨some rpidHash, none, none⟩)

def newEnumerateCredentialsNext : Ctap2CredentialManagementRequest :=
  new .enumerateCredentialsGetNextCredential none

def newDeleteCredential (credentialId : Ctap2PublicKeyCredentialDescriptor) :
    Ctap2CredentialManagementRequest :=
  new .deleteCredential (some ⟨none, some credentialId, none⟩)

def newUpdateUserInformation (credentialId : Ctap2PublicKeyCredentialDescriptor)
    (user : Ctap2PublicKeyCredentialUserEntity) : Ctap2CredentialManagementRequest :=
  new .updateUserInformation (some ⟨none, some credentialId, some user⟩)

def toCbor (self : Ctap2CredentialManagementRequest) : Cbor :=
  .map (Cbor.entry? (.uint 1) (self.subcommand.map fun subcommand => .uint subcommand.code.toNat)
    ++ Cbor.entry? (.uint 2) (self.subcommandParams.map Ctap2CredentialManagementParams.toCbor)
    ++ Cbor.entry? (.uint 3) (self.protocol.map fun version => .uint version.toNat)
    ++ Cbor.entry? (.uint 4) (self.uvAuthParam.map .bytes))

def command (self : Ctap2CredentialManagementRequest) : Ctap2CommandCode :=
  if self.useLegacyPreview then .authenticatorCredentialManagementPreview
  else .authenticatorCredentialManagement

/-- What the hook authenticates; there is nothing without a sub-command. -/
def signedData (self : Ctap2CredentialManagementRequest) : Option Bytes :=
  self.subcommand.map fun subcommand =>
    subcommand.code
      :: encodeParams (self.subcommandParams.map Ctap2CredentialManagementParams.toCbor)

end Ctap2CredentialManagementRequest

namespace Ctap2BioEnrollmentRequest

def new (subcommand : Ctap2BioEnrollmentSubcommand) (params : Option Ctap2BioEnrollmentParams) :
    Ctap2BioEnrollmentRequest :=
  ⟨true, some subcommand, params, none, none, none, false⟩

def newEnumerateEnrollments : Ctap2BioEnrollmentRequest := new .enumerateEnrollments none

def newRemoveEnrollment (templateId : Bytes) : Ctap2BioEnrollmentRequest :=
  new .removeEnrollment (some ⟨some templateId, none, none⟩)

def newRenameEnrollment (templateId : Bytes) (templateFriendlyName : String) :
    Ctap2BioEnrollmentRequest :=
  new .setFriendlyName (some ⟨some templateId, some templateFriendlyName, none⟩)

/-- `time.as_millis() as u64`, of a time in milliseconds. -/
def asMillis (time : Nat) : Nat := time % 2 ^ 64

def newStartNewEnrollment (enrollmentTimeout : Option Nat) : Ctap2BioEnrollmentRequest :=
  new .enrollBegin (enrollmentTimeout.map fun time => ⟨none, none, some (asMillis time)⟩)

def newNextEnrollment (templateId : Bytes) (enrollmentTimeout : Option Nat) :
    Ctap2BioEnrollmentRequest :=
  new .enrollCaptureNextSample (some ⟨some templateId, none, enrollmentTimeout.map asMillis⟩)

def newCancelCurrentEnrollment : Ctap2BioEnrollmentRequest := new .cancelCurrentEnrollment none

def toCbor (self : Ctap2BioEnrollmentRequest) : Cbor :=
  .map (Cbor.entry? (.uint 1) (if self.modality then some (.uint FINGERPRINT.toNat) else none)
    ++ Cbor.entry? (.uint 2) (self.subcommand.map fun subcommand => .uint subcommand.code.toNat)
    ++ Cbor.entry? (.uint 3) (self.subcommandParams.map Ctap2BioEnrollmentParams.toCbor)
    ++ Cbor.entry? (.uint 4) (self.protocol.map fun version => .uint version.toNat)
    ++ Cbor.entry? (.uint 5) (self.uvAuthParam.map .bytes)
    ++ Cbor.entry? (.uint 6) (self.getModality.map .bool))

def command (self : Ctap2BioEnrollmentRequest) : Ctap2CommandCode :=
  if self.useLegacyPreview then .authenticatorBioEnrollmentPreview
  else .authenticatorBioEnrollment

def signedData (self : Ctap2BioEnrollmentRequest) : Option Bytes :=
  self.subcommand.map fun subcommand =>
    FINGERPRINT :: subcommand.code
      :: encodeParams (self.subcommandParams.map Ctap2BioEnrollmentParams.toCbor)

end Ctap2BioEnrollmentRequest

namespace Ctap2AuthenticatorConfigRequest

def newEnableEnterpriseAttestation : Ctap2AuthenticatorConfigRequest :=
  ⟨.enableEnterpriseAttestation, none, none, none⟩

def newForceChangePin (forceChangePin : Bool) : Ctap2AuthenticatorConfigRequest :=
  ⟨.setMinPINLength, some ⟨none, none, some forceChangePin⟩, none, none⟩

def newSetMinPinLength (newPinLength : Nat) : Ctap2AuthenticatorConfigRequest :=
  ⟨.setMinPINLength, some ⟨some newPinLength, none, none⟩, none, none⟩

def newSetMinPinLengthRpids (rpids : List String) : Ctap2AuthenticatorConfigRequest :=
  ⟨.setMinPINLength, some ⟨none, some rpids, none⟩, none, none⟩

def toCbor (self : Ctap2AuthenticatorConfigRequest) : Cbor :=
  .map (Cbor.entry? (.uint 1) (some (.uint self.subcommand.code.toNat))
    ++ Cbor.entry? (.uint 2) (self.subcommandParams.map Ctap2SetMinPINLengthParams.toCbor)
    ++ Cbor.entry? (.uint 3) (self.protocol.map fun version => .uint version.toNat)
    ++ Cbor.entry? (.uint 4) (self.uvAuthParam.map .bytes))

end Ctap2AuthenticatorConfigRequest

def Ctap2LargeBlobsRequest.toCbor (self : Ctap2LargeBlobsRequest) : Cbor :=
  .map (Cbor.entry? (.uint 1) (self.get.map .uint)
    ++ Cbor.entry? (.uint 2) (self.set.map .bytes)
    ++ Cbor.entry? (.uint 3) (some (.uint self.offset))
    ++ Cbor.entry? (.uint 4) (self.length.map .uint)
    ++ Cbor.entry? (.uint 5) (self.pinUvAuthParam.map .bytes)
    ++ Cbor.entry? (.uint 6) (self.pinUvAuthProtocol.map .uint))

/-! ### The hooks authenticate the message, and only set the parameter. -/

/-- Authenticate a message, if there is one, and set the parameter. -/
def signWith {R : Type} (crypto : Crypto) (uvProto : Ctap2PinUvAuthProtocol) (uvAuthToken : Bytes)
    (message : Option Bytes) (set : Bytes → R) : Except PlatformError R :=
  match message with
  | none => .error .invalidDeviceResponse
  | some message => do
      let uvAuthParam ← uvProto.authenticate crypto uvAuthToken message
      pure (set uvAuthParam)

section

variable {crypto : Crypto} {uvProto : Ctap2PinUvAuthProtocol} {token : Bytes}

/-- Parameters are signed as they are sent, and not at all when there are none. -/
theorem encodeParams_map {α : Type} (toCbor : α → Cbor) (params : Option α) :
    (params.map fun params => (toCbor params).encode).getD []
      = encodeParams (params.map toCbor) := by
  cases params <;> rfl

theorem Ctap2CredentialManagementRequest.calculateAndSetUvAuth_eq
    (request : Ctap2CredentialManagementRequest) :
    calculateAndSetUvAuth crypto request uvProto token
      = signWith crypto uvProto token request.signedData fun param =>
          { request with protocol := some uvProto, uvAuthParam := some param } := by
  obtain ⟨subcommand, params, _, _, _, _, _⟩ := request
  cases subcommand with
  | none => rfl
  | some subcommand =>
      unfold signedData
      rw [← encodeParams_map]
      rfl

theorem Ctap2BioEnrollmentRequest.calculateAndSetUvAuth_eq (request : Ctap2BioEnrollmentRequest) :
    calculateAndSetUvAuth crypto request uvProto token
      = signWith crypto uvProto token request.signedData fun param =>
          { request with protocol := some uvProto, uvAuthParam := some param } := by
  obtain ⟨_, subcommand, params, _, _, _, _⟩ := request
  cases subcommand with
  | none => rfl
  | some subcommand =>
      unfold signedData
      rw [← encodeParams_map]
      rfl

theorem Ctap2AuthenticatorConfigRequest.calculateAndSetUvAuth_eq
    (request : Ctap2AuthenticatorConfigRequest) :
    calculateAndSetUvAuth crypto request uvProto token
      = signWith crypto uvProto token (some request.signedData) fun param =>
          { request with protocol := some uvProto, uvAuthParam := some param } :=
  rfl

end

/-! ## §2. Messages, and the reader that takes them apart. -/

/-- What a message says: the command, its sub-command and the parameters, or
the offset and the digest of a fragment. -/
inductive SignedMessage where
  | credentialManagement (subcommand : UInt8) (params : Option Cbor)
  | bioEnrollment (subcommand : UInt8) (params : Option Cbor)
  | authenticatorConfig (subcommand : UInt8) (params : Option Cbor)
  | largeBlobs (offset : Nat) (digest : Bytes)

namespace SignedMessage

def encode : SignedMessage → Bytes
  | .credentialManagement subcommand params => subcommand :: encodeParams params
  | .bioEnrollment subcommand params => FINGERPRINT :: subcommand :: encodeParams params
  | .authenticatorConfig subcommand params =>
      List.replicate 32 0xff ++ 0x0d :: subcommand :: encodeParams params
  | .largeBlobs offset digest =>
      List.replicate 32 0xff ++ 0x0c :: 0x00 :: (leEncode 4 offset ++ digest)

/-- What the library signs: a sub-command is not 0xff, the one that is called
like the fingerprint modality takes no parameters, and lengths are of 64 bits. -/
def Fits : SignedMessage → Prop
  | .credentialManagement subcommand params =>
      subcommand ≠ 0xff ∧ (subcommand = FINGERPRINT → params = none)
        ∧ ∀ c ∈ params, Cbor.Fits 4 c
  | .bioEnrollment _ params | .authenticatorConfig _ params => ∀ c ∈ params, Cbor.Fits 4 c
  | .largeBlobs offset _ => offset < 2 ^ 32

end SignedMessage

def readParams (bs : Bytes) : Option (Option Cbor) :=
  if bs = [] then some none else (Reader.whole (Cbor.readItem 4) bs).map some

/-- The messages behind 32 times 0xff. -/
def readTagged : Bytes → Option SignedMessage
  | command :: subcommand :: rest =>
      if command = 0x0d then (readParams rest).map (.authenticatorConfig subcommand)
      else if command = 0x0c ∧ subcommand = 0x00 then
        some (.largeBlobs (beDecode (rest.take 4).reverse) (rest.drop 4))
      else none
  | _ => none

def readBare : Bytes → Option SignedMessage
  | [] => none
  | [subcommand] => some (.credentialManagement subcommand none)
  | first :: second :: rest =>
      if first = FINGERPRINT then (readParams rest).map (.bioEnrollment second)
      else (readParams (second :: rest)).map (.credentialManagement first)

def readSigned (message : Bytes) : Option SignedMessage :=
  if message.take 32 = List.replicate 32 0xff then readTagged (message.drop 32)
  else readBare message

/-! ### A message is read back. -/

theorem readParams_encodeParams {params : Option Cbor} (h : ∀ c ∈ params, Cbor.Fits 4 c) :
    readParams (encodeParams params) = some params := by
  cases params with
  | none => rfl
  | some c =>
      show (if c.encode = [] then _ else (Reader.whole (Cbor.readItem 4) c.encode).map some) = _
      rw [if_neg c.encode_ne_nil, (Cbor.reads_encode 4 c (h c rfl)).whole]
      rfl

/-- Behind 32 bytes of 0xff stand the configuration and large blob messages. -/
theorem readSigned_tagged (rest : Bytes) :
    readSigned (List.replicate 32 0xff ++ rest) = readTagged rest := by
  unfold readSigned
  rw [if_pos (List.take_left' List.length_replicate), List.drop_left' List.length_replicate]

/-- Every other message begins with its command. -/
theorem readSigned_bare {first : UInt8} (h : first ≠ 0xff) (rest : Bytes) :
    readSigned (first :: rest) = readBare (first :: rest) := by
  unfold readSigned
  rw [if_neg]
  intro htake
  rw [List.take_succ_cons] at htake
  exact h (List.cons.inj htake).1

/-- **A message decodes uniquely**, without knowing which command it is of. -/
theorem readSigned_encode {message : SignedMessage} (h : message.Fits) :
    readSigned message.encode = some message := by
  cases message with
  | credentialManagement subcommand params =>
      obtain ⟨hff, hfingerprint, hparams⟩ := h
      show readSigned (subcommand :: encodeParams params) = _
      rw [readSigned_bare hff]
      cases params with
      | none => rfl
      | some c =>
          have hne : subcommand ≠ FINGERPRINT := fun heq => by cases hfingerprint heq
          have hread := readParams_encodeParams hparams
          -- there are parameters, so the message is of two bytes at least
          obtain ⟨second, rest, hbytes⟩ := List.exists_cons_of_ne_nil c.encode_ne_nil
          have hencoded : encodeParams (some c) = second :: rest := hbytes
          rw [hencoded] at hread ⊢
          have hbare : readBare (subcommand :: second :: rest)
              = (readParams (second :: rest)).map
                (SignedMessage.credentialManagement subcommand) := if_neg hne
          rw [hbare, hread]
          rfl
  | bioEnrollment subcommand params =>
      have hff : FINGERPRINT ≠ 0xff := by decide
      show readSigned (FINGERPRINT :: subcommand :: encodeParams params) = _
      rw [readSigned_bare hff]
      have hbare : readBare (FINGERPRINT :: subcommand :: encodeParams params)
          = (readParams (encodeParams params)).map (SignedMessage.bioEnrollment subcommand) := rfl
      rw [hbare, readParams_encodeParams h]
      rfl
  | authenticatorConfig subcommand params =>
      show readSigned (List.replicate 32 0xff ++ _) = _
      rw [readSigned_tagged]
      have htagged : readTagged (0x0d :: subcommand :: encodeParams params)
          = (readParams (encodeParams params)).map
            (SignedMessage.authenticatorConfig subcommand) := rfl
      rw [htagged, readParams_encodeParams h]
      rfl
  | largeBlobs offset digest =>
      have hlength : (leEncode 4 offset).length = 4 := by
        rw [leEncode, List.length_reverse, beEncode_length]
      have hoffset : beDecode (leEncode 4 offset).reverse = offset := by
        rw [leEncode, List.reverse_reverse, beDecode_beEncode_of_lt h]
      show readSigned (List.replicate 32 0xff ++ _) = _
      rw [readSigned_tagged]
      have htagged : ∀ rest, readTagged (0x0c :: 0x00 :: rest)
          = some (.largeBlobs (beDecode (rest.take 4).reverse) (rest.drop 4)) := fun _ => rfl
      rw [htagged, List.take_left' hlength, List.drop_left' hlength, hoffset]

/-! ## §3. The operations. -/

/-- The operations whose requests carry a pinUvAuthParam over a message, with
their arguments; a large blob array of `total` bytes is written fragment by
fragment. -/
inductive SignedOperation where
  | getCredentialMetadata
  | enumerateRpsBegin
  | enumerateCredentialsBegin (rpidHash : Bytes)
  | deleteCredential (credentialId : Ctap2PublicKeyCredentialDescriptor)
  | updateUserInfo (credentialId : Ctap2PublicKeyCredentialDescriptor)
      (user : Ctap2PublicKeyCredentialUserEntity)
  | getBioEnrollments
  | removeBioEnrollment (templateId : Bytes)
  | renameBioEnrollment (templateId : Bytes) (templateFriendlyName : String)
  | startNewBioEnrollment (enrollmentTimeout : Option Nat)
  | captureNextBioEnrollmentSample (templateId : Bytes) (enrollmentTimeout : Option Nat)
  | cancelCurrentBioEnrollment
  | toggleAlwaysUv
  | enableEnterpriseAttestation
  | setMinPinLength (newPinLength : Nat)
  | forceChangePin (force : Bool)
  | setMinPinLengthRpids (rpids : List String)
  | setLargeBlobs (total offset : Nat) (chunk : Bytes)

/-- A request of one of the commands. -/
inductive SignedRequest where
  | credentialManagement (request : Ctap2CredentialManagementRequest)
  | bioEnrollment (request : Ctap2BioEnrollmentRequest)
  | authenticatorConfig (request : Ctap2AuthenticatorConfigRequest)
  | largeBlobs (request : Ctap2LargeBlobsRequest)

namespace SignedRequest

def signedData (crypto : Crypto) : SignedRequest → Option Bytes
  | .credentialManagement request => request.signedData
  | .bioEnrollment request => request.signedData
  | .authenticatorConfig request => some request.signedData
  | .largeBlobs request =>
      some (largeBlobAuthMessage crypto request.offset request.setBytes)

/-- The command and the map that are sent, with the digest of a fragment in
its place. -/
def sent (crypto : Crypto) : SignedRequest → Ctap2CommandCode × Cbor
  | .credentialManagement request => (request.command, request.toCbor)
  | .bioEnrollment request => (request.command, request.toCbor)
  | .authenticatorConfig request => (.authenticatorConfig, request.toCbor)
  | .largeBlobs request => (.authenticatorLargeBlobs,
      { request with set := request.set.map crypto.sha256 : Ctap2LargeBlobsRequest }.toCbor)

end SignedRequest

namespace SignedOperation

open Ctap2CredentialManagementRequest Ctap2BioEnrollmentRequest Ctap2AuthenticatorConfigRequest

/-- The request that is made, before the user verification. -/
def request : SignedOperation → SignedRequest
  | .getCredentialMetadata => .credentialManagement newGetCredentialMetadata
  | .enumerateRpsBegin => .credentialManagement newEnumerateRpsBegin
  | .enumerateCredentialsBegin rpidHash =>
      .credentialManagement (newEnumerateCredentialsBegin rpidHash)
  | .deleteCredential credentialId => .credentialManagement (newDeleteCredential credentialId)
  | .updateUserInfo credentialId user =>
      .credentialManagement (newUpdateUserInformation credentialId user)
  | .getBioEnrollments => .bioEnrollment newEnumerateEnrollments
  | .removeBioEnrollment templateId => .bioEnrollment (newRemoveEnrollment templateId)
  | .renameBioEnrollment templateId name => .bioEnrollment (newRenameEnrollment templateId name)
  | .startNewBioEnrollment timeout => .bioEnrollment (newStartNewEnrollment timeout)
  | .captureNextBioEnrollmentSample templateId timeout =>
      .bioEnrollment (newNextEnrollment templateId timeout)
  | .cancelCurrentBioEnrollment => .bioEnrollment newCancelCurrentEnrollment
  | .toggleAlwaysUv => .authenticatorConfig newToggleAlwaysUv
  | .enableEnterpriseAttestation => .authenticatorConfig newEnableEnterpriseAttestation
  | .setMinPinLength newPinLength => .authenticatorConfig (newSetMinPinLength newPinLength)
  | .forceChangePin force => .authenticatorConfig (newForceChangePin force)
  | .setMinPinLengthRpids rpids => .authenticatorConfig (newSetMinPinLengthRpids rpids)
  | .setLargeBlobs total offset chunk => .largeBlobs
      (if offset = 0 then .newSetFirst chunk total none
        else .newSetContinuation chunk offset none)

def signedData (crypto : Crypto) (self : SignedOperation) : Option Bytes :=
  self.request.signedData crypto

def sent (crypto : Crypto) (self : SignedOperation) : Ctap2CommandCode × Cbor :=
  self.request.sent crypto

/-- The message of the operation. -/
def message (crypto : Crypto) : SignedOperation → SignedMessage
  | .getCredentialMetadata => .credentialManagement 0x01 none
  | .enumerateRpsBegin => .credentialManagement 0x02 none
  | .enumerateCredentialsBegin rpidHash =>
      .credentialManagement 0x04 (some (.map [(.uint 1, .bytes rpidHash)]))
  | .deleteCredential credentialId =>
      .credentialManagement 0x06 (some (.map [(.uint 2, credentialId.toCbor)]))
  | .updateUserInfo credentialId user => .credentialManagement 0x07
      (some (.map [(.uint 2, credentialId.toCbor), (.uint 3, user.toCbor)]))
  | .getBioEnrollments => .bioEnrollment 0x04 none
  | .removeBioEnrollment templateId =>
      .bioEnrollment 0x06 (some (.map [(.uint 1, .bytes templateId)]))
  | .renameBioEnrollment templateId name =>
      .bioEnrollment 0x05 (some (.map [(.uint 1, .bytes templateId), (.uint 2, .text name)]))
  | .startNewBioEnrollment timeout =>
      .bioEnrollment 0x01 (timeout.map fun time => .map [(.uint 3, .uint (asMillis time))])
  | .captureNextBioEnrollmentSample templateId timeout => .bioEnrollment 0x02
      (some (.map ((.uint 1, .bytes templateId)
        :: Cbor.entry? (.uint 3) (timeout.map fun time => .uint (asMillis time)))))
  | .cancelCurrentBioEnrollment => .bioEnrollment 0x03 none
  | .toggleAlwaysUv => .authenticatorConfig 0x02 none
  | .enableEnterpriseAttestation => .authenticatorConfig 0x01 none
  | .setMinPinLength newPinLength =>
      .authenticatorConfig 0x03 (some (.map [(.uint 1, .uint newPinLength)]))
  | .forceChangePin force => .authenticatorConfig 0x03 (some (.map [(.uint 3, .bool force)]))
  | .setMinPinLengthRpids rpids =>
      .authenticatorConfig 0x03 (some (.map [(.uint 2, .array (rpids.map .text))]))
  | .setLargeBlobs _ offset chunk => .largeBlobs offset (crypto.sha256 chunk)

/-- The length of the array, as a first fragment announces it. -/
def announced : SignedOperation → Option Nat
  | .setLargeBlobs total offset _ => if offset = 0 then some total else none
  | _ => none

variable {crypto : Crypto}

/-- Each of the four operations signs the bytes of one kind of message. -/
theorem signedData_eq (op : SignedOperation) :
    op.signedData crypto = some (op.message crypto).encode := by
  cases op with
  | startNewBioEnrollment timeout => cases timeout <;> rfl
  | captureNextBioEnrollmentSample templateId timeout => cases timeout <;> rfl
  | setLargeBlobs total offset chunk =>
      have hmessage : (SignedOperation.setLargeBlobs total offset chunk).signedData crypto
          = some (largeBlobAuthMessage crypto offset chunk) := by
        by_cases hoffset : offset = 0
        · subst hoffset
          rfl
        · exact congrArg (SignedRequest.signedData crypto) (congrArg _ (if_neg hoffset))
      rw [hmessage, largeBlobAuthMessage, List.append_assoc, List.append_assoc]
      rfl
  | _ => rfl

/-! ### The message says what is sent. -/

/-- The arguments are of 64 bits: numbers and lengths. -/
def Fits : SignedOperation → Prop
  | .enumerateCredentialsBegin rpidHash => rpidHash.length < 2 ^ 64
  | .deleteCredential credentialId => credentialId.id.length < 2 ^ 64
  | .updateUserInfo credentialId user => credentialId.id.length < 2 ^ 64
      ∧ user.id.length < 2 ^ 64 ∧ (∀ name ∈ user.name, (utf8 name).length < 2 ^ 64)
      ∧ ∀ name ∈ user.displayName, (utf8 name).length < 2 ^ 64
  | .removeBioEnrollment templateId | .captureNextBioEnrollmentSample templateId _ =>
      templateId.length < 2 ^ 64
  | .renameBioEnrollment templateId name =>
      templateId.length < 2 ^ 64 ∧ (utf8 name).length < 2 ^ 64
  | .setMinPinLength newPinLength => newPinLength < 2 ^ 64
  | .setMinPinLengthRpids rpids =>
      rpids.length < 2 ^ 64 ∧ ∀ rpid ∈ rpids, (utf8 rpid).length < 2 ^ 64
  | .setLargeBlobs _ offset _ => offset < 2 ^ 32
  | _ => True

theorem fits_descriptor {credentialId : Ctap2PublicKeyCredentialDescriptor}
    (h : credentialId.id.length < 2 ^ 64) : Cbor.Fits 3 credentialId.toCbor := by
  obtain ⟨id, type, _⟩ := credentialId
  have hid : (utf8 "id").length = 2 := by decide
  have htype : (utf8 "type").length = 4 := by decide
  have hpublicKey : (utf8 "public-key").length = 10 := by decide
  have hunknown : (utf8 "Unknown").length = 7 := by decide
  cases type <;>
    simpa [Ctap2PublicKeyCredentialDescriptor.toCbor, Ctap2PublicKeyCredentialType.toCbor,
      Cbor.Fits, hid, htype, hpublicKey, hunknown] using h

theorem fits_user {user : Ctap2PublicKeyCredentialUserEntity} (hid : user.id.length < 2 ^ 64)
    (hname : ∀ name ∈ user.name, (utf8 name).length < 2 ^ 64)
    (hdisplayName : ∀ name ∈ user.displayName, (utf8 name).length < 2 ^ 64) :
    Cbor.Fits 3 user.toCbor := by
  obtain ⟨id, name, displayName⟩ := user
  have hidKey : (utf8 "id").length = 2 := by decide
  have hnameKey : (utf8 "name").length = 4 := by decide
  have hdisplayNameKey : (utf8 "displayName").length = 11 := by decide
  cases name <;> cases displayName <;>
    simp_all [Ctap2PublicKeyCredentialUserEntity.toCbor, Cbor.entry?, Cbor.Fits]

theorem asMillis_lt (time : Nat) : asMillis time < 2 ^ 64 := Nat.mod_lt _ (by omega)

/-- The message of an operation that fits is one that decodes. -/
theorem Fits.message {op : SignedOperation} (h : op.Fits) : (op.message crypto).Fits := by
  have hmap : ∀ {entries : List (Cbor × Cbor)}, entries.length < 2 ^ 64 →
      (∀ entry ∈ entries, Cbor.Fits 3 entry.1 ∧ Cbor.Fits 3 entry.2) →
      ∀ c ∈ some (Cbor.map entries), Cbor.Fits 4 c := by
    rintro entries hlength hentries _ ⟨⟩
    exact ⟨hlength, hentries⟩
  cases op with
  | getCredentialMetadata => exact ⟨by decide, fun _ => rfl, fun _ hc => by cases hc⟩
  | enumerateRpsBegin => exact ⟨by decide, fun _ => rfl, fun _ hc => by cases hc⟩
  | enumerateCredentialsBegin rpidHash =>
      refine ⟨by decide, fun heq => absurd heq (by decide), hmap (by simp) ?_⟩
      simpa [Cbor.Fits, SignedOperation.Fits] using h
  | deleteCredential credentialId =>
      refine ⟨by decide, fun heq => absurd heq (by decide), hmap (by simp) ?_⟩
      simpa [Cbor.Fits] using fits_descriptor h
  | updateUserInfo credentialId user =>
      obtain ⟨hcredential, hid, hname, hdisplayName⟩ := h
      refine ⟨by decide, fun heq => absurd heq (by decide), hmap (by simp) ?_⟩
      simpa [Cbor.Fits] using ⟨fits_descriptor hcredential, fits_user hid hname hdisplayName⟩
  | getBioEnrollments => exact fun _ hc => by cases hc
  | removeBioEnrollment templateId =>
      refine hmap (by simp) ?_
      simpa [Cbor.Fits, SignedOperation.Fits] using h
  | renameBioEnrollment templateId name =>
      refine hmap (by simp) ?_
      simpa [Cbor.Fits, SignedOperation.Fits] using h
  | startNewBioEnrollment timeout =>
      cases timeout with
      | none => exact fun _ hc => by cases hc
      | some time =>
          refine hmap (by simp) ?_
          simpa [Cbor.Fits] using asMillis_lt time
  | captureNextBioEnrollmentSample templateId timeout =>
      cases timeout with
      | none =>
          refine hmap (by simp [Cbor.entry?]) ?_
          simpa [Cbor.entry?, Cbor.Fits, SignedOperation.Fits] using h
      | some time =>
          refine hmap (by simp [Cbor.entry?]) ?_
          simpa [Cbor.entry?, Cbor.Fits] using ⟨h, asMillis_lt time⟩
  | cancelCurrentBioEnrollment => exact fun _ hc => by cases hc
  | toggleAlwaysUv => exact fun _ hc => by cases hc
  | enableEnterpriseAttestation => exact fun _ hc => by cases hc
  | setMinPinLength newPinLength =>
      refine hmap (by simp) ?_
      simpa [Cbor.Fits, SignedOperation.Fits] using h
  | forceChangePin force =>
      refine hmap (by simp) ?_
      simp [Cbor.Fits]
  | setMinPinLengthRpids rpids =>
      refine hmap (by simp) ?_
      simpa [Cbor.Fits, SignedOperation.Fits] using h
  | setLargeBlobs total offset chunk => exact h

end SignedOperation

/-- The request of a message, with the length that is announced. -/
def SignedMessage.request (length : Option Nat) : SignedMessage → Ctap2CommandCode × Cbor
  | .credentialManagement subcommand params => (.authenticatorCredentialManagement,
      .map ((.uint 1, .uint subcommand.toNat) :: Cbor.entry? (.uint 2) params))
  | .bioEnrollment subcommand params => (.authenticatorBioEnrollment,
      .map ((.uint 1, .uint FINGERPRINT.toNat) :: (.uint 2, .uint subcommand.toNat)
        :: Cbor.entry? (.uint 3) params))
  | .authenticatorConfig subcommand params => (.authenticatorConfig,
      .map ((.uint 1, .uint subcommand.toNat) :: Cbor.entry? (.uint 2) params))
  | .largeBlobs offset digest => (.authenticatorLargeBlobs,
      .map ((.uint 2, .bytes digest) :: (.uint 3, .uint offset)
        :: Cbor.entry? (.uint 4) (length.map .uint)))

/-- What is sent is the request of the message, and the length that is
announced beside it. -/
theorem SignedOperation.sent_eq {crypto : Crypto} (op : SignedOperation) :
    op.sent crypto = (op.message crypto).request op.announced := by
  cases op with
  | startNewBioEnrollment timeout => cases timeout <;> rfl
  | captureNextBioEnrollmentSample templateId timeout => cases timeout <;> rfl
  | setLargeBlobs total offset chunk =>
      by_cases hoffset : offset = 0
      · subst hoffset
        rfl
      · have hrequest : (SignedOperation.setLargeBlobs total offset chunk).request
            = .largeBlobs (.newSetContinuation chunk offset none) := congrArg _ (if_neg hoffset)
        have hannounced : (SignedOperation.setLargeBlobs total offset chunk).announced = none :=
          if_neg hoffset
        rw [SignedOperation.sent, hrequest, hannounced]
        rfl
  | _ => rfl

/-- An entry that may be missing says whether it is there. -/
theorem entry?_injective (key : Cbor) : Function.Injective (Cbor.entry? key) := by
  intro params params' h
  cases params <;> cases params' <;> simp_all [Cbor.entry?]

/-- Whatever is announced, the request says what the message says. -/
theorem SignedMessage.request_injective {message message' : SignedMessage}
    {length length' : Option Nat} (h : message.request length = message'.request length') :
    message = message' := by
  cases message <;> cases message' <;>
    simp_all [request, UInt8.toNat_inj, (entry?_injective _).eq_iff]

/-- Nothing is announced but with a fragment. -/
theorem SignedOperation.fragment_or {crypto : Crypto} (op : SignedOperation) :
    (∃ total offset chunk, op = .setLargeBlobs total offset chunk)
      ∨ op.announced = none ∧ ∀ offset digest, op.message crypto ≠ .largeBlobs offset digest := by
  cases op with
  | setLargeBlobs total offset chunk => exact Or.inl ⟨total, offset, chunk, rfl⟩
  | _ => exact Or.inr ⟨rfl, fun _ _ h => by cases h⟩

/-- Two first fragments that are the same, but for the length that they
announce. -/
def SignedOperation.DifferInLength (crypto : Crypto) (a b : SignedOperation) : Prop :=
  ∃ total total' chunk chunk', a = .setLargeBlobs total 0 chunk
    ∧ b = .setLargeBlobs total' 0 chunk' ∧ crypto.sha256 chunk = crypto.sha256 chunk'

variable {crypto : Crypto}

/-- What one message leaves open of the requests. -/
theorem SignedOperation.message_eq_iff {a b : SignedOperation} :
    a.message crypto = b.message crypto ↔ a.sent crypto = b.sent crypto
      ∨ a.DifferInLength crypto b := by
  rw [a.sent_eq, b.sent_eq]
  constructor
  · intro h
    rcases @fragment_or crypto a with ⟨total, offset, chunk, rfl⟩ | ⟨ha, hother⟩
    · rcases @fragment_or crypto b with ⟨total', offset', chunk', rfl⟩ | ⟨-, hother⟩
      · obtain ⟨rfl, hdigest⟩ := SignedMessage.largeBlobs.inj h
        by_cases hoffset : offset = 0
        · subst hoffset
          exact Or.inr ⟨total, total', chunk, chunk', rfl, rfl, hdigest⟩
        · refine Or.inl ?_
          rw [h, announced, announced, if_neg hoffset, if_neg hoffset]
      · exact absurd h.symm (hother _ _)
    · rcases @fragment_or crypto b with ⟨total', offset', chunk', rfl⟩ | ⟨hb, -⟩
      · exact absurd h (hother _ _)
      · rw [h, ha, hb]
        exact Or.inl rfl
  · rintro (hsent | ⟨total, total', chunk, chunk', rfl, rfl, hdigest⟩)
    · exact SignedMessage.request_injective hsent
    · exact congrArg (SignedMessage.largeBlobs 0) hdigest

/-- **What is signed is what is sent**: of two operations, whatever their
commands, the messages are the same just where the requests are, except that
no message says which length a first fragment announces. -/
theorem signedData_eq_iff {a b : SignedOperation} (ha : a.Fits) (hb : b.Fits) :
    a.signedData crypto = b.signedData crypto ↔ a.sent crypto = b.sent crypto
      ∨ a.DifferInLength crypto b := by
  rw [a.signedData_eq, b.signedData_eq, ← SignedOperation.message_eq_iff]
  constructor
  · intro h
    have hread := readSigned_encode (@SignedOperation.Fits.message crypto a ha)
    rw [Option.some.inj h, readSigned_encode hb.message] at hread
    exact (Option.some.inj hread).symm
  · intro h
    rw [h]

/-- Deleting a credential, and removing a fingerprint. -/
theorem signedData_eq_iff_deletes :
    (SignedOperation.deleteCredential ⟨[7], .publicKey, none⟩).signedData transparentCrypto
        = (SignedOperation.removeBioEnrollment [7]).signedData transparentCrypto
      ↔ (SignedOperation.deleteCredential ⟨[7], .publicKey, none⟩).sent transparentCrypto
          = (SignedOperation.removeBioEnrollment [7]).sent transparentCrypto
        ∨ (SignedOperation.deleteCredential ⟨[7], .publicKey, none⟩).DifferInLength
          transparentCrypto (.removeBioEnrollment [7]) :=
  signedData_eq_iff (by decide : [7].length < 2 ^ 64) (by decide : [7].length < 2 ^ 64)

end Libwebauthn
