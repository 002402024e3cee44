/-
  Libwebauthn.Ops.U2fSigned — the bytes a U2F device signs, as a relying
  party puts them together.

  A relying party that is given the upgraded response verifies the device's
  signature over bytes of its own making.  For a registration these are the
  bytes the device signed.  For an assertion they are when the user presence
  byte is 0x01: the upgraded flags do not depend on it.

    • `registrationBase`, `signatureBase` — what the device signs;
    • `relyingPartyBase` — what a relying party reads out of an attestation;
    • `u2fSignedBytes_preserved` — the two agree.
-/
import Libwebauthn.Ctap1.Device
import Libwebauthn.Lib.CborReader
import Libwebauthn.Transport.Mock

namespace Libwebauthn

/-! ## §1. What the device signs. -/

/-- The challenge comes first in both commands. -/
def ApduRequest.challengeParameter (apdu : ApduRequest) : Bytes := (apdu.data.getD []).take 32

/-- The signed bytes of a registration. -/
def registrationBase (apdu : ApduRequest) (keyHandle publicKey : Bytes) : Bytes :=
  0x00 :: (apdu.applicationParameter ++ apdu.challengeParameter ++ keyHandle ++ publicKey)

/-- The signed bytes of an assertion. -/
def signatureBase (apdu : ApduRequest) (userPresence : UInt8) (counter : Bytes) : Bytes :=
  apdu.applicationParameter ++ userPresence :: counter ++ apdu.challengeParameter

/-- The two parameters of a registration, out of the bytes that the device is
sent. -/
theorem Ctap1RegisterRequest.parameters_toApdu (request : Ctap1RegisterRequest)
    (hchallenge : request.challenge.length = 32) (happ : request.appIdHash.length = 32) :
    request.toApdu.challengeParameter = request.challenge ∧
      request.toApdu.applicationParameter = request.appIdHash := by
  constructor
  · show (request.challenge ++ request.appIdHash).take 32 = _
    rw [List.take_left' hchallenge]
  · show ((request.challenge ++ request.appIdHash).drop 32).take 32 = _
    rw [List.drop_left' hchallenge, List.take_of_length_le (by omega)]

theorem Ctap1SignRequest.challengeParameter_toApdu {request : Ctap1SignRequest}
    (hchallenge : request.challenge.length = 32) :
    request.toApdu.challengeParameter = request.challenge := by
  show (request.challenge ++ request.appIdHash ++ _).take 32 = _
  rw [List.append_assoc, List.take_left' hchallenge]

/-! ## §2. What the device answers. -/

/-- The data of a register response with an uncompressed key. -/
def registerData (x y keyHandle certificate signature : Bytes) : Bytes :=
  0x05 :: ((0x04 :: x ++ y)
    ++ (UInt8.ofNat keyHandle.length :: (keyHandle ++ (certificate ++ signature))))

def registerResponse (x y keyHandle certificate signature : Bytes) : ApduResponse :=
  ⟨some (registerData x y keyHandle certificate signature), 0x90, 0x00⟩

def signResponse (userPresence : UInt8) (counter signature : Bytes) : ApduResponse :=
  ⟨some (userPresence :: (counter ++ signature)), 0x90, 0x00⟩

theorem ApduResponse.status_of_code {response : ApduResponse} {status : ApduResponseStatus}
    (h : ApduResponseStatus.tryFrom (response.sw1.toNat * 256 + response.sw2.toNat)
      = some status) : response.status = .ok status := by
  unfold ApduResponse.status
  simp only [h]

theorem status_success (data : Option Bytes) :
    (⟨data, 0x90, 0x00⟩ : ApduResponse).status = .ok .noError := by
  have hcode : ApduResponseStatus.tryFrom ((0x90 : UInt8).toNat * 256 + (0x00 : UInt8).toNat)
      = some .noError := by decide +kernel
  exact ApduResponse.status_of_code hcode

/-- A read of as many bytes as stand in front. -/
theorem readExact_append {n : Nat} (front : Bytes) {rest : Bytes} (h : front.length = n) :
    Transport.readExact n (front ++ rest) = .ok (front, rest) := by
  unfold Transport.readExact
  rw [if_pos (by rw [List.length_append]; omega), List.take_left' h, List.drop_left' h]

/-- The response is read as it was put together. -/
theorem tryFrom_registerResponse {fromDer : X509} {x y keyHandle certificate signature : Bytes}
    (hx : x.length = 32) (hy : y.length = 32) (hhandle : keyHandle.length < 256)
    (hder : fromDer (certificate ++ signature) = some signature) :
    Ctap1RegisterResponse.tryFrom fromDer
        (registerResponse x y keyHandle certificate signature)
      = .ok ⟨.u2fV2, 0x04 :: x ++ y, keyHandle, certificate, signature⟩ := by
  have hkey : (0x04 :: x ++ y : Bytes).length = 65 := by
    simp only [List.cons_append, List.length_cons, List.length_append]
    omega
  have hlength : beDecode [UInt8.ofNat keyHandle.length] = keyHandle.length := by
    simp only [beDecode, List.foldl_cons, List.foldl_nil, beStep, UInt8.toNat_ofNat']
    omega
  have hdata := ApduResponse.successData_of_status (status_success _) (rfl :
    (registerResponse x y keyHandle certificate signature).data = _)
  refine except_bind_eq_ok_iff.mpr ⟨_, hdata, except_bind_eq_ok_iff.mpr
    ⟨_, readExact_append _ hkey, except_bind_eq_ok_iff.mpr
      ⟨_, readExact_append [UInt8.ofNat keyHandle.length] rfl,
        except_bind_eq_ok_iff.mpr ⟨_, readExact_append keyHandle hlength.symm, ?_⟩⟩⟩⟩
  simp only [hder, List.length_append]
  rw [if_neg (by omega), Nat.add_sub_cancel, List.take_left]

/-- A sign response is taken apart into presence, counter and signature. -/
theorem tryFrom_signResponse {counter : Bytes} (userPresence : UInt8) (signature : Bytes)
    (hcounter : counter.length = 4) :
    Ctap1SignResponse.tryFrom (signResponse userPresence counter signature)
      = .ok ⟨[userPresence] == [0x01], beDecode counter, signature⟩ := by
  have hdata := ApduResponse.successData_of_status (status_success _) (rfl :
    (signResponse userPresence counter signature).data = _)
  exact except_bind_eq_ok_iff.mpr ⟨_, hdata, except_bind_eq_ok_iff.mpr
    ⟨_, readExact_append [userPresence] rfl, except_bind_eq_ok_iff.mpr
      ⟨_, readExact_append counter hcounter, rfl⟩⟩⟩

/-! ## §3. The upgraded authenticator data. -/

/-- The uncompressed points of SEC 1. -/
def EncodedPoints.Uncompressed (encodedPoint : EncodedPoints) : Prop :=
  ∀ x y : Bytes, x.length = 32 → y.length = 32 →
    encodedPoint (0x04 :: x ++ y) = some (some x, some y)

/-- The COSE_Key that a registration is given, entry by entry. -/
theorem p256Key_toCbor (x y : Bytes) :
    (PublicKey.p256Key x y).toCbor
      = .map [(.uint 1, .uint 2), (.uint 3, .nint 6), (.nint 0, .uint 1), (.nint 1, .bytes x),
        (.nint 2, .bytes y)] :=
  rfl

/-- The key is 77 bytes long, so that it is not refused. -/
theorem p256Key_length {x y : Bytes} (hx : x.length = 32) (hy : y.length = 32) :
    (PublicKey.p256Key x y).toCbor.encode.length = 77 := by
  rw [p256Key_toCbor]
  simp [Cbor.encode, Cbor.encodeEntries, Cbor.head, hx, hy]

theorem cosePublicKey_eq {T : Type} {encodedPoint : EncodedPoints}
    (hpoint : encodedPoint.Uncompressed) {x y : Bytes} (hx : x.length = 32) (hy : y.length = 32)
    (keyHandle attestation signature : Bytes) :
    (Ctap1RegisterResponse.cosePublicKey encodedPoint
        ⟨.u2fV2, 0x04 :: x ++ y, keyHandle, attestation, signature⟩ :
        Except (WebAuthnError T) Bytes)
      = .ok (PublicKey.p256Key x y).toCbor.encode := by
  unfold Ctap1RegisterResponse.cosePublicKey
  simp only [hpoint x y hx hy]
  refine except_bind_eq_ok_iff.mpr ⟨x, rfl, except_bind_eq_ok_iff.mpr ⟨y, rfl,
    except_bind_eq_ok_iff.mpr ⟨x, if_pos (by omega), except_bind_eq_ok_iff.mpr
      ⟨y, if_pos (by omega), if_neg ?_⟩⟩⟩⟩
  rw [p256Key_length hx hy]
  simp

/-- Authenticator data that was put together without extensions. -/
theorem toResponseBytes_of_fields {X : Type} (toVec : Option X → Option Bytes)
    {data : AuthenticatorData X} (hraw : data.raw = none) (hext : data.extensions = none)
    (hflags : (data.flags &&& EXTENSION_DATA == EXTENSION_DATA) = false) :
    data.toResponseBytes toVec
      = .ok (data.rpIdHash ++ data.flags :: beEncode 4 data.signatureCount
        ++ (data.attestedCredential.map AttestedCredentialData.toBytes).getD []) := by
  unfold AuthenticatorData.toResponseBytes
  simp only [hraw, hext, hflags]
  rfl

/-- The authenticator data of an upgraded registration. -/
def upgradedRegistration (rpIdHash keyHandle x y : Bytes) : Bytes :=
  rpIdHash ++ ((USER_PRESENT ||| ATTESTED_CREDENTIALS) :: beEncode 4 0)
    ++ (List.replicate 16 0 ++ beEncode 2 keyHandle.length ++ keyHandle
      ++ (PublicKey.p256Key x y).toCbor.encode)

theorem tryUpgrade_register {T : Type} {encodedPoint : EncodedPoints}
    (hpoint : encodedPoint.Uncompressed) {x y : Bytes} (hx : x.length = 32) (hy : y.length = 32)
    (crypto : Crypto) (keyHandle attestation signature : Bytes) (op : MakeCredentialRequest)
    (toVec : Option Ctap2MakeCredentialsResponseExtensions → Option Bytes) :
    ∃ response : MakeCredentialResponse,
      (Ctap1RegisterResponse.tryUpgrade crypto encodedPoint
          ⟨.u2fV2, 0x04 :: x ++ y, keyHandle, attestation, signature⟩ op :
          Except (WebAuthnError T) MakeCredentialResponse) = .ok response ∧
        response.authenticatorData.toResponseBytes toVec
          = .ok (upgradedRegistration (crypto.sha256 (utf8 op.relyingParty.id)) keyHandle x y) := by
  unfold Ctap1RegisterResponse.tryUpgrade
  rw [cosePublicKey_eq hpoint hx hy]
  have hflags : ((USER_PRESENT ||| ATTESTED_CREDENTIALS) &&& EXTENSION_DATA == EXTENSION_DATA)
      = false := by decide
  exact ⟨_, rfl, toResponseBytes_of_fields toVec rfl rfl hflags⟩

theorem tryUpgrade_sign {T : Type} (crypto : Crypto) (signed : Ctap1SignResponse)
    {request : Ctap1SignRequest} (happ : request.appIdHash.length = 32)
    (toVec : Option Ctap2GetAssertionResponseExtensions → Option Bytes) :
    ∃ assertion : Assertion,
      (signed.tryUpgrade crypto request : Except (WebAuthnError T) (List Assertion))
          = .ok [assertion] ∧
        assertion.signature = signed.signature ∧
        assertion.authenticatorData.toResponseBytes toVec
          = .ok (request.appIdHash ++ USER_PRESENT :: beEncode 4 signed.counter) := by
  unfold Ctap1SignResponse.tryUpgrade
  rw [if_neg (by rw [happ]; simp)]
  have hflags : (USER_PRESENT &&& EXTENSION_DATA == EXTENSION_DATA) = false := by decide
  refine ⟨_, rfl, rfl, (toResponseBytes_of_fields toVec rfl rfl hflags).trans ?_⟩
  exact congrArg Except.ok (List.append_nil _)

/-! ## §4. What a relying party makes of it. -/

/-- A coordinate of a COSE key, whose label is a negative integer. -/
def Cbor.coordinate (label : Nat) : Cbor → Option Bytes
  | .map entries => entries.findSome? fun entry =>
      match entry with
      | (.nint n, .bytes bs) => if n = label then some bs else none
      | _ => none
  | _ => none

/-- The bytes to verify a fido-u2f attestation over, read out of the
authenticator data. -/
def relyingPartyBase (clientDataHash : Bytes) : Reader UInt8 Bytes := do
  let rpIdHash ← Reader.take 32
  let _flagsAndCounter ← Reader.take 5
  let _aaguid ← Reader.take 16
  let length ← Reader.take 2
  let credentialId ← Reader.take (beDecode length)
  let key ← Cbor.readItem 2
  match key.coordinate 1, key.coordinate 2 with
  | some x, some y =>
      pure (0x00 :: (rpIdHash ++ clientDataHash ++ credentialId ++ (0x04 :: x ++ y)))
  | _, _ => Reader.fail

/-- The relying party's base over the upgraded response is the one the device
signed. -/
theorem relyingPartyBase_upgraded (clientDataHash : Bytes) {rpIdHash keyHandle x y : Bytes}
    (hrp : rpIdHash.length = 32) (hhandle : keyHandle.length < 256) (hx : x.length = 32)
    (hy : y.length = 32) :
    (relyingPartyBase clientDataHash).whole (upgradedRegistration rpIdHash keyHandle x y)
      = some (0x00 :: (rpIdHash ++ clientDataHash ++ keyHandle ++ (0x04 :: x ++ y))) := by
  have hid : keyHandle.length = beDecode (beEncode 2 keyHandle.length) :=
    (beDecode_beEncode_of_lt (by omega)).symm
  have hfive : ((USER_PRESENT ||| ATTESTED_CREDENTIALS) :: beEncode 4 0).length = 5 := rfl
  have hkey : Reader.Reads (Cbor.readItem 2) (PublicKey.p256Key x y).toCbor.encode
      (PublicKey.p256Key x y).toCbor := by
    refine Cbor.reads_encode 2 _ ?_
    rw [p256Key_toCbor]
    simp [Cbor.Fits, hx, hy]
  -- the relying party takes the pieces off in the order they were put together
  have hreads : Reader.Reads (relyingPartyBase clientDataHash)
      (rpIdHash ++ (((USER_PRESENT ||| ATTESTED_CREDENTIALS) :: beEncode 4 0)
        ++ (List.replicate 16 0 ++ (beEncode 2 keyHandle.length ++ (keyHandle
          ++ (PublicKey.p256Key x y).toCbor.encode)))))
      (0x00 :: (rpIdHash ++ clientDataHash ++ keyHandle ++ (0x04 :: x ++ y))) :=
    (Reader.Reads.take_of_length hrp).bind <|
      (Reader.Reads.take_of_length hfive).bind <|
        (Reader.Reads.take_of_length List.length_replicate).bind <|
          (Reader.Reads.take_of_length (beEncode_length 2 _)).bind <|
            (Reader.Reads.take_of_length hid).bind <| hkey.bind_pure rfl
  have hpieces : upgradedRegistration rpIdHash keyHandle x y
      = rpIdHash ++ (((USER_PRESENT ||| ATTESTED_CREDENTIALS) :: beEncode 4 0)
        ++ (List.replicate 16 0 ++ (beEncode 2 keyHandle.length ++ (keyHandle
          ++ (PublicKey.p256Key x y).toCbor.encode)))) := by
    simp only [upgradedRegistration, List.append_assoc]
  rw [hpieces]
  exact hreads.whole

/-! ## §5. The signed bytes. -/

/-- The bytes of an upgraded registration are those the device signed, for
any response to the REGISTER command of `op`. -/
def RegistrationPreserved (T : Type) (crypto : Crypto) (fromDer : X509)
    (encodedPoint : EncodedPoints) (op : MakeCredentialRequest) : Prop :=
  ∀ (toVec : Option Ctap2MakeCredentialsResponseExtensions → Option Bytes)
    (x y keyHandle certificate signature : Bytes),
    x.length = 32 → y.length = 32 → keyHandle.length < 256 →
    fromDer (certificate ++ signature) = some signature →
    ∃ (register : Ctap1RegisterResponse) (upgraded : MakeCredentialResponse) (authData : Bytes),
      Ctap1RegisterResponse.tryFrom fromDer
          (registerResponse x y keyHandle certificate signature) = .ok register ∧
        (register.tryUpgrade crypto encodedPoint op :
          Except (WebAuthnError T) MakeCredentialResponse) = .ok upgraded ∧
        upgraded.authenticatorData.toResponseBytes toVec = .ok authData ∧
        register.attestationStatement = ⟨signature, [certificate]⟩ ∧
        (relyingPartyBase (op.clientDataHash crypto)).whole authData
          = some (registrationBase (op.tryDowngrade crypto).preflight.1.toApdu keyHandle
              (0x04 :: x ++ y))

/-- The same for a response to a sign request of `op`. -/
def AssertionPreserved (T : Type) (crypto : Crypto)
    (toVec : Option Ctap2GetAssertionResponseExtensions → Option Bytes)
    (op : GetAssertionRequest) (request : Ctap1SignRequest) (userPresence : UInt8)
    (counter signature : Bytes) : Prop :=
  ∃ (signed : Ctap1SignResponse) (assertion : Assertion) (authData : Bytes),
    Ctap1SignResponse.tryFrom (signResponse userPresence counter signature) = .ok signed ∧
      (signed.tryUpgrade crypto request : Except (WebAuthnError T) (List Assertion))
        = .ok [assertion] ∧
      assertion.authenticatorData.toResponseBytes toVec = .ok authData ∧
      assertion.signature = signature ∧
      authData ++ op.clientDataHash crypto = signatureBase request.toApdu userPresence counter

/-- A registration's signature covers what the relying party verifies. -/
theorem registration_preserved (T : Type) (crypto : Crypto) (fromDer : X509)
    {encodedPoint : EncodedPoints} (hpoint : encodedPoint.Uncompressed)
    (op : MakeCredentialRequest) :
    RegistrationPreserved T crypto fromDer encodedPoint op := by
  intro toVec x y keyHandle certificate signature hx hy hhandle hder
  obtain ⟨upgraded, hupgrade, hbytes⟩ := tryUpgrade_register (T := T) hpoint hx hy crypto
    keyHandle certificate signature op toVec
  refine ⟨_, upgraded, _, tryFrom_registerResponse hx hy hhandle hder, hupgrade, hbytes, rfl, ?_⟩
  have hsent := Ctap1RegisterRequest.parameters_toApdu (op.tryDowngrade crypto).preflight.1
    (crypto.sha256_length _) (crypto.sha256_length _)
  rw [relyingPartyBase_upgraded _ (crypto.sha256_length _) hhandle hx hy]
  unfold registrationBase
  rw [hsent.1, hsent.2]
  rfl

/-- An assertion's does just when the presence byte is 0x01, the one byte that
the flags give back. -/
theorem assertion_preserved_iff (T : Type) (crypto : Crypto)
    (toVec : Option Ctap2GetAssertionResponseExtensions → Option Bytes)
    {op : GetAssertionRequest} {request : Ctap1SignRequest}
    (hrequest : request ∈ op.tryDowngrade crypto) (userPresence : UInt8)
    {counter : Bytes} (signature : Bytes) (hcounter : counter.length = 4) :
    AssertionPreserved T crypto toVec op request userPresence counter signature ↔
      userPresence = 0x01 := by
  obtain ⟨hchallenge, happ⟩ := GetAssertionRequest.sized_of_mem_tryDowngrade hrequest
  have hhash : request.challenge.length = 32 := by
    rw [hchallenge]
    exact crypto.sha256_length _
  have hread := tryFrom_signResponse userPresence signature hcounter
  obtain ⟨assertion, hupgrade, hsignature, hbytes⟩ := tryUpgrade_sign (T := T) crypto
    ⟨[userPresence] == [0x01], beDecode counter, signature⟩ happ toVec
  -- what the device has signed, and the signature base of the assertion
  have hsigned : signatureBase request.toApdu userPresence counter
      = request.appIdHash ++ userPresence :: counter ++ op.clientDataHash crypto := by
    unfold signatureBase
    rw [Ctap1SignRequest.challengeParameter_toApdu hhash, hchallenge,
      (Ctap1SignRequest.fields_toApdu hhash happ).1]
  have hcount : beEncode 4 (beDecode counter) = counter := by
    rw [← hcounter]
    exact beEncode_beDecode counter
  constructor
  · rintro ⟨signed, assertion', authData, hread', hupgrade', hbytes', -, heq⟩
    obtain rfl := Except.ok.inj (hread.symm.trans hread')
    obtain rfl := List.cons.inj (Except.ok.inj (hupgrade.symm.trans hupgrade')) |>.1
    obtain rfl := Except.ok.inj (hbytes.symm.trans hbytes')
    -- the two differ in the user presence byte alone
    rw [hsigned, hcount, List.append_left_inj, List.append_right_inj] at heq
    exact (List.cons.inj heq).1.symm
  · rintro rfl
    refine ⟨_, assertion, _, hread, hupgrade, hbytes, hsignature, ?_⟩
    rw [hsigned, hcount]
    rfl

/-- **The signed bytes of U2F.**  A relying party rebuilds the bytes that the
device signed for a registration from its upgrade, and those of an assertion
exactly when the user presence byte is 0x01. -/
theorem u2fSignedBytes_preserved (T : Type) (crypto : Crypto) (fromDer : X509)
    {encodedPoint : EncodedPoints} (hpoint : encodedPoint.Uncompressed) :
    (∀ op, RegistrationPreserved T crypto fromDer encodedPoint op) ∧
      ∀ (toVec : Option Ctap2GetAssertionResponseExtensions → Option Bytes)
        (op : GetAssertionRequest) (request : Ctap1SignRequest) (userPresence : UInt8)
        (counter signature : Bytes), request ∈ op.tryDowngrade crypto → counter.length = 4 →
        (AssertionPreserved T crypto toVec op request userPresence counter signature ↔
          userPresence = 0x01) :=
  ⟨registration_preserved T crypto fromDer hpoint,
    fun toVec _ _ userPresence _ signature hrequest hcounter =>
      assertion_preserved_iff T crypto toVec hrequest userPresence signature hcounter⟩

/-! ## §6. A response of a device. -/

/-- The points of SEC 1, by their tag. -/
def sec1Points : EncodedPoints
  | [] => none
  | tag :: rest =>
      if tag = 0x00 ∧ rest.length = 0 then some (none, none)
      else if (tag = 0x02 ∨ tag = 0x03 ∨ tag = 0x05) ∧ rest.length = 32 then some (some rest, none)
      else if tag = 0x04 ∧ rest.length = 64 then some (some (rest.take 32), some (rest.drop 32))
      else none

theorem uncompressed_sec1Points : EncodedPoints.Uncompressed sec1Points := by
  intro x y hx hy
  have hlen : (x ++ y).length = 64 := by
    rw [List.length_append]
    omega
  simp [sec1Points, hlen, List.take_left' hx, List.drop_left' hx]

/-- What is behind a certificate, from the length in its first bytes. -/
def firstDerSequence : X509
  | 0x30 :: 0x82 :: hi :: lo :: rest =>
      if hi.toNat * 256 + lo.toNat ≤ rest.length then
        some (rest.drop (hi.toNat * 256 + lo.toNat))
      else none
  | _ => none

def exampleX : Bytes :=
  beEncode 32 0x6DDBE3C25D974C9A403D6C648ED41C219D44734C43986B4053B325BE01C31E28

def exampleY : Bytes :=
  beEncode 32 0xF146731E5C21BA0E0E1938DA4C1FECAD650A2971A13CF6076BF52B52C19F8D0E

def exampleKeyHandle : Bytes :=
  beEncode 37 0x602CFD267868E84D4852BD5B008BC6CE0211D4858C8A647328A13B7D5C0A42B3893D63A58F
    ++ beEncode 27 0xCA7BD3EBB74F55CE537195DFF0113D4C561BBB7DFAC0C0ECD1AFB5

def exampleCertificate : Bytes :=
  beEncode 37 0x3082015930820100A003020102020102300A06082A8648CE3D040302302831153013060355
    ++ beEncode 37 0x0403130C5365637572697479204B6579310F300D060355040A1306476F6F676C653022180F
    ++ beEncode 37 0x32303030303130313030303030305A180F32303939313233313233353935395A3028311530
    ++ beEncode 37 0x130603550403130C5365637572697479204B6579310F300D060355040A1306476F6F676C65
    ++ beEncode 37 0x3059301306072A8648CE3D020106082A8648CE3D030107034200040393AF897BE858E88C19
    ++ beEncode 37 0x53876A1A538477C4DA6E6EA14ACF0A2FD89A4DCCF95878A8CD2929029CC1D794BFFB9C3754
    ++ beEncode 37 0x7CBBB5BB31AB3A6756ACF74F123CECD45CA31730153013060B2B0601040182E51C02010104
    ++ beEncode 37 0x0403020470300A06082A8648CE3D040302034700304402207F958ABE6CF08CB2E9A03774D5
    ++ beEncode 37 0x2DF8C0EA261E1AC0C283409FEDD8D36DFAF09302204EEB7501C720428D206E1B092D8D26CA
    ++ beEncode 16 0x8536B70F5F09AEA99562390BEF1BA7EC

def exampleSignature : Bytes :=
  beEncode 37 0x3044022031413D6E238A5F998B26B3931655C411847D99776B6E5CF15AA2E11BFAF325F002
    ++ beEncode 33 0x20098745DA82C11BB242934BAC6AE95155EAAD68520D695D46982DA9B2C94F94E3

def signedOp : GetAssertionRequest := { plainGetAssertionOp with allow := [listedCredential 9] }

def signedRequest : Ctap1SignRequest :=
  .newUpgraded (transparentCrypto.sha256 (utf8 signedOp.relyingPartyId))
    (signedOp.clientDataHash transparentCrypto) (listedCredential 9).id

theorem signedRequest_mem : signedRequest ∈ signedOp.tryDowngrade transparentCrypto :=
  List.mem_flatMap.mpr ⟨listedCredential 9, List.mem_singleton.mpr rfl, List.mem_cons_self⟩

/-- The registration of a security key, and one assertion. -/
theorem u2fSignedBytes_preserved_securityKey :
    (∃ (register : Ctap1RegisterResponse) (upgraded : MakeCredentialResponse) (authData : Bytes),
      Ctap1RegisterResponse.tryFrom firstDerSequence
          (registerResponse exampleX exampleY exampleKeyHandle exampleCertificate
            exampleSignature) = .ok register ∧
        (register.tryUpgrade transparentCrypto sec1Points plainMakeCredentialOp :
          Except MockError MakeCredentialResponse) = .ok upgraded ∧
        upgraded.authenticatorData.toResponseBytes (fun _ => none) = .ok authData ∧
        register.attestationStatement = ⟨exampleSignature, [exampleCertificate]⟩ ∧
        (relyingPartyBase (plainMakeCredentialOp.clientDataHash transparentCrypto)).whole authData
          = some (registrationBase
              (plainMakeCredentialOp.tryDowngrade transparentCrypto).preflight.1.toApdu
              exampleKeyHandle (0x04 :: exampleX ++ exampleY))) ∧
      (AssertionPreserved Empty transparentCrypto (fun _ => none) signedOp signedRequest
          0x01 [0, 0, 0, 7] [0x30, 0x00] ↔ (0x01 : UInt8) = 0x01) :=
  ⟨(u2fSignedBytes_preserved Empty transparentCrypto firstDerSequence
      uncompressed_sec1Points).1 plainMakeCredentialOp (fun _ => none) exampleX exampleY
      exampleKeyHandle exampleCertificate exampleSignature (by decide +kernel)
      (by decide +kernel) (by decide +kernel) (by decide +kernel),
    (u2fSignedBytes_preserved Empty transparentCrypto firstDerSequence
      uncompressed_sec1Points).2 (fun _ => none) signedOp signedRequest 0x01 [0, 0, 0, 7]
      [0x30, 0x00] signedRequest_mem rfl⟩

/-- A device that sets bit 1 beside the user presence signs another byte. -/
theorem u2fSignedBytes_not_preserved :
    ¬AssertionPreserved Empty transparentCrypto (fun _ => none) signedOp signedRequest
      0x03 [0, 0, 0, 7] [0x30, 0x00] := by
  rw [assertion_preserved_iff Empty transparentCrypto _ signedRequest_mem _ _ rfl]
  decide

end Libwebauthn
