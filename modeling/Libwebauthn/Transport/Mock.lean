/-
  Libwebauthn.Transport.Mock — a channel whose answers are queued beforehand
  (after `MockChannel` of `src/transport/mock/channel.rs`), for runs on
  concrete answers.

  Each command takes the next answer of its own queue, and fails with
  `CtapError::Other` when that is empty.  The primitives are transparent: a
  ciphertext is its plaintext, a hash the first 32 bytes.
-/
import Libwebauthn.Lib.Base64
import Libwebauthn.Transport.Channel

namespace Libwebauthn

/-- The first `n` bytes, filled up with zeros. -/
def fitBytes (n : Nat) (bytes : Bytes) : Bytes :=
  bytes.take n ++ List.replicate (n - bytes.length) 0

theorem fitBytes_length (n : Nat) (bytes : Bytes) : (fitBytes n bytes).length = n := by
  unfold fitBytes
  rw [List.length_append, List.length_take, List.length_replicate]
  omega

def transparentCrypto : Crypto where
  sha256 bytes := fitBytes 32 bytes
  sha256_length := fitBytes_length 32
  hmacSha256 key message := fitBytes 32 (message ++ key)
  hmacSha256_length _ _ := fitBytes_length 32 _
  hkdfSha256 _ ikm _ n := fitBytes n ikm
  aes256CbcEncrypt key iv plaintext :=
    if key.length = 32 ∧ iv.length = 16 then some plaintext else none
  aes256CbcDecrypt key iv ciphertext :=
    if key.length = 32 ∧ iv.length = 16 ∧ ciphertext.length % 16 = 0 then some ciphertext
    else none
  aes128CbcDecrypt key iv ciphertext :=
    if key.length = 16 ∧ iv.length = 16 ∧ ciphertext.length % 16 = 0 then some ciphertext
    else none
  aes256GcmEncrypt key _ aad plaintext := some (key ++ aad ++ plaintext)
  aes256GcmDecrypt key _ aad ciphertext :=
    if ciphertext.take (key ++ aad).length = key ++ aad then
      some (ciphertext.drop (key ++ aad).length)
    else none
  publicKey privateKey := (privateKey, privateKey)
  diffieHellman _ x _ := some x
  nfc s := s
  base64UrlEncode bytes := String.ofList (bytes.map fun b => Char.ofNat b.toNat)
  base64UrlDecode s := s.toList.mapM fun c =>
    if c.toNat < 256 then some (UInt8.ofNat c.toNat) else none

/-- The same with base64url itself. -/
def base64Crypto : Crypto :=
  { transparentCrypto with base64UrlEncode := base64Url, base64UrlDecode := base64UrlDecode }

/-- No compression, and no CBOR value that is understood. -/
def absentCodecs : Codecs where
  deflate bytes := bytes
  inflate bytes limit := .ok (bytes.take limit)
  skipItem _ := .error ""
  readValue _ := .error ""
  debugValue _ := ""

/-- Failures carry a status code; there are no transport errors. -/
abbrev MockError := WebAuthnError Empty

structure MockChannel where
  getInfo : List Ctap2GetInfoResponse := []
  clientPin : List (Except MockError Ctap2ClientPinResponse) := []
  makeCredential : List (Except MockError Ctap2MakeCredentialResponse) := []
  getAssertion : List (Except MockError Ctap2GetAssertionResponse) := []
  pins : List String := []

/-- The next answer of a queue. -/
def popAnswer {α : Type} : List (Except MockError α) →
    Except MockError α × List (Except MockError α)
  | [] => (.error (.ctap .other), [])
  | answer :: queue => (answer, queue)

def mockPlatform (supportsPreflight : Bool) : Platform MockChannel Empty where
  crypto := transparentCrypto
  codecs := absentCodecs
  supportsPreflight := supportsPreflight
  getInfo s :=
    match s.getInfo with
    | [] => (.error (.ctap .other), s)
    | info :: queue => (.ok info, { s with getInfo := queue })
  clientPin _ s := ((popAnswer s.clientPin).1, { s with clientPin := (popAnswer s.clientPin).2 })
  makeCredential _ s :=
    ((popAnswer s.makeCredential).1, { s with makeCredential := (popAnswer s.makeCredential).2 })
  getAssertion _ s :=
    ((popAnswer s.getAssertion).1, { s with getAssertion := (popAnswer s.getAssertion).2 })
  getNextAssertion s := (.error (.ctap .other), s)
  largeBlobs _ s := (.error (.ctap .other), s)
  uxUpdate _ s := s
  pinRequired _ _ s := (s.pins.head?, { s with pins := s.pins.tail })
  pinNotSet _ s := (s.pins.head?, { s with pins := s.pins.tail })
  persistentTokenStore := false
  storeList s := ([], s)
  storePut _ _ s := s
  storeDelete _ s := s
  random n s := (List.replicate n 0, s)
  random_length _ _ := List.length_replicate

/-! ## Answers and requests. -/

/-- A getInfo with built-in UV that mints tokens, and a PIN that is not set. -/
def builtInUvInfo : Ctap2GetInfoResponse :=
  { options := some [("uv", true), ("pinUvAuthToken", true), ("clientPin", false)]
    pinAuthProtos := some [1] }

/-- A key agreement answer. -/
def keyAgreementAnswer : Ctap2ClientPinResponse :=
  { keyAgreement := some (.ecdhEsHkdf256Key (List.replicate 32 7) (List.replicate 32 8)) }

/-- What a token for both ceremonies leaves on the channel. -/
def cachedToken : AuthTokenData where
  protocolVersion := .one
  keyAgreement := .ecdhEsHkdf256Key (List.replicate 32 7) (List.replicate 32 8)
  sharedSecret := List.replicate 32 5
  uvOperation := .getPinToken
  permission := some ⟨.one, { makeCredential := true, getAssertion := true }, some "example.org"⟩
  pinUvAuthToken := some (List.replicate 32 6)

/-- Authenticator data for `example.org`, without attested credential. -/
def plainAuthenticatorData {X : Type} : AuthenticatorData X where
  rpIdHash := transparentCrypto.sha256 (utf8 "example.org")
  flags := 1
  signatureCount := 0
  attestedCredential := none
  extensions := none
  raw := none

def plainMakeCredentialOp : MakeCredentialRequest where
  challenge := [1]
  origin := "https://example.org"
  topOrigin := none
  relyingParty := ⟨"example.org", none⟩
  user := .dummy
  residentKey := none
  userVerification := .required
  algorithms := [.default]
  exclude := none
  extensions := none

def plainGetAssertionOp : GetAssertionRequest where
  relyingPartyId := "example.org"
  challenge := [1]
  origin := "https://example.org"
  topOrigin := none
  allow := []
  extensions := none
  userVerification := .required

def plainMakeCredentialResponse : Ctap2MakeCredentialResponse where
  format := "none"
  authenticatorData := plainAuthenticatorData
  enterpriseAttestation := none
  largeBlobKey := none
  unsignedPrf := none

def listedCredential (id : UInt8) : Ctap2PublicKeyCredentialDescriptor :=
  ⟨[id], .publicKey, none⟩

/-- An assertion by `credential`, or without naming one. -/
def plainGetAssertionResponse (credential : Option Ctap2PublicKeyCredentialDescriptor) :
    Ctap2GetAssertionResponse where
  credentialId := credential
  authenticatorData := plainAuthenticatorData
  signature := [1, 2, 3]
  user := none
  credentialsCount := none
  userSelected := none
  largeBlobKey := none
  unsignedPrf := none

end Libwebauthn
