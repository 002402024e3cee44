/-
  Libwebauthn.Pin.Protocol — the PIN/UV auth protocols one and two
  (`src/pin/mod.rs`).

  The primitives come from third-party crates and are the fields of
  `Crypto`.  A protocol object is a version with the private key it drew;
  encryption takes the random IV it uses as an argument.

  What the crates cannot fail on is total here: HMAC takes a key of any
  length, HKDF fails only for outputs beyond 8160 bytes, and the public key
  of a private key is never the identity.
-/
import Libwebauthn.Ctap2.ClientPin
import Libwebauthn.Webauthn.Error

namespace Libwebauthn

/-- The primitives the code takes from elsewhere. -/
structure Crypto where
  sha256 : Bytes → Bytes
  sha256_length : ∀ bytes, (sha256 bytes).length = 32
  hmacSha256 : (key message : Bytes) → Bytes
  hmacSha256_length : ∀ key message, (hmacSha256 key message).length = 32
  /-- HKDF-SHA-256: salt, input key, info, output length. -/
  hkdfSha256 : (salt ikm info : Bytes) → Nat → Bytes
  /-- AES-256-CBC without padding; `none` for a key or IV of a wrong length,
  and on decryption for a partial block. -/
  aes256CbcEncrypt : (key iv plaintext : Bytes) → Option Bytes
  aes256CbcDecrypt : (key iv ciphertext : Bytes) → Option Bytes
  aes128CbcDecrypt : (key iv ciphertext : Bytes) → Option Bytes
  aes256GcmEncrypt : (key nonce aad plaintext : Bytes) → Option Bytes
  /-- `none` when the tag does not verify. -/
  aes256GcmDecrypt : (key nonce aad ciphertext : Bytes) → Option Bytes
  /-- The coordinates of the public key of a P-256 private key. -/
  publicKey : (privateKey : Bytes) → Bytes × Bytes
  /-- The raw shared point; `none` when `(x, y)` is not on the curve. -/
  diffieHellman : (privateKey x y : Bytes) → Option Bytes
  /-- Unicode Normalization Form C. -/
  nfc : String → String
  base64UrlEncode : Bytes → String
  base64UrlDecode : String → Option Bytes

def cryptoFailed : PlatformError := .cryptoError "pin/uv crypto operation failed"

/-- `PinUvAuthProtocolOne` or `PinUvAuthProtocolTwo`. -/
structure PinUvAuthProtocol where
  version : Ctap2PinUvAuthProtocol
  privateKey : Bytes
  deriving Repr, DecidableEq

namespace PinUvAuthProtocol

variable (crypto : Crypto) (self : PinUvAuthProtocol)

def kdf (bytes : Bytes) : Bytes :=
  match self.version with
  | .one => crypto.sha256 bytes
  | .two =>
      let salt := List.replicate 32 0
      crypto.hkdfSha256 salt bytes (utf8 "CTAP2 HMAC key") 32
        ++ crypto.hkdfSha256 salt bytes (utf8 "CTAP2 AES key") 32

def ecdh (peerPublicKey : PublicKey) : Except PlatformError Bytes :=
  match peerPublicKey with
  | .ecdhEsHkdf256Key x y =>
      if x.length = 32 ∧ y.length = 32 then
        match crypto.diffieHellman self.privateKey x y with
        | some shared => .ok (self.kdf crypto shared)
        | none => .error cryptoFailed
      else .error cryptoFailed
  | _ => .error cryptoFailed

def getPublicKey : PublicKey :=
  .ecdhEsHkdf256Key (crypto.publicKey self.privateKey).1 (crypto.publicKey self.privateKey).2

/-- The platform's public key and the shared secret. -/
def encapsulate (peerPublicKey : PublicKey) : Except PlatformError (PublicKey × Bytes) := do
  let sharedSecret ← self.ecdh crypto peerPublicKey
  pure (self.getPublicKey crypto, sharedSecret)

end PinUvAuthProtocol

namespace Ctap2PinUvAuthProtocol

variable (crypto : Crypto)

/-- Protocol two discards the first half of the shared secret, and sends its
random IV in front of the ciphertext; protocol one has a zero IV. -/
def encrypt (version : Ctap2PinUvAuthProtocol) (iv key plaintext : Bytes) :
    Except PlatformError Bytes :=
  match version with
  | .one =>
      match crypto.aes256CbcEncrypt key (List.replicate 16 0) plaintext with
      | some ciphertext => .ok ciphertext
      | none => .error cryptoFailed
  | .two =>
      if key.length < 32 then .error cryptoFailed
      else
        match crypto.aes256CbcEncrypt (key.drop 32) iv plaintext with
        | some ciphertext => .ok (iv ++ ciphertext)
        | none => .error cryptoFailed

def decrypt (version : Ctap2PinUvAuthProtocol) (key ciphertext : Bytes) :
    Except PlatformError Bytes :=
  match version with
  | .one =>
      if ciphertext.length % 16 ≠ 0 then .error cryptoFailed
      else
        match crypto.aes256CbcDecrypt key (List.replicate 16 0) ciphertext with
        | some plaintext => .ok plaintext
        | none => .error cryptoFailed
  | .two =>
      if key.length < 32 then .error cryptoFailed
      else if ciphertext.length < 16 then .error cryptoFailed
      else
        match crypto.aes256CbcDecrypt (key.drop 32) (ciphertext.take 16)
            (ciphertext.drop 16) with
        | some plaintext => .ok plaintext
        | none => .error cryptoFailed

def authenticate (version : Ctap2PinUvAuthProtocol) (key message : Bytes) :
    Except PlatformError Bytes :=
  match version with
  | .one => .ok ((crypto.hmacSha256 key message).take 16)
  | .two =>
      if key.length < 32 then .error cryptoFailed
      else .ok (crypto.hmacSha256 (key.take 32) message)

/-- The valid lengths of a decrypted pinUvAuthToken. -/
def pinUvAuthTokenLenValid (version : Ctap2PinUvAuthProtocol) (len : Nat) : Bool :=
  match version with
  | .one => len == 16 || len == 32
  | .two => len == 32

variable {crypto}

/-- Both protocols authenticate under a token of a valid length. -/
theorem authenticate_of_lenValid {version : Ctap2PinUvAuthProtocol} {token : Bytes}
    (hlen : version.pinUvAuthTokenLenValid token.length = true) (message : Bytes) :
    ∃ param, version.authenticate crypto token message = .ok param := by
  cases version with
  | one => exact ⟨_, rfl⟩
  | two =>
      have hlen : token.length = 32 := by
        unfold pinUvAuthTokenLenValid at hlen
        exact eq_of_beq hlen
      unfold authenticate
      rw [if_neg (by omega)]
      exact ⟨_, rfl⟩

end Ctap2PinUvAuthProtocol

/-- `hash(pin)`: the left 16 bytes of SHA-256. -/
def pinHash (crypto : Crypto) (pin : Bytes) : Bytes := (crypto.sha256 pin).take 16

end Libwebauthn
