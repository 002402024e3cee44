/-
  Libwebauthn.Pin.PersistentToken — recognizing an authenticator by its
  encrypted identifier, and storing minted persistent tokens
  (`src/pin/persistent_token.rs`).
-/
import Libwebauthn.Transport.Channel

namespace Libwebauthn

variable {σ T : Type}

def encIdentifierKey (crypto : Crypto) (token : Bytes) : Bytes :=
  crypto.hkdfSha256 (List.replicate 32 0) token (utf8 "encIdentifier") 16

def decryptEncIdentifier (crypto : Crypto) (token encIdentifier : Bytes) :
    Except PlatformError Bytes :=
  if encIdentifier.length ≠ 32 then .error .invalidDeviceResponse
  else
    match crypto.aes128CbcDecrypt (encIdentifierKey crypto token) (encIdentifier.take 16)
        (encIdentifier.drop 16) with
    | none => .error .invalidDeviceResponse
    | some plaintext =>
        if plaintext.length = 16 then .ok plaintext else .error .invalidDeviceResponse

/-- Whether the record's token reproduces the identifier. -/
def PersistentTokenRecord.recognizes (crypto : Crypto) (record : PersistentTokenRecord)
    (encIdentifier : Bytes) : Bool :=
  match decryptEncIdentifier crypto record.persistentToken encIdentifier with
  | .ok deviceIdentifier => deviceIdentifier == record.deviceIdentifier
  | .error _ => false

namespace Platform

variable (p : Platform σ T)

def recognizeAuthenticator (info : Ctap2GetInfoResponse) :
    Ctap σ T (Option (PersistentTokenRecordId × PersistentTokenRecord)) :=
  match info.encIdentifier with
  | none => pure none
  | some encIdentifier => do
      let records ← Ctap.ask p.storeList
      pure (records.find? fun entry => entry.2.recognizes p.crypto encIdentifier)

def newRecordId : Ctap σ T PersistentTokenRecordId := do
  let bytes ← p.randomBytes 16
  pure (String.ofList (bytes.flatMap fun b =>
    [hexDigit (b.toNat / 16), hexDigit (b.toNat % 16)]))

/-- The ids of the records under a device identifier. -/
def supersededIds (deviceIdentifier : Bytes)
    (records : List (PersistentTokenRecordId × PersistentTokenRecord)) :
    List PersistentTokenRecordId :=
  (records.filter fun entry => entry.2.deviceIdentifier == deviceIdentifier).map (·.1)

def reapSupersededRecords (deviceIdentifier : Bytes) : Ctap σ T Unit := do
  let records ← Ctap.ask p.storeList
  Ctap.tell fun s =>
    (supersededIds deviceIdentifier records).foldl (fun s id => p.storeDelete id s) s

def storeMintedToken (info : Ctap2GetInfoResponse) (token : Bytes)
    (pinUvAuthProtocol : Ctap2PinUvAuthProtocol) : Ctap σ T PersistentTokenRecordId :=
  match info.encIdentifier with
  | none => Proc.throw (.platform .invalidDeviceResponse)
  | some encIdentifier => do
      let deviceIdentifier ←
        Ctap.liftPlatform (decryptEncIdentifier p.crypto token encIdentifier)
      if info.aaguid.length ≠ 16 then Proc.throw (.platform .invalidDeviceResponse)
      else do
        p.reapSupersededRecords deviceIdentifier
        let id ← p.newRecordId
        Ctap.tell (p.storePut id ⟨token, pinUvAuthProtocol, deviceIdentifier, info.aaguid⟩)
        pure id

theorem concludes_recognizeAuthenticator {S : Exchange T → Prop} (info : Ctap2GetInfoResponse) :
    Ctap.Concludes S (p.recognizeAuthenticator info) := by
  unfold recognizeAuthenticator
  split
  · exact Ctap.Concludes.pure _
  · exact Ctap.Concludes.bind (Ctap.Concludes.ask _) fun _ => Ctap.Concludes.pure _

theorem concludes_storeMintedToken {S : Exchange T → Prop} (info : Ctap2GetInfoResponse)
    (token : Bytes) (protocol : Ctap2PinUvAuthProtocol) :
    Ctap.Concludes S (p.storeMintedToken info token protocol) := by
  unfold storeMintedToken
  split
  · exact Ctap.Concludes.throw _
  · refine Ctap.Concludes.bind (Ctap.Concludes.liftPlatform _) fun identifier => ?_
    split
    · exact Ctap.Concludes.throw _
    · refine Ctap.Concludes.bind ?_ fun _ => ?_
      · exact Ctap.Concludes.bind (Ctap.Concludes.ask _) fun _ => Ctap.Concludes.tell _
      · refine Ctap.Concludes.bind ?_ fun id => ?_
        · exact Ctap.Concludes.bind (Ctap.Concludes.ask _) fun _ => Ctap.Concludes.pure _
        · exact Ctap.Concludes.bind (Ctap.Concludes.tell _) fun _ => Ctap.Concludes.pure _

end Platform

end Libwebauthn
