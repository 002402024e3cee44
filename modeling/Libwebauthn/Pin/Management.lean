/-
  Libwebauthn.Pin.Management — asking for PINs, and setting or changing one
  (`src/pin/mod.rs`, with the helpers of
  `src/webauthn/pin_uv_auth_token.rs`).

  None of this touches the session (each is a `Dialogue`): a changed PIN leaves
  the auth data of the channel in place.
-/
import Libwebauthn.Pin.PersistentToken

namespace Libwebauthn

variable {σ T : Type}

/-- The first supported protocol of the list. -/
def supportedUvProto : List Nat → Option Ctap2PinUvAuthProtocol
  | [] => none
  | 1 :: _ => some .one
  | 2 :: _ => some .two
  | _ :: protocols => supportedUvProto protocols

namespace Platform

variable (p : Platform σ T)

/-- `create_protocol_object`: a fresh private key. -/
def createProtocolObject (version : Ctap2PinUvAuthProtocol) : Ctap σ T PinUvAuthProtocol := do
  let privateKey ← p.randomBytes 32
  pure ⟨version, privateKey⟩

def selectUvProto (info : Ctap2GetInfoResponse) : Ctap σ T (Option PinUvAuthProtocol) :=
  match supportedUvProto (info.pinAuthProtos.getD []) with
  | none => pure none
  | some version => do
      let uvProto ← p.createProtocolObject version
      pure (some uvProto)

/-- `uv_proto.encrypt`, with the random IV it draws. -/
def encrypt (version : Ctap2PinUvAuthProtocol) (key plaintext : Bytes) : Ctap σ T Bytes := do
  let iv ← p.randomBytes 16
  Ctap.liftPlatform (version.encrypt p.crypto iv key plaintext)

def obtainSharedSecret (pinProto : PinUvAuthProtocol) : Ctap σ T (PublicKey × Bytes) := do
  let clientPinResponse ← p.ctap2ClientPin (.newGetKeyAgreement pinProto.version)
  match clientPinResponse.keyAgreement with
  | none => Proc.throw (.ctap .other)
  | some publicKey => Ctap.liftPlatform (pinProto.encapsulate p.crypto publicKey)

/-- A soft error: an answer that failed counts as one without the member. -/
def softly {α β : Type} (m : Ctap σ T α) (member : α → Option β) : Ctap σ T (Option β) := do
  match ← Proc.attempt m with
  | .ok x => pure (member x)
  | .error _ => pure none

def obtainPin (info : Ctap2GetInfoResponse) (pinProto : Ctap2PinUvAuthProtocol)
    (reason : PinRequestReason) : Ctap σ T Bytes := do
  let pinProtocol := if info.supportsFido21 then none else some pinProto
  let attemptsLeft ← softly (p.ctap2ClientPin (.newGetPinRetries pinProtocol)) (·.pinRetries)
  match ← Ctap.ask (p.pinRequired reason attemptsLeft) with
  | none => Proc.throw (.ctap .pinRequired)
  | some pin => pure (utf8 (p.crypto.nfc pin))

/-- The request that sets a PIN, or changes the current one. -/
def changePinRequest (version : Ctap2PinUvAuthProtocol) (publicKey : PublicKey)
    (sharedSecret newPinEnc : Bytes) (currentPin : Option Bytes) :
    Ctap σ T Ctap2ClientPinRequest :=
  match currentPin with
  | some currPin => do
      let pinHashEnc ← p.encrypt version sharedSecret (pinHash p.crypto currPin)
      let uvAuthParam ←
        Ctap.liftPlatform (version.authenticate p.crypto sharedSecret (newPinEnc ++ pinHashEnc))
      pure (.newChangePin version newPinEnc pinHashEnc publicKey uvAuthParam)
  | none => do
      let uvAuthParam ← Ctap.liftPlatform (version.authenticate p.crypto sharedSecret newPinEnc)
      pure (.newSetPin version newPinEnc publicKey uvAuthParam)

/-- The PIN that must be given to change it, if one is set. -/
def obtainCurrentPin (info : Ctap2GetInfoResponse) (version : Ctap2PinUvAuthProtocol) :
    Ctap σ T (Option Bytes) :=
  match info.options with
  | none => Proc.throw (.platform .invalidDeviceResponse)
  | some _ =>
      match info.option? "clientPin" with
      | some true => do
          let pin ← p.obtainPin info version .authenticatorPolicy
          pure (some pin)
      | some false => pure none
      | none => Proc.throw (.platform .pinNotSupported)

/-- The record to evict once the change succeeds. -/
def recognizeForEviction (info : Ctap2GetInfoResponse) :
    Ctap σ T (Option PersistentTokenRecordId) :=
  if p.persistentTokenStore then do
    let recognized ← p.recognizeAuthenticator info
    pure (recognized.map (·.1))
  else pure none

def evict (id : Option PersistentTokenRecordId) : Ctap σ T Unit :=
  match id with
  | some id => Ctap.tell (p.storeDelete id)
  | none => pure ()

def changePinInternal (info : Ctap2GetInfoResponse) (newPin : String) : Ctap σ T Unit := do
  let newPin := p.crypto.nfc newPin
  if newPin.length < info.minPinLength.getD 4 then Proc.throw (.platform .pinTooShort)
  else if (utf8 newPin).length ≥ 64 then Proc.throw (.platform .pinTooLong)
  else do
    let persistentRecordId ← p.recognizeForEviction info
    match ← p.selectUvProto info with
    | none => Proc.throw (.ctap .other)
    | some uvProto => do
        let currentPin ← p.obtainCurrentPin info uvProto.version
        let (publicKey, sharedSecret) ← p.obtainSharedSecret uvProto
        let paddedNewPin := utf8 newPin ++ List.replicate (64 - (utf8 newPin).length) 0
        let newPinEnc ← p.encrypt uvProto.version sharedSecret paddedNewPin
        let req ← p.changePinRequest uvProto.version publicKey sharedSecret newPinEnc currentPin
        let _ ← p.ctap2ClientPin req
        p.evict persistentRecordId

/-- One turn of `try_to_set_pin`: ask for a PIN and try it; a PIN that does
not meet the criteria is asked for again, with the reason. -/
def tryToSetPinTurn (info : Ctap2GetInfoResponse) (reason : PinNotSetReason) :
    Ctap σ T (PinNotSetReason ⊕ Unit) := do
  match ← Ctap.ask (p.pinNotSet reason) with
  | none => Proc.throw (.platform .cancelled)
  | some pin =>
      match ← Proc.attempt (p.changePinInternal info pin) with
      | .ok () => pure (.inr ())
      | .error (.platform .pinTooShort) => pure (.inl .pinTooShort)
      | .error (.platform .pinTooLong) => pure (.inl .pinTooLong)
      | .error (.ctap .pinPolicyViolation) => pure (.inl .pinPolicyViolation)
      | .error err => Proc.throw err

def tryToSetPin (fuel : Nat) (info : Ctap2GetInfoResponse) (reason : PinNotSetReason) :
    Ctap σ T Unit :=
  if !info.optionExists "clientPin" then pure ()
  else Proc.loop (p.tryToSetPinTurn info) fuel reason

/-! ## What stays as it was. -/

/-- A request that only asks is one query on the wire. -/
theorem queries_ctap2ClientPin {request : Ctap2ClientPinRequest} (h : request.IsQuery) :
    Ctap.Concludes Exchange.Query (p.ctap2ClientPin request) :=
  .command _ _ fun _ => h

theorem concludes_createProtocolObject {S : Exchange T → Prop} (version : Ctap2PinUvAuthProtocol) :
    Ctap.Concludes S (p.createProtocolObject version) :=
  Ctap.Concludes.bind (Ctap.Concludes.ask _) fun _ => Ctap.Concludes.pure _

/-- A protocol is chosen from getInfo, without an exchange. -/
theorem concludes_selectUvProto {S : Exchange T → Prop} (info : Ctap2GetInfoResponse) :
    Ctap.Concludes S (p.selectUvProto info) := by
  unfold selectUvProto
  split
  · exact Ctap.Concludes.pure _
  · exact Ctap.Concludes.bind (p.concludes_createProtocolObject _) fun _ => Ctap.Concludes.pure _

theorem concludes_encrypt {S : Exchange T → Prop} (version : Ctap2PinUvAuthProtocol)
    (key plaintext : Bytes) : Ctap.Concludes S (p.encrypt version key plaintext) :=
  Ctap.Concludes.bind (Ctap.Concludes.ask _) fun _ => Ctap.Concludes.liftPlatform _

/-- The key agreement asks for the key of the device and for nothing else. -/
theorem queries_obtainSharedSecret (pinProto : PinUvAuthProtocol) :
    Ctap.Concludes Exchange.Query (p.obtainSharedSecret pinProto) := by
  refine Ctap.Concludes.bind (p.queries_ctap2ClientPin (.keyAgreement _)) fun response => ?_
  split
  · exact Ctap.Concludes.throw _
  · exact Ctap.Concludes.liftPlatform _

theorem dialogue_obtainSharedSecret (pinProto : PinUvAuthProtocol) :
    Ctap.Dialogue Exchange.Auxiliary (p.obtainSharedSecret pinProto) :=
  (p.queries_obtainSharedSecret _).dialogue.mono fun _ => Exchange.Query.auxiliary

/-- A member that is read softly comes to an end whatever the answer was. -/
theorem concludes_softly {S : Exchange T → Prop} {α β : Type} {m : Ctap σ T α}
    (h : Ctap.Concludes S m) (member : α → Option β) : Ctap.Concludes S (softly m member) := by
  refine Ctap.Concludes.bind (Ctap.Concludes.attempt h) fun result => ?_
  split
  · exact Ctap.Concludes.pure _
  · exact Ctap.Concludes.pure _

theorem dialogue_softly {S : Exchange T → Prop} {α β : Type} {m : Ctap σ T α}
    (h : Ctap.Dialogue S m) (member : α → Option β) : Ctap.Dialogue S (softly m member) := by
  refine Ctap.Dialogue.bind (Ctap.Dialogue.attempt h) fun result => ?_
  split
  · exact Ctap.Dialogue.pure _
  · exact Ctap.Dialogue.pure _

/-- Before the user is asked, the retries may be. -/
theorem queries_obtainPin (info : Ctap2GetInfoResponse) (pinProto : Ctap2PinUvAuthProtocol)
    (reason : PinRequestReason) :
    Ctap.Concludes Exchange.Query (p.obtainPin info pinProto reason) := by
  refine Ctap.Concludes.bind (concludes_softly (p.queries_ctap2ClientPin (.pinRetries _)) _)
    fun left => ?_
  refine Ctap.Concludes.bind (Ctap.Concludes.ask _) fun pin => ?_
  split
  · exact Ctap.Concludes.throw _
  · exact Ctap.Concludes.pure _

/-- A request that was made is not yet sent. -/
theorem concludes_changePinRequest {S : Exchange T → Prop} (version : Ctap2PinUvAuthProtocol)
    (publicKey : PublicKey) (sharedSecret newPinEnc : Bytes) (currentPin : Option Bytes) :
    Ctap.Concludes S
      (p.changePinRequest version publicKey sharedSecret newPinEnc currentPin) := by
  unfold changePinRequest
  split
  · refine Ctap.Concludes.bind (p.concludes_encrypt _ _ _) fun _ => ?_
    exact Ctap.Concludes.bind (Ctap.Concludes.liftPlatform _) fun _ => Ctap.Concludes.pure _
  · exact Ctap.Concludes.bind (Ctap.Concludes.liftPlatform _) fun _ => Ctap.Concludes.pure _

/-- The current PIN costs what obtaining any PIN does. -/
theorem queries_obtainCurrentPin (info : Ctap2GetInfoResponse)
    (version : Ctap2PinUvAuthProtocol) :
    Ctap.Concludes Exchange.Query (p.obtainCurrentPin info version) := by
  unfold obtainCurrentPin
  split
  · exact Ctap.Concludes.throw _
  · split
    · exact Ctap.Concludes.bind (p.queries_obtainPin _ _ _) fun _ => Ctap.Concludes.pure _
    · exact Ctap.Concludes.pure _
    · exact Ctap.Concludes.throw _

theorem concludes_recognizeForEviction {S : Exchange T → Prop} (info : Ctap2GetInfoResponse) :
    Ctap.Concludes S (p.recognizeForEviction info) := by
  unfold recognizeForEviction
  split
  · exact Ctap.Concludes.bind (p.concludes_recognizeAuthenticator _) fun _ => Ctap.Concludes.pure _
  · exact Ctap.Concludes.pure _

/-- An eviction goes to the store, and not to the device. -/
theorem concludes_evict {S : Exchange T → Prop} (id : Option PersistentTokenRecordId) :
    Ctap.Concludes S (p.evict id) := by
  cases id with
  | some id => exact Ctap.Concludes.tell _
  | none => exact Ctap.Concludes.pure _

/-- A change of the PIN comes to an end, whatever the device answers. -/
theorem concludes_changePinInternal (info : Ctap2GetInfoResponse) (newPin : String) :
    Ctap.Concludes Exchange.Auxiliary (p.changePinInternal info newPin) := by
  have hqueries : ∀ {α : Type} {m : Ctap σ T α}, Ctap.Concludes Exchange.Query m →
      Ctap.Concludes Exchange.Auxiliary m :=
    fun h => h.mono fun _ => Exchange.Query.auxiliary
  unfold changePinInternal
  dsimp only
  split
  · exact Ctap.Concludes.throw _
  split
  · exact Ctap.Concludes.throw _
  refine Ctap.Concludes.bind (p.concludes_recognizeForEviction info) fun recordId => ?_
  refine Ctap.Concludes.bind (p.concludes_selectUvProto info) fun uvProto => ?_
  split
  · exact Ctap.Concludes.throw _
  · refine Ctap.Concludes.bind (hqueries (p.queries_obtainCurrentPin _ _)) fun currentPin => ?_
    refine Ctap.Concludes.bind (hqueries (p.queries_obtainSharedSecret _)) fun keys => ?_
    refine Ctap.Concludes.bind (p.concludes_encrypt _ _ _) fun newPinEnc => ?_
    refine Ctap.Concludes.bind (p.concludes_changePinRequest _ _ _ _ _) fun req => ?_
    exact Ctap.Concludes.bind (.command _ _ fun _ => trivial) fun _ => p.concludes_evict _

theorem dialogue_changePinInternal (info : Ctap2GetInfoResponse) (newPin : String) :
    Ctap.Dialogue Exchange.Auxiliary (p.changePinInternal info newPin) :=
  (p.concludes_changePinInternal info newPin).dialogue

/-- However often the user is asked, only clientPin commands go out. -/
theorem dialogue_tryToSetPin (fuel : Nat) (info : Ctap2GetInfoResponse)
    (reason : PinNotSetReason) :
    Ctap.Dialogue Exchange.Auxiliary (p.tryToSetPin fuel info reason) := by
  unfold tryToSetPin
  split
  · exact Ctap.Dialogue.pure _
  · refine Ctap.Dialogue.loop (fun reason => ?_) fuel reason
    refine Ctap.Dialogue.bind (Ctap.Dialogue.ask _) fun pin => ?_
    split
    · exact Ctap.Dialogue.throw _
    · refine Ctap.Dialogue.bind (Ctap.Dialogue.attempt (p.dialogue_changePinInternal _ _))
        fun result => ?_
      split
      all_goals first | exact Ctap.Dialogue.pure _ | exact Ctap.Dialogue.throw _

end Platform

end Libwebauthn
