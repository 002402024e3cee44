/-
  Libwebauthn.Transport.Cable.Stages — how a hybrid connection comes about
  (`src/transport/cable/connection_stages.rs`, `do_handshake` of
  `protocol.rs`, and the task of `qr_code_device.rs` and `known_devices.rs`).

  A `Task` is a procedure over the actions it has taken; what it waits for may
  be outstanding, and then it is still running.  What a phone does is not in the
  source: `Phone` is the other party as the code expects it.

    • `run_leaves` — what a task leaves, stage by stage;
    • `parties_meet` — the platform goes where the phone expects it.
-/
import Libwebauthn.Lib.Trace
import Libwebauthn.Transport.Cable.Channel
import Libwebauthn.Transport.Cable.KnownDevices
import Libwebauthn.Transport.Cable.Proximity
import Libwebauthn.Transport.Mock

namespace Libwebauthn.Transport.Cable

/-! ## §1. What the stages are given. -/

structure ProximityCheckInput where
  eidKey : FixedBytes 64

structure ProximityCheckOutput (D : Type) where
  device : D
  advert : DecryptedAdvert

structure HandshakeInput where
  psk : FixedBytes 32
  connectionType : CableTunnelConnectionType
  tunnelDomain : String

structure HandshakeOutput (N : Type) where
  noiseState : TunnelNoiseState N
  connectionType : CableTunnelConnectionType
  tunnelDomain : String

variable (crypto : CableCrypto)

def derivePsk (secret : Bytes) (advertPlaintext : FixedBytes 16) : FixedBytes 32 :=
  firstHalf (derive crypto secret (some advertPlaintext.val) .psk)

def decodeTunnelDomainFromAdvert (advert : DecryptedAdvert) : Except CableError String :=
  match decodeTunnelServerDomain crypto.toCrypto advert.encodedTunnelServerDomain with
  | some tunnelDomain => .ok tunnelDomain
  | none => .error .invalidFraming

namespace ProximityCheckInput

def newForQrCode (qrDevice : CableQrCodeDevice) : ProximityCheckInput where
  eidKey := derive crypto qrDevice.qrCode.qrSecret.val none .eidKey

def newForKnownDevice (deviceInfo : CableKnownDeviceInfo) (clientNonce : FixedBytes 16) :
    ProximityCheckInput where
  eidKey := derive crypto deviceInfo.linkSecret (some clientNonce.val) .eidKey

end ProximityCheckInput

/-- `ConnectionInput::new_for_qr_code`. -/
def connectionInputForQrCode (qrDevice : CableQrCodeDevice) (advert : DecryptedAdvert) :
    Except CableError ConnectionInput :=
  match decodeTunnelDomainFromAdvert crypto advert with
  | .error e => .error e
  | .ok tunnelDomain =>
      .ok (.newForQrCode tunnelDomain (hexEncode advert.routingId)
        (hexEncode ((derive crypto qrDevice.qrCode.qrSecret.val none .tunnelId).val.take 16))
        qrDevice.privateKey (advert.suffix.bind (·.blePsm)).isSome)

namespace HandshakeInput

def newForQrCode (qrDevice : CableQrCodeDevice) (input : ConnectionInput)
    (advert : DecryptedAdvert) : HandshakeInput where
  psk := derivePsk crypto qrDevice.qrCode.qrSecret.val advert.plaintext
  connectionType := input.connectionType
  tunnelDomain := input.tunnelDomain

def newForKnownDevice (deviceInfo : CableKnownDeviceInfo) (input : ConnectionInput)
    (advert : DecryptedAdvert) : HandshakeInput where
  psk := derivePsk crypto deviceInfo.linkSecret advert.plaintext
  connectionType := input.connectionType
  tunnelDomain := input.tunnelDomain

end HandshakeInput

/-! ## §2. Noise. -/

def P256_X962_LENGTH : Nat := 65
def CABLE_PROLOGUE_STATE_ASSISTED : Bytes := [0]
def CABLE_PROLOGUE_QR_INITIATED : Bytes := [1]

/-- What the builder of a handshake is given. -/
structure NoiseParams where
  pattern : String
  prologue : Bytes
  localPrivateKey : Option Bytes
  remotePublicKey : Option Bytes
  psk : FixedBytes 32

/-- The Noise library, with handshakes `H` and sessions `N`. -/
structure Noise (H N : Type) where
  /-- The cause when a parameter is refused; `none` when there is no initiator. -/
  buildInitiator : NoiseParams → Except String (Option H)
  /-- The message with an empty payload, if it fits 1024 bytes. -/
  writeMessage : H → Option (Bytes × H)
  readMessage : H → Bytes → Option H
  isHandshakeFinished : H → Bool
  getHandshakeHash : H → Bytes
  intoTransportMode : H → Except String N

def noiseParams (psk : FixedBytes 32) : CableTunnelConnectionType → NoiseParams
  | .qrCode _ _ privateKey =>
      ⟨"Noise_KNpsk0_P256_AESGCM_SHA256", CABLE_PROLOGUE_QR_INITIATED, some privateKey, none, psk⟩
  | .knownDevice _ authenticatorPublicKey _ =>
      ⟨"Noise_NKpsk0_P256_AESGCM_SHA256", CABLE_PROLOGUE_STATE_ASSISTED, none,
        some authenticatorPublicKey, psk⟩

/-! ## §3. Tasks. -/

inductive CableUpdate where
  /-- Waiting for the user, who is to scan the code or to confirm. -/
  | proximityCheck
  | connecting
  | authenticating
  | connected
  | error (error : CableError)
  deriving DecidableEq

/-- What a task does, as far as others can see it. -/
inductive TaskAction where
  | update (update : CableUpdate)
  | setConnectionState (state : ConnectionState)
  /-- Opening the data channel. -/
  | contact (input : ConnectionInput)
  | store (calls : List StoreCall)
  /-- A handshake is built, and its first message sent. -/
  | send (params : NoiseParams) (message : Bytes)

abbrev Task (α : Type) := Proc (List TaskAction) CableError α

def act {ε : Type} (action : TaskAction) : Proc (List TaskAction) ε Unit :=
  Proc.modify fun actions => actions ++ [action]

/-- The result of something that may be outstanding. -/
def waitFor {α : Type} : Option (Except CableError α) → Task α
  | none => fun actions => (.running, actions)
  | some result => Proc.ofExcept result

/-- What a task meets with: the scan, the data channel with the first message
sent and received over it, and then the frames and requests of the connection. -/
structure Surroundings (D : Type) where
  scan : List (ScanEvent D)
  l2cap : Except CableError Unit
  answers : List TunnelAnswer
  sent : Except CableError Unit
  received : Option (Except CableError (Option Bytes))
  initial : Option (Except CableError (Option Bytes))
  events : List Event

section

variable {H N P D : Type} (decodeMap : Bytes → Option (List (Cbor × Cbor)))
  (tunnel : TunnelPrimitives) (noise : Noise H N) (prim : Primitives N P) (env : Surroundings D)

def proximityCheckStage (input : ProximityCheckInput) : Task (ProximityCheckOutput D) := do
  act (.update .proximityCheck)
  let found ← waitFor (awaitAdvertisement crypto decodeMap input.eidKey.val env.scan)
  pure ⟨found.1, found.2⟩

def connectionStage (input : ConnectionInput) : Task Unit := do
  act (.update .connecting)
  act (.contact input)
  act (.store (connectDataChannel tunnel input env.l2cap env.answers).2)
  waitFor (connectDataChannel tunnel input env.l2cap env.answers).1

/-- The session that the response of the peer leads to. -/
def finishHandshake (handshake : H) (response : Bytes) :
    Except CableError (TunnelNoiseState N) :=
  if response.length < P256_X962_LENGTH then .error .connectionFailed
  else
    match noise.readMessage handshake response with
    | none => .error .connectionFailed
    | some handshake =>
        if noise.isHandshakeFinished handshake then
          match noise.intoTransportMode handshake with
          | .error cause => .error (.noise cause)
          | .ok transportState => .ok ⟨transportState, noise.getHandshakeHash handshake⟩
        else .error .connectionFailed

def doHandshake (psk : FixedBytes 32) (connectionType : CableTunnelConnectionType) :
    Task (TunnelNoiseState N) :=
  match noise.buildInitiator (noiseParams psk connectionType) with
  | .error cause => Proc.throw (.noise cause)
  | .ok none => Proc.throw .connectionFailed
  | .ok (some handshake) =>
      match noise.writeMessage handshake with
      | none => Proc.throw .connectionFailed
      | some (initialMsg, handshake) => do
          act (.send (noiseParams psk connectionType) initialMsg)
          Proc.ofExcept env.sent
          let received ← waitFor env.received
          match received with
          | none => Proc.throw .connectionFailed
          | some response => Proc.ofExcept (finishHandshake noise handshake response)

def handshakeStage (input : HandshakeInput) : Task (HandshakeOutput N) := do
  act (.update .authenticating)
  let noiseState ← doHandshake noise env input.psk input.connectionType
  act (.update .connected)
  act (.setConnectionState .connected)
  pure ⟨noiseState, input.connectionType, input.tunnelDomain⟩

/-- `CableQrCodeDevice::connection`. -/
def qrCodeConnection (qrDevice : CableQrCodeDevice) : Task (HandshakeOutput N) := do
  let proximityOutput ← proximityCheckStage crypto decodeMap env (.newForQrCode crypto qrDevice)
  let input ← Proc.ofExcept (connectionInputForQrCode crypto qrDevice proximityOutput.advert)
  connectionStage tunnel env input
  handshakeStage noise env (.newForQrCode crypto qrDevice input proximityOutput.advert)

/-- `CableKnownDevice::connection`. -/
def knownDeviceConnection (deviceInfo : CableKnownDeviceInfo) (hint : ClientPayloadHint)
    (clientNonce : FixedBytes 16) : Task (HandshakeOutput N) := do
  connectionStage tunnel env (.newForKnownDevice tunnel deviceInfo hint clientNonce.val)
  let proximityOutput ← proximityCheckStage crypto decodeMap env
    (.newForKnownDevice crypto deviceInfo clientNonce)
  handshakeStage noise env (.newForKnownDevice crypto deviceInfo
    (.newForKnownDevice tunnel deviceInfo hint clientNonce.val) proximityOutput.advert)

def sendError {ε : Type} (error : CableError) : Proc (List TaskAction) ε Unit := do
  act (.update (.error error))
  act (.setConnectionState .terminated)

/-- What is left of the task when the connection is made, or is not. -/
def serve (hasStore : Bool) :
    Except CableError (HandshakeOutput N) →
      Proc (List TaskAction) Empty (Except CableError Unit)
  | .error e => do
      sendError e
      pure (.error e)
  | .ok output =>
      match env.initial with
      | none => fun actions => (.running, actions)
      | some initial =>
          let run := connection prim ⟨output.connectionType, output.tunnelDomain, hasStore⟩
            output.noiseState initial env.events
          do
            act (.store run.conn.storeCalls)
            match run.result with
            | none => fun actions => (.running, actions)
            | some (.ok ()) => do
                act (.setConnectionState .terminated)
                pure (.ok ())
            | some (.error e) => do
                sendError e
                pure (.error e)

/-- The task that `channel` spawns, with the result it tells nobody. -/
def handleConnection (hasStore : Bool) (makeConnection : Task (HandshakeOutput N)) :
    Proc (List TaskAction) Empty (Except CableError Unit) :=
  Proc.attempt makeConnection >>= serve prim env hasStore

end


/-! ## §4. What a task publishes. -/

def updates (actions : List TaskAction) : List CableUpdate :=
  actions.filterMap fun
    | .update update => some update
    | _ => none

def states (actions : List TaskAction) : List ConnectionState :=
  actions.filterMap fun
    | .setConnectionState state => some state
    | _ => none

/-- The handshakes begun, by what they were built with. -/
def handshakes (actions : List TaskAction) : List NoiseParams :=
  actions.filterMap fun
    | .send params _ => some params
    | _ => none

/-- All that a task has published besides handshakes. -/
def published (actions : List TaskAction) : List CableUpdate × List ConnectionState :=
  (updates actions, states actions)

theorem updates_append (xs ys : List TaskAction) : updates (xs ++ ys) = updates xs ++ updates ys :=
  List.filterMap_append

theorem states_append (xs ys : List TaskAction) : states (xs ++ ys) = states xs ++ states ys :=
  List.filterMap_append

theorem handshakes_append (xs ys : List TaskAction) :
    handshakes (xs ++ ys) = handshakes xs ++ handshakes ys := List.filterMap_append

def taskRecord : Record (List TaskAction) TaskAction where
  grows before after actions := after = before ++ actions
  refl before := (List.append_nil before).symm
  trans := by
    rintro _ _ _ xs ys rfl rfl
    exact List.append_assoc _ xs ys

/-- Actions that publish these updates, no state, and begin no handshake. -/
structure Publishes (shown : List CableUpdate) (actions : List TaskAction) : Prop where
  updates_eq : updates actions = shown
  states_eq : states actions = []
  handshakes_eq : handshakes actions = []

theorem Publishes.append {shown shown' : List CableUpdate} {xs ys : List TaskAction}
    (h : Publishes shown xs) (h' : Publishes shown' ys) :
    Publishes (shown ++ shown') (xs ++ ys) where
  updates_eq := by rw [updates_append, h.updates_eq, h'.updates_eq]
  states_eq := by rw [states_append, h.states_eq, h'.states_eq, List.append_nil]
  handshakes_eq := by rw [handshakes_append, h.handshakes_eq, h'.handshakes_eq, List.append_nil]

/-- What the stages leave that are to publish `order`: all of it, and the
state, when they are through, and otherwise a part of it; and no handshakes
but those that `P` allows. -/
def StagesLeave {α : Type} (order : List CableUpdate) (P : NoiseParams → Prop) :
    Outcome CableError α → List TaskAction → Prop
  | .ok _, actions =>
      published actions = (order, [.connected]) ∧ ∀ params ∈ handshakes actions, P params
  | _, actions =>
      (∃ n, 0 < n ∧ n < order.length ∧ published actions = (order.take n, []))
        ∧ ∀ params ∈ handshakes actions, P params

section

variable {ε α : Type}

/-- An action is recorded, and returns. -/
theorem leaves_act (action : TaskAction) :
    Proc.Leaves taskRecord (act action : Proc (List TaskAction) ε Unit)
      fun outcome actions => outcome = .ok () ∧ actions = [action] :=
  fun _ => ⟨[action], rfl, rfl, rfl⟩

theorem leaves_ofExcept (result : Except ε α) :
    Proc.Leaves taskRecord (Proc.ofExcept result : Proc (List TaskAction) ε α)
      fun outcome actions => actions = [] ∧ ∀ a, outcome = .ok a → result = .ok a := by
  intro s
  cases result with
  | ok a => exact ⟨[], taskRecord.refl s, rfl, fun b hb => congrArg Except.ok (Outcome.ok.inj hb)⟩
  | error e => exact ⟨[], taskRecord.refl s, rfl, fun _ h => by cases h⟩

/-- Waiting records nothing; what comes is what the surroundings gave. -/
theorem leaves_waitFor (result : Option (Except CableError α)) :
    Proc.Leaves taskRecord (waitFor result)
      fun outcome actions => actions = [] ∧ ∀ a, outcome = .ok a → result = some (.ok a) := by
  cases result with
  | none => exact fun s => ⟨[], taskRecord.refl s, rfl, fun _ h => by cases h⟩
  | some result =>
      exact (leaves_ofExcept result).mono fun _ _ h =>
        ⟨h.1, fun a ha => congrArg some (h.2 a ha)⟩

/-- An action in front of a procedure. -/
theorem leaves_act_bind {action : TaskAction} {m : Unit → Proc (List TaskAction) ε α}
    {Φ : Outcome ε α → List TaskAction → Prop}
    (h : Proc.Leaves taskRecord (m ()) fun outcome actions => Φ outcome (action :: actions)) :
    Proc.Leaves taskRecord (act action >>= m) Φ := by
  refine (leaves_act action).bind (fun a xs hxs => ?_) (fun e xs hxs => by cases hxs.1)
    fun xs hxs => by cases hxs.1
  rw [hxs.2]
  exact h

/-- Something silent in front of a procedure. -/
theorem leaves_silent_bind {β : Type} {m : Proc (List TaskAction) ε α}
    {k : α → Proc (List TaskAction) ε β} {Q : α → Prop}
    {Φ : Outcome ε β → List TaskAction → Prop}
    (hm : Proc.Leaves taskRecord m fun outcome actions =>
      actions = [] ∧ ∀ a, outcome = .ok a → Q a)
    (hok : ∀ a, Q a → Proc.Leaves taskRecord (k a) Φ) (herror : ∀ e, Φ (.error e) [])
    (hrunning : Φ .running []) : Proc.Leaves taskRecord (m >>= k) Φ := by
  refine hm.bind (fun a xs hxs => ?_) (fun e xs hxs => ?_) fun xs hxs => ?_
  · obtain ⟨rfl, ha⟩ := hxs
    exact hok a (ha a rfl)
  · obtain ⟨rfl, -⟩ := hxs
    exact herror e
  · obtain ⟨rfl, -⟩ := hxs
    exact hrunning

end

section

variable {crypto} {H N P D : Type} {decodeMap : Bytes → Option (List (Cbor × Cbor))}
  {tunnel : TunnelPrimitives} {noise : Noise H N} {prim : Primitives N P} {env : Surroundings D}

/-- The stage announces itself, and returns the advertisement that it waited
for. -/
theorem proximityCheckStage_leaves (input : ProximityCheckInput) :
    Proc.Leaves taskRecord (proximityCheckStage crypto decodeMap env input)
      fun outcome actions => Publishes [.proximityCheck] actions
        ∧ ∀ output, outcome = .ok output →
            awaitAdvertisement crypto decodeMap input.eidKey.val env.scan
              = some (.ok (output.device, output.advert)) := by
  have hpublishes : Publishes [.proximityCheck] [.update .proximityCheck] := ⟨rfl, rfl, rfl⟩
  refine leaves_act_bind (leaves_silent_bind (leaves_waitFor _) (fun found hfound => ?_)
    (fun e => ⟨hpublishes, fun _ h => by cases h⟩) ⟨hpublishes, fun _ h => by cases h⟩)
  refine Proc.Leaves.pure ⟨hpublishes, fun output houtput => ?_⟩
  cases houtput
  exact hfound

/-- The stage announces itself, whatever becomes of the tunnel. -/
theorem connectionStage_leaves (input : ConnectionInput) :
    Proc.Leaves taskRecord (connectionStage tunnel env input)
      fun _ actions => Publishes [.connecting] actions := by
  refine leaves_act_bind (leaves_act_bind (leaves_act_bind ?_))
  refine (leaves_waitFor _).mono fun outcome actions h => ?_
  rw [h.1]
  exact ⟨rfl, rfl, rfl⟩

/-- A handshake is silent, and is built from what it was given. -/
theorem doHandshake_leaves (psk : FixedBytes 32) (connectionType : CableTunnelConnectionType) :
    Proc.Leaves taskRecord (doHandshake noise env psk connectionType)
      fun _ actions => published actions = ([], [])
        ∧ ∀ params ∈ handshakes actions, params = noiseParams psk connectionType := by
  have hnone : published [] = ([], [])
      ∧ ∀ params ∈ handshakes [], params = noiseParams psk connectionType :=
    ⟨rfl, fun _ h => by cases h⟩
  unfold doHandshake
  split
  · exact Proc.Leaves.throw hnone
  · exact Proc.Leaves.throw hnone
  · split
    · exact Proc.Leaves.throw hnone
    · rename_i initialMsg handshake _
      have hsent : published [.send (noiseParams psk connectionType) initialMsg] = ([], [])
          ∧ ∀ params ∈ handshakes [.send (noiseParams psk connectionType) initialMsg],
              params = noiseParams psk connectionType :=
        ⟨rfl, fun _ h => List.mem_singleton.mp h⟩
      refine leaves_act_bind (leaves_silent_bind (leaves_ofExcept env.sent) (fun _ _ => ?_)
        (fun _ => hsent) hsent)
      refine leaves_silent_bind (leaves_waitFor env.received) (fun received _ => ?_)
        (fun _ => hsent) hsent
      cases received with
      | none => exact Proc.Leaves.throw hsent
      | some response =>
          refine (leaves_ofExcept _).mono fun _ actions h => ?_
          rw [h.1]
          exact hsent

/-- The last stage, after others that have published all but its own part. -/
theorem handshakeStage_leaves {input : HandshakeInput} {shown : List CableUpdate}
    {xs : List TaskAction} (hxs : Publishes shown xs) {P : NoiseParams → Prop}
    (hparams : P (noiseParams input.psk input.connectionType)) :
    Proc.Leaves taskRecord (handshakeStage noise env input)
      (Proc.afterwards
        (StagesLeave (shown ++ [CableUpdate.authenticating, CableUpdate.connected]) P) xs) := by
  have hbegun : ∀ ys, (∀ params ∈ handshakes ys,
      params = noiseParams input.psk input.connectionType) →
      ∀ zs, handshakes zs = [] →
        ∀ params ∈ handshakes (xs ++ .update .authenticating :: (ys ++ zs)),
        P params := by
    intro ys hys zs hzs params hmem
    have hsplit : handshakes (xs ++ .update .authenticating :: (ys ++ zs)) = handshakes ys := by
      rw [handshakes_append, hxs.handshakes_eq]
      show handshakes (ys ++ zs) = _
      rw [handshakes_append, hzs, List.append_nil]
    rw [hsplit] at hmem
    rw [hys params hmem]
    exact hparams
  have hpart : ∀ ys, published ys = ([], []) →
      (∀ params ∈ handshakes ys, params = noiseParams input.psk input.connectionType) →
      (∃ n, 0 < n ∧ n < (shown ++ [CableUpdate.authenticating, CableUpdate.connected]).length
          ∧ published (xs ++ .update .authenticating :: ys)
              = ((shown ++ [CableUpdate.authenticating, CableUpdate.connected]).take n, []))
        ∧ ∀ params ∈ handshakes (xs ++ .update .authenticating :: ys), P params := by
    intro ys hys hparamsys
    refine ⟨⟨shown.length + 1, by omega, ?_, ?_⟩, ?_⟩
    · rw [List.length_append]
      exact Nat.lt_succ_self _
    · obtain ⟨hupdates, hstates⟩ := Prod.mk.inj hys
      unfold published
      rw [updates_append, states_append, hxs.updates_eq, hxs.states_eq, List.take_length_add_append]
      show (shown ++ CableUpdate.authenticating :: updates ys, states ys) = _
      rw [hupdates, hstates]
      rfl
    · have hall := hbegun ys hparamsys [] rfl
      rwa [List.append_nil] at hall
  refine leaves_act_bind ?_
  refine (doHandshake_leaves input.psk input.connectionType).bind (fun noiseState ys hys => ?_)
    (fun e ys hys => hpart ys hys.1 hys.2) fun ys hys => hpart ys hys.1 hys.2
  refine leaves_act_bind (leaves_act_bind (Proc.Leaves.pure ⟨?_, hbegun ys hys.2 _ rfl⟩))
  obtain ⟨hupdates, hstates⟩ := Prod.mk.inj hys.1
  unfold published
  rw [updates_append, states_append, hxs.updates_eq, hxs.states_eq]
  show (shown ++ CableUpdate.authenticating :: updates (ys ++ _), states (ys ++ _)) = _
  rw [updates_append, states_append, hupdates, hstates]
  rfl

/-- Stages that stop early. -/
theorem StagesLeave.stopped {α : Type} {order shown rest : List CableUpdate}
    {P : NoiseParams → Prop} {xs : List TaskAction} {outcome : Outcome CableError α}
    (hxs : Publishes shown xs) (horder : shown ++ rest = order) (hshown : shown ≠ [])
    (hrest : rest ≠ []) (hstop : ∀ a, outcome ≠ .ok a) : StagesLeave order P outcome xs := by
  have hpart : (∃ n, 0 < n ∧ n < order.length ∧ published xs = (order.take n, []))
      ∧ ∀ params ∈ handshakes xs, P params := by
    subst horder
    refine ⟨⟨shown.length, List.length_pos_iff.mpr hshown, ?_, ?_⟩, ?_⟩
    · rw [List.length_append]
      exact Nat.lt_add_of_pos_right (List.length_pos_iff.mpr hrest)
    · rw [List.take_left]
      exact Prod.ext hxs.updates_eq hxs.states_eq
    · rw [hxs.handshakes_eq]
      exact List.forall_mem_nil _
  cases outcome with
  | ok a => exact (hstop a rfl).elim
  | error e => exact hpart
  | running => exact hpart

end

/-! ## §5. Both ways to connect. -/

/-- What a connection is initiated by. -/
inductive Initiation where
  | qrCode (qrDevice : CableQrCodeDevice)
  | knownDevice (deviceInfo : CableKnownDeviceInfo) (hint : ClientPayloadHint)
      (clientNonce : FixedBytes 16)

namespace Initiation

def order : Initiation → List CableUpdate
  | qrCode _ => [.proximityCheck, .connecting, .authenticating, .connected]
  | knownDevice _ _ _ => [.connecting, .proximityCheck, .authenticating, .connected]

/-- The secret that is shared with the phone. -/
def secret : Initiation → Bytes
  | qrCode qrDevice => qrDevice.qrCode.qrSecret.val
  | knownDevice deviceInfo _ _ => deviceInfo.linkSecret

def hasStore : Initiation → Bool
  | qrCode qrDevice => qrDevice.hasStore
  | knownDevice _ _ _ => true

def eidKey : Initiation → FixedBytes 64
  | qrCode qrDevice => (ProximityCheckInput.newForQrCode crypto qrDevice).eidKey
  | knownDevice deviceInfo _ clientNonce =>
      (ProximityCheckInput.newForKnownDevice crypto deviceInfo clientNonce).eidKey

/-- What the data channel is opened with, once there is an advert. -/
def input (tunnel : TunnelPrimitives) (advert : DecryptedAdvert) :
    Initiation → Except CableError ConnectionInput
  | qrCode qrDevice => connectionInputForQrCode crypto qrDevice advert
  | knownDevice deviceInfo hint clientNonce =>
      .ok (.newForKnownDevice tunnel deviceInfo hint clientNonce.val)

variable {H N P D : Type} (decodeMap : Bytes → Option (List (Cbor × Cbor)))
  (tunnel : TunnelPrimitives) (noise : Noise H N) (prim : Primitives N P) (env : Surroundings D)

def connection : Initiation → Task (HandshakeOutput N)
  | qrCode qrDevice => qrCodeConnection crypto decodeMap tunnel noise env qrDevice
  | knownDevice deviceInfo hint clientNonce =>
      knownDeviceConnection crypto decodeMap tunnel noise env deviceInfo hint clientNonce

/-- The whole task, from its start. -/
def run (self : Initiation) : Outcome Empty (Except CableError Unit) × List TaskAction :=
  handleConnection prim env self.hasStore (self.connection crypto decodeMap tunnel noise env) []

/-- A handshake built from these is after an advert of the phone. -/
def Proven (self : Initiation) (params : NoiseParams) : Prop :=
  ∃ device advert input,
    awaitAdvertisement crypto decodeMap (self.eidKey crypto).val env.scan
        = some (.ok (device, advert))
      ∧ self.input crypto tunnel advert = .ok input
      ∧ params = noiseParams (derivePsk crypto self.secret advert.plaintext) input.connectionType

end Initiation

section

variable {crypto} {H N P D : Type} {decodeMap : Bytes → Option (List (Cbor × Cbor))}
  {tunnel : TunnelPrimitives} {noise : Noise H N} {prim : Primitives N P} {env : Surroundings D}

/-- A connection by QR code: its stages in order, each behind the one that
succeeded. -/
theorem qrCodeConnection_leaves (qrDevice : CableQrCodeDevice) :
    Proc.Leaves taskRecord (qrCodeConnection crypto decodeMap tunnel noise env qrDevice)
      (StagesLeave (Initiation.qrCode qrDevice).order
        ((Initiation.qrCode qrDevice).Proven crypto decodeMap tunnel env)) := by
  have hchecked : ∀ {xs : List TaskAction} {outcome : Outcome CableError (HandshakeOutput N)},
      Publishes [.proximityCheck] xs → (∀ a, outcome ≠ .ok a) →
      StagesLeave (Initiation.qrCode qrDevice).order
        ((Initiation.qrCode qrDevice).Proven crypto decodeMap tunnel env) outcome xs :=
    fun hxs => StagesLeave.stopped hxs rfl (List.cons_ne_nil _ _) (List.cons_ne_nil _ _)
  have hopened : ∀ {xs : List TaskAction} {outcome : Outcome CableError (HandshakeOutput N)},
      Publishes [.proximityCheck, .connecting] xs → (∀ a, outcome ≠ .ok a) →
      StagesLeave (Initiation.qrCode qrDevice).order
        ((Initiation.qrCode qrDevice).Proven crypto decodeMap tunnel env) outcome xs :=
    fun hxs => StagesLeave.stopped hxs rfl (List.cons_ne_nil _ _) (List.cons_ne_nil _ _)
  refine (proximityCheckStage_leaves _).bind (fun output xs hxs => ?_)
    (fun e xs hxs => hchecked hxs.1 fun _ h => by cases h)
    fun xs hxs => hchecked hxs.1 fun _ h => by cases h
  obtain ⟨hxs, hfound⟩ := hxs
  refine leaves_silent_bind (leaves_ofExcept _) (fun input hinput => ?_) (fun e => ?_) ?_
  · refine (connectionStage_leaves input).bind (fun _ ys hys => ?_)
      (fun e ys hys => hopened (hxs.append hys) fun _ h => by cases h)
      fun ys hys => hopened (hxs.append hys) fun _ h => by cases h
    have hproven : (Initiation.qrCode qrDevice).Proven crypto decodeMap tunnel env
        (noiseParams (derivePsk crypto qrDevice.qrCode.qrSecret.val output.advert.plaintext)
          input.connectionType) :=
      ⟨output.device, output.advert, input, hfound output rfl, hinput, rfl⟩
    refine (handshakeStage_leaves (hxs.append hys) hproven).mono fun outcome zs hzs => ?_
    show StagesLeave _ _ outcome (xs ++ (ys ++ zs))
    rw [← List.append_assoc]
    exact hzs
  · show StagesLeave _ _ _ (xs ++ [])
    rw [List.append_nil]
    exact hchecked hxs fun _ h => by cases h
  · show StagesLeave _ _ _ (xs ++ [])
    rw [List.append_nil]
    exact hchecked hxs fun _ h => by cases h

/-- A connection to a known device, with its stages in their own order. -/
theorem knownDeviceConnection_leaves (deviceInfo : CableKnownDeviceInfo) (hint : ClientPayloadHint)
    (clientNonce : FixedBytes 16) :
    Proc.Leaves taskRecord
      (knownDeviceConnection crypto decodeMap tunnel noise env deviceInfo hint clientNonce)
      (StagesLeave (Initiation.knownDevice deviceInfo hint clientNonce).order
        ((Initiation.knownDevice deviceInfo hint clientNonce).Proven crypto decodeMap tunnel
          env)) := by
  have hstopped : ∀ {xs : List TaskAction} {shown rest : List CableUpdate}
      {outcome : Outcome CableError (HandshakeOutput N)}, Publishes shown xs →
      shown ++ rest = (Initiation.knownDevice deviceInfo hint clientNonce).order →
      shown ≠ [] → rest ≠ [] → (∀ a, outcome ≠ .ok a) →
      StagesLeave (Initiation.knownDevice deviceInfo hint clientNonce).order
        ((Initiation.knownDevice deviceInfo hint clientNonce).Proven crypto decodeMap tunnel env)
        outcome xs := StagesLeave.stopped
  have hopened : ∀ {xs : List TaskAction} {outcome : Outcome CableError (HandshakeOutput N)},
      Publishes [.connecting] xs → (∀ a, outcome ≠ .ok a) →
      StagesLeave (Initiation.knownDevice deviceInfo hint clientNonce).order
        ((Initiation.knownDevice deviceInfo hint clientNonce).Proven crypto decodeMap tunnel env)
        outcome xs :=
    fun hxs => hstopped hxs rfl (List.cons_ne_nil _ _) (List.cons_ne_nil _ _)
  have hchecked : ∀ {xs : List TaskAction} {outcome : Outcome CableError (HandshakeOutput N)},
      Publishes [.connecting, .proximityCheck] xs → (∀ a, outcome ≠ .ok a) →
      StagesLeave (Initiation.knownDevice deviceInfo hint clientNonce).order
        ((Initiation.knownDevice deviceInfo hint clientNonce).Proven crypto decodeMap tunnel env)
        outcome xs :=
    fun hxs => hstopped hxs rfl (List.cons_ne_nil _ _) (List.cons_ne_nil _ _)
  refine (connectionStage_leaves _).bind (fun _ xs hxs => ?_)
    (fun e xs hxs => hopened hxs fun _ h => by cases h)
    fun xs hxs => hopened hxs fun _ h => by cases h
  refine (proximityCheckStage_leaves _).bind (fun output ys hys => ?_)
    (fun e ys hys => hchecked (hxs.append hys.1) fun _ h => by cases h)
    fun ys hys => hchecked (hxs.append hys.1) fun _ h => by cases h
  obtain ⟨hys, hfound⟩ := hys
  have hproven : (Initiation.knownDevice deviceInfo hint clientNonce).Proven crypto decodeMap tunnel
      env (noiseParams (derivePsk crypto deviceInfo.linkSecret output.advert.plaintext)
        (ConnectionInput.newForKnownDevice tunnel deviceInfo hint
          clientNonce.val).connectionType) :=
    ⟨output.device, output.advert, _, hfound output rfl, rfl, rfl⟩
  refine (handshakeStage_leaves (hxs.append hys) hproven).mono fun outcome zs hzs => ?_
  show StagesLeave _ _ outcome (xs ++ (ys ++ zs))
  rw [← List.append_assoc]
  exact hzs

end

/-! ## §6. The whole task. -/

/-- How far the stages may have come by what is published: part of the
updates, or all of them and the state. -/
def Reached (order : List CableUpdate) (shown : List CableUpdate × List ConnectionState) : Prop :=
  (∃ n, 0 < n ∧ n < order.length ∧ shown = (order.take n, [])) ∨ shown = (order, [.connected])

/-- What a task publishes, by its result: nothing more while it runs, that it
is over without an error only after all of the stages, and an error wherever
it comes up. -/
def TaskLeaves (order : List CableUpdate) :
    Outcome Empty (Except CableError Unit) → List TaskAction → Prop
  | .running, actions => Reached order (published actions)
  | .ok (.ok ()), actions => published actions = (order, [.connected, .terminated])
  | .ok (.error e), actions => ∃ shown, Reached order shown
      ∧ published actions = (shown.1 ++ [.error e], shown.2 ++ [.terminated])
  | .error e, _ => e.elim

section

variable {crypto} {H N P D : Type} {decodeMap : Bytes → Option (List (Cbor × Cbor))}
  {tunnel : TunnelPrimitives} {noise : Noise H N} {prim : Primitives N P} {env : Surroundings D}

/-- **Either connection** publishes its stages in order, and shakes hands only
with what was proven. -/
theorem connection_leaves (self : Initiation) :
    Proc.Leaves taskRecord (self.connection crypto decodeMap tunnel noise env)
      (StagesLeave self.order (self.Proven crypto decodeMap tunnel env)) := by
  cases self with
  | qrCode qrDevice => exact qrCodeConnection_leaves qrDevice
  | knownDevice deviceInfo hint clientNonce =>
      exact knownDeviceConnection_leaves deviceInfo hint clientNonce

theorem published_append (xs ys : List TaskAction) :
    published (xs ++ ys) = (updates xs ++ updates ys, states xs ++ states ys) := by
  unfold published
  rw [updates_append, states_append]

/-- The stages, whatever their result, have reached some point. -/
theorem StagesLeave.reached {α : Type} {order : List CableUpdate} {Q : NoiseParams → Prop}
    {outcome : Outcome CableError α} {xs : List TaskAction} (h : StagesLeave order Q outcome xs) :
    Reached order (published xs) ∧ ∀ params ∈ handshakes xs, Q params := by
  cases outcome with
  | ok a => exact ⟨.inr h.1, h.2⟩
  | error e => exact ⟨.inl h.1, h.2⟩
  | running => exact ⟨.inl h.1, h.2⟩

/-- The task is over with an error. -/
theorem sendError_leaves (e : CableError) {Φ : Outcome Empty (Except CableError Unit) →
      List TaskAction → Prop}
    (h : Φ (.ok (.error e)) [.update (.error e), .setConnectionState .terminated]) :
    Proc.Leaves taskRecord (do sendError e; pure (.error e)) Φ := by
  have hsend : Proc.Leaves taskRecord
      (sendError e : Proc (List TaskAction) Empty Unit) fun outcome actions =>
        outcome = .ok () ∧ actions = [.update (.error e), .setConnectionState .terminated] := by
    refine leaves_act_bind ((leaves_act _).mono fun outcome actions hactions => ?_)
    rw [hactions.2]
    exact ⟨hactions.1, rfl⟩
  refine hsend.bind (fun _ xs hxs => ?_) (fun e => e.elim) fun xs hxs => by cases hxs.1
  rw [hxs.2]
  exact Proc.Leaves.pure h

/-- What the rest of the task adds to what the stages have left. -/
theorem serve_leaves (hasStore : Bool) {order : List CableUpdate} {Q : NoiseParams → Prop}
    {result : Except CableError (HandshakeOutput N)} {xs : List TaskAction}
    (hreached : Reached order (published xs)) (hhandshakes : ∀ params ∈ handshakes xs, Q params)
    (hok : ∀ output, result = .ok output → published xs = (order, [.connected])) :
    Proc.Leaves taskRecord (serve prim env hasStore result)
      (Proc.afterwards (fun outcome actions => TaskLeaves order outcome actions
        ∧ ∀ params ∈ handshakes actions, Q params) xs) := by
  have hsilent : ∀ ys, handshakes ys = [] → ∀ params ∈ handshakes (xs ++ ys), Q params := by
    intro ys hys
    rw [handshakes_append, hys, List.append_nil]
    exact hhandshakes
  have hsame : ∀ ys, published ys = ([], []) → published (xs ++ ys) = published xs := by
    intro ys hys
    obtain ⟨hupdates, hstates⟩ := Prod.mk.inj hys
    rw [published_append, hupdates, hstates, List.append_nil, List.append_nil]
    rfl
  cases result with
  | error e =>
      exact sendError_leaves e ⟨⟨published xs, hreached, published_append xs _⟩, hsilent _ rfl⟩
  | ok output =>
      have hshown := hok output rfl
      unfold serve
      dsimp only
      split
      · refine fun s => ⟨[], taskRecord.refl s, ?_, hsilent [] rfl⟩
        show Reached order (published (xs ++ []))
        rw [hsame [] rfl]
        exact hreached
      · rename_i initial _
        refine leaves_act_bind ?_
        split
        · refine fun s => ⟨[], taskRecord.refl s, ?_, hsilent _ rfl⟩
          show Reached order (published (xs ++ [_]))
          rw [hsame _ rfl]
          exact hreached
        · refine leaves_act_bind (Proc.Leaves.pure ?_)
          refine ⟨(published_append xs _).trans ?_, hsilent _ rfl⟩
          obtain ⟨hupdates, hstates⟩ := Prod.mk.inj hshown
          rw [hupdates, hstates]
          exact Prod.ext (List.append_nil order) rfl
        · refine sendError_leaves _ ?_
          exact ⟨⟨published xs, hreached, published_append xs _⟩, hsilent _ rfl⟩

/-- **The whole task**, with what it publishes at its end. -/
theorem run_leaves (self : Initiation) :
    TaskLeaves self.order (self.run crypto decodeMap tunnel noise prim env).1
        (self.run crypto decodeMap tunnel noise prim env).2
      ∧ ∀ params ∈ handshakes (self.run crypto decodeMap tunnel noise prim env).2,
          self.Proven crypto decodeMap tunnel env params := by
  have hstages : Proc.Leaves taskRecord
      (Proc.attempt (self.connection crypto decodeMap tunnel noise env) :
        Proc (List TaskAction) Empty (Except CableError (HandshakeOutput N)))
      fun outcome actions => Reached self.order (published actions)
        ∧ (∀ params ∈ handshakes actions, self.Proven crypto decodeMap tunnel env params)
        ∧ ∀ output, outcome = .ok (.ok output) →
          published actions = (self.order, [.connected]) := by
    refine (connection_leaves self).attempt (fun output xs hxs => ?_) (fun e xs hxs => ?_)
      fun xs hxs => ?_
    · exact ⟨hxs.reached.1, hxs.reached.2, fun _ _ => hxs.1⟩
    · exact ⟨hxs.reached.1, hxs.reached.2, fun _ h => by cases h⟩
    · exact ⟨hxs.reached.1, hxs.reached.2, fun _ h => by cases h⟩
  have htask : Proc.Leaves taskRecord (handleConnection prim env self.hasStore
        (self.connection crypto decodeMap tunnel noise env))
      (fun outcome actions => TaskLeaves self.order outcome actions
        ∧ ∀ params ∈ handshakes actions, self.Proven crypto decodeMap tunnel env params) := by
    refine hstages.bind (fun result xs hxs => ?_) (fun e => e.elim) fun xs hxs => ⟨hxs.1, hxs.2.1⟩
    exact serve_leaves self.hasStore hxs.1 hxs.2.1 fun output h => hxs.2.2 output (h ▸ rfl)
  obtain ⟨actions, hgrows, hleaves⟩ := htask []
  have hactions : (self.run crypto decodeMap tunnel noise prim env).2 = actions := hgrows
  rw [hactions]
  exact hleaves

variable (crypto decodeMap tunnel noise prim env) in
/-- **What a task publishes.**  While it runs: a part of the updates, in their
order, or all of them and that it is connected.  It is over without an error
only after that, and an error is published as the last update, wherever it
comes up; either way the state ends as terminated. -/
theorem task_published (self : Initiation) :
    TaskLeaves self.order (self.run crypto decodeMap tunnel noise prim env).1
      (self.run crypto decodeMap tunnel noise prim env).2 := (run_leaves self).1

variable (crypto decodeMap tunnel noise prim env) in
/-- **No handshake without proximity.**  Whatever the surroundings do, a task
begins a handshake only after the first advertisement under its own EID key,
and with a pre-shared key of its own secret and of what the phone sealed there. -/
theorem handshake_proven (self : Initiation) :
    ∀ params ∈ handshakes (self.run crypto decodeMap tunnel noise prim env).2,
      ∃ before advertisement after device plaintext suffix input,
        env.scan = before ++ .advertised advertisement :: after
          ∧ (∀ event ∈ before, Foreign crypto decodeMap (self.eidKey crypto).val event)
          ∧ Readable advertisement device
            (makeAdvert crypto (self.eidKey crypto) plaintext ++ suffix)
          ∧ reservedBitsAreZero plaintext.val = true
          ∧ self.input crypto tunnel (.withSuffix decodeMap plaintext suffix) = .ok input
          ∧ params
              = noiseParams (derivePsk crypto self.secret plaintext) input.connectionType := by
  intro params hmem
  obtain ⟨device, advert, input, hfound, hinput, hparams⟩ := (run_leaves self).2 params hmem
  obtain ⟨before, advertisement, after, plaintext, suffix, hsplit, hbefore, hread, hreserved, -,
    rfl⟩ := (awaitAdvertisement_eq_ok_iff env.scan).mp hfound
  refine ⟨before, advertisement, after, device, plaintext, suffix, input, hsplit, hbefore, hread,
    hreserved, hinput, ?_⟩
  rw [hparams, DecryptedAdvert.withSuffix_plaintext]

end

/-! ## §7. The phone. -/

/-- What a phone makes up for a connection. -/
structure Phone where
  nonce : FixedBytes 10
  routingId : FixedBytes 3
  encodedTunnelServerDomain : UInt16
  suffix : Bytes

namespace Phone

def plaintext (self : Phone) : FixedBytes 16 :=
  ⟨0 :: (self.nonce.val ++ (self.routingId.val
      ++ [self.encodedTunnelServerDomain.toUInt8, (self.encodedTunnelServerDomain >>> 8).toUInt8])),
    by rw [List.length_cons, List.length_append, List.length_append, self.nonce.property,
      self.routingId.property]; rfl⟩

/-- The service data that the phone advertises. -/
def serviceData (self : Phone) (eidKey : FixedBytes 64) : Bytes :=
  makeAdvert crypto eidKey self.plaintext ++ self.suffix

def psk (self : Phone) (secret : Bytes) : FixedBytes 32 := derivePsk crypto secret self.plaintext

/-- Whether the suffix has the PSM of an L2CAP server. -/
def offersBle (decodeMap : Bytes → Option (List (Cbor × Cbor))) (self : Phone) : Bool :=
  !self.suffix.isEmpty
    && ((AdvertisementSuffix.fromCbor decodeMap self.suffix).bind (·.blePsm)).isSome

/-- Where the phone, which has scanned `code`, expects the platform. -/
def connectionInput (decodeMap : Bytes → Option (List (Cbor × Cbor))) (self : Phone)
    (code : CableQrCode) (tunnelDomain : String) (privateKey : Bytes) : ConnectionInput :=
  .newForQrCode tunnelDomain (hexEncode self.routingId.val)
    (hexEncode ((derive crypto code.qrSecret.val none .tunnelId).val.take 16)) privateKey
    (self.offersBle decodeMap)

theorem reservedBitsAreZero_plaintext (self : Phone) :
    reservedBitsAreZero self.plaintext.val = true := rfl

/-- The domain is read back from its two bytes. -/
theorem leDecode_domain (encoded : UInt16) :
    UInt16.ofNat (leDecode [encoded.toUInt8, (encoded >>> 8).toUInt8]) = encoded := by
  have hhigh : (encoded >>> 8).toNat = encoded.toNat / 256 := by
    rw [UInt16.toNat_shiftRight]
    exact Nat.shiftRight_eq_div_pow _ _
  have hvalue : leDecode [encoded.toUInt8, (encoded >>> 8).toUInt8] = encoded.toNat := by
    have hlt := encoded.toNat_lt
    show (0 * 256 + (encoded >>> 8).toUInt8.toNat) * 256 + encoded.toUInt8.toNat = _
    rw [UInt16.toNat_toUInt8, UInt16.toNat_toUInt8, hhigh]
    omega
  rw [hvalue, UInt16.ofNat_toNat]

/-- The platform reads from the plaintext what the phone has put there. -/
theorem withSuffix_plaintext (decodeMap : Bytes → Option (List (Cbor × Cbor))) (self : Phone) :
    (DecryptedAdvert.withSuffix decodeMap self.plaintext self.suffix).routingId = self.routingId.val
      ∧ (DecryptedAdvert.withSuffix decodeMap self.plaintext self.suffix).encodedTunnelServerDomain
          = self.encodedTunnelServerDomain
      ∧ (DecryptedAdvert.withSuffix decodeMap self.plaintext self.suffix).nonce
        = self.nonce.val := by
  obtain ⟨suffix, hadvert⟩ :=
    DecryptedAdvert.withSuffix_eq decodeMap self.plaintext self.suffix
  have hrest : self.plaintext.val.drop 11 = self.routingId.val
      ++ [self.encodedTunnelServerDomain.toUInt8,
        (self.encodedTunnelServerDomain >>> 8).toUInt8] :=
    List.drop_left' self.nonce.property
  have hdomain : self.plaintext.val.drop 14 = [self.encodedTunnelServerDomain.toUInt8,
      (self.encodedTunnelServerDomain >>> 8).toUInt8] := by
    rw [← List.drop_drop (i := 3) (j := 11), hrest]
    exact List.drop_left' self.routingId.property
  rw [hadvert]
  refine ⟨?_, ?_, ?_⟩
  · show (self.plaintext.val.drop 11).take 3 = _
    rw [hrest]
    exact List.take_left' self.routingId.property
  · show UInt16.ofNat (leDecode (self.plaintext.val.drop 14)) = _
    rw [hdomain, leDecode_domain]
  · exact List.take_left' self.nonce.property

/-- A phone offers a local connection by what its suffix says. -/
theorem offersBle_eq (decodeMap : Bytes → Option (List (Cbor × Cbor))) (self : Phone) :
    ((DecryptedAdvert.withSuffix decodeMap self.plaintext self.suffix).suffix.bind
      (·.blePsm)).isSome = self.offersBle decodeMap := by
  unfold DecryptedAdvert.withSuffix offersBle
  cases self.suffix.isEmpty <;> rfl

end Phone

section

variable {crypto} {H N P D : Type} {decodeMap : Bytes → Option (List (Cbor × Cbor))}
  {tunnel : TunnelPrimitives} {noise : Noise H N} {prim : Primitives N P} {env : Surroundings D}

variable (prim env) in
theorem serve_extends (hasStore : Bool) (result : Except CableError (HandshakeOutput N)) :
    Proc.Leaves taskRecord (serve prim env hasStore result) fun _ _ => True := by
  cases result with
  | error e => exact sendError_leaves e trivial
  | ok output =>
      unfold serve
      dsimp only
      split
      · exact fun s => ⟨[], taskRecord.refl s, trivial⟩
      · refine leaves_act_bind ?_
        split
        · exact fun s => ⟨[], taskRecord.refl s, trivial⟩
        · exact leaves_act_bind (Proc.Leaves.pure trivial)
        · exact sendError_leaves _ trivial

variable (crypto decodeMap tunnel noise prim env) in
/-- A task goes on from where its connection has come. -/
theorem run_extends (self : Initiation) :
    (self.connection crypto decodeMap tunnel noise env []).2
      <+: (self.run crypto decodeMap tunnel noise prim env).2 := by
  unfold Initiation.run handleConnection
  rw [Proc.bind_apply]
  unfold Proc.attempt
  rcases self.connection crypto decodeMap tunnel noise env [] with ⟨outcome, actions⟩
  cases outcome with
  | ok output =>
      obtain ⟨rest, hgrows, -⟩ := serve_extends prim env self.hasStore (.ok output) actions
      exact ⟨rest, hgrows.symm⟩
  | error e =>
      obtain ⟨rest, hgrows, -⟩ := serve_extends prim env self.hasStore (.error e) actions
      exact ⟨rest, hgrows.symm⟩
  | running => exact List.prefix_rfl

/-- An advertisement that is found lets the stage return. -/
theorem proximityCheckStage_found {input : ProximityCheckInput} {device : D}
    {advert : DecryptedAdvert} (h : awaitAdvertisement crypto decodeMap input.eidKey.val env.scan
      = some (.ok (device, advert))) (actions : List TaskAction) :
    proximityCheckStage crypto decodeMap env input actions
      = (.ok ⟨device, advert⟩, actions ++ [.update .proximityCheck]) := by
  unfold proximityCheckStage
  rw [h]
  rfl

/-- The stage, with all that it does. -/
theorem connectionStage_apply (input : ConnectionInput) (actions : List TaskAction) :
    connectionStage tunnel env input actions
      = waitFor (connectDataChannel tunnel input env.l2cap env.answers).1
          (actions ++ [.update .connecting, .contact input,
            .store (connectDataChannel tunnel input env.l2cap env.answers).2]) := by
  have happend : actions ++ [TaskAction.update .connecting] ++ [.contact input]
      ++ [.store (connectDataChannel tunnel input env.l2cap env.answers).2]
      = actions ++ [.update .connecting, .contact input,
          .store (connectDataChannel tunnel input env.l2cap env.answers).2] := by
    rw [List.append_assoc, List.append_assoc]
    rfl
  rw [← happend]
  rfl

/-- A handshake sends its message as soon as it is built. -/
theorem handshakeStage_sends {input : HandshakeInput} {handshake handshake' : H}
    {message : Bytes}
    (hbuild : noise.buildInitiator (noiseParams input.psk input.connectionType)
      = .ok (some handshake))
    (hwrite : noise.writeMessage handshake = some (message, handshake'))
    (actions : List TaskAction) :
    actions ++ [.update .authenticating,
          .send (noiseParams input.psk input.connectionType) message]
      <+: (handshakeStage noise env input actions).2 := by
  have hhandshake : Proc.Leaves taskRecord
      (doHandshake noise env input.psk input.connectionType) fun _ xs =>
        [.send (noiseParams input.psk input.connectionType) message] <+: xs := by
    unfold doHandshake
    rw [hbuild]
    dsimp only
    rw [hwrite]
    refine leaves_act_bind (leaves_silent_bind (leaves_ofExcept env.sent) (fun _ _ => ?_)
      (fun _ => List.prefix_rfl) List.prefix_rfl)
    refine leaves_silent_bind (leaves_waitFor env.received) (fun received _ => ?_)
      (fun _ => List.prefix_rfl) List.prefix_rfl
    cases received with
    | none => exact Proc.Leaves.throw List.prefix_rfl
    | some response => exact (leaves_ofExcept _).mono fun _ xs _ => ⟨xs, rfl⟩
  have hstage : Proc.Leaves taskRecord (handshakeStage noise env input) fun _ xs =>
      [.update .authenticating, .send (noiseParams input.psk input.connectionType) message]
        <+: xs := by
    refine leaves_act_bind (hhandshake.bind (fun _ xs hxs => ?_)
      (fun _ xs hxs => List.cons_prefix_cons.mpr ⟨rfl, hxs⟩)
      fun xs hxs => List.cons_prefix_cons.mpr ⟨rfl, hxs⟩)
    refine leaves_act_bind (leaves_act_bind (Proc.Leaves.pure ?_))
    exact List.cons_prefix_cons.mpr ⟨rfl, hxs.trans (List.prefix_append _ _)⟩
  obtain ⟨xs, hgrows, hxs⟩ := hstage actions
  rw [show (handshakeStage noise env input actions).2 = actions ++ xs from hgrows]
  exact (List.prefix_append_right_inj actions).mpr hxs

end

/-! ## §8. The parties meet. -/

section

variable {H N P D : Type} (decodeMap : Bytes → Option (List (Cbor × Cbor)))
  (tunnel : TunnelPrimitives) (noise : Noise H N) (prim : Primitives N P) (env : Surroundings D)

/-- The phone is heard: its advertisement is the first for the holder of the
key. -/
structure Heard (eidKey : FixedBytes 64) (phone : Phone) (device : D) : Prop where
  found : ∃ before advertisement after,
    env.scan = before ++ .advertised advertisement :: after
      ∧ (∀ event ∈ before, Foreign crypto decodeMap eidKey.val event)
      ∧ Readable advertisement device (phone.serviceData crypto eidKey)
      ∧ advertisement.stopScan = true

/-- The data channel opens, and the library begins a handshake with these. -/
structure Opens (input : ConnectionInput) (params : NoiseParams) (message : Bytes) : Prop where
  opened : (connectDataChannel tunnel input env.l2cap env.answers).1 = some (.ok ())
  begun : ∃ handshake handshake', noise.buildInitiator params = .ok (some handshake)
    ∧ noise.writeMessage handshake = some (message, handshake')

variable {crypto decodeMap tunnel noise prim env}

/-- A phone that is heard is the one that is awaited, however many others
advertise before it. -/
theorem Heard.await {eidKey : FixedBytes 64} {phone : Phone} {device : D}
    (h : Heard crypto decodeMap env eidKey phone device) :
    awaitAdvertisement crypto decodeMap eidKey.val env.scan
      = some (.ok (device, .withSuffix decodeMap phone.plaintext phone.suffix)) := by
  obtain ⟨before, advertisement, after, hsplit, hbefore, hread, hstop⟩ := h.found
  exact (awaitAdvertisement_eq_ok_iff env.scan).mpr ⟨before, advertisement, after, phone.plaintext,
    phone.suffix, hsplit, hbefore, hread, phone.reservedBitsAreZero_plaintext, hstop, rfl⟩

/-- From where the data channel is opened on. -/
theorem connectionStage_extends {α : Type} (input : ConnectionInput) (k : Unit → Task α)
    (hk : ∀ actions, actions <+: (k () actions).2) (actions : List TaskAction) :
    actions ++ [.update .connecting, .contact input]
      <+: ((connectionStage tunnel env input >>= k) actions).2 := by
  have hinit : ∀ call, actions ++ [TaskAction.update .connecting, .contact input]
      <+: actions ++ [.update .connecting, .contact input, .store call] := fun call =>
    (List.prefix_append_right_inj actions).mpr ⟨[.store call], rfl⟩
  rw [Proc.bind_apply, connectionStage_apply]
  rcases (connectDataChannel tunnel input env.l2cap env.answers).1 with _ | (e | _)
  · exact hinit _
  · exact hinit _
  · exact (hinit _).trans (hk _)

/-- What was done before the handshake stays done. -/
theorem handshakeStage_extends (input : HandshakeInput) (actions : List TaskAction) :
    actions <+: (handshakeStage noise env input actions).2 := by
  have hleaves : Proc.Leaves taskRecord (handshakeStage noise env input)
      (Proc.afterwards (StagesLeave _ fun _ => True) []) :=
    handshakeStage_leaves ⟨rfl, rfl, rfl⟩ trivial
  obtain ⟨xs, hgrows, -⟩ := hleaves actions
  exact ⟨xs, hgrows.symm⟩

/-- The sending of the message is among the actions behind an open channel. -/
theorem send_mem {input : ConnectionInput} {handshakeInput : HandshakeInput} {message : Bytes}
    (h : Opens tunnel noise env input
      (noiseParams handshakeInput.psk handshakeInput.connectionType) message)
    (actions : List TaskAction) :
    .send (noiseParams handshakeInput.psk handshakeInput.connectionType) message
      ∈ ((connectionStage tunnel env input >>= fun _ => handshakeStage noise env handshakeInput)
          actions).2 := by
  obtain ⟨handshake, handshake', hbuild, hwrite⟩ := h.begun
  rw [Proc.bind_apply, connectionStage_apply, h.opened]
  refine (handshakeStage_sends hbuild hwrite _).subset ?_
  exact List.mem_append_right _ (List.mem_cons_of_mem _ List.mem_cons_self)

variable (tunnel noise) in
/-- The platform has heard the phone that scanned its code. -/
theorem qrCodeConnection_heard {qrDevice : CableQrCodeDevice} {phone : Phone} {device : D}
    {tunnelDomain : String}
    (hheard : Heard crypto decodeMap env
      (derive crypto qrDevice.qrCode.qrSecret.val none .eidKey) phone device)
    (hdomain : decodeTunnelServerDomain crypto.toCrypto phone.encodedTunnelServerDomain
      = some tunnelDomain) :
    ∃ handshakeInput : HandshakeInput,
      handshakeInput.psk = phone.psk crypto qrDevice.qrCode.qrSecret.val
        ∧ handshakeInput.connectionType = (phone.connectionInput crypto decodeMap qrDevice.qrCode
            tunnelDomain qrDevice.privateKey).connectionType
        ∧ qrCodeConnection crypto decodeMap tunnel noise env qrDevice []
          = (connectionStage tunnel env (phone.connectionInput crypto decodeMap qrDevice.qrCode
                tunnelDomain qrDevice.privateKey)
              >>= fun _ => handshakeStage noise env handshakeInput)
            [.update .proximityCheck] := by
  obtain ⟨hrouting, hencoded, -⟩ := phone.withSuffix_plaintext decodeMap
  have hinput : connectionInputForQrCode crypto qrDevice
      (.withSuffix decodeMap phone.plaintext phone.suffix)
      = .ok (phone.connectionInput crypto decodeMap qrDevice.qrCode tunnelDomain
          qrDevice.privateKey) := by
    unfold connectionInputForQrCode decodeTunnelDomainFromAdvert
    rw [hencoded, hdomain, hrouting, phone.offersBle_eq]
    rfl
  refine ⟨.newForQrCode crypto qrDevice (phone.connectionInput crypto decodeMap qrDevice.qrCode
    tunnelDomain qrDevice.privateKey) (.withSuffix decodeMap phone.plaintext phone.suffix), ?_,
    rfl, ?_⟩
  · show derivePsk crypto _ (DecryptedAdvert.withSuffix _ _ _).plaintext = _
    rw [DecryptedAdvert.withSuffix_plaintext]
    rfl
  · have hstage : proximityCheckStage crypto decodeMap env (.newForQrCode crypto qrDevice) []
        = (.ok ⟨device, .withSuffix decodeMap phone.plaintext phone.suffix⟩,
            [.update .proximityCheck]) := proximityCheckStage_found hheard.await []
    unfold qrCodeConnection
    rw [Proc.bind_of_ok hstage]
    dsimp only
    rw [hinput]
    rfl

variable (noise) in
/-- The platform has heard a phone that it knows, over an open channel. -/
theorem knownDeviceConnection_heard {deviceInfo : CableKnownDeviceInfo} {hint : ClientPayloadHint}
    {clientNonce : FixedBytes 16} {phone : Phone} {device : D}
    (hopened : (connectDataChannel tunnel
        (.newForKnownDevice tunnel deviceInfo hint clientNonce.val) env.l2cap env.answers).1
      = some (.ok ()))
    (hheard : Heard crypto decodeMap env
      (derive crypto deviceInfo.linkSecret (some clientNonce.val) .eidKey) phone device) :
    ∃ (handshakeInput : HandshakeInput) (actions : List TaskAction),
      handshakeInput.psk = phone.psk crypto deviceInfo.linkSecret
        ∧ handshakeInput.connectionType = (ConnectionInput.newForKnownDevice tunnel deviceInfo hint
            clientNonce.val).connectionType
        ∧ knownDeviceConnection crypto decodeMap tunnel noise env deviceInfo hint clientNonce []
          = handshakeStage noise env handshakeInput actions := by
  obtain ⟨opening, hopening⟩ : ∃ actions, connectionStage tunnel env
      (.newForKnownDevice tunnel deviceInfo hint clientNonce.val) [] = (.ok (), actions) := by
    rw [connectionStage_apply, hopened]
    exact ⟨_, rfl⟩
  have hstage : ∀ actions, proximityCheckStage crypto decodeMap env
        (.newForKnownDevice crypto deviceInfo clientNonce) actions
      = (.ok ⟨device, .withSuffix decodeMap phone.plaintext phone.suffix⟩,
          actions ++ [.update .proximityCheck]) := proximityCheckStage_found hheard.await
  refine ⟨.newForKnownDevice crypto deviceInfo (.newForKnownDevice tunnel deviceInfo hint
    clientNonce.val) (.withSuffix decodeMap phone.plaintext phone.suffix),
    opening ++ [.update .proximityCheck], ?_, rfl, ?_⟩
  · show derivePsk crypto _ (DecryptedAdvert.withSuffix _ _ _).plaintext = _
    rw [DecryptedAdvert.withSuffix_plaintext]
    rfl
  · unfold knownDeviceConnection
    rw [Proc.bind_of_ok hopening, Proc.bind_of_ok (hstage _)]

variable (crypto decodeMap tunnel noise prim env) in
/-- **The parties meet.**  A phone that scans the text of a QR code has the
secret from it.  When it is heard, the platform goes to the domain and the path
that the phone has in mind, and begins the handshake with the pre-shared key
that the phone derives.  A phone that was linked before needs the link secret
and the nonce of the client payload for the same. -/
theorem parties_meet :
    (∀ qrDevice : CableQrCodeDevice, qrDevice.qrCode.Addressable →
      ∃ code, scan qrDevice.qrCode.display = some code ∧
        ∀ (phone : Phone) (device : D) (tunnelDomain : String),
          Heard crypto decodeMap env (derive crypto code.qrSecret.val none .eidKey) phone device →
          decodeTunnelServerDomain crypto.toCrypto phone.encodedTunnelServerDomain
            = some tunnelDomain →
          [.update .proximityCheck, .update .connecting,
              .contact (phone.connectionInput crypto decodeMap code tunnelDomain
                qrDevice.privateKey)]
            <+: ((Initiation.qrCode qrDevice).run crypto decodeMap tunnel noise prim env).2
          ∧ ∀ params message,
            params = noiseParams (phone.psk crypto code.qrSecret.val)
              (phone.connectionInput crypto decodeMap code tunnelDomain
                qrDevice.privateKey).connectionType →
            Opens tunnel noise env (phone.connectionInput crypto decodeMap code tunnelDomain
              qrDevice.privateKey) params message →
            .send params message
              ∈ ((Initiation.qrCode qrDevice).run crypto decodeMap tunnel noise prim env).2) ∧
    (∀ (deviceInfo : CableKnownDeviceInfo) (hint : ClientPayloadHint) (clientNonce : FixedBytes 16)
        (contactId : String) (publicKey : Bytes) (payload : ClientPayload) (phone : Phone)
        (device : D) (params : NoiseParams) (message : Bytes),
      (ConnectionInput.newForKnownDevice tunnel deviceInfo hint clientNonce.val).connectionType
        = .knownDevice contactId publicKey payload →
      Heard crypto decodeMap env
        (derive crypto deviceInfo.linkSecret (some payload.clientNonce) .eidKey) phone device →
      params = noiseParams (phone.psk crypto deviceInfo.linkSecret)
        (.knownDevice contactId publicKey payload) →
      Opens tunnel noise env (.newForKnownDevice tunnel deviceInfo hint clientNonce.val) params
        message →
      .send params message
        ∈ ((Initiation.knownDevice deviceInfo hint clientNonce).run crypto decodeMap tunnel noise
            prim env).2) := by
  constructor
  · intro qrDevice hcode
    refine ⟨qrDevice.qrCode, (qrCode_scanned _ hcode).2, ?_⟩
    intro phone device tunnelDomain hheard hdomain
    obtain ⟨handshakeInput, hpsk, htype, hconnection⟩ :=
      qrCodeConnection_heard tunnel noise hheard hdomain
    have hrun : (qrCodeConnection crypto decodeMap tunnel noise env qrDevice []).2
        <+: ((Initiation.qrCode qrDevice).run crypto decodeMap tunnel noise prim env).2 :=
      run_extends crypto decodeMap tunnel noise prim env (.qrCode qrDevice)
    rw [hconnection] at hrun
    constructor
    · exact (connectionStage_extends _ _ (handshakeStage_extends handshakeInput) _).trans hrun
    · rintro params message rfl hopens
      rw [← hpsk, ← htype] at hopens ⊢
      exact hrun.subset (send_mem hopens _)
  · rintro deviceInfo hint clientNonce contactId publicKey payload phone device params message
      htype hheard rfl hopens
    have hnonce : payload.clientNonce = clientNonce.val := by
      cases htype
      rfl
    rw [hnonce] at hheard
    obtain ⟨handshakeInput, actions, hpsk, htype', hconnection⟩ :=
      knownDeviceConnection_heard noise hopens.opened hheard
    obtain ⟨handshake, handshake', hbuild, hwrite⟩ := hopens.begun
    have hrun : (knownDeviceConnection crypto decodeMap tunnel noise env deviceInfo hint clientNonce
          []).2
        <+: ((Initiation.knownDevice deviceInfo hint clientNonce).run crypto decodeMap tunnel noise
          prim env).2 :=
      run_extends crypto decodeMap tunnel noise prim env
        (.knownDevice deviceInfo hint clientNonce)
    rw [hconnection] at hrun
    rw [← hpsk, ← htype, ← htype'] at hbuild ⊢
    refine hrun.subset ((handshakeStage_sends hbuild hwrite _).subset ?_)
    exact List.mem_append_right _ (List.mem_cons_of_mem _ List.mem_cons_self)

end

/-! ## §9. One connection. -/

/-- A cipher that leaves the blocks as they are, and a transparent derivation. -/
def plainCableCrypto : CableCrypto where
  toCrypto := transparentCrypto
  hkdfSha256_length _ ikm _ n _ := fitBytes_length n ikm
  aes256 _ := Equiv.refl _

def plainQrDevice : CableQrCodeDevice := ⟨plainQrCode, List.replicate 32 5, true⟩

def plainPhone : Phone where
  nonce := ⟨List.replicate 10 9, rfl⟩
  routingId := ⟨[1, 2, 3], rfl⟩
  encodedTunnelServerDomain := 0
  suffix := []

/-- A handshake of one message and one answer. -/
def plainNoise : Noise Unit Unit where
  buildInitiator _ := .ok (some ())
  writeMessage _ := some ([1], ())
  readMessage _ _ := some ()
  isHandshakeFinished _ := true
  getHandshakeHash _ := []
  intoTransportMode _ := .ok ()

/-- A stranger is heard first, and then the phone. -/
def plainSurroundings : Surroundings Unit where
  scan := [
    .advertised ⟨[(CABLE_UUID_FIDO, List.replicate 20 1)], true, .ok (some ()), true⟩,
    .advertised ⟨[(CABLE_UUID_GOOGLE, plainPhone.serviceData plainCableCrypto
      (derive plainCableCrypto plainQrCode.qrSecret.val none .eidKey))], true, .ok (some ()), true⟩]
  l2cap := .error .connectionFailed
  answers := [.connected SWITCHING_PROTOCOLS]
  sent := .ok ()
  received := some (.ok (some (List.replicate 65 4)))
  initial := none
  events := []

theorem plainSurroundings_heard : Heard plainCableCrypto (fun _ => none) plainSurroundings
    (derive plainCableCrypto plainQrCode.qrSecret.val none .eidKey) plainPhone () where
  found := by
    refine ⟨[_], _, [], rfl, ?_, ⟨?_, rfl⟩, rfl⟩
    · rintro event hevent
      obtain rfl := List.mem_singleton.mp hevent
      show tryAdvertisement _ _ _ _ = none
      rfl
    · rfl

/-- The connection of the witnesses. -/
abbrev plainRun : Outcome Empty (Except CableError Unit) × List TaskAction :=
  (Initiation.qrCode plainQrDevice).run plainCableCrypto (fun _ => none) plainTunnel plainNoise
    linkPrimitives plainSurroundings

def plainParams : NoiseParams :=
  noiseParams (plainPhone.psk plainCableCrypto plainQrCode.qrSecret.val)
    (plainPhone.connectionInput plainCableCrypto (fun _ => none) plainQrCode "cable.ua5v.com"
      plainQrDevice.privateKey).connectionType

theorem newPersistent_plain : CableQrCodeDevice.newPersistent (fun _ => 2 :: List.replicate 32 0)
    (List.replicate 32 5) ⟨List.replicate 16 7, rfl⟩ none .makeCredential .cloudAssistedOrLocal
      = .ok plainQrDevice := rfl

theorem plainQrCode_addressable : plainQrCode.Addressable :=
  (CableQrCodeDevice.new_eq_ok newPersistent_plain).1

theorem parties_meet_phone : .send plainParams [1] ∈ plainRun.2 := by
  obtain ⟨code, hscan, hmeets⟩ := (parties_meet plainCableCrypto (fun _ => none) plainTunnel
    plainNoise linkPrimitives plainSurroundings).1 plainQrDevice plainQrCode_addressable
  have hcode : some code = some plainQrCode :=
    hscan.symm.trans (qrCode_scanned plainQrCode plainQrCode_addressable).2
  cases hcode
  exact (hmeets plainPhone () "cable.ua5v.com" plainSurroundings_heard rfl).2 plainParams [1] rfl
    ⟨rfl, (), (), rfl, rfl⟩

theorem handshake_proven_phone : handshakes plainRun.2 = [plainParams]
    ∧ ∃ before advertisement after device plaintext suffix input,
      plainSurroundings.scan = before ++ .advertised advertisement :: after
        ∧ (∀ event ∈ before, Foreign plainCableCrypto (fun _ => none)
            ((Initiation.qrCode plainQrDevice).eidKey plainCableCrypto).val event)
        ∧ Readable advertisement device (makeAdvert plainCableCrypto
            ((Initiation.qrCode plainQrDevice).eidKey plainCableCrypto) plaintext ++ suffix)
        ∧ reservedBitsAreZero plaintext.val = true
        ∧ (Initiation.qrCode plainQrDevice).input plainCableCrypto plainTunnel
            (.withSuffix (fun _ => none) plaintext suffix) = .ok input
        ∧ plainParams = noiseParams (derivePsk plainCableCrypto
            (Initiation.qrCode plainQrDevice).secret plaintext) input.connectionType := by
  have hbegun : handshakes plainRun.2 = [plainParams] := rfl
  refine ⟨hbegun, ?_⟩
  exact handshake_proven plainCableCrypto (fun _ => none) plainTunnel plainNoise linkPrimitives
    plainSurroundings (.qrCode plainQrDevice) plainParams (hbegun ▸ List.mem_singleton_self _)

end Libwebauthn.Transport.Cable
