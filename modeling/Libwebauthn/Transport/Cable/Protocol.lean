/-
  Libwebauthn.Transport.Cable.Protocol — the encrypted CTAP frames of the
  hybrid transport (`src/transport/cable/protocol.rs`) and the linking
  information a phone may send over them (`src/transport/cable/known_devices.rs`).

  `connection` takes the initial message and then serves two sources at
  once: frames of the peer and requests of the channel.  An `Event` is what
  one turn of its loop finds; a run of the loop is over a list of them, in
  whatever order they come up.
-/
import Libwebauthn.Ctap2.CborMessage
import Libwebauthn.Lib.Cbor
import Libwebauthn.Ops.ClientData
import Libwebauthn.Transport.Cable.Error

namespace Libwebauthn.Transport.Cable

/-! ## §1. Frames. -/

def MAX_CBOR_SIZE : Nat := 1024 * 1024
def PADDING_GRANULARITY : Nat := 32

/-- The libraries below the protocol: Noise sessions `N` and P-256 public
keys `P`. -/
structure Primitives (N P : Type) where
  /-- `TransportState::read_message`, into a buffer of `MAX_CBOR_SIZE`. -/
  readMessage : N → Bytes → Option Bytes × N
  /-- `TransportState::write_message`. -/
  writeMessage : N → Bytes → Option Bytes × N
  /-- The `info` of a decoded `CableInitialMessage`. -/
  decodeInitialMessage : Bytes → Option Bytes
  /-- Whether the bytes decode as a GetInfo response. -/
  decodesAsGetInfo : Bytes → Bool
  /-- The entries of a decoded CBOR map; each key once. -/
  decodeMap : Bytes → Option (List (Cbor × Cbor))
  publicKeyFromSec1 : Bytes → Option P
  /-- The raw shared secret. -/
  diffieHellman : (privateKey : Bytes) → P → Bytes
  hmacSha256 : (key message : Bytes) → Bytes

structure TunnelNoiseState (N : Type) where
  transportState : N
  handshakeHash : Bytes
  deriving Repr, DecidableEq

inductive CableTunnelMessageType where
  | shutdown
  | ctap
  | update
  deriving Repr, DecidableEq

def CableTunnelMessageType.toU8 : CableTunnelMessageType → UInt8
  | .shutdown => 0
  | .ctap => 1
  | .update => 2

structure CableTunnelMessage where
  messageType : CableTunnelMessageType
  payload : Bytes
  deriving Repr, DecidableEq

namespace CableTunnelMessage

def fromSlice (slice : Bytes) : Except CableError CableTunnelMessage :=
  match slice with
  | [] => .error .invalidFraming
  -- a type without a payload is refused before the type is looked at
  | [_] => .error .invalidFraming
  | 0 :: payload => .ok ⟨.shutdown, payload⟩
  | 1 :: payload => .ok ⟨.ctap, payload⟩
  | 2 :: payload => .ok ⟨.update, payload⟩
  | _ => .error .invalidFraming

def toVec (self : CableTunnelMessage) : Bytes := self.messageType.toU8 :: self.payload

end CableTunnelMessage

/-- The padding, and the byte behind it that counts it, cut off. -/
def stripFramePadding (decryptedFrame : Bytes) : Except CableError Bytes :=
  match decryptedFrame.getLast? with
  | none => .error .invalidFraming
  | some paddingLen =>
      if decryptedFrame.length < paddingLen.toNat + 1 then .error .invalidFraming
      else .ok (decryptedFrame.take (decryptedFrame.length - (paddingLen.toNat + 1)))

/-- Zeros up to a whole number of granules, and the last of them overwritten
with the number of those before it. -/
def padRequest (cborRequest : Bytes) : Bytes :=
  let extraBytes := PADDING_GRANULARITY - cborRequest.length % PADDING_GRANULARITY
  let paddedLen := cborRequest.length + extraBytes
  (cborRequest ++ List.replicate extraBytes 0).set (paddedLen - 1) (UInt8.ofNat (extraBytes - 1))

variable {N P : Type} (prim : Primitives N P)

def decryptFrame (noise : TunnelNoiseState N) (encryptedFrame : Bytes) :
    Except CableError Bytes × TunnelNoiseState N :=
  match prim.readMessage noise.transportState encryptedFrame with
  | (none, transportState) => (.error .encryptionFailed, { noise with transportState })
  | (some decryptedFrame, transportState) =>
      (stripFramePadding decryptedFrame, { noise with transportState })

/-- The GetInfo response in the initial message. -/
def connectionRecvInitial (noise : TunnelNoiseState N) (encryptedFrame : Bytes) :
    Except CableError Bytes × TunnelNoiseState N :=
  match decryptFrame prim noise encryptedFrame with
  | (.error e, noise) => (.error e, noise)
  | (.ok decryptedFrame, noise) =>
      match prim.decodeInitialMessage decryptedFrame with
      | none => (.error .invalidFraming, noise)
      | some info =>
          if prim.decodesAsGetInfo info then (.ok info, noise)
          else (.error .invalidFraming, noise)

/-- The frame a request goes out in; the error of `data_channel.send` is
added by the caller. -/
def connectionSend (noise : TunnelNoiseState N) (request : CborRequest) :
    Except CableError Bytes × TunnelNoiseState N :=
  let cborRequest := request.rawLong
  if cborRequest.length > MAX_CBOR_SIZE then (.error .invalidFraming, noise)
  else
    match prim.writeMessage noise.transportState
        (CableTunnelMessage.mk .ctap (padRequest cborRequest)).toVec with
    | (none, transportState) => (.error .encryptionFailed, { noise with transportState })
    | (some encryptedFrame, transportState) => (.ok encryptedFrame, { noise with transportState })

/-! ## §2. Linking information. -/

structure CableLinkingInfo where
  contactId : Bytes
  linkId : Bytes
  linkSecret : Bytes
  /-- X9.62 uncompressed. -/
  authenticatorPublicKey : Bytes
  authenticatorName : String
  /-- HMAC of the handshake hash. -/
  handshakeSignature : Bytes
  deriving Repr, DecidableEq

abbrev CableKnownDeviceId := String

/-- `hex::encode`. -/
def hexEncode (bytes : Bytes) : String :=
  String.ofList (bytes.flatMap fun b => [hexDigit (b.toNat / 16), hexDigit (b.toNat % 16)])

/-- `From<&CableLinkingInfo> for CableKnownDeviceId`. -/
def CableLinkingInfo.deviceId (self : CableLinkingInfo) : CableKnownDeviceId :=
  hexEncode self.authenticatorPublicKey

structure CableKnownDeviceInfo where
  contactId : Bytes
  linkId : Bytes
  linkSecret : Bytes
  publicKey : Bytes
  name : String
  tunnelDomain : String
  linkId_length : linkId.length = 8
  linkSecret_length : linkSecret.length = 32
  publicKey_length : publicKey.length = 65
  deriving DecidableEq

def CableKnownDeviceInfo.new (tunnelDomain : String) (linkingInfo : CableLinkingInfo) :
    Except CableError CableKnownDeviceInfo :=
  if hid : linkingInfo.linkId.length = 8 then
    if hsecret : linkingInfo.linkSecret.length = 32 then
      if hkey : linkingInfo.authenticatorPublicKey.length = 65 then
        .ok
          { contactId := linkingInfo.contactId
            linkId := linkingInfo.linkId
            linkSecret := linkingInfo.linkSecret
            publicKey := linkingInfo.authenticatorPublicKey
            name := linkingInfo.authenticatorName
            tunnelDomain := tunnelDomain
            linkId_length := hid
            linkSecret_length := hsecret
            publicKey_length := hkey }
      else .error .invalidFraming
    else .error .invalidFraming
  else .error .invalidFraming

/-- The value under an unsigned key. -/
def getInteger (key : Nat) : List (Cbor × Cbor) → Option Cbor
  | [] => none
  | (.uint n, value) :: entries => if n = key then some value else getInteger key entries
  | _ :: entries => getInteger key entries

def getBytes (key : Nat) (entries : List (Cbor × Cbor)) : Option Bytes :=
  match getInteger key entries with
  | some (.bytes bytes) => some bytes
  | _ => none

def getText (key : Nat) (entries : List (Cbor × Cbor)) : Option String :=
  match getInteger key entries with
  | some (.text text) => some text
  | _ => none

/-- The linking information of an update; `none` when the map has none, or
not all of it. -/
def connectionRecvUpdate (message : Bytes) : Except CableError (Option CableLinkingInfo) :=
  match prim.decodeMap message with
  | none => .error .invalidFraming
  | some updateMessage =>
      match getInteger 0x01 updateMessage with
      | some (.map linkingInfoMap) => .ok do
          let contactId ← getBytes 0x01 linkingInfoMap
          let linkId ← getBytes 0x02 linkingInfoMap
          let linkSecret ← getBytes 0x03 linkingInfoMap
          let authenticatorPublicKey ← getBytes 0x04 linkingInfoMap
          let authenticatorName ← getText 0x05 linkingInfoMap
          let handshakeSignature ← getBytes 0x06 linkingInfoMap
          return ⟨contactId, linkId, linkSecret, authenticatorPublicKey, authenticatorName,
            handshakeSignature⟩
      | _ => .ok none

def parseKnownDevice (privateKey : Bytes) (tunnelDomain : String)
    (linkingInfo : CableLinkingInfo) (handshakeHash : Bytes) :
    Except CableError CableKnownDeviceInfo :=
  match CableKnownDeviceInfo.new tunnelDomain linkingInfo with
  | .error e => .error e
  | .ok knownDevice =>
      match prim.publicKeyFromSec1 linkingInfo.authenticatorPublicKey with
      | none => .error .invalidKey
      | some authenticatorPublicKey =>
          let sharedSecret := prim.diffieHellman privateKey authenticatorPublicKey
          if prim.hmacSha256 sharedSecret handshakeHash ≠ linkingInfo.handshakeSignature then
            .error .invalidSignature
          else .ok knownDevice

/-- What is done to the store of known devices. -/
inductive StoreCall where
  | putKnownDevice (id : CableKnownDeviceId) (device : CableKnownDeviceInfo)
  | deleteKnownDevice (id : CableKnownDeviceId)
  deriving DecidableEq

def applyLinkingUpdate (privateKey : Bytes) (tunnelDomain : String)
    (linkingInfo : CableLinkingInfo) (handshakeHash : Bytes) : List StoreCall :=
  match parseKnownDevice prim privateKey tunnelDomain linkingInfo handshakeHash with
  | .ok knownDevice => [.putKnownDevice linkingInfo.deviceId knownDevice]
  | .error _ => []

/-! ## §3. The connection. -/

inductive ClientPayloadHint where
  | getAssertion
  | makeCredential
  deriving Repr, DecidableEq

structure ClientPayload where
  linkId : Bytes
  clientNonce : Bytes
  hint : ClientPayloadHint
  deriving Repr, DecidableEq

inductive CableTunnelConnectionType where
  | qrCode (routingId tunnelId : String) (privateKey : Bytes)
  | knownDevice (contactId : String) (authenticatorPublicKey : Bytes)
      (clientPayload : ClientPayload)
  deriving Repr, DecidableEq

/-- What a connection is made with. -/
structure TunnelConnectionInput where
  connectionType : CableTunnelConnectionType
  tunnelDomain : String
  /-- Whether there is a `known_device_store`. -/
  hasKnownDeviceStore : Bool
  deriving Repr, DecidableEq

/-- The running task: the Noise session, the responses waiting in the queue
of the channel, the frames sent, and the calls made to the store. -/
structure Connection (N : Type) where
  noise : TunnelNoiseState N
  cborRx : List CborResponse := []
  framesSent : List Bytes := []
  storeCalls : List StoreCall := []

/-- What a turn of the loop finds: the next message of the data channel, or
a request.  `rxOpen` says whether the channel still reads responses, `sent`
what `data_channel.send` returns. -/
inductive Event where
  | received (result : Except CableError (Option Bytes)) (rxOpen : Bool)
  | request (request : CborRequest) (rxOpen : Bool) (sent : Except CableError Unit)
  deriving DecidableEq

inductive RecvOutcome where
  /-- Frame handled, keep the loop running. -/
  | continue
  /-- Close the channel cleanly. -/
  | peerShutdown
  deriving Repr, DecidableEq

/-- The store calls of an update frame.  Only a QR-initiated connection with
a store makes any. -/
def updateStoreCalls (input : TunnelConnectionInput) (handshakeHash payload : Bytes) :
    List StoreCall :=
  match connectionRecvUpdate prim payload with
  | .error _ => []
  | .ok none => []
  | .ok (some linkingInfo) =>
      match input.connectionType with
      | .knownDevice _ _ _ => []
      | .qrCode _ _ privateKey =>
          if input.hasKnownDeviceStore then
            applyLinkingUpdate prim privateKey input.tunnelDomain linkingInfo handshakeHash
          else []

def connectionRecv (input : TunnelConnectionInput) (conn : Connection N)
    (encryptedFrame : Bytes) (rxOpen : Bool) : Except CableError RecvOutcome × Connection N :=
  match decryptFrame prim conn.noise encryptedFrame with
  | (.error e, noise) => (.error e, { conn with noise })
  | (.ok decryptedFrame, noise) =>
      match CableTunnelMessage.fromSlice decryptedFrame with
      | .error e => (.error e, { conn with noise })
      | .ok ⟨.shutdown, _⟩ => (.ok .peerShutdown, { conn with noise })
      | .ok ⟨.ctap, payload⟩ =>
          match CborResponse.tryFrom payload with
          | .error _ => (.error .invalidFraming, { conn with noise })
          | .ok response =>
              if rxOpen then
                (.ok .continue, { conn with noise, cborRx := conn.cborRx ++ [response] })
              else (.error .connectionFailed, { conn with noise })
      | .ok ⟨.update, payload⟩ =>
          let calls := updateStoreCalls prim input noise.handshakeHash payload
          (.ok .continue, { conn with noise, storeCalls := conn.storeCalls ++ calls })

/-- One turn of the loop; a result ends it. -/
def connectionStep (input : TunnelConnectionInput) (getInfoResponse : Bytes)
    (conn : Connection N) : Event → Option (Except CableError Unit) × Connection N
  | .received (.error e) _ => (some (.error e), conn)
  | .received (.ok none) _ => (some (.ok ()), conn)
  | .received (.ok (some message)) rxOpen =>
      match connectionRecv prim input conn message rxOpen with
      | (.ok .continue, conn) => (none, conn)
      | (.ok .peerShutdown, conn) => (some (.ok ()), conn)
      | (.error e, conn) => (some (.error e), conn)
  | .request request rxOpen sent =>
      match request.command with
      | .authenticatorGetInfo =>
          if rxOpen then
            let response := CborResponse.newSuccessFromSlice getInfoResponse
            (none, { conn with cborRx := conn.cborRx ++ [response] })
          else (some (.error .connectionFailed), conn)
      | _ =>
          match connectionSend prim conn.noise request, sent with
          | (.error e, noise), _ => (some (.error e), { conn with noise })
          | (.ok _, noise), .error e => (some (.error e), { conn with noise })
          | (.ok frame, noise), .ok () =>
              (none, { conn with noise, framesSent := conn.framesSent ++ [frame] })

/-- How far a connection got: its result (`none` while it runs), its state,
the turns it took, each with the state it was taken in, and the events it
left. -/
structure ConnectionRun (N : Type) where
  result : Option (Except CableError Unit)
  conn : Connection N
  turns : List (Connection N × Event) := []
  rest : List Event := []

/-- The loop of `connection`. -/
def connectionLoop (input : TunnelConnectionInput) (getInfoResponse : Bytes) :
    (events : List Event) → Connection N → ConnectionRun N
  | [], conn => { result := none, conn }
  | event :: events, conn =>
      match connectionStep prim input getInfoResponse conn event with
      | (some result, conn') =>
          { result := some result, conn := conn', turns := [(conn, event)], rest := events }
      | (none, conn') =>
          let run := connectionLoop input getInfoResponse events conn'
          { run with turns := (conn, event) :: run.turns }

/-- `connection`: the first message of the data channel, then the loop. -/
def connection (input : TunnelConnectionInput) (noise : TunnelNoiseState N)
    (initial : Except CableError (Option Bytes)) (events : List Event) : ConnectionRun N :=
  match initial with
  | .error e => { result := some (.error e), conn := { noise }, rest := events }
  | .ok none => { result := some (.error .connectionLost), conn := { noise }, rest := events }
  | .ok (some message) =>
      match connectionRecvInitial prim noise message with
      | (.error e, noise) => { result := some (.error e), conn := { noise }, rest := events }
      | (.ok getInfoResponse, noise) =>
          connectionLoop prim input getInfoResponse events { noise }

end Libwebauthn.Transport.Cable
