/-
  Libwebauthn.Transport.Cable.KnownDevices — the store of known devices over
  all hybrid connections (`src/transport/cable/known_devices.rs`).

  A connection is made from a QR code or from a stored device; it goes
  through the tunnel, the handshake and the initial message to the loop of
  `connection`.  Any number of connections share one store.  The invariant
  `Justified` says of every call to the store what entitled the connection
  to it: a signed update behind a QR code, or a 410 Gone.  What is deleted is
  known by its key alone, so it is the entry that the connection was made with
  just where that one is still stored (`store_calls_entitled`).
-/
import Libwebauthn.Lib.Steps
import Libwebauthn.Transport.Cable.Outcome
import Libwebauthn.Transport.Cable.Tunnel

namespace Libwebauthn.Transport.Cable

/-! ## §1. Record ids. -/

theorem hexDigit_injective : ∀ a < 16, ∀ b < 16, hexDigit a = hexDigit b → a = b := by
  decide

/-- No two public keys have one id. -/
theorem hexEncode_injective {as bs : Bytes} (h : hexEncode as = hexEncode bs) : as = bs := by
  have hlists := String.ofList_injective h
  clear h
  induction as generalizing bs with
  | nil =>
      cases bs with
      | nil => rfl
      | cons b bs => cases hlists
  | cons a as ih =>
      cases bs with
      | nil => cases hlists
      | cons b bs =>
          obtain ⟨hhigh, htail⟩ := List.cons.inj hlists
          obtain ⟨hlow, hrest⟩ := List.cons.inj htail
          have ha := a.toNat_lt
          have hb := b.toNat_lt
          have hdiv := hexDigit_injective _ (by omega) _ (by omega) hhigh
          have hmod := hexDigit_injective _ (by omega) _ (by omega) hlow
          have hab : a = b := UInt8.toNat_inj.mp (by omega)
          rw [hab, ih hrest]

/-! ## §2. Connections. -/

variable {N P : Type} (prim : Primitives N P) (tunnel : TunnelPrimitives)

/-- What a connection is made from: `CableQrCodeDevice`, with what the
advert of the phone says, or `CableKnownDevice`. -/
inductive CableDevice where
  | qrCode (hasStore : Bool) (tunnelDomain routingId tunnelId : String) (privateKey : Bytes)
      (ble : Bool)
  | known (deviceInfo : CableKnownDeviceInfo) (hint : ClientPayloadHint) (clientNonce : Bytes)

namespace CableDevice

def connectionInput : CableDevice → ConnectionInput
  | qrCode _ tunnelDomain routingId tunnelId privateKey ble =>
      .newForQrCode tunnelDomain routingId tunnelId privateKey ble
  | known deviceInfo hint clientNonce => .newForKnownDevice tunnel deviceInfo hint clientNonce

/-- `TunnelConnectionInput::from_handshake_output`, with the store of the
device. -/
def tunnelConnectionInput (self : CableDevice) : TunnelConnectionInput where
  connectionType := (self.connectionInput tunnel).connectionType
  tunnelDomain := (self.connectionInput tunnel).tunnelDomain
  hasKnownDeviceStore :=
    match self with
    | qrCode hasStore _ _ _ _ _ => hasStore
    | known _ _ _ => true

end CableDevice

inductive Phase (N : Type) where
  | connecting
  | handshaking
  | awaitingInitial (noise : TunnelNoiseState N)
  | running (getInfoResponse : Bytes) (conn : Connection N)
  | over

/-- A connection: what it was made from, how far it is, the answers of the
tunnel service, and the hash of its handshake. -/
structure Session (N : Type) where
  device : CableDevice
  phase : Phase N := .connecting
  answers : List TunnelAnswer := []
  handshakeHash : Option Bytes := none

inductive SessionMove (N : Type) where
  | connect (l2cap : Except CableError Unit) (answers : List TunnelAnswer)
  /-- `none` when it fails. -/
  | handshake (noise : Option (TunnelNoiseState N))
  | initial (result : Except CableError (Option Bytes))
  | turn (event : Event)

/-- The payload of an Update frame. -/
def updatePayload (noise : TunnelNoiseState N) : Event → Option Bytes
  | .received (.ok (some frame)) _ =>
      match (decryptFrame prim noise frame).1 with
      | .error _ => none
      | .ok plaintext =>
          match CableTunnelMessage.fromSlice plaintext with
          | .ok ⟨.update, payload⟩ => some payload
          | _ => none
  | _ => none

/-- A call to the store, and the update it was made for. -/
structure MadeCall where
  call : StoreCall
  update : Option Bytes

namespace Session

/-- A move of one connection, and the calls it makes to the store. -/
def step (s : Session N) : SessionMove N → Option (Session N × List MadeCall)
  | .connect l2cap answers =>
      match s.phase with
      | .connecting =>
          let (result, calls) :=
            connectDataChannel tunnel (s.device.connectionInput tunnel) l2cap answers
          match result with
          | none => none
          | some (.ok ()) =>
              some ({ s with phase := .handshaking, answers }, calls.map (⟨·, none⟩))
          | some (.error _) =>
              some ({ s with phase := .over, answers }, calls.map (⟨·, none⟩))
      | _ => none
  | .handshake noise =>
      match s.phase, noise with
      | .handshaking, none => some ({ s with phase := .over }, [])
      | .handshaking, some noise =>
          some ({ s with phase := .awaitingInitial noise,
                         handshakeHash := some noise.handshakeHash }, [])
      | _, _ => none
  | .initial result =>
      match s.phase, result with
      | .awaitingInitial noise, .ok (some message) =>
          match connectionRecvInitial prim noise message with
          | (.ok getInfoResponse, noise) =>
              some ({ s with phase := .running getInfoResponse { noise } }, [])
          | (.error _, _) => some ({ s with phase := .over }, [])
      | .awaitingInitial _, _ => some ({ s with phase := .over }, [])
      | _, _ => none
  | .turn event =>
      match s.phase with
      | .running getInfoResponse conn =>
          let (result, conn') := connectionStep prim (s.device.tunnelConnectionInput tunnel)
            getInfoResponse conn event
          let calls := conn'.storeCalls.drop conn.storeCalls.length
          let update := updatePayload prim conn.noise event
          let phase := if result.isSome then .over else .running getInfoResponse conn'
          some ({ s with phase }, calls.map (⟨·, update⟩))
      | _ => none

end Session

/-! ## §3. One store for all connections. -/

def StoreCall.id : StoreCall → CableKnownDeviceId
  | .putKnownDevice id _ => id
  | .deleteKnownDevice id => id

/-- A store as `EphemeralDeviceInfoStore` keeps it. -/
abbrev KnownDeviceStore := CableKnownDeviceId → Option CableKnownDeviceInfo

def KnownDeviceStore.apply (store : KnownDeviceStore) : StoreCall → KnownDeviceStore
  | .putKnownDevice id device => fun id' => if id' = id then some device else store id'
  | .deleteKnownDevice id => fun id' => if id' = id then none else store id'

/-- A call, the connection that made it, and what the store held under its
id before. -/
structure LogEntry (N : Type) where
  session : Session N
  made : MadeCall
  held : Option CableKnownDeviceInfo

structure KnownDevices (N : Type) where
  sessions : List (Session N) := []
  store : KnownDeviceStore := fun _ => none
  log : List (LogEntry N) := []

inductive DeviceMove (N : Type) where
  /-- `Device::channel`. -/
  | channel (device : CableDevice)
  | session (index : Nat) (move : SessionMove N)

namespace KnownDevices

def record (session : Session N) : (calls : List MadeCall) → KnownDevices N → KnownDevices N
  | [], s => s
  | made :: calls, s =>
      record session calls
        { s with
          store := s.store.apply made.call
          log := s.log ++ [⟨session, made, s.store made.call.id⟩] }

def step (s : KnownDevices N) : DeviceMove N → Option (KnownDevices N)
  | .channel device => some { s with sessions := s.sessions ++ [{ device }] }
  | .session index move =>
      match s.sessions[index]? with
      | none => none
      | some session =>
          match session.step prim tunnel move with
          | none => none
          | some (session, calls) =>
              some (record session calls { s with sessions := s.sessions.set index session })

end KnownDevices

/-! ## §4. What entitles a connection to a call. -/

/-- Linking information of the right lengths, signed for the handshake. -/
def ValidLinking (privateKey handshakeHash : Bytes) (linkingInfo : CableLinkingInfo) : Prop :=
  linkingInfo.linkId.length = 8 ∧ linkingInfo.linkSecret.length = 32
    ∧ linkingInfo.authenticatorPublicKey.length = 65
    ∧ ∃ point, prim.publicKeyFromSec1 linkingInfo.authenticatorPublicKey = some point
      ∧ linkingInfo.handshakeSignature
          = prim.hmacSha256 (prim.diffieHellman privateKey point) handshakeHash

/-- An update a connection may act on: behind a QR code, with a store, and
with valid linking information. -/
def ValidUpdate (session : Session N) (payload : Bytes) (tunnelDomain : String)
    (linkingInfo : CableLinkingInfo) : Prop :=
  connectionRecvUpdate prim payload = .ok (some linkingInfo)
    ∧ ∃ routingId tunnelId privateKey ble handshakeHash,
        session.device = .qrCode true tunnelDomain routingId tunnelId privateKey ble
        ∧ session.handshakeHash = some handshakeHash
        ∧ ValidLinking prim privateKey handshakeHash linkingInfo

/-- What entitles a connection to a call: to a put, a valid update that came
with this information, under the id of its own public key; to a delete, a
410 Gone for the device the connection was made from. -/
def EntitledCall (session : Session N) : MadeCall → Prop
  | ⟨.putKnownDevice id device, update⟩ =>
      ∃ payload linkingInfo, update = some payload ∧ id = hexEncode device.publicKey
        ∧ ValidUpdate prim session payload device.tunnelDomain linkingInfo
        ∧ CableKnownDeviceInfo.new device.tunnelDomain linkingInfo = .ok device
  | ⟨.deleteKnownDevice id, update⟩ =>
      ∃ device hint clientNonce, update = none ∧ session.device = .known device hint clientNonce
        ∧ id = hexEncode device.publicKey ∧ AnsweredGone session.answers

/-- An entry that is deleted is the one that the connection was made with. -/
def LogEntry.ForgetsOwn (entry : LogEntry N) : Prop :=
  ∀ id info, entry.made.call = .deleteKnownDevice id → entry.held = some info →
    ∃ hint clientNonce, entry.session.device = .known info hint clientNonce

/-- It has the key of that one in any case. -/
def LogEntry.ForgetsKey (entry : LogEntry N) : Prop :=
  ∀ id info, entry.made.call = .deleteKnownDevice id → entry.held = some info →
    ∃ device hint clientNonce, entry.session.device = .known device hint clientNonce
      ∧ info.publicKey = device.publicKey

def Entitled (entry : LogEntry N) : Prop :=
  EntitledCall prim entry.session entry.made ∧ entry.ForgetsOwn

/-- When a connection to a known device is answered 410 Gone, the store has no
other entry under the id of that device. -/
def KnownDevices.StillStored (s : KnownDevices N) : DeviceMove N → Prop
  | .session index (.connect _ answers) =>
      ∀ session device hint clientNonce info, s.sessions[index]? = some session →
        session.device = .known device hint clientNonce →
        (session.device.connectionInput tunnel).Gone tunnel answers →
        s.store (hexEncode device.publicKey) = some info → info = device
  | _ => True

/-! ## §5. The calls of one turn. -/

/-- A device that is built has the fields of the linking information. -/
theorem CableKnownDeviceInfo.new_eq_ok {tunnelDomain : String} {linkingInfo : CableLinkingInfo}
    {device : CableKnownDeviceInfo}
    (h : CableKnownDeviceInfo.new tunnelDomain linkingInfo = .ok device) :
    device.tunnelDomain = tunnelDomain ∧ device.contactId = linkingInfo.contactId
      ∧ device.linkId = linkingInfo.linkId ∧ device.linkSecret = linkingInfo.linkSecret
      ∧ device.publicKey = linkingInfo.authenticatorPublicKey
      ∧ device.name = linkingInfo.authenticatorName := by
  unfold CableKnownDeviceInfo.new at h
  split at h
  · split at h
    · split at h
      · cases h
        exact ⟨rfl, rfl, rfl, rfl, rfl, rfl⟩
      · cases h
    · cases h
  · cases h

/-- One that is parsed has proven its key over the handshake hash. -/
theorem parseKnownDevice_eq_ok {privateKey handshakeHash : Bytes} {tunnelDomain : String}
    {linkingInfo : CableLinkingInfo} {device : CableKnownDeviceInfo}
    (h : parseKnownDevice prim privateKey tunnelDomain linkingInfo handshakeHash = .ok device) :
    ValidLinking prim privateKey handshakeHash linkingInfo
      ∧ CableKnownDeviceInfo.new tunnelDomain linkingInfo = .ok device := by
  unfold parseKnownDevice at h
  cases hnew : CableKnownDeviceInfo.new tunnelDomain linkingInfo with
  | error e =>
      rw [hnew] at h
      cases h
  | ok knownDevice =>
      rw [hnew] at h
      dsimp only at h
      split at h
      · cases h
      · rename_i point hpoint
        split at h
        · cases h
        · rename_i hsignature
          cases h
          obtain ⟨_, _, hid, hsecret, hkey, _⟩ := CableKnownDeviceInfo.new_eq_ok hnew
          refine ⟨⟨?_, ?_, ?_, point, hpoint, (not_not.mp hsignature).symm⟩, rfl⟩
          · rw [← hid, device.linkId_length]
          · rw [← hsecret, device.linkSecret_length]
          · rw [← hkey, device.publicKey_length]

/-- The calls of an update: none, or one put it is entitled to. -/
theorem mem_updateStoreCalls {input : TunnelConnectionInput} {handshakeHash payload : Bytes}
    {call : StoreCall} (h : call ∈ updateStoreCalls prim input handshakeHash payload) :
    ∃ linkingInfo routingId tunnelId privateKey device,
      connectionRecvUpdate prim payload = .ok (some linkingInfo)
      ∧ input.connectionType = .qrCode routingId tunnelId privateKey
      ∧ input.hasKnownDeviceStore = true
      ∧ ValidLinking prim privateKey handshakeHash linkingInfo
      ∧ CableKnownDeviceInfo.new input.tunnelDomain linkingInfo = .ok device
      ∧ call = .putKnownDevice linkingInfo.deviceId device := by
  unfold updateStoreCalls at h
  split at h
  · cases h
  · cases h
  · rename_i linkingInfo hlinking
    split at h
    · cases h
    · rename_i routingId tunnelId privateKey htype
      split at h
      · rename_i hstore
        unfold applyLinkingUpdate at h
        split at h
        · rename_i device hparse
          obtain ⟨hvalid, hnew⟩ := parseKnownDevice_eq_ok prim hparse
          exact ⟨linkingInfo, routingId, tunnelId, privateKey, device, hlinking, htype, hstore,
            hvalid, hnew, List.mem_singleton.mp h⟩
        · cases h
      · cases h

theorem decryptFrame_handshakeHash (noise : TunnelNoiseState N) (frame : Bytes) :
    (decryptFrame prim noise frame).2.handshakeHash = noise.handshakeHash := by
  unfold decryptFrame
  split <;> rfl

/-- The hash of a session is that of its handshake, whatever is received. -/
theorem connectionRecvInitial_handshakeHash (noise : TunnelNoiseState N) (frame : Bytes) :
    (connectionRecvInitial prim noise frame).2.handshakeHash = noise.handshakeHash := by
  have hhash := decryptFrame_handshakeHash prim noise frame
  unfold connectionRecvInitial
  generalize decryptFrame prim noise frame = decrypted at hhash ⊢
  rcases decrypted with ⟨_ | plaintext, noise'⟩
  · exact hhash
  · dsimp only
    cases prim.decodeInitialMessage plaintext with
    | none => exact hhash
    | some info =>
        dsimp only
        split <;> exact hhash

/-- And whatever is sent. -/
theorem connectionSend_handshakeHash (noise : TunnelNoiseState N) (request : CborRequest) :
    (connectionSend prim noise request).2.handshakeHash = noise.handshakeHash := by
  unfold connectionSend
  dsimp only
  split
  · rfl
  · split <;> rfl

/-- A frame keeps the handshake, and makes the calls of its update, if it is
one. -/
theorem connectionRecv_calls (input : TunnelConnectionInput) (conn : Connection N)
    (frame : Bytes) (rxOpen : Bool) :
    (connectionRecv prim input conn frame rxOpen).2.noise.handshakeHash
        = conn.noise.handshakeHash
      ∧ (connectionRecv prim input conn frame rxOpen).2.storeCalls
        = conn.storeCalls
          ++ match updatePayload prim conn.noise (.received (.ok (some frame)) rxOpen) with
            | none => []
            | some payload => updateStoreCalls prim input conn.noise.handshakeHash payload := by
  have hhash := decryptFrame_handshakeHash prim conn.noise frame
  unfold connectionRecv updatePayload
  dsimp only
  generalize decryptFrame prim conn.noise frame = decrypted at hhash ⊢
  rcases decrypted with ⟨_ | plaintext, noise⟩
  · exact ⟨hhash, (List.append_nil _).symm⟩
  · dsimp only at hhash ⊢
    rcases CableTunnelMessage.fromSlice plaintext with e | ⟨messageType, payload⟩
    · exact ⟨hhash, (List.append_nil _).symm⟩
    · cases messageType
      · exact ⟨hhash, (List.append_nil _).symm⟩
      · dsimp only
        cases CborResponse.tryFrom payload with
        | error e => exact ⟨hhash, (List.append_nil _).symm⟩
        | ok response => cases rxOpen <;> exact ⟨hhash, (List.append_nil _).symm⟩
      · exact ⟨hhash, by rw [← hhash]⟩

/-- The same for any turn. -/
theorem connectionStep_calls (input : TunnelConnectionInput) (getInfoResponse : Bytes)
    (conn : Connection N) (event : Event) :
    (connectionStep prim input getInfoResponse conn event).2.noise.handshakeHash
        = conn.noise.handshakeHash
      ∧ (connectionStep prim input getInfoResponse conn event).2.storeCalls
        = conn.storeCalls ++ match updatePayload prim conn.noise event with
          | none => []
          | some payload => updateStoreCalls prim input conn.noise.handshakeHash payload := by
  cases event with
  | received result rxOpen =>
      rcases result with e | _ | frame
      · exact ⟨rfl, (List.append_nil _).symm⟩
      · exact ⟨rfl, (List.append_nil _).symm⟩
      · have hrecv := connectionRecv_calls prim input conn frame rxOpen
        unfold connectionStep
        dsimp only
        generalize connectionRecv prim input conn frame rxOpen = outcome at hrecv ⊢
        rcases outcome with ⟨_ | ⟨⟨⟩⟩, conn'⟩ <;> exact hrecv
  | request request rxOpen sent =>
      -- what is sent makes no call on the store
      have hhash := connectionSend_handshakeHash prim conn.noise request
      unfold connectionStep updatePayload
      dsimp only
      split
      · cases rxOpen <;> exact ⟨rfl, (List.append_nil _).symm⟩
      · generalize connectionSend prim conn.noise request = encrypted at hhash ⊢
        rcases encrypted with ⟨_ | encryptedFrame, noise⟩
        · exact ⟨hhash, (List.append_nil _).symm⟩
        · cases sent <;> exact ⟨hhash, (List.append_nil _).symm⟩

/-! ## §6. What a connection does in one move. -/

/-- The hash of the handshake is the one the Noise session still has. -/
def Session.Bound (s : Session N) : Prop :=
  (∀ noise, s.phase = .awaitingInitial noise → s.handshakeHash = some noise.handshakeHash)
    ∧ ∀ getInfoResponse conn, s.phase = .running getInfoResponse conn →
        s.handshakeHash = some conn.noise.handshakeHash

theorem Session.bound_of_phase {s : Session N}
    (hphase : s.phase = .handshaking ∨ s.phase = .over) : s.Bound := by
  constructor
  · intro noise h
    rcases hphase with hphase | hphase <;> rw [hphase] at h <;> cases h
  · intro getInfoResponse conn h
    rcases hphase with hphase | hphase <;> rw [hphase] at h <;> cases h

theorem Session.bound_of_running {s : Session N} {getInfoResponse : Bytes} {conn : Connection N}
    (hphase : s.phase = .running getInfoResponse conn)
    (hhash : s.handshakeHash = some conn.noise.handshakeHash) : s.Bound := by
  constructor
  · intro noise h
    rw [hphase] at h
    cases h
  · intro getInfoResponse' conn' h
    rw [hphase] at h
    cases h
    exact hhash

/-- A turn: the calls are those of its update. -/
theorem Session.step_turn {s s' : Session N} {event : Event} {calls : List MadeCall}
    (hstep : s.step prim tunnel (.turn event) = some (s', calls)) :
    ∃ getInfoResponse conn, s.phase = .running getInfoResponse conn
      ∧ s'.device = s.device ∧ s'.handshakeHash = s.handshakeHash
      ∧ (s'.phase = .over ∨ ∃ conn', s'.phase = .running getInfoResponse conn'
          ∧ conn'.noise.handshakeHash = conn.noise.handshakeHash)
      ∧ calls = match updatePayload prim conn.noise event with
          | none => []
          | some payload =>
              (updateStoreCalls prim (s.device.tunnelConnectionInput tunnel)
                conn.noise.handshakeHash payload).map (⟨·, some payload⟩) := by
  unfold Session.step at hstep
  dsimp only at hstep
  split at hstep
  · rename_i getInfoResponse conn hphase
    cases hstep
    obtain ⟨hhash, hcalls⟩ := connectionStep_calls prim (s.device.tunnelConnectionInput tunnel)
      getInfoResponse conn event
    refine ⟨getInfoResponse, conn, hphase, rfl, rfl, ?_, ?_⟩
    · dsimp only
      split
      · exact Or.inl rfl
      · exact Or.inr ⟨_, rfl, hhash⟩
    · rw [hcalls, List.drop_left]
      cases updatePayload prim conn.noise event <;> rfl
  · cases hstep

/-- Connecting: the calls are those of `connect_data_channel`. -/
theorem Session.step_connect {s s' : Session N} {l2cap : Except CableError Unit}
    {answers : List TunnelAnswer} {calls : List MadeCall}
    (hstep : s.step prim tunnel (.connect l2cap answers) = some (s', calls)) :
    s'.device = s.device ∧ s'.answers = answers
      ∧ (s'.phase = .handshaking ∨ s'.phase = .over)
      ∧ calls = (connectDataChannel tunnel (s.device.connectionInput tunnel) l2cap
          answers).2.map (⟨·, none⟩) := by
  unfold Session.step at hstep
  dsimp only at hstep
  split at hstep
  · split at hstep
    · cases hstep
    · cases hstep
      exact ⟨rfl, rfl, Or.inl rfl, rfl⟩
    · cases hstep
      exact ⟨rfl, rfl, Or.inr rfl, rfl⟩
  · cases hstep

theorem Session.step_handshake {s s' : Session N} {noise : Option (TunnelNoiseState N)}
    {calls : List MadeCall}
    (hstep : s.step prim tunnel (.handshake noise) = some (s', calls)) :
    s'.Bound ∧ calls = [] := by
  unfold Session.step at hstep
  dsimp only at hstep
  split at hstep
  · cases hstep
    exact ⟨bound_of_phase (Or.inr rfl), rfl⟩
  · rename_i noise _
    cases hstep
    refine ⟨⟨?_, ?_⟩, rfl⟩
    · intro noise' h
      cases h
      rfl
    · intro getInfoResponse conn h
      cases h
  · cases hstep

theorem Session.step_initial {s s' : Session N} {result : Except CableError (Option Bytes)}
    {calls : List MadeCall} (hbound : s.Bound)
    (hstep : s.step prim tunnel (.initial result) = some (s', calls)) :
    s'.Bound ∧ calls = [] := by
  unfold Session.step at hstep
  dsimp only at hstep
  split at hstep
  · rename_i noise message hphase
    split at hstep
    · rename_i getInfoResponse noise' hrecv
      cases hstep
      have hhash := connectionRecvInitial_handshakeHash prim noise message
      rw [hrecv] at hhash
      exact ⟨bound_of_running rfl
        ((hbound.1 noise hphase).trans (congrArg some hhash.symm)), rfl⟩
    · cases hstep
      exact ⟨bound_of_phase (Or.inr rfl), rfl⟩
  · cases hstep
    exact ⟨bound_of_phase (Or.inr rfl), rfl⟩
  · cases hstep

/-- Each move keeps a session bound to its handshake. -/
theorem Session.step_bound {s s' : Session N} {move : SessionMove N} {calls : List MadeCall}
    (hbound : s.Bound) (hstep : s.step prim tunnel move = some (s', calls)) : s'.Bound := by
  cases move with
  | connect l2cap answers =>
      exact bound_of_phase (Session.step_connect prim tunnel hstep).2.2.1
  | handshake noise => exact (Session.step_handshake prim tunnel hstep).1
  | initial result => exact (Session.step_initial prim tunnel hbound hstep).1
  | turn event =>
      obtain ⟨getInfoResponse, conn, hrunning, _, hhash, hphase, _⟩ :=
        Session.step_turn prim tunnel hstep
      rcases hphase with hphase | ⟨conn', hphase, hsame⟩
      · exact bound_of_phase (Or.inr hphase)
      · exact bound_of_running hphase (by rw [hhash, hbound.2 _ _ hrunning, hsame])

/-- And each call it makes is one it is entitled to. -/
theorem Session.step_calls {s s' : Session N} {move : SessionMove N} {calls : List MadeCall}
    (hbound : s.Bound) (hstep : s.step prim tunnel move = some (s', calls)) :
    ∀ made ∈ calls, EntitledCall prim s' made := by
  intro made hmade
  cases move with
  -- connecting deletes a device whose tunnel is gone
  | connect l2cap answers =>
      obtain ⟨hdevice, hanswers, _, hcalls⟩ := Session.step_connect prim tunnel hstep
      rw [hcalls, List.mem_map] at hmade
      obtain ⟨call, hcall, rfl⟩ := hmade
      obtain ⟨contactId, publicKey, payload, htype, honly, hgone⟩ :=
        mem_connectDataChannel tunnel hcall
      rw [honly] at hcall
      obtain rfl := List.mem_singleton.mp hcall
      cases hs : s.device with
      | qrCode =>
          rw [hs] at htype
          cases htype
      | known device hint clientNonce =>
          rw [hs] at htype
          cases htype
          exact ⟨device, hint, clientNonce, rfl, hdevice.trans hs, rfl,
            hanswers ▸ hgone.answered⟩
  | handshake noise =>
      rw [(Session.step_handshake prim tunnel hstep).2] at hmade
      cases hmade
  | initial result =>
      rw [(Session.step_initial prim tunnel hbound hstep).2] at hmade
      cases hmade
  -- an update message stores one, under the linking information that came with it
  | turn event =>
      obtain ⟨getInfoResponse, conn, hrunning, hdevice, hhash, _, hcalls⟩ :=
        Session.step_turn prim tunnel hstep
      have hconn := hbound.2 _ _ hrunning
      cases hupdate : updatePayload prim conn.noise event with
      | none =>
          rw [hcalls, hupdate] at hmade
          cases hmade
      | some payload =>
          rw [hcalls, hupdate, List.mem_map] at hmade
          obtain ⟨call, hcall, rfl⟩ := hmade
          obtain ⟨linkingInfo, routingId, tunnelId, privateKey, device, hlinking, htype, hstore,
            hvalid, hnew, rfl⟩ := mem_updateStoreCalls prim hcall
          obtain ⟨hdomain, _, _, _, hkey, _⟩ := CableKnownDeviceInfo.new_eq_ok hnew
          cases hs : s.device with
          | known =>
              rw [hs] at htype
              cases htype
          | qrCode hasStore tunnelDomain routingId' tunnelId' privateKey' ble =>
              rw [hs] at htype hstore hdomain hnew
              cases htype
              obtain rfl : hasStore = true := hstore
              obtain rfl : device.tunnelDomain = tunnelDomain := hdomain
              refine ⟨payload, linkingInfo, rfl, ?_, ⟨hlinking, routingId, tunnelId, privateKey,
                ble, conn.noise.handshakeHash, hdevice.trans hs, hhash.trans hconn, hvalid⟩, hnew⟩
              rw [CableLinkingInfo.deviceId, hkey]

/-! ## §7. Every call of every run. -/

/-- Connections keep their handshakes, entries are under their own ids, and every
call so far was entitled. -/
structure Justified (s : KnownDevices N) : Prop where
  bound : ∀ session ∈ s.sessions, session.Bound
  keyed : ∀ id info, s.store id = some info → id = hexEncode info.publicKey
  called : ∀ entry ∈ s.log, EntitledCall prim entry.session entry.made ∧ entry.ForgetsKey

/-- Entries stay under the id of their key. -/
theorem KnownDeviceStore.apply_keyed {store : KnownDeviceStore} {session : Session N}
    {made : MadeCall} (hmade : EntitledCall prim session made)
    (hkeyed : ∀ id info, store id = some info → id = hexEncode info.publicKey) :
    ∀ id info, store.apply made.call id = some info → id = hexEncode info.publicKey := by
  obtain ⟨call, update⟩ := made
  intro id info h
  cases call with
  | putKnownDevice id' device =>
      obtain ⟨_, _, _, hid, _⟩ := hmade
      simp only [KnownDeviceStore.apply] at h
      split at h
      · rename_i hsame
        cases h
        exact hsame.trans hid
      · exact hkeyed id info h
  | deleteKnownDevice id' =>
      simp only [KnownDeviceStore.apply] at h
      split at h
      · cases h
      · exact hkeyed id info h

theorem forgetsKey_of_keyed {session : Session N} {made : MadeCall}
    {held : Option CableKnownDeviceInfo} (hmade : EntitledCall prim session made)
    (hheld : ∀ info, held = some info → made.call.id = hexEncode info.publicKey) :
    LogEntry.ForgetsKey ⟨session, made, held⟩ := by
  intro id info hdelete hinfo
  obtain ⟨call, update⟩ := made
  dsimp only at hdelete hinfo
  subst hdelete
  obtain ⟨device, hint, clientNonce, _, hdevice, hid, _⟩ := hmade
  exact ⟨device, hint, clientNonce, hdevice,
    hexEncode_injective ((hheld info hinfo).symm.trans hid)⟩

/-- Calls that are entitled are recorded as such. -/
theorem Justified.record {session : Session N} (calls : List MadeCall) :
    ∀ {s : KnownDevices N}, Justified prim s → (∀ made ∈ calls, EntitledCall prim session made) →
      Justified prim (KnownDevices.record session calls s) := by
  induction calls with
  | nil => exact fun h _ => h
  | cons made calls ih =>
      intro s h hcalls
      obtain ⟨hmade, hrest⟩ := List.forall_mem_cons.mp hcalls
      refine ih ⟨h.bound, KnownDeviceStore.apply_keyed prim hmade h.keyed, ?_⟩ hrest
      intro entry hentry
      rw [List.mem_append, List.mem_singleton] at hentry
      rcases hentry with hentry | rfl
      · exact h.called entry hentry
      · exact ⟨hmade, forgetsKey_of_keyed prim hmade fun info hinfo => h.keyed _ _ hinfo⟩

/-- What some calls add to the log. -/
theorem KnownDevices.record_log (session : Session N) (calls : List MadeCall) :
    ∀ s : KnownDevices N, ∃ added, (record session calls s).log = s.log ++ added
      ∧ ∀ entry ∈ added, entry.session = session ∧ entry.made ∈ calls := by
  induction calls with
  | nil => exact fun s => ⟨[], (List.append_nil _).symm, fun entry hmem => by cases hmem⟩
  | cons made calls ih =>
      intro s
      obtain ⟨added, hlog, hadded⟩ := ih
        { s with
          store := s.store.apply made.call
          log := s.log ++ [⟨session, made, s.store made.call.id⟩] }
      refine ⟨⟨session, made, s.store made.call.id⟩ :: added, ?_, ?_⟩
      · show (record session calls _).log = _
        rw [hlog, List.append_assoc]
        rfl
      · refine List.forall_mem_cons.mpr ⟨⟨rfl, List.mem_cons_self⟩, fun entry hentry => ?_⟩
        exact ⟨(hadded entry hentry).1, List.mem_cons_of_mem _ (hadded entry hentry).2⟩

/-- **Step lemma.** -/
theorem Justified.step {s s' : KnownDevices N} {move : DeviceMove N} (h : Justified prim s)
    (hstep : s.step prim tunnel move = some s') : Justified prim s' := by
  cases move with
  -- a new channel has not run yet
  | channel device =>
      cases hstep
      refine ⟨?_, h.keyed, h.called⟩
      intro session hsession
      rw [List.mem_append, List.mem_singleton] at hsession
      rcases hsession with hsession | rfl
      · exact h.bound session hsession
      · exact ⟨fun noise hphase => (nomatch hphase), fun info conn hphase => (nomatch hphase)⟩
  | session index move =>
      unfold KnownDevices.step at hstep
      dsimp only at hstep
      split at hstep
      · cases hstep
      · rename_i session hsession
        have hbound := h.bound session (List.mem_of_getElem? hsession)
        split at hstep
        · cases hstep
        · rename_i session' calls hmove
          cases hstep
          refine Justified.record prim calls ⟨?_, h.keyed, h.called⟩
            (Session.step_calls prim tunnel hbound hmove)
          intro session'' hmem
          rcases List.mem_or_eq_of_mem_set hmem with hmem | rfl
          · exact h.bound session'' hmem
          · exact Session.step_bound prim tunnel hbound hmove

/-- An update that is not valid makes no call at all. -/
theorem updateStoreCalls_of_not_valid {session : Session N} {payload handshakeHash : Bytes}
    (hhash : session.handshakeHash = some handshakeHash)
    (hinvalid : ∀ tunnelDomain linkingInfo,
      ¬ ValidUpdate prim session payload tunnelDomain linkingInfo) :
    updateStoreCalls prim (session.device.tunnelConnectionInput tunnel) handshakeHash payload
      = [] := by
  rw [List.eq_nil_iff_forall_not_mem]
  intro call hcall
  obtain ⟨linkingInfo, routingId, tunnelId, privateKey, device, hlinking, htype, hstore, hvalid,
    _, _⟩ := mem_updateStoreCalls prim hcall
  cases hs : session.device with
  | known =>
      rw [hs] at htype
      cases htype
  | qrCode hasStore tunnelDomain routingId' tunnelId' privateKey' ble =>
      rw [hs] at htype hstore
      cases htype
      obtain rfl : hasStore = true := hstore
      exact hinvalid tunnelDomain linkingInfo ⟨hlinking, routingId, tunnelId, privateKey, ble,
        handshakeHash, hs, hhash, hvalid⟩

/-! ## §8. What is forgotten. -/

/-- Only connecting deletes an entry. -/
theorem Session.step_deletes {s s' : Session N} {move : SessionMove N} {calls : List MadeCall}
    (hbound : s.Bound) (hstep : s.step prim tunnel move = some (s', calls)) {made : MadeCall}
    (hmade : made ∈ calls) {id : CableKnownDeviceId} (hdelete : made.call = .deleteKnownDevice id) :
    ∃ l2cap answers, move = .connect l2cap answers := by
  cases move with
  | connect l2cap answers => exact ⟨l2cap, answers, rfl⟩
  | handshake noise =>
      rw [(Session.step_handshake prim tunnel hstep).2] at hmade
      cases hmade
  | initial result =>
      rw [(Session.step_initial prim tunnel hbound hstep).2] at hmade
      cases hmade
  | turn event =>
      obtain ⟨_, conn, _, _, _, _, hcalls⟩ := Session.step_turn prim tunnel hstep
      cases hupdate : updatePayload prim conn.noise event with
      | none =>
          rw [hcalls, hupdate] at hmade
          cases hmade
      | some payload =>
          rw [hcalls, hupdate, List.mem_map] at hmade
          obtain ⟨call, hcall, rfl⟩ := hmade
          obtain ⟨_, _, _, _, _, _, _, _, _, _, rfl⟩ := mem_updateStoreCalls prim hcall
          cases hdelete

/-- Connecting forgets the connection's own entry just where that one is still
stored. -/
theorem forgetsOwn_connect_iff {s : KnownDevices N} {index : Nat} {session session' : Session N}
    {l2cap : Except CableError Unit} {answers : List TunnelAnswer} {calls : List MadeCall}
    (hsession : s.sessions[index]? = some session)
    (hstep : session.step prim tunnel (.connect l2cap answers) = some (session', calls))
    {sessions : List (Session N)} :
    ∃ added, (KnownDevices.record session' calls { s with sessions }).log = s.log ++ added
      ∧ ((∀ entry ∈ added, entry.ForgetsOwn)
        ↔ s.StillStored tunnel (.session index (.connect l2cap answers))) := by
  obtain ⟨hdevice, -, -, hcalls⟩ := Session.step_connect prim tunnel hstep
  rcases hmade : (connectDataChannel tunnel (session.device.connectionInput tunnel) l2cap
    answers).2 with _ | ⟨call, others⟩
  -- nothing is forgotten, as the connection is to no known device, or not gone
  · rw [hmade] at hcalls
    subst hcalls
    refine ⟨[], (List.append_nil _).symm, iff_of_true (fun entry hmem => by cases hmem) ?_⟩
    intro session₁ device hint clientNonce info hsession₁ hknown hgone _
    obtain rfl := Option.some.inj (hsession.symm.trans hsession₁)
    rw [hknown] at hmade hgone
    cases (connectDataChannel_gone tunnel l2cap hgone).symm.trans hmade
  -- the device is forgotten, under its key
  · obtain ⟨contactId, publicKey, payload, htype, honly, hgone⟩ := mem_connectDataChannel tunnel
      (hmade ▸ List.mem_cons_self : call ∈ (connectDataChannel tunnel
        (session.device.connectionInput tunnel) l2cap answers).2)
    rw [honly] at hcalls
    subst hcalls
    cases hs : session.device with
    | qrCode =>
        rw [hs] at htype
        cases htype
    | known device hint clientNonce =>
        rw [hs] at htype
        cases htype
        have hdevice' : session'.device = .known device hint clientNonce := hdevice.trans hs
        refine ⟨[⟨session', ⟨.deleteKnownDevice (hexEncode device.publicKey), none⟩,
          s.store (hexEncode device.publicKey)⟩], rfl, ?_, ?_⟩
        · intro hforgets session₁ device₁ hint₁ clientNonce₁ info hsession₁ hknown _ hinfo
          obtain rfl := Option.some.inj (hsession.symm.trans hsession₁)
          cases hs.symm.trans hknown
          obtain ⟨_, _, hown⟩ := hforgets _ List.mem_cons_self _ info rfl hinfo
          cases hown.symm.trans hdevice'
          rfl
        · intro hstored entry hentry id info _ hheld
          obtain rfl := List.mem_singleton.mp hentry
          obtain rfl := hstored session device hint clientNonce info hsession hs hgone hheld
          exact ⟨hint, clientNonce, hdevice'⟩

/-- **Step lemma** for what is forgotten. -/
theorem forgetsOwn_step_iff {s s' : KnownDevices N} {move : DeviceMove N} (h : Justified prim s)
    (hstep : s.step prim tunnel move = some s') :
    ∃ added, s'.log = s.log ++ added
      ∧ ((∀ entry ∈ added, entry.ForgetsOwn) ↔ s.StillStored tunnel move) := by
  cases move with
  | channel device =>
      cases hstep
      exact ⟨[], (List.append_nil _).symm, iff_of_true (fun entry hmem => by cases hmem) trivial⟩
  | session index move =>
      unfold KnownDevices.step at hstep
      dsimp only at hstep
      split at hstep
      · cases hstep
      next session hsession =>
        split at hstep
        · cases hstep
        next session' calls hmove =>
          cases hstep
          have hbound := h.bound session (List.mem_of_getElem? hsession)
          by_cases hconnect : ∃ l2cap answers, move = .connect l2cap answers
          · obtain ⟨l2cap, answers, rfl⟩ := hconnect
            exact forgetsOwn_connect_iff prim tunnel hsession hmove
          -- no other move deletes an entry
          · obtain ⟨added, hlog, hadded⟩ := KnownDevices.record_log session' calls
              { s with sessions := s.sessions.set index session' }
            refine ⟨added, hlog, iff_of_true (fun entry hentry id info hdelete _ => ?_) ?_⟩
            · exact absurd (Session.step_deletes prim tunnel hbound hmove
                (hadded entry hentry).2 hdelete) hconnect
            · cases move with
              | connect l2cap answers => exact absurd ⟨l2cap, answers, rfl⟩ hconnect
              | handshake | initial | turn => trivial

/-- **Run lemma** for what is forgotten. -/
theorem forgetsOwn_iff_along (moves : List (DeviceMove N)) :
    ∀ {s s' : KnownDevices N}, Justified prim s → (∀ entry ∈ s.log, entry.ForgetsOwn) →
      runSteps (KnownDevices.step prim tunnel) s moves = some s' →
      ((∀ entry ∈ s'.log, entry.ForgetsOwn)
        ↔ Along (KnownDevices.step prim tunnel) (KnownDevices.StillStored tunnel) s moves) := by
  -- by induction on the run; an entry that is wrongly forgotten stays in the log
  induction moves with
  | nil =>
      intro s s' _ hown hrun
      obtain rfl := Option.some.inj hrun
      exact iff_of_true hown trivial
  | cons move moves ih =>
      intro s s' h hown hrun
      obtain ⟨mid, hfirst, hrest⟩ := runSteps_cons_eq_some.mp hrun
      have hmid := Justified.step prim tunnel h hfirst
      obtain ⟨added, hlog, hiff⟩ := forgetsOwn_step_iff prim tunnel h hfirst
      by_cases hstored : s.StillStored tunnel move
      · have hown' : ∀ entry ∈ mid.log, entry.ForgetsOwn := by
          rw [hlog]
          exact List.forall_mem_append.mpr ⟨hown, hiff.mpr hstored⟩
        rw [ih hmid hown' hrest]
        refine ⟨fun halong => ⟨hstored, fun next hnext => ?_⟩, fun halong => halong.2 mid hfirst⟩
        obtain rfl := Option.some.inj (hfirst.symm.trans hnext)
        exact halong
      · refine iff_of_false (fun hall => ?_) fun halong => hstored halong.1
        refine hstored (hiff.mp fun entry hentry => hall entry ?_)
        have hlogged : Justified prim s' ∧ entry ∈ s'.log := by
          refine runSteps_invariant (I := fun s => Justified prim s ∧ entry ∈ s.log)
            (fun t move t' ht hstep => ⟨Justified.step prim tunnel ht.1 hstep, ?_⟩) moves
            ⟨hmid, hlog ▸ List.mem_append_right _ hentry⟩ hrest
          obtain ⟨added, hlog, -⟩ := forgetsOwn_step_iff prim tunnel ht.1 hstep
          rw [hlog]
          exact List.mem_append_left _ ht.2
        exact hlogged.2

/-- Nothing is known, and nothing logged, at first. -/
theorem justified_start : Justified prim ({} : KnownDevices N) :=
  ⟨fun session hmem => (by cases hmem), fun id info hinfo => (by cases hinfo),
    fun entry hmem => (by cases hmem)⟩

/-- **The store of known devices**: in every run of any number of connections,
what entitles a connection to its calls is as it should be, and an update that
is not valid leaves the store alone; and all that is deleted is the entry that
the connection was made with just where every 410 Gone finds that entry still
stored. -/
theorem store_calls_entitled (moves : List (DeviceMove N)) (s : KnownDevices N)
    (hrun : runSteps (KnownDevices.step prim tunnel) {} moves = some s) :
    ((∀ entry ∈ s.log, Entitled prim entry)
        ↔ Along (KnownDevices.step prim tunnel) (KnownDevices.StillStored tunnel) {} moves)
      ∧ (∀ entry ∈ s.log, EntitledCall prim entry.session entry.made ∧ entry.ForgetsKey)
      ∧ ∀ index session getInfoResponse conn event payload s',
          s.sessions[index]? = some session →
          session.phase = .running getInfoResponse conn →
          updatePayload prim conn.noise event = some payload →
          (∀ tunnelDomain linkingInfo,
            ¬ ValidUpdate prim session payload tunnelDomain linkingInfo) →
          s.step prim tunnel (.session index (.turn event)) = some s' →
          s'.store = s.store ∧ s'.log = s.log := by
  have h := runSteps_invariant (fun s move s' h hstep => Justified.step prim tunnel h hstep)
    moves (justified_start prim) hrun
  refine ⟨?_, h.called, ?_⟩
  · rw [← forgetsOwn_iff_along prim tunnel moves (justified_start prim)
      (fun entry hmem => by cases hmem) hrun]
    exact ⟨fun hall entry hentry => (hall entry hentry).2,
      fun hall entry hentry => ⟨(h.called entry hentry).1, hall entry hentry⟩⟩
  intro index session getInfoResponse conn event payload s' hsession hphase hupdate hinvalid hstep
  have hhash := (h.bound session (List.mem_of_getElem? hsession)).2 _ _ hphase
  unfold KnownDevices.step at hstep
  dsimp only at hstep
  rw [hsession] at hstep
  dsimp only at hstep
  split at hstep
  · cases hstep
  · rename_i session' calls hmove
    -- an update that is not valid makes no call
    obtain ⟨_, conn', hphase', _, _, _, hcalls⟩ := Session.step_turn prim tunnel hmove
    rw [hphase] at hphase'
    cases hphase'
    rw [hupdate] at hcalls
    dsimp only at hcalls
    rw [updateStoreCalls_of_not_valid prim tunnel hhash hinvalid] at hcalls
    subst hcalls
    cases hstep
    exact ⟨rfl, rfl⟩

/-! ## §9. Phones that are linked, and gone. -/

/-- A phone that is linked over L2CAP and gone from the tunnel later. -/
def linkedPhone : CableKnownDeviceInfo where
  contactId := [0x01]
  linkId := List.replicate 8 0x02
  linkSecret := List.replicate 32 0x03
  publicKey := List.replicate 65 0x04
  name := "phone"
  tunnelDomain := "cable.ua5v.com"
  linkId_length := rfl
  linkSecret_length := rfl
  publicKey_length := rfl

/-- The same phone, linked anew. -/
def relinkedPhone : CableKnownDeviceInfo := { linkedPhone with contactId := [0x11] }

/-- The linking information of a phone, signed for the handshake below. -/
def linkingUpdate (phone : CableKnownDeviceInfo) : List (Cbor × Cbor) :=
  [(.uint 1, .map
    [(.uint 1, .bytes phone.contactId), (.uint 2, .bytes phone.linkId),
      (.uint 3, .bytes phone.linkSecret), (.uint 4, .bytes phone.publicKey),
      (.uint 5, .text phone.name), (.uint 6, .bytes [0x05, 0x06]), (.uint 999, .bool true)])]

def linkPrimitives : Primitives Unit Unit :=
  { plainPrimitives with
    decodeMap := fun bytes =>
      if bytes = [0x01] then some (linkingUpdate linkedPhone)
      else if bytes = [0x11] then some (linkingUpdate relinkedPhone)
      else none
    publicKeyFromSec1 := fun bytes => if bytes.length = 65 then some () else none
    diffieHellman := fun privateKey _ => privateKey
    hmacSha256 := fun key message => key ++ message }

def plainTunnel : TunnelPrimitives where
  intoClientRequest _ := .ok ()
  resolveRedirectTarget _ location := .ok location
  base64UrlEncode _ := "AQ"

/-- A QR connection, up to its first frames. -/
def qrMoves (index : Nat) (frames : List Bytes) : List (DeviceMove Unit) :=
  [.session index (.connect (.ok ()) []), .session index (.handshake (some ⟨(), [0x06]⟩)),
    .session index (.initial (.ok (some plainInitial)))]
    ++ frames.map fun frame => .session index (.turn (.received (.ok (some frame)) true))

def qrDevice : CableDevice := .qrCode true "cable.ua5v.com" "00" "01" [0x05] true

def linkMoves : List (DeviceMove Unit) :=
  [.channel qrDevice] ++ qrMoves 0 [[2, 0xFF, 0], [2, 0x01, 0]]
    ++ [.channel (.known linkedPhone .getAssertion []),
      .session 1 (.connect (.ok ()) [.http 302 (some "wss://cable.auth.com"), .http 410 none])]

set_option maxRecDepth 8000 in
theorem along_linkMoves :
    Along (KnownDevices.step linkPrimitives plainTunnel) (KnownDevices.StillStored plainTunnel) {}
      linkMoves := by
  refine ⟨trivial, fun s₁ h₁ => ⟨?_, fun s₂ h₂ => ⟨trivial, fun s₃ h₃ => ⟨trivial, fun s₄ h₄ =>
    ⟨trivial, fun s₅ h₅ => ⟨trivial, fun s₆ h₆ => ⟨trivial, fun s₇ h₇ =>
      ⟨?_, fun _ _ => trivial⟩⟩⟩⟩⟩⟩⟩⟩
  -- a QR code knows no device
  · obtain rfl := Option.some.inj h₁
    intro session device hint clientNonce info hsession hknown
    obtain rfl := Option.some.inj hsession
    cases hknown
  -- the phone that is stored is the one that is gone
  · obtain rfl := Option.some.inj h₁
    obtain rfl := Option.some.inj h₂
    obtain rfl := Option.some.inj h₃
    obtain rfl := Option.some.inj h₄
    obtain rfl := Option.some.inj h₅
    obtain rfl := Option.some.inj h₆
    obtain rfl := Option.some.inj h₇
    intro session device hint clientNonce info hsession hknown _ hinfo
    obtain rfl := Option.some.inj hsession
    cases hknown
    exact (Option.some.inj hinfo).symm

theorem store_calls_entitled_link :
    ∃ s, runSteps (KnownDevices.step linkPrimitives plainTunnel) {} linkMoves = some s
      ∧ s.log.map (·.made.call)
          = [.putKnownDevice (hexEncode linkedPhone.publicKey) linkedPhone,
            .deleteKnownDevice (hexEncode linkedPhone.publicKey)]
      ∧ ∀ entry ∈ s.log, Entitled linkPrimitives entry :=
  ⟨_, rfl, rfl,
    (store_calls_entitled linkPrimitives plainTunnel linkMoves _ rfl).1.mpr along_linkMoves⟩

/-- A connection is made from the entry of a phone; the phone is linked anew, and
only then is the connection answered 410 Gone. -/
def relinkMoves : List (DeviceMove Unit) :=
  [.channel qrDevice] ++ qrMoves 0 [[2, 0x01, 0]]
    ++ [.channel (.known linkedPhone .getAssertion []), .channel qrDevice]
    ++ qrMoves 2 [[2, 0x11, 0]] ++ [.session 1 (.connect (.ok ()) [.http 410 none])]

set_option maxRecDepth 8000 in
/-- What is deleted is the new entry. -/
theorem store_calls_relinked :
    ∃ s, runSteps (KnownDevices.step linkPrimitives plainTunnel) {} relinkMoves = some s
      ∧ s.log.map (·.made.call)
          = [.putKnownDevice (hexEncode linkedPhone.publicKey) linkedPhone,
            .putKnownDevice (hexEncode linkedPhone.publicKey) relinkedPhone,
            .deleteKnownDevice (hexEncode linkedPhone.publicKey)]
      ∧ linkedPhone ≠ relinkedPhone
      ∧ ∃ entry ∈ s.log, entry.session.device = .known linkedPhone .getAssertion []
          ∧ entry.made.call = .deleteKnownDevice (hexEncode linkedPhone.publicKey)
          ∧ entry.held = some relinkedPhone ∧ ¬Entitled linkPrimitives entry := by
  have hne : linkedPhone ≠ relinkedPhone :=
    fun heq => by cases congrArg CableKnownDeviceInfo.contactId heq
  refine ⟨_, rfl, rfl, hne, _, List.mem_cons_of_mem _ (List.mem_cons_of_mem _ List.mem_cons_self),
    rfl, rfl, rfl, fun hentitled => ?_⟩
  obtain ⟨_, _, hown⟩ := hentitled.2 _ relinkedPhone rfl rfl
  exact hne (CableDevice.known.inj hown).1

end Libwebauthn.Transport.Cable
