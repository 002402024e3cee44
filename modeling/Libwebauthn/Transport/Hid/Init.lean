/-
  Libwebauthn.Transport.Hid.Init — opening a channel on a HID device
  (`HidChannel::new` and `HidChannel::init` of
  `src/transport/hid/channel.rs`).

  An application asks for a channel id on the broadcast channel, under a
  nonce it draws; the device's answer repeats the nonce.  Every application
  that holds the device open sees every answer, and takes the first message
  that comes for its own.
-/
import Libwebauthn.Transport.Hid.Operations

namespace Libwebauthn.Transport.Hid

/-! ## §1. The INIT exchange. -/

abbrev INIT_NONCE_LEN : Nat := 8
abbrev INIT_PAYLOAD_LEN : Nat := 17

structure Caps where
  wink : Bool := false
  cbor : Bool := false
  noMsg : Bool := false
  deriving Repr, DecidableEq

def Caps.fromBitsTruncate (bits : UInt8) : Caps :=
  ⟨bits &&& 0x01 != 0, bits &&& 0x04 != 0, bits &&& 0x08 != 0⟩

structure InitResponse where
  cid : UInt32 := 0
  protocolVersion : UInt8 := 0
  versionMajor : UInt8 := 0
  versionMinor : UInt8 := 0
  versionBuild : UInt8 := 0
  caps : Caps := {}
  deriving Repr, DecidableEq

inductive InitError where
  | hid (e : HidError)
  | invalidInit
  | initResponseParse (e : IoError)
  deriving Repr, DecidableEq

def HidMessage.broadcast (cmd : HidCommand) (payload : Bytes) : HidMessage :=
  ⟨BROADCAST_CID, cmd, payload⟩

/-- `read_u8`. -/
def readU8 (cursor : Bytes) : Except IoError (UInt8 × Bytes) := do
  let (byte, cursor) ← readExact 1 cursor
  pure (UInt8.ofNat (beDecode byte), cursor)

/-- The fields behind the nonce. -/
def parseInit (payload : Bytes) : Except IoError InitResponse := do
  let (cid, cursor) ← readExact 4 (payload.drop INIT_NONCE_LEN)
  let (protocolVersion, cursor) ← readU8 cursor
  let (versionMajor, cursor) ← readU8 cursor
  let (versionMinor, cursor) ← readU8 cursor
  let (versionBuild, cursor) ← readU8 cursor
  let (caps, _) ← readU8 cursor
  pure ⟨UInt32.ofNat (beDecode cid), protocolVersion, versionMajor, versionMinor, versionBuild,
    Caps.fromBitsTruncate caps⟩

/-- The tests `init` makes on the message it received, whatever channel that
came on. -/
def readInit (nonce : Bytes) (response : HidMessage) : Except InitError InitResponse :=
  if response.cmd ≠ .init then .error .invalidInit
  else if response.payload.length < INIT_PAYLOAD_LEN then .error .invalidInit
  else if response.payload.take INIT_NONCE_LEN ≠ nonce then .error .invalidInit
  else (parseInit response.payload).mapError .initResponseParse

/-- The channel before its id is known: `InitResponse::default()`. -/
def HidChannel.unopened : HidChannel := ⟨({} : InitResponse).cid⟩

/-- `init`, with the nonce it draws: the result and the turns left. -/
def HidChannel.init (self : HidChannel) (nonce : Bytes) (turns : List Turn) :
    Option (Except InitError InitResponse × List Turn) := do
  let sent ← self.hidSend (.broadcast .init nonce) turns
  match sent.result with
  | .error e => some (.error (.hid e), sent.turns)
  | .ok () => do
      let ran ← self.hidRecv sent.turns
      match ran.result with
      | .error e => some (.error (.hid e), ran.turns)
      | .ok response => some (readInit nonce response, ran.turns)

/-! ## §2. The answers that open a channel. -/

/-- The payload of an answer; a later version of the protocol may say
`more`. -/
def initPayload (nonce : Bytes) (init : InitResponse) (caps : UInt8) (more : Bytes) : Bytes :=
  nonce ++ (beEncode 4 init.cid.toNat ++ ([init.protocolVersion] ++ ([init.versionMajor]
    ++ ([init.versionMinor] ++ ([init.versionBuild] ++ ([caps] ++ more))))))

/-- `m` answers the request made under `nonce`. -/
structure Answers (nonce : Bytes) (init : InitResponse) (m : HidMessage) : Prop where
  cmd : m.cmd = .init
  payload : ∃ caps more, init.caps = Caps.fromBitsTruncate caps
    ∧ m.payload = initPayload nonce init caps more

theorem readU8_cons (byte : UInt8) (cursor : Bytes) :
    readU8 ([byte] ++ cursor) = .ok (byte, cursor) := by
  have hread : readExact 1 ([byte] ++ cursor) = .ok ([byte], cursor) :=
    readExact_append [byte] cursor
  unfold readU8
  rw [hread]
  simp [beDecode, beStep, bind, Except.bind, pure, Except.pure]

theorem parseInit_payload {nonce : Bytes} (hnonce : nonce.length = INIT_NONCE_LEN)
    (init : InitResponse) {caps : UInt8} (hcaps : init.caps = Caps.fromBitsTruncate caps)
    (more : Bytes) : parseInit (initPayload nonce init caps more) = .ok init := by
  have hcid : UInt32.ofNat (beDecode (beEncode 4 init.cid.toNat)) = init.cid := by
    rw [beDecode_beEncode_of_lt init.cid.toNat_lt, UInt32.ofNat_toNat]
  have hread : ∀ cursor, readExact 4 (beEncode 4 init.cid.toNat ++ cursor)
      = .ok (beEncode 4 init.cid.toNat, cursor) := by
    intro cursor
    have := readExact_append (beEncode 4 init.cid.toNat) cursor
    rwa [beEncode_length] at this
  unfold parseInit initPayload
  rw [← hnonce, List.drop_left, hread]
  simp only [bind, Except.bind, readU8_cons, pure, Except.pure, hcid, ← hcaps]

/-- A payload that is long enough has all the fields. -/
theorem exists_initPayload {payload : Bytes} (hlong : INIT_PAYLOAD_LEN ≤ payload.length) :
    ∃ init caps more, init.caps = Caps.fromBitsTruncate caps
      ∧ payload = initPayload (payload.take INIT_NONCE_LEN) init caps more := by
  have hlong : 17 ≤ payload.length := hlong
  obtain ⟨cid, rest, hcid, hsplit⟩ : ∃ cid rest, cid.length = 4
      ∧ payload.drop INIT_NONCE_LEN = cid ++ rest := by
    refine ⟨_, _, ?_, (List.take_append_drop 4 _).symm⟩
    rw [List.length_take, List.length_drop]
    show min 4 (payload.length - 8) = 4
    omega
  have hrest : 5 ≤ rest.length := by
    have hlength : payload.length - 8 = cid.length + rest.length := by
      rw [← List.length_append, ← hsplit, List.length_drop]
    omega
  obtain ⟨a, b, c, d, caps, more, rfl⟩ :
      ∃ a b c d caps more, rest = a :: b :: c :: d :: caps :: more := by
    match rest, hrest with
    | a :: b :: c :: d :: caps :: more, _ => exact ⟨a, b, c, d, caps, more, rfl⟩
  refine ⟨⟨UInt32.ofNat (beDecode cid), a, b, c, d, Caps.fromBitsTruncate caps⟩,
    caps, more, rfl, ?_⟩
  have hlt : beDecode cid < UInt32.size := by
    have := beDecode_lt cid
    rw [hcid] at this
    exact this
  have hback : beEncode 4 (UInt32.ofNat (beDecode cid)).toNat = cid := by
    rw [UInt32.toNat_ofNat_of_lt' hlt, ← hcid, beEncode_beDecode]
  unfold initPayload
  dsimp only
  rw [hback]
  have := (List.take_append_drop INIT_NONCE_LEN payload).symm
  rw [hsplit] at this
  exact this

/-- **The messages `init` accepts** are the answers to its nonce. -/
theorem readInit_eq_ok_iff {nonce : Bytes} (hnonce : nonce.length = INIT_NONCE_LEN)
    (m : HidMessage) (init : InitResponse) :
    readInit nonce m = .ok init ↔ Answers nonce init m := by
  unfold readInit
  constructor
  · intro h
    split at h
    · cases h
    next hcmd =>
    split at h
    · cases h
    next hlong =>
    split at h
    · cases h
    next hstarts =>
    rw [ne_eq, not_not] at hcmd hstarts
    obtain ⟨init', caps, more, hcaps, hpayload⟩ := exists_initPayload (Nat.le_of_not_lt hlong)
    rw [hstarts] at hpayload
    rw [hpayload, parseInit_payload hnonce init' hcaps more] at h
    obtain rfl := Except.ok.inj h
    exact ⟨hcmd, caps, more, hcaps, hpayload⟩
  · rintro ⟨hcmd, caps, more, hcaps, hpayload⟩
    have hlength : INIT_PAYLOAD_LEN ≤ m.payload.length := by
      have hnonce : nonce.length = 8 := hnonce
      show 17 ≤ m.payload.length
      rw [hpayload, initPayload]
      simp only [List.length_append, beEncode_length, List.length_singleton]
      omega
    rw [if_neg (not_not.mpr hcmd), if_neg (Nat.not_lt.mpr hlength), hpayload, if_neg,
      parseInit_payload hnonce init hcaps]
    · rfl
    · rw [not_not, initPayload, ← hnonce, List.take_left]

/-- An answer is the answer to one nonce, with one channel id. -/
theorem Answers.unique {nonce nonce' : Bytes} {init init' : InitResponse} {m : HidMessage}
    (hnonce : nonce.length = INIT_NONCE_LEN) (hnonce' : nonce'.length = INIT_NONCE_LEN)
    (h : Answers nonce init m) (h' : Answers nonce' init' m) : nonce = nonce' ∧ init = init' := by
  obtain ⟨caps, more, -, hpayload⟩ := h.payload
  obtain ⟨caps', more', -, hpayload'⟩ := h'.payload
  rw [hpayload] at hpayload'
  obtain ⟨rfl, -⟩ := List.append_inj hpayload' (hnonce.trans hnonce'.symm)
  have hread := (readInit_eq_ok_iff hnonce m init).mpr h
  rw [(readInit_eq_ok_iff hnonce m init').mpr h'] at hread
  exact ⟨rfl, (Except.ok.inj hread).symm⟩

/-! ## §3. When a channel opens. -/

namespace HidChannel

/-- `init` after its request was written. -/
theorem init_of_sent (self : HidChannel) {nonce : Bytes} {turns : List Turn} {sent : Ran Unit}
    (hsent : self.hidSend (.broadcast .init nonce) turns = some sent)
    (hok : sent.result = .ok ()) :
    self.init nonce turns = (self.hidRecv sent.turns).map fun ran =>
      (match ran.result with
        | .error e => .error (.hid e)
        | .ok response => readInit nonce response, ran.turns) := by
  unfold init
  rw [hsent, Option.bind_eq_bind, Option.bind_some, hok]
  dsimp only
  cases self.hidRecv sent.turns with
  | none => rfl
  | some ran =>
      rw [Option.bind_eq_bind, Option.bind_some, Option.map_some]
      cases ran.result <;> rfl

/-- An opened channel has received a message that answers its nonce. -/
theorem received_of_init (self : HidChannel) {nonce : Bytes} {turns rest : List Turn}
    {init : InitResponse} (h : self.init nonce turns = some (.ok init, rest)) :
    ∃ sent m written, self.hidSend (.broadcast .init nonce) turns = some sent
      ∧ self.hidRecv sent.turns = some ⟨.ok m, rest, written⟩ ∧ readInit nonce m = .ok init := by
  cases hsent : self.hidSend (.broadcast .init nonce) turns with
  | none =>
      unfold HidChannel.init at h
      rw [hsent] at h
      cases h
  | some sent =>
      cases hresult : sent.result with
      | error e =>
          unfold HidChannel.init at h
          rw [hsent, Option.bind_eq_bind, Option.bind_some, hresult] at h
          cases h
      | ok u =>
          rw [self.init_of_sent hsent hresult, Option.map_eq_some_iff] at h
          obtain ⟨⟨result, turns', written⟩, hrecv, h⟩ := h
          obtain ⟨hread, rfl⟩ := Prod.mk.inj h
          cases result with
          | error e => cases hread
          | ok m => exact ⟨sent, m, written, rfl, hrecv, hread⟩

/-- **When a channel opens**: over any stream of reports, and whatever other
applications make the device send, exactly when the answer to its own nonce is
the first message that is no KEEPALIVE. -/
theorem init_ok_iff (self : HidChannel) {nonce : Bytes} (hnonce : nonce.length = INIT_NONCE_LEN)
    {turns : List Turn} {sent : Ran Unit}
    (hsent : self.hidSend (.broadcast .init nonce) turns = some sent) (hok : sent.result = .ok ())
    (hquiet : ∀ turn ∈ sent.turns, turn.Quiet) (init : InitResponse) :
    (∃ rest, self.init nonce turns = some (.ok init, rest))
      ↔ ∃ m, Answers nonce init m ∧ AfterKeepAlives (StartsWith m) (reports sent.turns) := by
  constructor
  · rintro ⟨rest, hinit⟩
    obtain ⟨sent', m, written, hsent', hrecv, hread⟩ := self.received_of_init hinit
    obtain rfl := Option.some.inj (hsent.symm.trans hsent')
    exact ⟨m, (readInit_eq_ok_iff hnonce m init).mp hread,
      (self.hidRecv_returns_iff hquiet m).mp ⟨_, hrecv, rfl⟩⟩
  · rintro ⟨m, hanswers, hfirst⟩
    obtain ⟨ran, hrecv, hresult⟩ := (self.hidRecv_returns_iff hquiet m).mpr hfirst
    refine ⟨ran.turns, ?_⟩
    rw [self.init_of_sent hsent hok, hrecv, Option.map_some, hresult]
    dsimp only
    rw [(readInit_eq_ok_iff hnonce m init).mpr hanswers]

/-- The packet of an answer. -/
def initPacket (nonce cid : UInt8) : Bytes :=
  [0xFF, 0xFF, 0xFF, 0xFF, 0x86, 0, 17] ++ List.replicate 8 nonce ++ [0, 0, 0, cid]
    ++ [2, 5, 0, 0, 0x05] ++ List.replicate 40 0

def initMessage (nonce cid : UInt8) : HidMessage :=
  .broadcast .init (List.replicate 8 nonce ++ [0, 0, 0, cid] ++ [2, 5, 0, 0, 0x05])

/-- The request is written, and an answer is read. -/
def readInitPacket (nonce cid : UInt8) (hfits : (initPacket nonce cid).length ≤ PACKET_SIZE) :
    List Turn :=
  [HidSystem.writing, reading (initPacket nonce cid) hfits]

set_option maxRecDepth 8000 in
/-- A channel whose answer comes first. -/
theorem init_ok_iff_first :
    (∃ rest, unopened.init (List.replicate 8 0xB2) (readInitPacket 0xB2 1 (by decide))
        = some (.ok ⟨1, 2, 5, 0, 0, ⟨true, true, false⟩⟩, rest))
      ∧ ∃ m, Answers (List.replicate 8 0xB2) ⟨1, 2, 5, 0, 0, ⟨true, true, false⟩⟩ m
        ∧ AfterKeepAlives (StartsWith m)
            (reports [reading (initPacket 0xB2 1) (by decide)]) := by
  have hsent : ∃ written, unopened.hidSend (.broadcast .init (List.replicate 8 0xB2))
      (readInitPacket 0xB2 1 (by decide))
        = some ⟨.ok (), [reading (initPacket 0xB2 1) (by decide)], written⟩ := ⟨_, rfl⟩
  obtain ⟨written, hsent⟩ := hsent
  have hquiet : ∀ turn ∈ [reading (initPacket 0xB2 1) (by decide)], turn.Quiet := by
    intro turn hturn
    obtain rfl := List.mem_singleton.mp hturn
    exact ⟨rfl, rfl, _, rfl⟩
  have hopened : ∃ rest, unopened.init (List.replicate 8 0xB2)
      (readInitPacket 0xB2 1 (by decide))
        = some (.ok ⟨1, 2, 5, 0, 0, ⟨true, true, false⟩⟩, rest) := ⟨[], by decide +kernel⟩
  exact ⟨hopened, (init_ok_iff unopened List.length_replicate hsent rfl hquiet _).mp hopened⟩

end HidChannel

/-! ## §4. Applications that share a device. -/

/-- An answer of the device, in the packets it comes in. -/
structure InitAnswer where
  nonce : Bytes
  init : InitResponse
  wire : WireMessage
  nonce_length : nonce.length = INIT_NONCE_LEN
  answers : Answers nonce init wire.message

/-- An application that has opened the device: the nonce it draws, and how
many messages the device had sent before. -/
structure Opening (ι : Type*) where
  host : ι
  nonce : Bytes
  since : Nat
  deriving DecidableEq

structure OpenChannel (ι : Type*) where
  host : ι
  nonce : Bytes
  init : InitResponse

/-- The device and the applications: the requests under way, the nonces of
requests on channels that exist, the channel ids handed out with the nonces
they were handed out for, all that the device has sent, and the channels the
applications have opened. -/
structure InitSystem (ι : Type*) where
  openings : List (Opening ι) := []
  resynced : List Bytes := []
  allocated : List (Bytes × UInt32) := []
  sent : List WireMessage := []
  channels : List (OpenChannel ι) := []

inductive InitMove (ι : Type*) where
  /-- An application opens the device and asks for a channel. -/
  | opens (host : ι) (nonce : Bytes)
  /-- The device answers such a request with a channel id of its own. -/
  | allocates (answer : InitAnswer)
  /-- It answers an INIT on an existing channel, with the id of that. -/
  | resyncs (answer : InitAnswer)
  /-- It sends anything else, on any channel. -/
  | sends (message : WireMessage)
  /-- `init` runs to its end, over exactly these turns. -/
  | completes (opening : Opening ι) (turns : List Turn)

namespace InitSystem

open HidChannel HidMessageParser

variable {ι : Type*} [DecidableEq ι]

def nonces (s : InitSystem ι) : List Bytes := s.openings.map (·.nonce)

def cids (s : InitSystem ι) : List UInt32 := s.allocated.map (·.2)

/-- The reports an application sees. -/
def view (s : InitSystem ι) (opening : Opening ι) : List Bytes :=
  (s.sent.drop opening.since).flatMap (·.packets)

def step (s : InitSystem ι) : InitMove ι → Option (InitSystem ι)
  | .opens host nonce =>
      if nonce.length = INIT_NONCE_LEN then
        some { s with openings := s.openings ++ [⟨host, nonce, s.sent.length⟩] }
      else none
  | .allocates answer =>
      if answer.nonce ∈ s.nonces ∧ answer.init.cid ∉ s.cids then
        some
          { s with
            allocated := s.allocated ++ [(answer.nonce, answer.init.cid)]
            sent := s.sent ++ [answer.wire] }
      else none
  | .resyncs answer =>
      if answer.init.cid ∈ s.cids then
        some
          { s with
            resynced := s.resynced ++ [answer.nonce]
            sent := s.sent ++ [answer.wire] }
      else none
  | .sends message =>
      if message.message.cmd = .init then none
      else some { s with sent := s.sent ++ [message] }
  | .completes opening turns =>
      if opening ∈ s.openings then
        match unopened.hidSend (.broadcast .init opening.nonce) turns,
            unopened.init opening.nonce turns with
        | some sent, some (result, []) =>
            if readReports sent.turns <+: s.view opening then
              match result with
              | .ok init =>
                  some { s with channels := s.channels ++ [⟨opening.host, opening.nonce, init⟩] }
              | .error _ => some s
            else none
        | _, _ => none
      else none

/-- No nonce is drawn twice. -/
def FreshNonce (s : InitSystem ι) : InitMove ι → Prop
  | .opens _ nonce => nonce ∉ s.nonces ∧ nonce ∉ s.resynced
  | .resyncs answer => answer.nonce ∉ s.nonces
  | _ => True

instance (s : InitSystem ι) : DecidablePred s.FreshNonce
  | .opens _ _ => inferInstanceAs (Decidable (_ ∧ _))
  | .allocates _ => .isTrue trivial
  | .resyncs answer => inferInstanceAs (Decidable (answer.nonce ∉ s.nonces))
  | .sends _ => .isTrue trivial
  | .completes _ _ => .isTrue trivial

/-- The invariant of the runs. -/
structure Allocates (s : InitSystem ι) : Prop where
  nonces_nodup : s.nonces.Nodup
  cids_nodup : s.cids.Nodup
  separate : ∀ nonce ∈ s.resynced, nonce ∉ s.nonces
  lengths : ∀ nonce ∈ s.nonces, nonce.length = INIT_NONCE_LEN
  answered : ∀ m ∈ s.sent, m.message.cmd = .init → ∃ answer : InitAnswer, answer.wire = m
    ∧ ((answer.nonce, answer.init.cid) ∈ s.allocated ∨ answer.nonce ∈ s.resynced)
  channels : ∀ c ∈ s.channels, (c.nonce, c.init.cid) ∈ s.allocated
    ∧ ∃ opening ∈ s.openings, opening.host = c.host ∧ opening.nonce = c.nonce

/-! ## §5. What an application receives was sent. -/

/-- The first message of a stream, behind keep-alives, is one of those the
stream is made of. -/
theorem mem_of_afterKeepAlives {m : HidMessage} (messages : List WireMessage) :
    AfterKeepAlives (StartsWith m) (messages.flatMap (·.packets)) →
      ∃ w ∈ messages, w.message = m := by
  induction messages with
  | nil =>
      intro h
      generalize hstream : ([] : List WireMessage).flatMap WireMessage.packets = stream at h
      -- no message has no packets
      have hnone : ∀ {k : HidMessage} {ps rest : List Bytes}, OnWire k ps →
          [] = ps ++ rest → False := fun hwire hps =>
        hwire.chained.ne_nil (List.append_eq_nil_iff.mp hps.symm).1
      cases h with
      | here h =>
          obtain ⟨-, ps, rest, rfl, hwire⟩ := h
          exact (hnone hwire hstream).elim
      | skip _ hwire _ => exact (hnone hwire hstream).elim
  | cons first messages ih =>
      intro h
      rw [List.flatMap_cons] at h
      generalize hstream : first.packets ++ messages.flatMap WireMessage.packets = stream at h
      cases h with
      | here h =>
          obtain ⟨-, ps, rest, rfl, hwire⟩ := h
          exact ⟨first, List.mem_cons_self, (onWire_unique first.onWire hwire hstream).1⟩
      | skip _ hwire h =>
          rw [← (onWire_unique first.onWire hwire hstream).2] at h
          obtain ⟨w, hw, hm⟩ := ih h
          exact ⟨w, List.mem_cons_of_mem _ hw, hm⟩

/-- A channel that opened was answered by a message its application saw. -/
theorem sent_of_init {nonce : Bytes} {turns : List Turn} {init : InitResponse} {sent : Ran Unit}
    (hnonce : nonce.length = INIT_NONCE_LEN)
    (hsent : unopened.hidSend (.broadcast .init nonce) turns = some sent)
    (hinit : unopened.init nonce turns = some (.ok init, [])) {messages : List WireMessage}
    (hreads : readReports sent.turns <+: messages.flatMap (·.packets)) :
    ∃ w ∈ messages, Answers nonce init w.message := by
  obtain ⟨sent', m, written, hsent', hrecv, hread⟩ := unopened.received_of_init hinit
  obtain rfl := Option.some.inj (hsent.symm.trans hsent')
  have hquiet := quiet_of_hidRecv unopened hrecv
  have hfirst := (unopened.hidRecv_returns_iff hquiet m).mp ⟨_, hrecv, rfl⟩
  rw [readReports_of_quiet hquiet] at hreads
  obtain ⟨more, hmore⟩ := hreads
  have hstream := AfterKeepAlives.append hfirst more
  rw [hmore] at hstream
  obtain ⟨w, hw, rfl⟩ := mem_of_afterKeepAlives messages hstream
  exact ⟨w, hw, (readInit_eq_ok_iff hnonce w.message init).mp hread⟩

/-! ## §6. Channels are exclusive. -/

/-- **Step lemma.** -/
theorem Allocates.step {s s' : InitSystem ι} {move : InitMove ι} (h : Allocates s)
    (hfresh : s.FreshNonce move) (hstep : s.step move = some s') : Allocates s' := by
  cases move with
  | opens host nonce =>
      simp only [InitSystem.step] at hstep
      split at hstep
      next hlength =>
        obtain rfl := Option.some.inj hstep
        have hnonces : ({ s with openings := s.openings ++ [⟨host, nonce, s.sent.length⟩] } :
            InitSystem ι).nonces = s.nonces ++ [nonce] := List.map_append
        refine ⟨?_, h.cids_nodup, fun n hn => ?_, fun n hn => ?_, h.answered, fun c hc => ?_⟩
        · rw [hnonces]
          refine List.nodup_append.mpr ⟨h.nonces_nodup, List.nodup_singleton _, ?_⟩
          rintro n hn _ hnew rfl
          exact hfresh.1 (List.mem_singleton.mp hnew ▸ hn)
        · rw [hnonces, List.mem_append, List.mem_singleton]
          exact not_or.mpr ⟨h.separate n hn, fun heq => hfresh.2 (heq ▸ hn)⟩
        · rw [hnonces] at hn
          rcases List.mem_append.mp hn with hn | hn
          · exact h.lengths n hn
          · rwa [List.mem_singleton.mp hn]
        · obtain ⟨hallocated, opening, hmem, hopening⟩ := h.channels c hc
          exact ⟨hallocated, opening, List.mem_append_left _ hmem, hopening⟩
      next => cases hstep
  | allocates answer =>
      simp only [InitSystem.step] at hstep
      split at hstep
      next hguard =>
        obtain rfl := Option.some.inj hstep
        refine ⟨h.nonces_nodup, ?_, h.separate, h.lengths, fun m hm hcmd => ?_, fun c hc => ?_⟩
        · show (List.map (·.2) (s.allocated ++ [(answer.nonce, answer.init.cid)])).Nodup
          rw [List.map_append]
          refine List.nodup_append.mpr ⟨h.cids_nodup, List.nodup_singleton _, ?_⟩
          rintro cid hcid _ hnew rfl
          rw [List.map_singleton, List.mem_singleton] at hnew
          subst hnew
          exact hguard.2 hcid
        · rcases List.mem_append.mp hm with hm | hm
          · obtain ⟨answer', hwire, hanswered⟩ := h.answered m hm hcmd
            exact ⟨answer', hwire, hanswered.imp_left (List.mem_append_left _)⟩
          · exact ⟨answer, (List.mem_singleton.mp hm).symm,
              Or.inl (List.mem_append_right _ (List.mem_singleton_self _))⟩
        · obtain ⟨hallocated, hopening⟩ := h.channels c hc
          exact ⟨List.mem_append_left _ hallocated, hopening⟩
      next => cases hstep
  | resyncs answer =>
      simp only [InitSystem.step] at hstep
      split at hstep
      next =>
        obtain rfl := Option.some.inj hstep
        refine ⟨h.nonces_nodup, h.cids_nodup, fun n hn => ?_, h.lengths, fun m hm hcmd => ?_,
          h.channels⟩
        · rcases List.mem_append.mp hn with hn | hn
          · exact h.separate n hn
          · rw [List.mem_singleton.mp hn]
            exact hfresh
        · rcases List.mem_append.mp hm with hm | hm
          · obtain ⟨answer', hwire, hanswered⟩ := h.answered m hm hcmd
            exact ⟨answer', hwire, hanswered.imp_right (List.mem_append_left _)⟩
          · exact ⟨answer, (List.mem_singleton.mp hm).symm,
              Or.inr (List.mem_append_right _ (List.mem_singleton_self _))⟩
      next => cases hstep
  | sends message =>
      simp only [InitSystem.step] at hstep
      split at hstep
      next => cases hstep
      next hcmd' =>
        obtain rfl := Option.some.inj hstep
        refine ⟨h.nonces_nodup, h.cids_nodup, h.separate, h.lengths, fun m hm hcmd => ?_,
          h.channels⟩
        rcases List.mem_append.mp hm with hm | hm
        · exact h.answered m hm hcmd
        · rw [List.mem_singleton.mp hm] at hcmd
          exact absurd hcmd hcmd'
  | completes opening turns =>
      simp only [InitSystem.step] at hstep
      split at hstep
      next hopening =>
        split at hstep
        next sent result hsent hinit =>
          split at hstep
          next hreads =>
            cases result with
            | error e => exact Option.some.inj hstep ▸ h
            | ok init =>
                obtain rfl := Option.some.inj hstep
                refine ⟨h.nonces_nodup, h.cids_nodup, h.separate, h.lengths, h.answered,
                  fun c hc => ?_⟩
                rcases List.mem_append.mp hc with hc | hc
                · exact h.channels c hc
                · obtain rfl := List.mem_singleton.mp hc
                  have hnonce : opening.nonce ∈ s.nonces := List.mem_map_of_mem hopening
                  -- the message that opened the channel answers a request of this nonce
                  obtain ⟨w, hw, hanswers⟩ :=
                    sent_of_init (h.lengths _ hnonce) hsent hinit hreads
                  obtain ⟨answer, rfl, hanswered⟩ :=
                    h.answered w (List.mem_of_mem_drop hw) hanswers.cmd
                  obtain ⟨hsame, hinit'⟩ :=
                    answer.answers.unique answer.nonce_length (h.lengths _ hnonce) hanswers
                  rw [hsame, hinit'] at hanswered
                  refine ⟨hanswered.resolve_right fun hresync => ?_, opening, hopening, rfl, rfl⟩
                  exact h.separate _ hresync hnonce
          next => cases hstep
        next => cases hstep
      next => cases hstep

/-- **Run lemma.** -/
theorem allocates_run {moves : List (InitMove ι)} {s : InitSystem ι}
    (hfresh : Along step FreshNonce {} moves) (hrun : runSteps step {} moves = some s) :
    Allocates s := by
  refine runSteps_invariant_along (fun s move s' h => h.step) moves {} s ?_ hfresh hrun
  exact ⟨List.nodup_nil, List.nodup_nil, by simp, by simp [nonces], by simp, by simp⟩

/-- **Channels are exclusive**: whatever applications open channels on a
device, in whatever order its answers come and are read, no two of them get
the same one, and each got the one that was allocated for its request. -/
theorem channels_exclusive {moves : List (InitMove ι)} {s : InitSystem ι}
    (hfresh : Along step FreshNonce {} moves) (hrun : runSteps step {} moves = some s) :
    (∀ c ∈ s.channels, (c.nonce, c.init.cid) ∈ s.allocated)
      ∧ ∀ c ∈ s.channels, ∀ c' ∈ s.channels, c.init.cid = c'.init.cid →
        c.host = c'.host ∧ c.nonce = c'.nonce := by
  have h := allocates_run hfresh hrun
  refine ⟨fun c hc => (h.channels c hc).1, fun c hc c' hc' hcid => ?_⟩
  obtain ⟨hallocated, opening, hopening, hhost, hnonce⟩ := h.channels c hc
  obtain ⟨hallocated', opening', hopening', hhost', hnonce'⟩ := h.channels c' hc'
  -- one id was handed out for one nonce, and one nonce is that of one request
  have hsame : c.nonce = c'.nonce :=
    congrArg Prod.fst (List.inj_on_of_nodup_map h.cids_nodup hallocated hallocated' hcid)
  have hopenings : opening = opening' := List.inj_on_of_nodup_map h.nonces_nodup hopening
    hopening' (hnonce.trans (hsame.trans hnonce'.symm))
  exact ⟨hhost.symm.trans ((congrArg Opening.host hopenings).trans hhost'), hsame⟩

/-- A device with WINK and CBOR answers. -/
def initAnswer (nonce cid : UInt8)
    (honWire : OnWire (initMessage nonce cid) [initPacket nonce cid])
    (hread : readInit (List.replicate 8 nonce) (initMessage nonce cid)
      = .ok ⟨UInt32.ofNat cid.toNat, 2, 5, 0, 0, ⟨true, true, false⟩⟩) : InitAnswer where
  nonce := List.replicate 8 nonce
  init := ⟨UInt32.ofNat cid.toNat, 2, 5, 0, 0, ⟨true, true, false⟩⟩
  wire := ⟨initMessage nonce cid, [initPacket nonce cid], honWire⟩
  nonce_length := List.length_replicate
  answers := (readInit_eq_ok_iff List.length_replicate _ _).mp hread

/-- Two applications ask at the same time; the one that reads the other's
answer first fails and asks again. -/
def twoApplications : List (InitMove Bool) :=
  [.opens false (List.replicate 8 0xA1), .opens true (List.replicate 8 0xB2),
    .allocates (initAnswer 0xB2 1 (HidSystem.onWire_of_collect (by decide)) (by decide)),
    .allocates (initAnswer 0xA1 2 (HidSystem.onWire_of_collect (by decide)) (by decide)),
    .completes ⟨true, List.replicate 8 0xB2, 0⟩ (readInitPacket 0xB2 1 (by decide)),
    .completes ⟨false, List.replicate 8 0xA1, 0⟩ (readInitPacket 0xB2 1 (by decide)),
    .opens false (List.replicate 8 0xC3),
    .allocates (initAnswer 0xC3 3 (HidSystem.onWire_of_collect (by decide)) (by decide)),
    .completes ⟨false, List.replicate 8 0xC3, 2⟩ (readInitPacket 0xC3 3 (by decide))]

set_option maxRecDepth 8000 in
/-- Both have a channel in the end, and not the same. -/
theorem channels_exclusive_two :
    ∃ s, runSteps step {} twoApplications = some s
      ∧ s.channels.map (fun c => (c.host, c.init.cid)) = [(true, 1), (false, 3)]
      ∧ (∀ c ∈ s.channels, (c.nonce, c.init.cid) ∈ s.allocated)
      ∧ ∀ c ∈ s.channels, ∀ c' ∈ s.channels, c.init.cid = c'.init.cid →
          c.host = c'.host ∧ c.nonce = c'.nonce := by
  have hfresh : Along step FreshNonce {} twoApplications := by decide +kernel
  have hsome : (runSteps step {} twoApplications).map
      (fun s => s.channels.map fun c => (c.host, c.init.cid)) = some [(true, 1), (false, 3)] := by
    decide +kernel
  obtain ⟨s, hrun, hchannels⟩ := Option.map_eq_some_iff.mp hsome
  exact ⟨s, hrun, hchannels, channels_exclusive hfresh hrun⟩

end InitSystem

end Libwebauthn.Transport.Hid
