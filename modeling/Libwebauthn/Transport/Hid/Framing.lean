/-
  Libwebauthn.Transport.Hid.Framing — CTAPHID packets
  (`src/transport/hid/framing.rs`).

  `HidMessage.packets` cuts a message into an initialization packet (7-byte
  header: channel id, command, payload length) and continuation packets
  (5-byte header: channel id, sequence number).  `HidMessageParser` collects
  packets again and rebuilds the message.
-/
import Libwebauthn.Lib.Segments
import Libwebauthn.Lib.Feed
import Libwebauthn.Transport.IoError

namespace Libwebauthn.Transport.Hid

/-! ## §1. Messages and their packets. -/

def BROADCAST_CID : UInt32 := 0xFFFFFFFF
abbrev PACKET_INITIAL_HEADER_SIZE : Nat := 7
def PACKET_INITIAL_CMD_MASK : UInt8 := 0x80
abbrev PACKET_CONT_HEADER_SIZE : Nat := 5
def PACKET_CONT_SEQ_MAX : UInt8 := 0x7F

inductive HidCommand where
  | ping | msg | lock | init | wink | cbor | cancel | sync | keepAlive | error
  deriving Repr, DecidableEq

/-- `self.cmd as u8`. -/
def HidCommand.toU8 : HidCommand → UInt8
  | .ping => 0x01
  | .msg => 0x03
  | .lock => 0x04
  | .init => 0x06
  | .wink => 0x08
  | .cbor => 0x10
  | .cancel => 0x11
  | .sync => 0x3C
  | .keepAlive => 0x3B
  | .error => 0x3F

/-- The derived `TryFromPrimitive`. -/
def HidCommand.tryFrom (b : UInt8) : Option HidCommand :=
  if b = 0x01 then some .ping
  else if b = 0x03 then some .msg
  else if b = 0x04 then some .lock
  else if b = 0x06 then some .init
  else if b = 0x08 then some .wink
  else if b = 0x10 then some .cbor
  else if b = 0x11 then some .cancel
  else if b = 0x3C then some .sync
  else if b = 0x3B then some .keepAlive
  else if b = 0x3F then some .error
  else none

structure HidMessage where
  cid : UInt32
  cmd : HidCommand
  payload : Bytes
  deriving Repr, DecidableEq

/-- An initialization packet: channel id, command with the high bit set,
16-bit payload length, body. -/
def initialPacket (cid : UInt32) (cmd : HidCommand) (length : UInt16) (body : Bytes) : Bytes :=
  beEncode 4 cid.toNat
    ++ ((cmd.toU8 ||| PACKET_INITIAL_CMD_MASK) :: (beEncode 2 length.toNat ++ body))

/-- A continuation packet: channel id, sequence number, body. -/
def contPacket (cid : UInt32) (seq : UInt8) (body : Bytes) : Bytes :=
  beEncode 4 cid.toNat ++ (seq :: body)

namespace HidMessage

def tooManyPackets (packetSize : Nat) : IoError :=
  ⟨.invalidData, s!"Payload is too large for packet size ({packetSize}), and would exceed maximum number of packets."⟩

/-- The loop over the sequence fragments.  `seq` is incremented and tested
after the packet was pushed, also for the last one. -/
def contPackets (cid : UInt32) (packetSize : Nat) :
    (seq : UInt8) → (chunks : List Bytes) → Except IoError (List Bytes)
  | _, [] => .ok []
  | seq, chunk :: chunks =>
      if seq + 1 > 0x7F then .error (tooManyPackets packetSize)
      else (contPackets cid packetSize (seq + 1) chunks).map (contPacket cid seq chunk :: ·)

def packets (self : HidMessage) (packetSize : Nat) : Except IoError (List Bytes) :=
  if packetSize < PACKET_INITIAL_HEADER_SIZE + 1 then
    .error ⟨.invalidData, s!"Desired packet size is unsupported: {packetSize}"⟩
  else
    let initialCapacity := packetSize - PACKET_INITIAL_HEADER_SIZE
    let initial := initialPacket self.cid self.cmd (UInt16.ofNat self.payload.length)
      (self.payload.take initialCapacity)
    let chunks := chunksOf (packetSize - PACKET_CONT_HEADER_SIZE)
      (self.payload.drop initialCapacity)
    (contPackets self.cid packetSize 0 chunks).map (initial :: ·)

end HidMessage

/-! ## §2. The parser. -/

inductive HidMessageParserState where
  | morePacketsExpected
  | done
  deriving Repr, DecidableEq

structure HidMessageParser where
  packets : List Bytes
  deriving Repr, DecidableEq

namespace HidMessageParser

def new : HidMessageParser := ⟨[]⟩

/-- The payload length the initialization packet announces. -/
def expectedBytes (self : HidMessageParser) : Option Nat := do
  let initial ← self.packets.head?
  let b5 ← initial[5]?
  let b6 ← initial[6]?
  some (beDecode [b5, b6])

def payloadLen (self : HidMessageParser) : Nat :=
  match self.packets with
  | [] => 0
  | initial :: continuations =>
      continuations.foldl (fun len cont => len + (cont.length - PACKET_CONT_HEADER_SIZE))
        (initial.length - PACKET_INITIAL_HEADER_SIZE)

def morePacketsNeeded (self : HidMessageParser) : Bool :=
  match self.expectedBytes with
  | none => true
  | some expected => expected > self.payloadLen

/-- First packet: the high bit of byte 4 must be set. -/
def checkInitialization (packet : Bytes) : Except IoError Unit :=
  if (packet[4]?).any (fun byte => byte &&& PACKET_INITIAL_CMD_MASK != 0) then .ok ()
  else .error ⟨.invalidData, "First packet must be an initialization packet"⟩

/-- Continuation packets: same channel id as the initial packet, high bit of
SEQ cleared, SEQ counting up from 0. -/
def checkContinuation (self : HidMessageParser) (packet : Bytes) : Except IoError Unit :=
  let initialCid := self.packets.head?.bind (getPrefix 4)
  if getPrefix 4 packet ≠ initialCid then
    .error ⟨.invalidData, "Continuation packet CID mismatch"⟩
  else
    match packet[4]? with
    | none => .error ⟨.invalidData, "Packet length is invalid"⟩
    | some seq =>
        if seq &&& PACKET_INITIAL_CMD_MASK ≠ 0 then
          .error ⟨.invalidData, "Unexpected initialization packet during continuation"⟩
        else
          let expectedSeq := UInt8.ofNat (self.packets.length - 1)
          if expectedSeq > PACKET_CONT_SEQ_MAX then
            .error ⟨.invalidData, "Too many continuation packets"⟩
          else if seq ≠ expectedSeq then
            .error ⟨.invalidData, "Out-of-order continuation SEQ"⟩
          else .ok ()

/-- The tests `update` makes before it keeps a packet, in the order of the
source. -/
def checkPacket (self : HidMessageParser) (packet : Bytes) : Except IoError Unit :=
  if (self.packets = [] ∧ packet.length < PACKET_INITIAL_HEADER_SIZE)
      ∨ packet.length < PACKET_CONT_HEADER_SIZE + 1 then
    .error ⟨.invalidInput, "Packet length is invalid"⟩
  else if packet.all (· == 0) then
    .error ⟨.invalidData, "All-zero packet is not a valid CTAPHID frame"⟩
  else if self.packets = [] then checkInitialization packet
  else self.checkContinuation packet

/-- Keep a packet that passed the tests. -/
def push (self : HidMessageParser) (packet : Bytes) : HidMessageParser :=
  ⟨self.packets ++ [packet]⟩

def state (self : HidMessageParser) : HidMessageParserState :=
  if self.morePacketsNeeded then .morePacketsExpected else .done

/-- The result and the parser afterwards; a rejected packet is not kept. -/
def update (self : HidMessageParser) (packet : Bytes) :
    Except IoError HidMessageParserState × HidMessageParser :=
  match self.checkPacket packet with
  | .error e => (.error e, self)
  | .ok () => (.ok (self.push packet).state, self.push packet)

/-- The packet bodies in order, padding included. -/
def bodies : List Bytes → Bytes
  | [] => []
  | initial :: continuations =>
      initial.drop PACKET_INITIAL_HEADER_SIZE
        ++ continuations.flatMap (List.drop PACKET_CONT_HEADER_SIZE)

def message (self : HidMessageParser) : Except IoError HidMessage :=
  if self.morePacketsNeeded then
    .error ⟨.invalidData, "Message is not yet complete, more packets need to be ingested."⟩
  else
    match self.packets with
    | [] => .error ⟨.invalidData, "Message has no packets"⟩
    | initial :: _ => do
        let (cid, cursor) ← readExact 4 initial
        let (cmdByte, cursor) ← readExact 1 cursor
        let cmd := UInt8.ofNat (beDecode cmdByte) ^^^ PACKET_INITIAL_CMD_MASK
        match HidCommand.tryFrom cmd with
        | none => .error ⟨.invalidData, s!"Invalid HID message command: {cmd}"⟩
        | some cmd => do
            let (expectedSize, _) ← readExact 2 cursor
            .ok ⟨UInt32.ofNat (beDecode cid), cmd,
              (bodies self.packets).take (beDecode expectedSize)⟩

/-- The results of feeding `packets` in order, and the parser afterwards. -/
def feedPackets (self : HidMessageParser) (packets : List Bytes) :
    List (Except IoError HidMessageParserState) × HidMessageParser :=
  feed update self packets

end HidMessageParser

end Libwebauthn.Transport.Hid
