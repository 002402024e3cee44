/-
  Libwebauthn.Transport.Hid.Channel — sending and receiving on an open HID
  device (`src/transport/hid/channel.rs`).

  The operating system answers the loops turn by turn: whether the cancel
  channel holds something, whether the time budget is used up, what a read
  or a write gives.  An operation runs over a list of such turns; it gives
  `none` while the turns do not suffice, and otherwise its result, the turns
  it left and the reports it wrote.

  Left out: the lock around the device and the join of the blocking task
  (both fail only after a panic elsewhere), and the virtual device.
-/
import Libwebauthn.Transport.Hid.Framing

namespace Libwebauthn.Transport.Hid

abbrev PACKET_SIZE : Nat := 64
def REPORT_ID : UInt8 := 0x00

/-- The bytes one `read_timeout` put into the report buffer. -/
structure HidRead where
  bytes : Bytes
  fits : bytes.length ≤ PACKET_SIZE
  deriving Repr, DecidableEq

/-- The zero-initialised report buffer after the read. -/
def HidRead.report (read : HidRead) : Bytes :=
  read.bytes ++ List.replicate (PACKET_SIZE - read.bytes.length) 0

/-- The errors of the send and receive loops. -/
inductive HidError where
  | packetEncode (e : IoError)
  | frameParse (e : IoError)
  | read (message : String)
  | write (message : String)
  | cancelled
  | timeout
  deriving Repr, DecidableEq

/-- One turn of a loop, as the operating system answers it. -/
structure Turn where
  /-- `cancel_rx.try_recv()` is not `Err(Empty)`. -/
  cancelled : Bool
  /-- `remaining.is_zero()`. -/
  expired : Bool
  /-- `read_timeout`: the bytes read, or the error text. -/
  read : Except String HidRead
  /-- `write`: the error text, if any. -/
  write : Option String
  deriving DecidableEq

/-- A finished operation. -/
structure Ran (α : Type) where
  result : Except HidError α
  turns : List Turn
  written : List Bytes
  deriving DecidableEq

/-- `report` of an outgoing packet: report id, packet, zero padding. -/
def outReport (packet : Bytes) : Bytes :=
  REPORT_ID :: (packet ++ List.replicate (PACKET_SIZE - packet.length) 0)

/-- The loop over the packets of a message: the cancel channel is polled
before each of them. -/
def writePackets : List Bytes → List Turn → Option (Ran Unit)
  | [], turns => some ⟨.ok (), turns, []⟩
  | _ :: _, [] => none
  | packet :: packets, turn :: turns =>
      if turn.cancelled then some ⟨.error .cancelled, turns, []⟩
      else
        match turn.write with
        | some e => some ⟨.error (.write e), turns, []⟩
        | none =>
            (writePackets packets turns).map fun ran =>
              { ran with written := outReport packet :: ran.written }

def hidSendHidapi (msg : HidMessage) (turns : List Turn) : Option (Ran Unit) :=
  match msg.packets PACKET_SIZE with
  | .error e => some ⟨.error (.packetEncode e), turns, []⟩
  | .ok packets => writePackets packets turns

/-- The parts of the channel the loops use. -/
structure HidChannel where
  cid : UInt32
  deriving DecidableEq

namespace HidChannel

def cancelMessage (self : HidChannel) : HidMessage := ⟨self.cid, .cancel, []⟩

/-- A send that was cancelled still sends a CANCEL, whose own outcome is
ignored. -/
def hidSend (self : HidChannel) (msg : HidMessage) (turns : List Turn) :
    Option (Ran Unit) := do
  let ran ← hidSendHidapi msg turns
  match ran.result with
  | .error .cancelled =>
      let cancel ← hidSendHidapi self.cancelMessage ran.turns
      some ⟨ran.result, cancel.turns, ran.written ++ cancel.written⟩
  | _ => some ran

def hidCancel (self : HidChannel) (turns : List Turn) : Option (Ran Unit) :=
  self.hidSend self.cancelMessage turns

/-- The receive loop of one message, with the parser so far.  Nothing here
looks at the channel id. -/
def hidRecvHidapi (parser : HidMessageParser) : List Turn → Option (Ran HidMessage)
  | [] => none
  | turn :: turns =>
      if turn.cancelled then some ⟨.error .cancelled, turns, []⟩
      else if turn.expired then some ⟨.error .timeout, turns, []⟩
      else
        match turn.read with
        | .error e => some ⟨.error (.read e), turns, []⟩
        | .ok read =>
            -- hidapi signals a timeout of this one read as 0 bytes
            if read.bytes = [] then hidRecvHidapi parser turns
            else
              match parser.update read.report with
              | (.error e, _) => some ⟨.error (.frameParse e), turns, []⟩
              | (.ok .morePacketsExpected, next) => hidRecvHidapi next turns
              | (.ok .done, next) =>
                  some ⟨next.message.mapError .frameParse, turns, []⟩

/-- The loop that skips KEEPALIVE messages.  Every message uses up a turn,
so `fuel` beyond the number of turns changes nothing. -/
def hidRecvLoop (self : HidChannel) : (fuel : Nat) → List Turn → Option (Ran HidMessage)
  | 0, _ => none
  | fuel + 1, turns => do
      let ran ← hidRecvHidapi HidMessageParser.new turns
      match ran.result with
      | .ok ⟨_, .keepAlive, _⟩ => hidRecvLoop self fuel ran.turns
      | .error .cancelled | .error .timeout =>
          let cancel ← self.hidCancel ran.turns
          some ⟨ran.result, cancel.turns, cancel.written⟩
      | _ => some ran

def hidRecv (self : HidChannel) (turns : List Turn) : Option (Ran HidMessage) :=
  self.hidRecvLoop (turns.length + 1) turns

end HidChannel

end Libwebauthn.Transport.Hid
