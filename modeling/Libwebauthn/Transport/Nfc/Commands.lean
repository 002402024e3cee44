/-
  Libwebauthn.Transport.Nfc.Commands — the APDU commands of the NFC transport
  (`src/transport/nfc/commands.rs`).

  The `apdu` crate writes the commands and reads the responses: `ApduCrate`
  stands for it, and `ApduCrate.Lawful` says what is relied on.
-/
import Libwebauthn.Ctap1.Apdu
import Libwebauthn.Lib.Iso7816

namespace Libwebauthn.Transport.Nfc

/-! ## §1. The `apdu` crate. -/

/-- `apdu::Command`; `le` is a `u16`. -/
structure Command where
  cla : UInt8
  ins : UInt8
  p1 : UInt8
  p2 : UInt8
  payload : Option Bytes
  le : Option Nat
  deriving Repr, DecidableEq

namespace Command

def newWithLe (cla ins p1 p2 : UInt8) (le : Nat) : Command := ⟨cla, ins, p1, p2, none, some le⟩

def newWithPayload (cla ins p1 p2 : UInt8) (payload : Bytes) : Command :=
  ⟨cla, ins, p1, p2, some payload, none⟩

def newWithPayloadLe (cla ins p1 p2 : UInt8) (le : Nat) (payload : Bytes) : Command :=
  ⟨cla, ins, p1, p2, some payload, some le⟩

/-- What fits the short form. -/
structure Short (command : Command) : Prop where
  payload : ∀ payload ∈ command.payload, 1 ≤ payload.length ∧ payload.length ≤ 255
  le : ∀ le ∈ command.le, le ≤ 256

/-- The command of ISO 7816-4; a count of 0 stands for 256. -/
def meaning (command : Command) : CommandApdu where
  cla := command.cla
  ins := command.ins
  p1 := command.p1
  p2 := command.p2
  data := command.payload.getD []
  ne := command.le.map fun le => if le = 0 then 256 else le

end Command

/-- `apdu::Response`, with its trailer. -/
structure Response where
  payload : Bytes
  sw1 : UInt8
  sw2 : UInt8
  deriving Repr, DecidableEq

/-- `Vec::from(Command)`, `Response::from` and `Result::from(Response)`, whose
errors are `R`. -/
structure ApduCrate (R : Type) where
  toVec : Command → Bytes
  response : Bytes → Response
  result : Response → Except R Bytes

/-- Short commands are written in the short form, and the last two bytes of a
response are its trailer. -/
structure ApduCrate.Lawful {R : Type} (apdu : ApduCrate R) : Prop where
  toVec : ∀ command : Command, command.Short →
    LengthFields.short.parse (apdu.toVec command) = some command.meaning
  response : ∀ (payload : Bytes) (sw1 sw2 : UInt8),
    apdu.response (payload ++ [sw1, sw2]) = ⟨payload, sw1, sw2⟩

/-! ## §2. Commands. -/

def CLA_DEFAULT : UInt8 := 0x00
def CLA_INTER_INDUSTRY : UInt8 := 0x80
def INS_GET_RESPONSE : UInt8 := 0xC0
def CLA_HAS_MORE : UInt8 := 0x10
def INS_CTAP_MSG : UInt8 := 0x10
def CTAP_P2 : UInt8 := 0x00

structure GetResponseCommand where
  p1 : UInt8
  p2 : UInt8
  le : UInt8
  deriving Repr, DecidableEq

def GetResponseCommand.toCommand (cmd : GetResponseCommand) : Command :=
  .newWithLe CLA_DEFAULT INS_GET_RESPONSE cmd.p1 cmd.p2 cmd.le.toNat

structure CtapMsgCommand where
  hasMore : Bool
  payload : Bytes
  deriving Repr, DecidableEq

def CtapMsgCommand.toCommand (cmd : CtapMsgCommand) : Command :=
  let cla := (if cmd.hasMore then CLA_HAS_MORE else 0) ||| CLA_INTER_INDUSTRY
  .newWithPayload cla INS_CTAP_MSG 0 CTAP_P2 cmd.payload

/-- `From<&ApduRequest>`; the response length is cast to a `u16`. -/
def fromApduRequest (cmd : ApduRequest) : Command :=
  let payload := cmd.data.getD []
  match cmd.responseMaxLength with
  | some le => .newWithPayloadLe CLA_DEFAULT cmd.ins cmd.p1 cmd.p2 (le % 2 ^ 16) payload
  | none => .newWithPayload CLA_DEFAULT cmd.ins cmd.p1 cmd.p2 payload

section

variable {R : Type} {apdu : ApduCrate R} (hapdu : apdu.Lawful)

include hapdu

/-- A part is asked for with the count that was announced. -/
theorem parse_getResponse (count : UInt8) :
    LengthFields.short.parse (apdu.toVec (GetResponseCommand.mk 0x00 0x00 count).toCommand)
      = some ⟨0x00, 0xC0, 0x00, 0x00, [], some (if count.toNat = 0 then 256 else count.toNat)⟩ := by
  refine hapdu.toVec _ ⟨fun _ hmem => absurd hmem (Option.not_mem_none _), ?_⟩
  intro le hmem
  rw [← Option.some.inj hmem]
  exact Nat.le_of_lt count.toNat_lt

theorem parse_ctapMsg {message : CtapMsgCommand} (hpos : 1 ≤ message.payload.length)
    (hle : message.payload.length ≤ 255) :
    LengthFields.short.parse (apdu.toVec message.toCommand)
      = some ⟨if message.hasMore then 0x90 else 0x80, 0x10, 0x00, 0x00, message.payload, none⟩ := by
  have hshort : message.toCommand.Short := by
    refine ⟨?_, fun _ hmem => absurd hmem (Option.not_mem_none _)⟩
    intro payload hmem
    rw [← Option.some.inj hmem]
    exact ⟨hpos, hle⟩
  have hcla : (if message.hasMore then CLA_HAS_MORE else 0) ||| CLA_INTER_INDUSTRY
      = if message.hasMore then 0x90 else 0x80 := by
    cases message.hasMore <;> decide
  rw [hapdu.toVec _ hshort, ← hcla]
  rfl

end

end Libwebauthn.Transport.Nfc
