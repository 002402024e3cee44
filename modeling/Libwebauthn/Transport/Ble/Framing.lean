/-
  Libwebauthn.Transport.Ble.Framing — CTAP frames over GATT
  (`src/transport/ble/framing.rs`).

  `BleFrame.fragments` cuts a frame into an initial fragment (3-byte header:
  command, data length) and continuation fragments (1-byte header: sequence
  number).  `BleFrameParser` collects fragments again and rebuilds the frame.
  Unlike its HID counterpart it looks at neither the sequence numbers nor
  the high bit of a continuation.
-/
import Libwebauthn.Lib.Segments
import Libwebauthn.Lib.Feed
import Libwebauthn.Transport.IoError

namespace Libwebauthn.Transport.Ble

/-! ## §1. Frames and their fragments. -/

abbrev INITIAL_FRAGMENT_HEADER_LENGTH : Nat := 3
abbrev INITIAL_FRAGMENT_MIN_LENGTH : Nat := INITIAL_FRAGMENT_HEADER_LENGTH
abbrev CONT_FRAGMENT_HEADER_LENGTH : Nat := 1
abbrev CONT_FRAGMENT_MIN_LENGTH : Nat := CONT_FRAGMENT_HEADER_LENGTH

inductive BleCommand where
  | ping | keepalive | msg | cancel | error
  deriving Repr, DecidableEq

/-- The derived `IntoPrimitive`. -/
def BleCommand.toU8 : BleCommand → UInt8
  | .ping => 0x81
  | .keepalive => 0x82
  | .msg => 0x83
  | .cancel => 0xBE
  | .error => 0xBF

/-- The derived `TryFromPrimitive`. -/
def BleCommand.tryFrom (b : UInt8) : Option BleCommand :=
  if b = 0x81 then some .ping
  else if b = 0x82 then some .keepalive
  else if b = 0x83 then some .msg
  else if b = 0xBE then some .cancel
  else if b = 0xBF then some .error
  else none

structure BleFrame where
  cmd : BleCommand
  data : Bytes
  deriving Repr, DecidableEq

/-- How `fragments` can fail to return fragments: an `Err`, or the panic of
`seq += 1` on a `u8` in a build with overflow checks. -/
inductive FragmentsFailure where
  | io (e : IoError)
  | overflow
  deriving Repr, DecidableEq

/-- An initial fragment: command, 16-bit data length, first data bytes. -/
def initialFragment (cmd : BleCommand) (length : UInt16) (chunk : Bytes) : Bytes :=
  cmd.toU8 :: (beEncode 2 length.toNat ++ chunk)

/-- A continuation fragment: sequence number, data bytes. -/
def contFragment (seq : UInt8) (chunk : Bytes) : Bytes := seq :: chunk

namespace BleFrame

/-- The loop over the sequence fragments.  `overflowChecks` is the build
setting: with it `seq += 1` panics at 255, without it the counter wraps to
0. -/
def contFragments (overflowChecks : Bool) :
    (seq : UInt8) → (chunks : List Bytes) → Except FragmentsFailure (List Bytes)
  | _, [] => .ok []
  | seq, chunk :: chunks =>
      if overflowChecks ∧ seq = 255 then .error .overflow
      else
        (contFragments overflowChecks (seq + 1) chunks).map (contFragment seq chunk :: ·)

def fragments (overflowChecks : Bool) (self : BleFrame) (maxFragmentLength : Nat) :
    Except FragmentsFailure (List Bytes) :=
  if maxFragmentLength < 4 then
    .error (.io ⟨.invalidData,
      s!"Desired maximum fragment length is unsupported: {maxFragmentLength}"⟩)
  else
    let initialCapacity := maxFragmentLength - INITIAL_FRAGMENT_HEADER_LENGTH
    let initial := initialFragment self.cmd (UInt16.ofNat self.data.length)
      (self.data.take initialCapacity)
    let chunks := chunksOf (maxFragmentLength - CONT_FRAGMENT_HEADER_LENGTH)
      (self.data.drop initialCapacity)
    (contFragments overflowChecks 0 chunks).map (initial :: ·)

end BleFrame

/-! ## §2. The parser. -/

inductive BleFrameParserResult where
  | moreFragmentsExpected
  | done
  deriving Repr, DecidableEq

structure BleFrameParser where
  fragments : List Bytes
  deriving Repr, DecidableEq

namespace BleFrameParser

def new : BleFrameParser := ⟨[]⟩

def reset (_ : BleFrameParser) : BleFrameParser := ⟨[]⟩

/-- The data length the initial fragment announces. -/
def expectedBytes (self : BleFrameParser) : Option Nat := do
  let initial ← self.fragments.head?
  let b1 ← initial[1]?
  let b2 ← initial[2]?
  some (beDecode [b1, b2])

def dataLen (self : BleFrameParser) : Nat :=
  match self.fragments with
  | [] => 0
  | initial :: continuations =>
      continuations.foldl (fun len cont => len + (cont.length - CONT_FRAGMENT_HEADER_LENGTH))
        (initial.length - INITIAL_FRAGMENT_HEADER_LENGTH)

def moreFragmentsNeeded (self : BleFrameParser) : Bool :=
  if self.fragments = [] then true
  else self.expectedBytes.getD 0 > self.dataLen

/-- The result and the parser afterwards; a rejected fragment is not kept. -/
def update (self : BleFrameParser) (fragment : Bytes) :
    Except IoError BleFrameParserResult × BleFrameParser :=
  if (self.fragments = [] ∧ fragment.length < INITIAL_FRAGMENT_MIN_LENGTH)
      ∨ fragment.length < CONT_FRAGMENT_MIN_LENGTH then
    (.error ⟨.invalidInput, "Fragment length is invalid. 3 bytes are required for an initial fragment, 2 bytes for each continuation fragment."⟩,
      self)
  else
    let next : BleFrameParser := ⟨self.fragments ++ [fragment]⟩
    (.ok (if next.moreFragmentsNeeded then .moreFragmentsExpected else .done), next)

/-- The fragment data in order. -/
def bodies : List Bytes → Bytes
  | [] => []
  | initial :: continuations =>
      initial.drop INITIAL_FRAGMENT_HEADER_LENGTH
        ++ continuations.flatMap (List.drop CONT_FRAGMENT_HEADER_LENGTH)

/-- `{:x}` of a byte. -/
def lowerHex (b : UInt8) : String := String.ofList (Nat.toDigits 16 b.toNat)

def frame (self : BleFrameParser) : Except IoError BleFrame :=
  if self.moreFragmentsNeeded then
    .error ⟨.invalidData, "Frame is not yet complete, more fragments need to be ingested."⟩
  else
    match self.fragments with
    | [] => .error ⟨.invalidData, "Frame has no fragments"⟩
    | [] :: _ => .error ⟨.invalidData, "Initial fragment is empty"⟩
    | (cmdByte :: _) :: _ =>
        match BleCommand.tryFrom cmdByte with
        | none => .error ⟨.invalidData, s!"Invalid BLE frame command: {lowerHex cmdByte}"⟩
        | some cmd => .ok ⟨cmd, bodies self.fragments⟩

/-- The results of feeding `fragments` in order, and the parser afterwards. -/
def feedFragments (self : BleFrameParser) (fragments : List Bytes) :
    List (Except IoError BleFrameParserResult) × BleFrameParser :=
  feed update self fragments

end BleFrameParser

end Libwebauthn.Transport.Ble
