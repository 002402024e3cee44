/-
  Libwebauthn.Transport.Cable.QrCode — the QR code that a phone scans
  (`src/transport/cable/qr_code_device.rs`).

  The code is a CBOR map, written in the digits of `digit_encode`.  What the
  phone does is not part of the source: `scan` reads the text the way it is
  meant to be read, digits first, then the data item, then its fields.

    • `decodeDigits_encodeDigits` — the bytes are read back from their digits;
    • `qrCode_scanned` — and the fields from the text.
-/
import Libwebauthn.Lib.CborReader
import Libwebauthn.Transport.Cable.Tunnel

namespace Libwebauthn.Transport.Cable

/-- Bytes of a fixed number, `[u8; n]`. -/
abbrev FixedBytes (n : Nat) := { bytes : Bytes // bytes.length = n }

def fixedBytes? (n : Nat) (bytes : Bytes) : Option (FixedBytes n) :=
  if h : bytes.length = n then some ⟨bytes, h⟩ else none

@[simp] theorem fixedBytes?_val {n : Nat} (bytes : FixedBytes n) :
    fixedBytes? n bytes.val = some bytes := dif_pos bytes.property

/-! ## §1. The fields. -/

inductive QrCodeOperationHint where
  | getAssertionRequest
  | makeCredential
  deriving Repr, DecidableEq

def QrCodeOperationHint.name : QrCodeOperationHint → String
  | .getAssertionRequest => "ga"
  | .makeCredential => "mc"

/-- One of the data transfer channels listed under key 6. -/
inductive CableTransportChannel where
  | webSocket
  | ble
  deriving Repr, DecidableEq

def CableTransportChannel.toU8 : CableTransportChannel → UInt8
  | .webSocket => 0
  | .ble => 1

/-- Which hybrid transports the QR code advertises support for. -/
inductive CableTransports where
  /-- caBLE v2 only: the cloud-assisted WebSocket tunnel. -/
  | cloudAssistedOnly
  /-- The tunnel, and the direct L2CAP channel of CTAP 2.3. -/
  | cloudAssistedOrLocal
  deriving Repr, DecidableEq

/-- Legacy peers expect a boolean under key 6, and get nothing. -/
def CableTransports.toQrField : CableTransports → Option (List CableTransportChannel)
  | .cloudAssistedOnly => none
  | .cloudAssistedOrLocal => some [.webSocket, .ble]

structure CableQrCode where
  /-- P-256, X9.62, compressed. -/
  publicKey : FixedBytes 33
  qrSecret : FixedBytes 16
  knownTunnelDomainsCount : UInt8
  /-- In epoch seconds. -/
  currentTime : Option UInt64
  stateAssisted : Option Bool
  operationHint : QrCodeOperationHint
  transports : Option (List CableTransportChannel)

namespace CableQrCode

def toCbor (self : CableQrCode) : Cbor :=
  .map ([(.uint 0, .bytes self.publicKey.val), (.uint 1, .bytes self.qrSecret.val),
      (.uint 2, .uint self.knownTunnelDomainsCount.toNat)]
    ++ Cbor.entry? (.uint 3) (self.currentTime.map fun time => .uint time.toNat)
    ++ Cbor.entry? (.uint 4) (self.stateAssisted.map .bool)
    ++ [(.uint 5, .text self.operationHint.name)]
    ++ Cbor.entry? (.uint 6) (self.transports.map fun channels =>
        .array (channels.map fun channel => .uint channel.toU8.toNat)))

/-- `Display`: the text of the QR code. -/
def display (self : CableQrCode) : String := "FIDO:/" ++ digitEncode self.toCbor.encode

end CableQrCode

/-- A device that is to connect by scanning a QR code. -/
structure CableQrCodeDevice where
  qrCode : CableQrCode
  privateKey : Bytes
  /-- Whether there is a store to keep the phone in. -/
  hasStore : Bool

namespace CableQrCodeDevice

/-- `toEncodedPoint` gives the compressed public key of a private key.  The
key, the secret and the clock are arguments. -/
def new (toEncodedPoint : Bytes → Bytes) (privateKey : Bytes) (qrSecret : FixedBytes 16)
    (currentUnixTime : Option UInt64) (hint : QrCodeOperationHint) (stateAssisted : Bool)
    (hasStore : Bool) (transports : CableTransports) : Except CableError CableQrCodeDevice :=
  match fixedBytes? 33 (toEncodedPoint privateKey) with
  | none => .error .invalidKey
  | some publicKey =>
      .ok {
        qrCode := {
          publicKey
          qrSecret
          knownTunnelDomainsCount := UInt8.ofNat KNOWN_TUNNEL_DOMAINS.length
          currentTime := currentUnixTime
          operationHint := hint
          -- key 4 is there or not; it never says `false`
          stateAssisted := if stateAssisted then some true else none
          transports := transports.toQrField }
        privateKey
        hasStore }

def newPersistent (toEncodedPoint : Bytes → Bytes) (privateKey : Bytes)
    (qrSecret : FixedBytes 16) (currentUnixTime : Option UInt64) (hint : QrCodeOperationHint)
    (transports : CableTransports) : Except CableError CableQrCodeDevice :=
  new toEncodedPoint privateKey qrSecret currentUnixTime hint true true transports

def newTransient (toEncodedPoint : Bytes → Bytes) (privateKey : Bytes)
    (qrSecret : FixedBytes 16) (currentUnixTime : Option UInt64) (hint : QrCodeOperationHint)
    (transports : CableTransports) : Except CableError CableQrCodeDevice :=
  new toEncodedPoint privateKey qrSecret currentUnixTime hint false false transports

end CableQrCodeDevice

/-! ## §2. The digits, read back. -/

/-- How many bytes a chunk of so many digits stands for. -/
def chunkBytes (digits : Nat) : Option Nat :=
  (List.range (CHUNK_SIZE + 1)).find? fun length => chunkDigits length == digits

def decodeChunk (digits : List Char) : Option Bytes :=
  if digits.all Char.isDigit then
    (chunkBytes digits.length).map fun length =>
      (beEncode length (Nat.ofDigitChars 10 digits 0)).reverse
  else none

def decodeDigits (digits : List Char) : Option Bytes :=
  ((chunksOf CHUNK_DIGITS digits).mapM decodeChunk).map List.flatten

theorem chunkBytes_chunkDigits {length : Nat} (h : length ≤ 7) :
    chunkBytes (chunkDigits length) = some length := by
  interval_cases length <;> decide

theorem decodeChunk_encodeChunk {chunk : Bytes} (hpos : 1 ≤ chunk.length)
    (h : chunk.length ≤ 7) : decodeChunk (encodeChunk chunk) = some chunk := by
  have hdigits : (encodeChunk chunk).all Char.isDigit = true :=
    List.all_eq_true.mpr (isDigit_encodeChunk h)
  have hlength : (leDecode chunk, chunk.reverse.length)
      = (beDecode chunk.reverse, chunk.length) := by
    rw [List.length_reverse]
    rfl
  obtain ⟨hvalue, hsize⟩ := Prod.mk.inj hlength
  unfold decodeChunk
  rw [if_pos hdigits, encodeChunk_length hpos h, chunkBytes_chunkDigits h, Option.map_some,
    encodeChunk_value h, hvalue, ← hsize, beEncode_beDecode, List.reverse_reverse]

theorem decodeDigits_append {digits rest : List Char} {chunk bytes : Bytes}
    (hlength : digits.length = CHUNK_DIGITS) (hchunk : decodeChunk digits = some chunk)
    (hrest : decodeDigits rest = some bytes) :
    decodeDigits (digits ++ rest) = some (chunk ++ bytes) := by
  have hpos : 0 < CHUNK_DIGITS := by decide
  have hne : digits ++ rest ≠ [] := by
    intro hnil
    rw [List.append_eq_nil_iff.mp hnil |>.1] at hlength
    cases hlength
  obtain ⟨chunks, hchunks, rfl⟩ := Option.map_eq_some_iff.mp hrest
  unfold decodeDigits
  rw [chunksOf_of_ne_nil hpos hne, List.take_left' hlength, List.drop_left' hlength,
    List.mapM_cons, hchunk, hchunks]
  rfl

theorem decodeDigits_chunk {digits : List Char} {chunk : Bytes} (hne : digits ≠ [])
    (hlength : digits.length ≤ CHUNK_DIGITS) (hchunk : decodeChunk digits = some chunk) :
    decodeDigits digits = some chunk := by
  have hpos : 0 < CHUNK_DIGITS := by decide
  unfold decodeDigits
  rw [chunksOf_of_ne_nil hpos hne, List.take_of_length_le hlength,
    List.drop_of_length_le hlength, chunksOf_nil, List.mapM_cons, hchunk]
  exact congrArg some (List.append_nil chunk)

/-- **The bytes are read back from their digits.** -/
theorem decodeDigits_encodeDigits (input : Bytes) :
    decodeDigits (encodeDigits input) = some input := by
  induction input using chunksOf_induction CHUNK_SIZE_pos with
  | nil => rfl
  | step input h ih =>
      have hpos := List.length_pos_iff.mpr h
      have htake : (input.take CHUNK_SIZE).length = min 7 input.length := List.length_take
      have hchunk : decodeChunk (encodeChunk (input.take CHUNK_SIZE))
          = some (input.take CHUNK_SIZE) := decodeChunk_encodeChunk (by omega) (by omega)
      have hlength : (encodeChunk (input.take CHUNK_SIZE)).length
          = chunkDigits (min 7 input.length) := by
        rw [encodeChunk_length (by omega) (by omega), htake]
      rw [encodeDigits_cons h]
      by_cases hfull : 7 ≤ input.length
      · -- a full chunk, and what follows it
        rw [Nat.min_eq_left hfull] at hlength
        rw [decodeDigits_append hlength hchunk ih, List.take_append_drop]
      · -- the trailing chunk
        have hdrop : input.drop CHUNK_SIZE = [] := by
          refine List.drop_of_length_le ?_
          show input.length ≤ 7
          omega
        have hall : input.take CHUNK_SIZE = input := by
          refine List.take_of_length_le ?_
          show input.length ≤ 7
          omega
        have hle : chunkDigits (min 7 input.length) ≤ 17 := chunkDigits_le (by omega)
        have hne : encodeChunk (input.take CHUNK_SIZE) ≠ [] := by
          intro hnil
          rw [hnil] at hchunk
          have hbytes : decodeChunk [] = some [] := by decide
          rw [hall, hbytes] at hchunk
          exact h (Option.some.inj hchunk).symm
        have hdigits : (encodeChunk (input.take CHUNK_SIZE)).length ≤ CHUNK_DIGITS := by
          rw [hlength]
          exact hle
        have hnone : encodeDigits ([] : Bytes) = [] := rfl
        rw [hdrop, hnone, List.append_nil, decodeDigits_chunk hne hdigits hchunk, hall]

/-! ## §3. The text, read back. -/

def uint? : Cbor → Option Nat
  | .uint n => some n
  | _ => none

def bool? : Cbor → Option Bool
  | .bool b => some b
  | _ => none

def channel? : Cbor → Option CableTransportChannel
  | .uint 0 => some .webSocket
  | .uint 1 => some .ble
  | _ => none

def channels? : Cbor → Option (List CableTransportChannel)
  | .array items => items.mapM channel?
  | _ => none

/-- Values that are not known count as "ga". -/
def hintOf (name : String) : QrCodeOperationHint :=
  if name = "mc" then .makeCredential else .getAssertionRequest

/-- The fields of the map. -/
def readFields (entries : List (Cbor × Cbor)) : Option CableQrCode := do
  let publicKey ← (getBytes 0 entries).bind (fixedBytes? 33)
  let qrSecret ← (getBytes 1 entries).bind (fixedBytes? 16)
  let domains ← (getInteger 2 entries).bind uint?
  let hint ← getText 5 entries
  pure {
    publicKey
    qrSecret
    knownTunnelDomainsCount := UInt8.ofNat domains
    currentTime := ((getInteger 3 entries).bind uint?).map UInt64.ofNat
    stateAssisted := (getInteger 4 entries).bind bool?
    operationHint := hintOf hint
    transports := (getInteger 6 entries).bind channels? }

def readQrCode : Cbor → Option CableQrCode
  | .map entries => readFields entries
  | _ => none

/-- What a phone makes of a text. -/
def scan (text : String) : Option CableQrCode :=
  if text.toList.take 6 = "FIDO:/".toList then do
    let bytes ← decodeDigits (text.toList.drop 6)
    let item ← Reader.whole (Cbor.readItem 3) bytes
    readQrCode item
  else none

theorem channels?_toU8 (channels : List CableTransportChannel) :
    channels? (.array (channels.map fun channel => .uint channel.toU8.toNat)) = some channels := by
  show (channels.map _).mapM channel? = some channels
  induction channels with
  | nil => rfl
  | cons channel channels ih =>
      have hchannel : channel? (.uint channel.toU8.toNat) = some channel := by
        cases channel <;> rfl
      rw [List.map_cons, List.mapM_cons, hchannel, ih]
      rfl

theorem hintOf_name (hint : QrCodeOperationHint) : hintOf hint.name = hint := by
  cases hint <;> rfl

namespace CableQrCode

/-- A list of channels is no longer than a machine can hold. -/
def Addressable (self : CableQrCode) : Prop :=
  ∀ channels, self.transports = some channels → channels.length < 2 ^ 64

theorem fits_toCbor {self : CableQrCode} (h : self.Addressable) : self.toCbor.Fits 3 := by
  obtain ⟨⟨publicKey, hkey⟩, ⟨qrSecret, hsecret⟩, domains, time, stateAssisted, hint,
    transports⟩ := self
  have hname : (utf8 hint.name).length < 2 ^ 64 := by cases hint <;> decide
  have hdomains := domains.toNat_lt
  have htime : ∀ t ∈ time, t.toNat < 2 ^ 64 := fun t _ => t.toNat_lt
  have hchannel : ∀ channel : CableTransportChannel, channel.toU8.toNat < 2 ^ 64 := by
    intro channel
    cases channel <;> decide
  cases time <;> cases stateAssisted <;> cases transports <;>
    simp_all [toCbor, Cbor.entry?, Cbor.Fits, Addressable] <;> omega

theorem readQrCode_toCbor (self : CableQrCode) : readQrCode self.toCbor = some self := by
  obtain ⟨publicKey, qrSecret, domains, time, stateAssisted, hint, transports⟩ := self
  have hdomains : UInt8.ofNat domains.toNat = domains := UInt8.ofNat_toNat
  have htime : ∀ t : UInt64, UInt64.ofNat t.toNat = t := fun t => UInt64.ofNat_toNat
  cases time <;> cases stateAssisted <;> cases transports <;>
    simp [toCbor, readQrCode, readFields, Cbor.entry?, getBytes, getInteger, getText, uint?,
      bool?, hdomains, htime, hintOf_name, channels?_toU8]

end CableQrCode

/-- **A phone gets back from the text what the QR code says.** -/
theorem qrCode_scanned (code : CableQrCode) (h : code.Addressable) :
    (∃ digits : List Char, code.display.toList = "FIDO:/".toList ++ digits
      ∧ ∀ c ∈ digits, c.isDigit = true)
    ∧ scan code.display = some code := by
  have htext : code.display.toList = "FIDO:/".toList ++ encodeDigits code.toCbor.encode :=
    (String.toList_append ..).trans (congrArg (_ ++ ·) (String.toList_ofList ..))
  refine ⟨⟨_, htext, isDigit_encodeDigits _⟩, ?_⟩
  have htake : code.display.toList.take 6 = "FIDO:/".toList := by
    rw [htext]
    exact List.take_left' rfl
  have hdrop : code.display.toList.drop 6 = encodeDigits code.toCbor.encode := by
    rw [htext]
    exact List.drop_left' rfl
  have hitem := (Cbor.reads_encode 3 _ (CableQrCode.fits_toCbor h)).whole
  unfold scan
  rw [if_pos htake, hdrop, decodeDigits_encodeDigits]
  show (Reader.whole (Cbor.readItem 3) code.toCbor.encode).bind readQrCode = some code
  rw [hitem]
  exact CableQrCode.readQrCode_toCbor code

/-- **Every device that is created** has a code that can be shown, with the
public key of its private key. -/
theorem CableQrCodeDevice.new_eq_ok {toEncodedPoint : Bytes → Bytes} {privateKey : Bytes}
    {qrSecret : FixedBytes 16} {currentUnixTime : Option UInt64} {hint : QrCodeOperationHint}
    {stateAssisted hasStore : Bool} {transports : CableTransports} {device : CableQrCodeDevice}
    (h : CableQrCodeDevice.new toEncodedPoint privateKey qrSecret currentUnixTime hint
      stateAssisted hasStore transports = .ok device) :
    device.qrCode.Addressable ∧ device.qrCode.publicKey.val = toEncodedPoint privateKey
      ∧ device.privateKey = privateKey := by
  unfold CableQrCodeDevice.new at h
  split at h
  next => cases h
  next publicKey hkey =>
    obtain rfl := Except.ok.inj h
    refine ⟨fun channels hchannels => ?_, ?_, rfl⟩
    · cases transports with
      | cloudAssistedOnly => cases hchannels
      | cloudAssistedOrLocal =>
          obtain rfl := Option.some.inj hchannels
          decide
    · unfold fixedBytes? at hkey
      split at hkey
      next => exact congrArg Subtype.val (Option.some.inj hkey).symm
      next => cases hkey

def plainQrCode : CableQrCode where
  publicKey := ⟨2 :: List.replicate 32 0, rfl⟩
  qrSecret := ⟨List.replicate 16 7, rfl⟩
  knownTunnelDomainsCount := 2
  currentTime := none
  stateAssisted := some true
  operationHint := .makeCredential
  transports := CableTransports.cloudAssistedOrLocal.toQrField

end Libwebauthn.Transport.Cable
