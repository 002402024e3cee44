/-
  Libwebauthn.Transport.Hid.Capacity — how much a HID message can hold.

  The length field has 16 bits and a parser takes sequence numbers 0 to 127,
  so the longest payload is `min 65535 (capacity packetSize 128)`.  The
  encoder tests its counter after the increment, so it stops one packet
  earlier, and casts the length without a test.

    • `parser_accepts_iff` — the payloads a parser can be brought to hold;
    • `packets_ok_iff` — the payloads the encoder frames;
    • `packets_exact_iff` — when the encoder does what the parser can read.
-/
import Libwebauthn.Transport.Hid.Soundness

namespace Libwebauthn.Transport.Hid

/-! ## §1. Room in packets of one size. -/

/-- The payload bytes of an initialization packet and `conts` continuations,
all of them full. -/
def capacity (packetSize conts : Nat) : Nat :=
  (packetSize - PACKET_INITIAL_HEADER_SIZE) + conts * (packetSize - PACKET_CONT_HEADER_SIZE)

theorem capacity_mono (packetSize : Nat) {m n : Nat} (h : m ≤ n) :
    capacity packetSize m ≤ capacity packetSize n := by
  unfold capacity
  exact Nat.add_le_add_left (Nat.mul_le_mul_right _ h) _

/-- `conts` continuations are enough exactly for the payloads within their
capacity. -/
theorem HidMessage.chunks_length_le_iff (msg : HidMessage) {packetSize : Nat}
    (hsize : 8 ≤ packetSize) (conts : Nat) :
    (chunksOf (packetSize - 5) (msg.payload.drop (packetSize - 7))).length ≤ conts
      ↔ msg.payload.length ≤ capacity packetSize conts := by
  rw [chunksOf_length_le_iff (by omega), List.length_drop]
  simp only [capacity, PACKET_INITIAL_HEADER_SIZE, PACKET_CONT_HEADER_SIZE]
  omega

/-- No packet of a framing is longer than the packet size. -/
theorem HidMessage.length_of_mem_framing (msg : HidMessage) {packetSize : Nat}
    (hsize : 8 ≤ packetSize) {packet : Bytes} (h : packet ∈ msg.framing packetSize) :
    packet.length ≤ packetSize := by
  rcases List.mem_cons.mp h with hinit | hcont
  · rw [hinit]
    simp [initialPacket]
    omega
  · obtain ⟨i, hi⟩ := List.mem_iff_getElem?.mp hcont
    rw [numbered, numberFrom_getElem?, Option.map_eq_some_iff] at hi
    obtain ⟨chunk, hchunk, hpacket⟩ := hi
    have hshort : chunk.length ≤ packetSize - 5 :=
      chunksOf_length_le (by omega) _ chunk (List.mem_of_getElem? hchunk)
    rw [← hpacket]
    simp [contPacket]
    omega

namespace HidMessageParser

/-! ## §2. What a parser can hold. -/

/-- The bodies of packets of one size fit their capacity. -/
theorem length_bodies_le {packetSize : Nat} {initial : Bytes} {conts : List Bytes}
    (hinit : initial.length ≤ packetSize) (hconts : ∀ p ∈ conts, p.length ≤ packetSize) :
    (bodies (initial :: conts)).length ≤ capacity packetSize conts.length := by
  have hrest : (conts.flatMap (List.drop PACKET_CONT_HEADER_SIZE)).length
      ≤ conts.length * (packetSize - PACKET_CONT_HEADER_SIZE) := by
    induction conts with
    | nil => simp
    | cons p conts ih =>
        have hp := hconts p (List.mem_cons_self ..)
        have htail := ih fun q hq => hconts q (List.mem_cons_of_mem _ hq)
        rw [List.flatMap_cons, List.length_append, List.length_drop, List.length_cons,
          Nat.succ_mul]
        omega
  rw [bodies, capacity, List.length_append, List.length_drop]
  omega

/-- What is accepted of a run is among the packets fed. -/
theorem accepted_subset (outs : List (Except IoError HidMessageParserState)) :
    ∀ packets : List Bytes, accepted outs packets ⊆ packets := by
  induction outs with
  | nil => intro packets; simp [accepted]
  | cons out outs ih =>
      intro packets
      cases packets with
      | nil => cases out <;> simp [accepted]
      | cons packet packets =>
          cases out with
          | ok state => exact List.cons_subset_cons packet (ih packets)
          | error e => exact List.subset_cons_of_subset packet (ih packets)

/-- A message held in packets of one size is within the length field and the
sequence numbers. -/
theorem length_le_of_message {packetSize : Nat} {ps : List Bytes} (hheld : Held ps)
    (hshort : ∀ p ∈ ps, p.length ≤ packetSize) {msg : HidMessage}
    (hmessage : message ⟨ps⟩ = .ok msg) :
    msg.payload.length ≤ min 65535 (capacity packetSize 128) := by
  rcases hheld with rfl | ⟨cid, hchained⟩
  · cases hmessage
  obtain ⟨initial, conts, rfl⟩ := List.exists_cons_of_ne_nil hchained.ne_nil
  obtain ⟨c, b, l, body, hc, hl, rfl⟩ := exists_header hchained.isInitial.1.long
  obtain ⟨_, hlength, _, hbefore⟩ := header_of_message hc hl hmessage
  have hfield : beDecode l < 65536 := by
    have := beDecode_lt l
    rwa [hl] at this
  have hcount : conts.length ≤ 128 := by
    have := hchained.length_le
    rw [List.length_cons] at this
    omega
  have hroom := length_bodies_le (hshort _ (List.mem_cons_self ..))
    fun p hp => hshort p (List.mem_cons_of_mem _ hp)
  have hle := (hbefore.length_le.trans hroom).trans (capacity_mono packetSize hcount)
  omega

/-- **What a parser can be brought to hold** in packets of one size: every
payload within the length field and 128 continuations, and no other. -/
theorem parser_accepts_iff (msg : HidMessage) {packetSize : Nat} (hcid : msg.cid ≠ 0)
    (hsize : 8 ≤ packetSize) :
    (∃ ps, (∀ p ∈ ps, p.length ≤ packetSize) ∧ (new.feedPackets ps).2.message = .ok msg)
      ↔ msg.payload.length ≤ min 65535 (capacity packetSize 128) := by
  constructor
  · intro h
    obtain ⟨ps, hshort, hmessage⟩ := h
    obtain ⟨hpackets, hheld⟩ := feed_accepted ps [] (.inl rfl)
    refine length_le_of_message hheld ?_ hmessage
    intro p hp
    rw [hpackets, List.nil_append] at hp
    exact hshort p (accepted_subset _ ps hp)
  · intro hfits
    have hcount : (msg.framing packetSize).length ≤ 129 := by
      rw [msg.length_framing]
      have := (msg.chunks_length_le_iff hsize 128).mpr (by omega)
      omega
    have hsent : List.Forall₂ (Delivered packetSize) (msg.framing packetSize)
        (msg.framing packetSize) :=
      List.forall₂_same.mpr fun p _ => .inl rfl
    exact ⟨msg.framing packetSize, fun p hp => msg.length_of_mem_framing hsize hp,
      (framing_feed_message msg packetSize _ hcid (by omega) hsize hcount hsent).2⟩

end HidMessageParser

/-! ## §3. What the encoder frames. -/

namespace HidMessage

/-- The encoder goes up to 127 continuations. -/
theorem packets_ok_iff (msg : HidMessage) {packetSize : Nat} (hsize : 8 ≤ packetSize) :
    (∃ ps, msg.packets packetSize = .ok ps)
      ↔ msg.payload.length ≤ capacity packetSize 127 := by
  rw [← msg.chunks_length_le_iff hsize 127]
  constructor
  · intro h
    obtain ⟨ps, hps⟩ := h
    exact ((msg.packets_eq_ok_iff packetSize ps).mp hps).2.1
  · intro hcount
    exact ⟨_, (msg.packets_eq_ok_iff packetSize _).mpr ⟨hsize, hcount, rfl⟩⟩

/-- The length field of what it emits is the length modulo 2^16. -/
theorem expectedBytes_packets (msg : HidMessage) {packetSize : Nat} {ps : List Bytes}
    (hps : msg.packets packetSize = .ok ps) :
    HidMessageParser.expectedBytes ⟨ps⟩ = some (msg.payload.length % 65536) := by
  obtain ⟨_, _, hframing⟩ := (msg.packets_eq_ok_iff packetSize ps).mp hps
  have hvalue : beDecode (beEncode 2 (UInt16.ofNat msg.payload.length).toNat)
      = msg.payload.length % 65536 := by
    rw [beDecode_beEncode_of_lt (UInt16.toNat_lt _), UInt16.toNat_ofNat']
  have hread := HidMessageParser.expectedBytes_of_header
    (show (⟨ps⟩ : HidMessageParser).packets = _ from hframing)
    (beEncode_length 4 msg.cid.toNat) (beEncode_length 2 _)
  rw [hread, hvalue]

/-- What the encoder owes the parser: it frames the payloads that fit, and
announces their length. -/
def Exact (msg : HidMessage) (packetSize : Nat) : Prop :=
  ((∃ ps, msg.packets packetSize = .ok ps)
      ↔ msg.payload.length ≤ min 65535 (capacity packetSize 128))
    ∧ ∀ ps, msg.packets packetSize = .ok ps →
        HidMessageParser.expectedBytes ⟨ps⟩ = some msg.payload.length

/-- **When the encoder is exact.**  It is not for the payloads that need the
128th continuation, and not for those longer than the length field that
127 continuations hold. -/
theorem packets_exact_iff (msg : HidMessage) (packetSize : Nat) (hsize : 8 ≤ packetSize) :
    msg.Exact packetSize
      ↔ ¬ (capacity packetSize 127 < msg.payload.length
            ∧ msg.payload.length ≤ min 65535 (capacity packetSize 128))
          ∧ ¬ (65535 < msg.payload.length
            ∧ msg.payload.length ≤ capacity packetSize 127) := by
  have hmono : capacity packetSize 127 ≤ capacity packetSize 128 :=
    capacity_mono packetSize (by omega)
  unfold Exact
  rw [msg.packets_ok_iff hsize]
  constructor
  · intro h
    obtain ⟨hiff, _⟩ := h
    constructor
    · intro hlast
      have := hiff.mpr hlast.2
      omega
    · intro hlong
      have := hiff.mp hlong.2
      omega
  · intro h
    obtain ⟨hlast, hlong⟩ := h
    refine ⟨by omega, fun ps hps => ?_⟩
    have hfits := (msg.packets_ok_iff hsize).mp ⟨ps, hps⟩
    rw [msg.expectedBytes_packets hps, Nat.mod_eq_of_lt (by omega)]

/-- 383 bytes in packets of eight need 128 continuations, which the parser
takes and the encoder refuses. -/
theorem packets_not_exact :
    ¬ HidMessage.Exact ⟨0xC0C1C2C3, .msg, List.replicate 383 0⟩ 8 := by
  intro h
  obtain ⟨ps, hps⟩ := h.1.mpr (by rw [List.length_replicate]; decide)
  have hfits := (packets_ok_iff _ (by decide)).mp ⟨ps, hps⟩
  rw [List.length_replicate] at hfits
  exact absurd hfits (by decide)

/-- 382 bytes fill an initial packet of eight bytes and 127 continuations. -/
theorem packets_exact_full : HidMessage.Exact ⟨0xC0C1C2C3, .msg, List.replicate 382 0⟩ 8 :=
  (packets_exact_iff _ 8 (by decide)).mpr (by rw [List.length_replicate]; decide)

end HidMessage

end Libwebauthn.Transport.Hid
