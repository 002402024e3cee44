/-
  Libwebauthn.Transport.Hid.RoundTrip — the parser undoes the framing.

  One spec lemma per operation (`checkPacket`, `payloadLen`, `packets`), then
  the invariant `Awaits`, which says what a parser inside a message holds and
  which packets are still to come.  A step keeps it until the last packet;
  `packets_feed_message` is the run.
-/
import Libwebauthn.Transport.Hid.Framing
import Mathlib.Data.List.Forall2

namespace Libwebauthn.Transport.Hid

/-! ## §1. Bytes of the packet headers. -/

theorem HidCommand.tryFrom_toU8 (cmd : HidCommand) :
    HidCommand.tryFrom ((cmd.toU8 ||| PACKET_INITIAL_CMD_MASK) ^^^ PACKET_INITIAL_CMD_MASK)
      = some cmd := by
  cases cmd <;> decide

theorem HidCommand.toU8_mask_ne_zero (cmd : HidCommand) :
    (cmd.toU8 ||| PACKET_INITIAL_CMD_MASK) &&& PACKET_INITIAL_CMD_MASK ≠ 0 := by
  cases cmd <;> decide

theorem UInt32.exists_byte_ne_zero {cid : UInt32} (h : cid ≠ 0) :
    ∃ b ∈ beEncode 4 cid.toNat, b ≠ 0 := by
  by_contra hall
  push Not at hall
  have hzero : beEncode 4 cid.toNat = List.replicate 4 0 :=
    List.eq_replicate_iff.mpr ⟨beEncode_length _ _, hall⟩
  have hval : cid.toNat = 0 := by
    have hdecode : beDecode (beEncode 4 cid.toNat) = cid.toNat :=
      beDecode_beEncode_of_lt cid.toNat_lt
    rw [← hdecode, hzero]
    rfl
  exact h (UInt32.toNat_inj.mp hval)

theorem seq_mask_eq_zero {n : Nat} (h : n ≤ 127) :
    UInt8.ofNat n &&& PACKET_INITIAL_CMD_MASK = 0 := by
  have hall : ∀ m ≤ 127, UInt8.ofNat m &&& PACKET_INITIAL_CMD_MASK = 0 := by decide
  exact hall n h

theorem seq_le_max {n : Nat} (h : n ≤ 127) : ¬ UInt8.ofNat n > PACKET_CONT_SEQ_MAX := by
  have hall : ∀ m ≤ 127, ¬ UInt8.ofNat m > PACKET_CONT_SEQ_MAX := by decide
  exact hall n h

/-! ## §2. What the parser accepts. -/

namespace HidMessageParser

theorem payloadLen_eq (self : HidMessageParser) :
    self.payloadLen = (bodies self.packets).length := by
  unfold payloadLen bodies
  cases self.packets with
  | nil => rfl
  | cons initial conts => simp only [foldl_length_sub, List.length_append, List.length_drop]

theorem update_of_check {self : HidMessageParser} {packet : Bytes}
    (h : self.checkPacket packet = .ok ()) :
    self.update packet = (.ok (self.push packet).state, self.push packet) := by
  rw [update, h]

/-- A well-formed initialization packet is accepted by an empty parser. -/
theorem checkPacket_initialPacket {cid : UInt32} (hcid : cid ≠ 0) (cmd : HidCommand)
    (length : UInt16) (body : Bytes) :
    new.checkPacket (initialPacket cid cmd length body) = .ok () := by
  obtain ⟨b, hb, hb0⟩ := UInt32.exists_byte_ne_zero hcid
  have hlen : (initialPacket cid cmd length body).length = 7 + body.length := by
    simp [initialPacket]; omega
  have hbyte : (initialPacket cid cmd length body)[4]?
      = some (cmd.toU8 ||| PACKET_INITIAL_CMD_MASK) := by
    simp [initialPacket]
  have hnz : ¬ (initialPacket cid cmd length body).all (· == 0) = true := by
    rw [List.all_eq_true]
    intro hall
    exact hb0 (by simpa using hall b (List.mem_append_left _ hb))
  have hempty : new.packets = [] := rfl
  rw [checkPacket, if_neg, if_neg hnz, if_pos hempty, checkInitialization, hbyte, if_pos]
  · simpa using cmd.toU8_mask_ne_zero
  · rw [hlen]
    simp only [PACKET_INITIAL_HEADER_SIZE, PACKET_CONT_HEADER_SIZE]
    omega

/-- The next continuation packet of the same channel is accepted. -/
theorem checkPacket_contPacket {self : HidMessageParser} {initial : Bytes}
    {conts : List Bytes} (hself : self.packets = initial :: conts) {cid : UInt32}
    (hcid : cid ≠ 0) (hinit : getPrefix 4 initial = some (beEncode 4 cid.toNat))
    (hseq : conts.length ≤ 127) {body : Bytes} (hbody : body ≠ []) :
    self.checkPacket (contPacket cid (UInt8.ofNat conts.length) body) = .ok () := by
  obtain ⟨b, hb, hb0⟩ := UInt32.exists_byte_ne_zero hcid
  set packet := contPacket cid (UInt8.ofNat conts.length) body with hp
  have hlen : packet.length = 5 + body.length := by
    simp [hp, contPacket]; omega
  have hpos := List.length_pos_iff.mpr hbody
  have hcidOf : getPrefix 4 packet = some (beEncode 4 cid.toNat) := by
    have := getPrefix_append (beEncode 4 cid.toNat) (UInt8.ofNat conts.length :: body)
    rwa [beEncode_length] at this
  have hseqOf : packet[4]? = some (UInt8.ofNat conts.length) := by
    simp [hp, contPacket]
  -- a packet of a channel other than 0 is not all zeros
  have hnz : ¬ packet.all (· == 0) = true := by
    rw [List.all_eq_true]
    intro hall
    exact hb0 (by simpa using hall b (List.mem_append_left _ hb))
  have hcount : self.packets.length - 1 = conts.length := by rw [hself]; rfl
  rw [checkPacket, if_neg, if_neg hnz, if_neg (by rw [hself]; exact List.cons_ne_nil _ _),
    checkContinuation, hself]
  · simp only [List.head?_cons, Option.bind_some, hinit, hcidOf, ne_eq, not_true_eq_false,
      if_false, hseqOf, seq_mask_eq_zero hseq, List.length_cons, Nat.add_sub_cancel,
      if_neg (seq_le_max hseq)]
  · rw [hself, hlen]
    simp only [PACKET_INITIAL_HEADER_SIZE, PACKET_CONT_HEADER_SIZE, List.cons_ne_nil,
      false_and, false_or]
    omega

/-- One more continuation appends its body. -/
theorem bodies_append (initial : Bytes) (conts : List Bytes) (cid : UInt32) (seq : UInt8)
    (body : Bytes) :
    bodies (initial :: (conts ++ [contPacket cid seq body]))
      = bodies (initial :: conts) ++ body := by
  have hdrop : (contPacket cid seq body).drop PACKET_CONT_HEADER_SIZE = body := by
    simp [contPacket, PACKET_CONT_HEADER_SIZE, List.drop_append]
  simp [bodies, hdrop]

/-- The state after a push: more is needed while bodies are short. -/
theorem state_eq {self : HidMessageParser} {expected : Nat}
    (h : self.expectedBytes = some expected) :
    self.state = if expected > (bodies self.packets).length then .morePacketsExpected
      else .done := by
  simp only [state, morePacketsNeeded, h, payloadLen_eq, decide_eq_true_eq]

end HidMessageParser

/-! ## §3. What the encoder emits. -/

/-- Continuation packets for `chunks`, numbered from `seq`. -/
def numbered (cid : UInt32) (seq : Nat) (chunks : List Bytes) : List Bytes :=
  numberFrom (fun n chunk => contPacket cid (UInt8.ofNat n) chunk) seq chunks

/-- The loop succeeds while the counter stays below 128 after its last
increment, so it never uses sequence number 127. -/
theorem HidMessage.contPackets_eq (cid : UInt32) (packetSize : Nat) (chunks : List Bytes) :
    ∀ seq : Nat, seq ≤ 127 →
      HidMessage.contPackets cid packetSize (UInt8.ofNat seq) chunks
        = if seq + chunks.length ≤ 127 then .ok (numbered cid seq chunks)
          else .error (HidMessage.tooManyPackets packetSize) := by
  induction chunks with
  | nil => intro seq hseq; simp [HidMessage.contPackets, numbered, numberFrom, hseq]
  | cons chunk chunks ih =>
      intro seq hseq
      have hnext : UInt8.ofNat seq + 1 = UInt8.ofNat (seq + 1) := by simp
      have hgt : (UInt8.ofNat (seq + 1) > 0x7F) ↔ seq = 127 := by
        rw [gt_iff_lt, UInt8.lt_iff_toNat_lt, UInt8.toNat_ofNat']
        simp
        omega
      rw [HidMessage.contPackets, hnext]
      by_cases h127 : seq = 127
      · rw [if_pos (hgt.mpr h127), if_neg (by simp; omega)]
      · rw [if_neg (mt hgt.mp h127), ih (seq + 1) (by omega), List.length_cons]
        by_cases hfit : seq + 1 + chunks.length ≤ 127
        · rw [if_pos hfit, if_pos (by omega)]
          rfl
        · rw [if_neg hfit, if_neg (by omega)]
          rfl

/-- The initialization packet of a message and as many numbered continuations
as its payload takes. -/
def HidMessage.framing (msg : HidMessage) (packetSize : Nat) : List Bytes :=
  initialPacket msg.cid msg.cmd (UInt16.ofNat msg.payload.length)
      (msg.payload.take (packetSize - 7))
    :: numbered msg.cid 0 (chunksOf (packetSize - 5) (msg.payload.drop (packetSize - 7)))

theorem HidMessage.length_framing (msg : HidMessage) (packetSize : Nat) :
    (msg.framing packetSize).length
      = (chunksOf (packetSize - 5) (msg.payload.drop (packetSize - 7))).length + 1 := by
  rw [framing, List.length_cons, numbered, numberFrom_length]

/-- **What `packets` returns**: the initialization packet and numbered
continuations, at most 127 of them. -/
theorem HidMessage.packets_eq_ok_iff (msg : HidMessage) (packetSize : Nat)
    (ps : List Bytes) :
    msg.packets packetSize = .ok ps ↔
      8 ≤ packetSize ∧
      (chunksOf (packetSize - 5) (msg.payload.drop (packetSize - 7))).length ≤ 127 ∧
      ps = initialPacket msg.cid msg.cmd (UInt16.ofNat msg.payload.length)
            (msg.payload.take (packetSize - 7))
          :: numbered msg.cid 0
              (chunksOf (packetSize - 5) (msg.payload.drop (packetSize - 7))) := by
  unfold HidMessage.packets
  simp only [PACKET_INITIAL_HEADER_SIZE, PACKET_CONT_HEADER_SIZE]
  by_cases hsize : packetSize < 7 + 1
  · rw [if_pos hsize]
    constructor
    · intro h
      cases h
    · intro h
      omega
  · rw [if_neg hsize, show (0 : UInt8) = UInt8.ofNat 0 from rfl,
      HidMessage.contPackets_eq _ _ _ 0 (by omega)]
    -- the sequence numbers end at 127
    by_cases hfit : 0 + (chunksOf (packetSize - 5) (msg.payload.drop (packetSize - 7))).length
        ≤ 127
    · rw [if_pos hfit]
      simp only [Except.map, Except.ok.injEq]
      constructor
      · intro h
        exact ⟨by omega, by omega, h.symm⟩
      · intro h
        exact h.2.2.symm
    · rw [if_neg hfit]
      constructor
      · intro h
        cases h
      · intro h
        omega

/-! ## §4. Delivery, packet by packet. -/

/-- A packet as the peer reads it: as sent, or zero-padded to the report
size. -/
def Delivered (packetSize : Nat) (sent read : Bytes) : Prop :=
  read = sent ∨ read = sent ++ List.replicate (packetSize - sent.length) 0

/-- A delivered continuation is the sent one with zeros after its body, and
none when it was full. -/
theorem delivered_contPacket {packetSize : Nat} {cid : UInt32} {seq : UInt8}
    {chunk read : Bytes} (h : Delivered packetSize (contPacket cid seq chunk) read) :
    ∃ n, read = contPacket cid seq (chunk ++ List.replicate n 0) ∧
      (chunk.length + 5 = packetSize → n = 0) := by
  rcases h with hsame | hpad
  · exact ⟨0, by simpa using hsame, fun _ => rfl⟩
  · refine ⟨packetSize - (contPacket cid seq chunk).length, ?_, ?_⟩
    · rw [hpad]
      simp [contPacket]
    · intro hfull
      simp [contPacket]
      omega

theorem delivered_initialPacket {packetSize : Nat} {cid : UInt32} {cmd : HidCommand}
    {length : UInt16} {body read : Bytes}
    (h : Delivered packetSize (initialPacket cid cmd length body) read) :
    ∃ n, read = initialPacket cid cmd length (body ++ List.replicate n 0) ∧
      (body.length + 7 = packetSize → n = 0) := by
  rcases h with hsame | hpad
  · exact ⟨0, by simpa using hsame, fun _ => rfl⟩
  · refine ⟨packetSize - (initialPacket cid cmd length body).length, ?_, ?_⟩
    · rw [hpad]
      simp [initialPacket]
    · intro hfull
      simp [initialPacket]
      omega

namespace HidMessageParser

/-- Inside `msg`: `self` holds the initialization packet and the first
continuations, `reads` are the rest as the peer reads them. -/
def Awaits (msg : HidMessage) (packetSize : Nat) (self : HidMessageParser)
    (reads : List Bytes) : Prop :=
  ∃ (head : Bytes) (conts chunks : List Bytes),
    self.packets = initialPacket msg.cid msg.cmd (UInt16.ofNat msg.payload.length) head :: conts
    ∧ List.Forall₂ (Delivered packetSize) (numbered msg.cid conts.length chunks) reads
    ∧ (∀ c ∈ chunks, c ≠ []) ∧ (∀ c ∈ chunks.dropLast, c.length + 5 = packetSize)
    ∧ conts.length + chunks.length ≤ 128
    ∧ bodies self.packets ++ chunks.flatten = msg.payload

/-- All of `msg` has arrived, padding after it. -/
def Holds (msg : HidMessage) (self : HidMessageParser) : Prop :=
  ∃ (head : Bytes) (conts : List Bytes) (pad : Bytes),
    self.packets = initialPacket msg.cid msg.cmd (UInt16.ofNat msg.payload.length) head :: conts
    ∧ bodies self.packets = msg.payload ++ pad

/-- The announced length is the payload length. -/
theorem expectedBytes_initialPacket {self : HidMessageParser} {msg : HidMessage}
    (hlen : msg.payload.length ≤ 65535) {head : Bytes} {conts : List Bytes}
    (h : self.packets
      = initialPacket msg.cid msg.cmd (UInt16.ofNat msg.payload.length) head :: conts) :
    self.expectedBytes = some msg.payload.length := by
  have hval : beDecode (beEncode 2 (UInt16.ofNat msg.payload.length).toNat)
      = msg.payload.length := by
    rw [beDecode_beEncode_of_lt (UInt16.toNat_lt _), UInt16.toNat_ofNat']
    exact Nat.mod_eq_of_lt (by omega)
  simpa [expectedBytes, h, initialPacket, beEncode] using hval

/-- The next continuation of `msg` is kept, and its body counted. -/
theorem update_awaits {msg : HidMessage} (hcid : msg.cid ≠ 0)
    (hlen : msg.payload.length ≤ 65535) {packetSize : Nat} {self : HidMessageParser}
    {head : Bytes} {conts : List Bytes} {chunk read : Bytes}
    (hself : self.packets
      = initialPacket msg.cid msg.cmd (UInt16.ofNat msg.payload.length) head :: conts)
    (hread : Delivered packetSize (contPacket msg.cid (UInt8.ofNat conts.length) chunk) read)
    (hchunk : chunk ≠ []) (hseq : conts.length ≤ 127) :
    ∃ n, self.update read = (.ok (self.push read).state, self.push read)
      ∧ (self.push read).packets
          = initialPacket msg.cid msg.cmd (UInt16.ofNat msg.payload.length) head
            :: (conts ++ [read])
      ∧ bodies (self.push read).packets
          = bodies self.packets ++ chunk ++ List.replicate n 0
      ∧ (chunk.length + 5 = packetSize → n = 0)
      ∧ (self.push read).state
          = if msg.payload.length > (bodies (self.push read).packets).length
            then .morePacketsExpected else .done := by
  obtain ⟨n, rfl, hn⟩ := delivered_contPacket hread
  set read := contPacket msg.cid (UInt8.ofNat conts.length) (chunk ++ List.replicate n 0)
  -- the channel id of the first packet is the one of this packet
  have hinit : getPrefix 4
      (initialPacket msg.cid msg.cmd (UInt16.ofNat msg.payload.length) head)
        = some (beEncode 4 msg.cid.toNat) := by
    simpa [initialPacket] using getPrefix_append (beEncode 4 msg.cid.toNat)
      ((msg.cmd.toU8 ||| PACKET_INITIAL_CMD_MASK)
        :: (beEncode 2 (UInt16.ofNat msg.payload.length).toNat ++ head))
  have hcheck : self.checkPacket read = .ok () :=
    checkPacket_contPacket hself hcid hinit hseq (by simp [hchunk])
  have hpush : (self.push read).packets
      = initialPacket msg.cid msg.cmd (UInt16.ofNat msg.payload.length) head
        :: (conts ++ [read]) := by
    rw [push, hself, List.cons_append]
  refine ⟨n, update_of_check hcheck, hpush, ?_, hn, ?_⟩
  · rw [hpush, hself, bodies_append, List.append_assoc]
  · exact state_eq (expectedBytes_initialPacket hlen hpush)

/-- **Step lemma**: a continuation that others follow asks for more. -/
theorem update_awaits_more {msg : HidMessage} (hcid : msg.cid ≠ 0)
    (hlen : msg.payload.length ≤ 65535) {packetSize : Nat} (self : HidMessageParser)
    (read next : Bytes) (reads : List Bytes)
    (h : Awaits msg packetSize self (read :: next :: reads)) :
    ∃ self', self.update read = (.ok .morePacketsExpected, self')
      ∧ Awaits msg packetSize self' (next :: reads) := by
  obtain ⟨head, conts, chunks, hself, hreads, hne, hfull, hcount, hsum⟩ := h
  match chunks with
  | [] => cases hreads
  | [_] =>
      obtain ⟨_, _, _, hnil, _⟩ := List.forall₂_cons_left_iff.mp hreads
      cases hnil
      simp_all
  | chunk :: chunk' :: chunks =>
      obtain ⟨_, _, hread, hrest, heq⟩ := List.forall₂_cons_left_iff.mp hreads
      obtain ⟨rfl, rfl⟩ := List.cons.inj heq
      rw [List.length_cons, List.length_cons] at hcount
      obtain ⟨n, hupdate, hpush, hbodies, hn, hstate⟩ :=
        update_awaits hcid hlen hself hread (hne chunk (by simp)) (by omega)
      -- a full piece has no padding, so its bytes are the next ones of the payload
      have hn0 : n = 0 := hn (hfull chunk (by simp))
      rw [hn0, List.replicate_zero, List.append_nil] at hbodies
      have hnext := List.length_pos_iff.mpr (hne chunk' (by simp))
      have hshort : msg.payload.length > (bodies (self.push read).packets).length := by
        rw [hbodies, ← hsum]
        simp only [List.length_append, List.flatten_cons]
        omega
      rw [hstate, if_pos hshort] at hupdate
      refine ⟨_, hupdate, head, conts ++ [read], chunk' :: chunks, hpush, ?_,
        fun c hc => hne c (List.mem_cons_of_mem _ hc), ?_, ?_, ?_⟩
      · rw [List.length_append]
        exact hrest
      · intro c hc
        refine hfull c ?_
        rw [List.dropLast_cons_of_ne_nil (List.cons_ne_nil _ _)]
        exact List.mem_cons_of_mem _ hc
      · simp only [List.length_append, List.length_cons, List.length_nil]
        omega
      · rw [hbodies, ← hsum, List.flatten_cons, List.append_assoc]
        rfl

/-- **Step lemma**: the last continuation completes the message. -/
theorem update_awaits_done {msg : HidMessage} (hcid : msg.cid ≠ 0)
    (hlen : msg.payload.length ≤ 65535) {packetSize : Nat} (self : HidMessageParser)
    (read : Bytes) (h : Awaits msg packetSize self [read]) :
    ∃ self', self.update read = (.ok .done, self') ∧ Holds msg self' := by
  obtain ⟨head, conts, chunks, hself, hreads, hne, _, hcount, hsum⟩ := h
  match chunks with
  | [] => cases hreads
  | chunk :: _ :: _ =>
      obtain ⟨_, _, _, hrest, heq⟩ := List.forall₂_cons_left_iff.mp hreads
      obtain ⟨_, rfl⟩ := List.cons.inj heq
      cases hrest
  | [chunk] =>
      obtain ⟨_, _, hread, _, heq⟩ := List.forall₂_cons_left_iff.mp hreads
      obtain ⟨rfl, _⟩ := List.cons.inj heq
      rw [List.length_singleton] at hcount
      obtain ⟨n, hupdate, hpush, hbodies, _, hstate⟩ :=
        update_awaits hcid hlen hself hread (hne chunk (by simp)) (by omega)
      have hpayload : bodies (self.push read).packets
          = msg.payload ++ List.replicate n 0 := by
        rw [hbodies, ← hsum, List.flatten_cons, List.flatten_nil, List.append_nil]
      have henough : ¬ msg.payload.length > (bodies (self.push read).packets).length := by
        rw [hpayload, List.length_append]
        omega
      rw [hstate, if_neg henough] at hupdate
      exact ⟨_, hupdate, head, conts ++ [read], List.replicate n 0, hpush, hpayload⟩

/-! ## §5. The round trip. -/

/-- What `message` reads off the header of the first packet. -/
theorem message_of_header {self : HidMessageParser} {cid size body : Bytes} {cmdByte : UInt8}
    {conts : List Bytes} (hself : self.packets = (cid ++ (cmdByte :: (size ++ body))) :: conts)
    (hcid : cid.length = 4) (hsize : size.length = 2) (hstate : self.morePacketsNeeded = false) :
    self.message
      = match HidCommand.tryFrom (cmdByte ^^^ PACKET_INITIAL_CMD_MASK) with
        | none => .error ⟨.invalidData,
            s!"Invalid HID message command: {cmdByte ^^^ PACKET_INITIAL_CMD_MASK}"⟩
        | some cmd => .ok ⟨UInt32.ofNat (beDecode cid), cmd,
            (bodies self.packets).take (beDecode size)⟩ := by
  -- the three reads of the header take it apart as it was written
  have hcidRead : readExact 4 (cid ++ (cmdByte :: (size ++ body)))
      = .ok (cid, cmdByte :: (size ++ body)) := by
    rw [← hcid]
    exact readExact_append cid (cmdByte :: (size ++ body))
  have hcmdRead : readExact 1 (cmdByte :: (size ++ body)) = .ok ([cmdByte], size ++ body) :=
    readExact_append [cmdByte] (size ++ body)
  have hsizeRead : readExact 2 (size ++ body) = .ok (size, body) := by
    rw [← hsize]
    exact readExact_append size body
  have hbyte : UInt8.ofNat (beDecode [cmdByte]) = cmdByte := by
    simp [beDecode, beStep]
  rw [message, hstate, hself]
  simp only [Bool.false_eq_true, if_false, bind, Except.bind]
  rw [hcidRead]
  simp only [hcmdRead, hbyte]
  cases HidCommand.tryFrom (cmdByte ^^^ PACKET_INITIAL_CMD_MASK) with
  | none => rfl
  | some cmd => simp only [hsizeRead]

/-- Reading the header of an initialization packet back. -/
theorem message_of_initialPacket {self : HidMessageParser} {msg : HidMessage}
    (hlen : msg.payload.length ≤ 65535) {body pad : Bytes} {conts : List Bytes}
    (hself : self.packets
      = initialPacket msg.cid msg.cmd (UInt16.ofNat msg.payload.length) body :: conts)
    (hstate : self.morePacketsNeeded = false)
    (hbodies : bodies self.packets = msg.payload ++ pad) :
    self.message = .ok msg := by
  have htry : HidCommand.tryFrom
      ((msg.cmd.toU8 ||| PACKET_INITIAL_CMD_MASK) ^^^ PACKET_INITIAL_CMD_MASK)
        = some msg.cmd :=
    msg.cmd.tryFrom_toU8
  have hcidVal : UInt32.ofNat (beDecode (beEncode 4 msg.cid.toNat)) = msg.cid := by
    rw [beDecode_beEncode_of_lt msg.cid.toNat_lt]
    simp
  have hlenVal : beDecode (beEncode 2 (UInt16.ofNat msg.payload.length).toNat)
      = msg.payload.length := by
    rw [beDecode_beEncode_of_lt (UInt16.toNat_lt _), UInt16.toNat_ofNat']
    exact Nat.mod_eq_of_lt (by omega)
  rw [message_of_header hself (beEncode_length _ _) (beEncode_length _ _) hstate, htry]
  simp only [hcidVal, hlenVal, hbodies, List.take_left]

theorem message_of_holds {self : HidMessageParser} {msg : HidMessage}
    (hlen : msg.payload.length ≤ 65535) (h : Holds msg self) : self.message = .ok msg := by
  obtain ⟨head, conts, pad, hself, hbodies⟩ := h
  refine message_of_initialPacket hlen hself ?_ hbodies
  rw [morePacketsNeeded, expectedBytes_initialPacket hlen hself]
  simp [payloadLen_eq, hbodies]

/-- The initialization packet of a message: either it holds all of it, or
the continuations are awaited. -/
theorem update_initialPacket {msg : HidMessage} {packetSize : Nat} (hcid : msg.cid ≠ 0)
    (hlen : msg.payload.length ≤ 65535) (hsize : 8 ≤ packetSize)
    (hcount : (msg.framing packetSize).length ≤ 129) {read : Bytes} {reads : List Bytes}
    (hreads : List.Forall₂ (Delivered packetSize) (msg.framing packetSize) (read :: reads)) :
    (reads = [] ∧ ∃ self', new.update read = (.ok .done, self') ∧ Holds msg self')
    ∨ (reads ≠ [] ∧ ∃ self', new.update read = (.ok .morePacketsExpected, self')
        ∧ Awaits msg packetSize self' reads) := by
  rw [HidMessage.length_framing] at hcount
  obtain ⟨_, _, hread, hrest, heq⟩ := List.forall₂_cons_left_iff.mp hreads
  obtain ⟨rfl, rfl⟩ := List.cons.inj heq
  obtain ⟨n, rfl, hn⟩ := delivered_initialPacket hread
  set head := msg.payload.take (packetSize - 7) with hhead
  set chunks := chunksOf (packetSize - 5) (msg.payload.drop (packetSize - 7)) with hchunks
  set read := initialPacket msg.cid msg.cmd (UInt16.ofNat msg.payload.length)
    (head ++ List.replicate n 0) with hreadDef
  have hpos : 0 < packetSize - 5 := by omega
  have hpackets : (push new read).packets = [read] := rfl
  have hbodies : bodies (push new read).packets = head ++ List.replicate n 0 := by
    rw [hpackets]
    simp [bodies, hreadDef, initialPacket, beEncode, PACKET_INITIAL_HEADER_SIZE]
  -- nothing of the payload is lost between the head and the pieces
  have hflat : head ++ chunks.flatten = msg.payload := by
    rw [hchunks, chunksOf_flatten hpos, hhead, List.take_append_drop]
  have hupdate := update_of_check
    (checkPacket_initialPacket hcid msg.cmd (UInt16.ofNat msg.payload.length)
      (head ++ List.replicate n 0))
  rw [← hreadDef, state_eq (expectedBytes_initialPacket hlen hpackets), hbodies] at hupdate
  by_cases hnil : chunks = []
  · -- everything fits in the initialization packet
    left
    rw [hnil] at hrest hflat
    cases hrest
    rw [List.flatten_nil, List.append_nil] at hflat
    have henough : ¬ msg.payload.length > (head ++ List.replicate n 0).length := by
      rw [List.length_append, hflat]
      omega
    rw [if_neg henough] at hupdate
    exact ⟨rfl, _, hupdate, _, [], List.replicate n 0, hpackets, by rw [hbodies, hflat]⟩
  · -- the head is full, so the initialization packet has no padding
    right
    have hfullHead : head.length = packetSize - 7 := by
      have hlt : packetSize - 7 < msg.payload.length := by
        by_contra hle
        exact hnil (by rw [hchunks, List.drop_eq_nil_of_le (Nat.le_of_not_lt hle), chunksOf_nil])
      rw [hhead, List.length_take]
      omega
    have hn0 : n = 0 := hn (by omega)
    rw [hn0, List.replicate_zero, List.append_nil] at hbodies hupdate
    obtain ⟨c, cs, hcs⟩ := List.exists_cons_of_ne_nil hnil
    have hshort : msg.payload.length > head.length := by
      have hc : c ≠ [] := chunksOf_ne_nil hpos _ c (by rw [← hchunks, hcs]; simp)
      have hcpos := List.length_pos_iff.mpr hc
      rw [← hflat, hcs]
      simp only [List.length_append, List.flatten_cons]
      omega
    rw [if_pos hshort] at hupdate
    refine ⟨?_, _, hupdate, _, [], chunks, hpackets, hrest, chunksOf_ne_nil hpos _, ?_, ?_, ?_⟩
    · intro h
      rw [h, hcs] at hrest
      cases hrest
    · intro c hc
      have := chunksOf_full hpos _ c hc
      omega
    · rw [List.length_nil]
      omega
    · rw [hbodies, hflat]

/-- A framing of at most 128 continuations, one more than the encoder makes,
takes a fresh parser to `done` on its last packet. -/
theorem framing_feed_message (msg : HidMessage) (packetSize : Nat) (reads : List Bytes)
    (hcid : msg.cid ≠ 0) (hlen : msg.payload.length ≤ 65535) (hsize : 8 ≤ packetSize)
    (hcount : (msg.framing packetSize).length ≤ 129)
    (hreads : List.Forall₂ (Delivered packetSize) (msg.framing packetSize) reads) :
    (new.feedPackets reads).1
        = List.replicate ((msg.framing packetSize).length - 1) (.ok .morePacketsExpected)
          ++ [.ok .done]
      ∧ (new.feedPackets reads).2.message = .ok msg := by
  have hlengths : (msg.framing packetSize).length = reads.length := hreads.length_eq
  rw [feedPackets, hlengths]
  cases reads with
  | nil => cases hreads
  | cons read reads =>
      rcases update_initialPacket hcid hlen hsize hcount hreads with
        ⟨hnil, self', hupdate, hholds⟩ | ⟨hne, self', hupdate, hawaits⟩
      · rw [hnil, feed_cons hupdate]
        exact ⟨rfl, message_of_holds hlen hholds⟩
      · obtain ⟨houts, hholds⟩ := feed_to_last (Awaits msg packetSize) (Holds msg)
          (update_awaits_more hcid hlen) (update_awaits_done hcid hlen) reads self' hne hawaits
        rw [feed_cons hupdate]
        refine ⟨?_, message_of_holds hlen hholds⟩
        obtain ⟨r, rs, rfl⟩ := List.exists_cons_of_ne_nil hne
        rw [houts]
        rfl

/-- **HID framing round trip.**  The packets of a message, each as sent or
zero-padded to the packet size, take a fresh parser to `done` on the last
packet and not before, and it then holds that message. -/
theorem packets_feed_message (msg : HidMessage) (packetSize : Nat) (ps reads : List Bytes)
    (hcid : msg.cid ≠ 0) (hlen : msg.payload.length ≤ 65535)
    (hps : msg.packets packetSize = .ok ps)
    (hreads : List.Forall₂ (Delivered packetSize) ps reads) :
    (new.feedPackets reads).1
        = List.replicate (ps.length - 1) (.ok .morePacketsExpected) ++ [.ok .done]
      ∧ (new.feedPackets reads).2.message = .ok msg := by
  obtain ⟨hsize, hcount, hframing⟩ := (msg.packets_eq_ok_iff packetSize ps).mp hps
  have hps' : ps = msg.framing packetSize := hframing
  rw [hps'] at hreads ⊢
  refine framing_feed_message msg packetSize reads hcid hlen hsize ?_ hreads
  rw [HidMessage.length_framing]
  omega

/-- The eight-byte message of packet size 8, its last packet padded. -/
theorem packets_feed_message_eight :
    let msg : HidMessage := ⟨0xC0C1C2C3, .msg, [1, 2, 3, 4, 5, 6, 7, 8]⟩
    let reads : List Bytes :=
      [[0xC0, 0xC1, 0xC2, 0xC3, 0x83, 0x00, 0x08, 0x01],
       [0xC0, 0xC1, 0xC2, 0xC3, 0x00, 0x02, 0x03, 0x04],
       [0xC0, 0xC1, 0xC2, 0xC3, 0x01, 0x05, 0x06, 0x07],
       [0xC0, 0xC1, 0xC2, 0xC3, 0x02, 0x08, 0x00, 0x00]]
    (new.feedPackets reads).1
        = List.replicate 3 (.ok .morePacketsExpected) ++ [.ok .done]
      ∧ (new.feedPackets reads).2.message = .ok msg :=
  packets_feed_message ⟨0xC0C1C2C3, .msg, [1, 2, 3, 4, 5, 6, 7, 8]⟩ 8
    [[0xC0, 0xC1, 0xC2, 0xC3, 0x83, 0x00, 0x08, 0x01],
     [0xC0, 0xC1, 0xC2, 0xC3, 0x00, 0x02, 0x03, 0x04],
     [0xC0, 0xC1, 0xC2, 0xC3, 0x01, 0x05, 0x06, 0x07],
     [0xC0, 0xC1, 0xC2, 0xC3, 0x02, 0x08]] _ (by decide) (by decide) (by rfl)
    (.cons (.inl rfl) (.cons (.inl rfl) (.cons (.inl rfl) (.cons (.inr rfl) .nil))))

end HidMessageParser

end Libwebauthn.Transport.Hid
