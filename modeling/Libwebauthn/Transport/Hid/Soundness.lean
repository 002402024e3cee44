/-
  Libwebauthn.Transport.Hid.Soundness — what the parser makes of any packets.

  The packets need not come from a message: some are rejected, and the rest
  are what the parser holds (`feed_accepted`).  `ParserSound` is the
  contract over every such run: a rejected packet changes nothing, a message
  is made of one chain of packets, and a complete message stays what it is.
-/
import Libwebauthn.Transport.Hid.Wire

namespace Libwebauthn.Transport.Hid

namespace HidMessageParser

/-! ## §1. Accepted packets. -/

/-- The packets of a run that `update` did not reject. -/
def accepted : List (Except IoError HidMessageParserState) → List Bytes → List Bytes
  | .ok _ :: outs, packet :: packets => packet :: accepted outs packets
  | .error _ :: outs, _ :: packets => accepted outs packets
  | _, _ => []

/-- An `update` that fails leaves the parser alone. -/
theorem update_error {self next : HidMessageParser} {packet : Bytes} {e : IoError}
    (h : self.update packet = (.error e, next)) : next = self := by
  unfold update at h
  cases hcheck : self.checkPacket packet with
  | ok u =>
      rw [hcheck] at h
      cases h
  | error e' =>
      rw [hcheck] at h
      exact (Prod.mk.inj h).2.symm

/-- **Run lemma**: the parser holds the accepted packets, chained. -/
theorem feed_accepted (packets : List Bytes) :
    ∀ held, Held held →
      (feed update ⟨held⟩ packets).2.packets
          = held ++ accepted (feed update ⟨held⟩ packets).1 packets
        ∧ Held (feed update ⟨held⟩ packets).2.packets := by
  induction packets with
  | nil =>
      intro held hheld
      exact ⟨(List.append_nil held).symm, hheld⟩
  | cons packet packets ih =>
      intro held hheld
      rcases update_held hheld packet with ⟨hnext, hupdate⟩ | ⟨_, e, hupdate⟩
      · obtain ⟨hpackets, hheld'⟩ := ih _ hnext
        rw [feed_cons hupdate]
        refine ⟨?_, hheld'⟩
        rw [hpackets, accepted, List.append_assoc]
        rfl
      · rw [feed_cons hupdate]
        exact ih held hheld

/-! ## §2. A complete message stays. -/

theorem bodies_snoc (initial : Bytes) (conts : List Bytes) (packet : Bytes) :
    bodies (initial :: (conts ++ [packet]))
      = bodies (initial :: conts) ++ packet.drop PACKET_CONT_HEADER_SIZE := by
  simp [bodies]

/-- **Step lemma**: one packet more, and the same message. -/
theorem message_snoc {ps : List Bytes} (hheld : Held ps)
    (hdone : morePacketsNeeded ⟨ps⟩ = false) (packet : Bytes) :
    morePacketsNeeded ⟨ps ++ [packet]⟩ = false
      ∧ message ⟨ps ++ [packet]⟩ = message ⟨ps⟩ := by
  rcases hheld with rfl | ⟨cid, hchained⟩
  · cases hdone
  obtain ⟨initial, conts, rfl⟩ := List.exists_cons_of_ne_nil hchained.ne_nil
  obtain ⟨c, b, l, body, hc, hl, rfl⟩ := exists_header hchained.isInitial.1.long
  have hnext : (⟨(c ++ (b :: (l ++ body))) :: conts ++ [packet]⟩ : HidMessageParser).packets
      = (c ++ (b :: (l ++ body))) :: (conts ++ [packet]) := rfl
  have henough : beDecode l ≤ (bodies ((c ++ (b :: (l ++ body))) :: conts)).length := by
    rw [morePacketsNeeded, expectedBytes_of_header rfl hc hl, payloadLen_eq] at hdone
    simpa using hdone
  have hdone' : morePacketsNeeded ⟨(c ++ (b :: (l ++ body))) :: conts ++ [packet]⟩ = false := by
    rw [morePacketsNeeded, expectedBytes_of_header hnext hc hl, payloadLen_eq, hnext, bodies_snoc]
    simp only [List.length_append, gt_iff_lt, decide_eq_false_iff_not, Nat.not_lt]
    omega
  refine ⟨hdone', ?_⟩
  rw [message_of_header hnext hc hl hdone', message_of_header rfl hc hl hdone, hnext, bodies_snoc,
    List.take_append_of_le_length henough]

/-- **Run lemma**: whatever follows a complete message, it stays the same. -/
theorem message_feed (packets : List Bytes) :
    ∀ held, Held held → morePacketsNeeded ⟨held⟩ = false →
      (feed update ⟨held⟩ packets).2.message = message ⟨held⟩ := by
  induction packets with
  | nil =>
      intro held _ _
      rfl
  | cons packet packets ih =>
      intro held hheld hdone
      rcases update_held hheld packet with ⟨hnext, hupdate⟩ | ⟨_, e, hupdate⟩
      · obtain ⟨hdone', hmessage⟩ := message_snoc hheld hdone packet
        rw [feed_cons hupdate]
        exact (ih _ hnext hdone').trans hmessage
      · rw [feed_cons hupdate]
        exact ih held hheld hdone

/-- A parser that answered `done` once is complete. -/
theorem complete_of_done (packets : List Bytes) :
    ∀ held, Held held → .ok .done ∈ (feed update ⟨held⟩ packets).1 →
      ∃ ps qs more, packets = qs ++ more ∧ (feed update ⟨held⟩ qs).2 = ⟨ps⟩ ∧ Held ps
        ∧ morePacketsNeeded ⟨ps⟩ = false := by
  induction packets with
  | nil =>
      intro held _ h
      cases h
  | cons packet packets ih =>
      intro held hheld h
      rcases update_held hheld packet with ⟨hnext, hupdate⟩ | ⟨_, e, hupdate⟩
      · rw [feed_cons hupdate] at h
        rcases List.mem_cons.mp h with hhead | htail
        · refine ⟨held ++ [packet], [packet], packets, rfl,
            by rw [feed_cons hupdate]; rfl, hnext, ?_⟩
          by_contra hmore
          rw [state, if_pos (by simpa using hmore)] at hhead
          cases hhead
        · obtain ⟨ps, qs, more, rfl, hrun, hps, hdone⟩ := ih _ hnext htail
          exact ⟨ps, packet :: qs, more, rfl, by rw [feed_cons hupdate]; exact hrun, hps, hdone⟩
      · rw [feed_cons hupdate] at h
        rcases List.mem_cons.mp h with hhead | htail
        · cases hhead
        · obtain ⟨ps, qs, more, rfl, hrun, hps, hdone⟩ := ih held hheld htail
          exact ⟨ps, packet :: qs, more, rfl, by rw [feed_cons hupdate]; exact hrun, hps, hdone⟩

/-! ## §3. The contract. -/

/-- One initialization packet and its continuations, in order, that hold the
message: the declared length is in bytes 5 and 6 of the first one. -/
structure MadeOf (message : HidMessage) (initial : Bytes) (conts : List Bytes) : Prop where
  first : IsInitial initial
  continuations : ∀ i packet, conts[i]? = some packet → IsCont (cidBytes initial) i packet
  channel : beEncode 4 message.cid.toNat = cidBytes initial
  declared : message.payload.length = beDecode ((initial.drop 5).take 2)
  payload : message.payload <+: bodies (initial :: conts)

/-- What is asked of a parser that was fed `packets`. -/
structure ParserSound (packets : List Bytes) : Prop where
  /-- A rejected packet changes nothing, now or at any time before. -/
  atomic : ∀ fed next packet e, fed <+: packets →
    (new.feedPackets fed).2.update packet = (.error e, next) → next = (new.feedPackets fed).2
  /-- A message is made of the accepted packets. -/
  formed : ∀ message, (new.feedPackets packets).2.message = .ok message →
    ∃ initial conts, accepted (new.feedPackets packets).1 packets = initial :: conts
      ∧ MadeOf message initial conts
  /-- At most 129 packets are held: the accepted ones. -/
  bounded : (new.feedPackets packets).2.packets = accepted (new.feedPackets packets).1 packets
    ∧ (new.feedPackets packets).2.packets.length ≤ 129
  /-- Once `update` has answered `done`, no further packet changes the
  message. -/
  stable : .ok .done ∈ (new.feedPackets packets).1 →
    ∀ more, (new.feedPackets (packets ++ more)).2.message = (new.feedPackets packets).2.message

/-- The declared length, read where it stands. -/
theorem size_of_header {cid size body : Bytes} {cmdByte : UInt8} (hcid : cid.length = 4)
    (hsize : size.length = 2) : ((cid ++ (cmdByte :: (size ++ body))).drop 5).take 2 = size := by
  rw [List.drop_append, List.drop_eq_nil_of_le (by omega), hcid, List.nil_append]
  show (size ++ body).take 2 = size
  rw [← hsize, List.take_left]

theorem madeOf_of_message {cid initial : Bytes} {conts : List Bytes} {m : HidMessage}
    (h : Chained cid (initial :: conts)) (hmessage : message ⟨initial :: conts⟩ = .ok m) :
    MadeOf m initial conts := by
  obtain ⟨hinitial, hcid⟩ := h.isInitial
  obtain ⟨c, b, l, body, hc, hl, rfl⟩ := exists_header hinitial.long
  obtain ⟨hchannel, hlength, _, hpayload⟩ := header_of_message hc hl hmessage
  have hfirst : cidBytes (c ++ (b :: (l ++ body))) = c := by
    rw [cidBytes, ← hc, List.take_left]
  refine ⟨hinitial, ?_, hchannel.trans hfirst.symm, ?_, hpayload⟩
  · rw [hcid]
    exact h.isCont
  · rw [size_of_header hc hl, hlength]

/-- **The parser is sound for every sequence of packets.** -/
theorem parser_sound (packets : List Bytes) : ParserSound packets := by
  obtain ⟨hpackets, hheld⟩ := feed_accepted packets [] (.inl rfl)
  rw [List.nil_append] at hpackets
  refine ⟨fun fed next packet e _ h => update_error h, ?_, ⟨hpackets, ?_⟩, ?_⟩
  · intro m hmessage
    rcases hheld with hnil | ⟨cid, hchained⟩
    · -- nothing held, nothing returned
      have hempty : (new.feedPackets packets).2 = ⟨[]⟩ := congrArg HidMessageParser.mk hnil
      rw [hempty] at hmessage
      cases hmessage
    · obtain ⟨initial, conts, hps⟩ := List.exists_cons_of_ne_nil hchained.ne_nil
      have hparser : (new.feedPackets packets).2 = ⟨initial :: conts⟩ :=
        congrArg HidMessageParser.mk hps
      rw [hparser] at hmessage
      rw [hps] at hchained
      exact ⟨initial, conts, hpackets.symm.trans hps, madeOf_of_message hchained hmessage⟩
  · rcases hheld with hnil | ⟨cid, hchained⟩
    · show (feed update ⟨[]⟩ packets).2.packets.length ≤ 129
      rw [hnil]
      exact Nat.zero_le _
    · exact hchained.length_le
  · intro hdone more
    obtain ⟨ps, qs, rest, rfl, hrun, hps, hcomplete⟩ := complete_of_done packets [] (.inl rfl) hdone
    -- the message is complete after `qs`, and stays so in both runs
    have hstays : ∀ tail, (new.feedPackets (qs ++ tail)).2.message = message ⟨ps⟩ := by
      intro tail
      rw [feedPackets, feed_append]
      show (feed update (feed update ⟨[]⟩ qs).2 tail).2.message = _
      rw [hrun]
      exact message_feed tail ps hps hcomplete
    rw [List.append_assoc, hstays, hstays]

end HidMessageParser

end Libwebauthn.Transport.Hid
