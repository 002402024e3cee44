/-
  Libwebauthn.Transport.Hid.Wire — messages as they lie on the wire.

  `Chained cid ps` says what a parser can hold: an initialization packet and
  the continuations 0, 1, 2, … of the same channel.  `OnWire m ps` says that
  `ps` are the packets of `m`, the last one completing it.  The parser
  collects exactly these: `collect_new_ok_iff`.

    • `checkPacket_chained_iff` — a parser stays chained, whatever it is fed;
    • `message_chained_iff` — what `message` reads off chained packets;
    • `collect` — feeding reports until the parser returns something.
-/
import Libwebauthn.Transport.Hid.RoundTrip

namespace Libwebauthn.Transport.Hid

/-! ## §1. Chained packets. -/

/-- A packet that is not all zeros. -/
def NonZero (p : Bytes) : Prop := ∃ b ∈ p, b ≠ 0

theorem nonZero_iff (p : Bytes) : NonZero p ↔ ¬ p.all (· == 0) = true := by
  simp [NonZero]

/-- The channel id bytes of a packet. -/
def cidBytes (p : Bytes) : Bytes := p.take 4

/-- An initialization packet: command bit set in byte 4. -/
structure IsInitial (p : Bytes) : Prop where
  long : PACKET_INITIAL_HEADER_SIZE ≤ p.length
  nonZero : NonZero p
  command : ∃ b, p[4]? = some b ∧ b &&& PACKET_INITIAL_CMD_MASK ≠ 0

/-- Continuation number `seq` of the channel `cid`. -/
structure IsCont (cid : Bytes) (seq : Nat) (p : Bytes) : Prop where
  long : PACKET_CONT_HEADER_SIZE + 1 ≤ p.length
  nonZero : NonZero p
  channel : cidBytes p = cid
  number : p[4]? = some (UInt8.ofNat seq)
  inRange : seq ≤ 127

/-- An initialization packet and the continuations 0, 1, 2, … of the same
channel. -/
inductive Chained (cid : Bytes) : List Bytes → Prop
  | initial {p : Bytes} (hp : IsInitial p) (hcid : cidBytes p = cid) : Chained cid [p]
  | cont {initial p : Bytes} {conts : List Bytes} (hps : Chained cid (initial :: conts))
      (hp : IsCont cid conts.length p) : Chained cid (initial :: (conts ++ [p]))

namespace Chained

variable {cid : Bytes} {ps conts : List Bytes} {initial p : Bytes}

theorem ne_nil (h : Chained cid ps) : ps ≠ [] := by
  cases h <;> exact List.cons_ne_nil _ _

/-- At most 129 packets. -/
theorem length_le (h : Chained cid ps) : ps.length ≤ 129 := by
  cases h with
  | initial => simp
  | cont _ hp =>
      have := hp.inRange
      simp only [List.length_cons, List.length_append, List.length_nil]
      omega

/-- Every packet carries the channel id of the first. -/
theorem cidBytes_eq (h : Chained cid ps) : ∀ p ∈ ps, cidBytes p = cid := by
  induction h with
  | initial _ hcid => simpa using hcid
  | cont _ hp ih =>
      intro q hq
      rw [← List.cons_append] at hq
      rcases List.mem_append.mp hq with hold | hnew
      · exact ih q hold
      · rw [List.mem_singleton.mp hnew, hp.channel]

theorem isInitial (h : Chained cid (initial :: conts)) :
    IsInitial initial ∧ cidBytes initial = cid := by
  generalize hqs : initial :: conts = qs at h
  induction h generalizing conts with
  | initial hp hcid =>
      obtain ⟨rfl, _⟩ := List.cons.inj hqs
      exact ⟨hp, hcid⟩
  | cont _ _ ih =>
      obtain ⟨rfl, _⟩ := List.cons.inj hqs
      exact ih rfl

/-- The last continuation, taken off again. -/
theorem of_append (h : Chained cid (initial :: (conts ++ [p]))) :
    Chained cid (initial :: conts) ∧ IsCont cid conts.length p := by
  generalize hqs : initial :: (conts ++ [p]) = qs at h
  cases h with
  | initial => simp at hqs
  | cont hps hp =>
      obtain ⟨rfl, htail⟩ := List.cons.inj hqs
      obtain ⟨rfl, hlast⟩ := List.append_inj' htail rfl
      obtain ⟨rfl, _⟩ := List.cons.inj hlast
      exact ⟨hps, hp⟩

/-- The continuations of a chain, by their number. -/
theorem isCont {cid initial : Bytes} {conts : List Bytes} (h : Chained cid (initial :: conts)) :
    ∀ i packet, conts[i]? = some packet → IsCont cid i packet := by
  induction conts using List.reverseRecOn with
  | nil =>
      intro i packet hi
      simp at hi
  | append_singleton conts last ih =>
      intro i packet hi
      obtain ⟨hold, hlast⟩ := h.of_append
      rcases Nat.lt_trichotomy i conts.length with hlt | heq | hgt
      · rw [List.getElem?_append_left hlt] at hi
        exact ih hold i packet hi
      · subst heq
        rw [List.getElem?_concat_length] at hi
        exact Option.some.inj hi ▸ hlast
      · rw [List.getElem?_eq_none (by simp; omega)] at hi
        cases hi

end Chained

/-! ## §2. The parser keeps its packets chained. -/

namespace HidMessageParser

/-- The tests of `update`, one after the other. -/
theorem checkPacket_ok_iff (self : HidMessageParser) (p : Bytes) :
    self.checkPacket p = .ok ()
      ↔ ¬ ((self.packets = [] ∧ p.length < PACKET_INITIAL_HEADER_SIZE)
            ∨ p.length < PACKET_CONT_HEADER_SIZE + 1)
        ∧ NonZero p
        ∧ (if self.packets = [] then checkInitialization p else self.checkContinuation p)
            = .ok () := by
  unfold checkPacket
  by_cases hlen : (self.packets = [] ∧ p.length < PACKET_INITIAL_HEADER_SIZE)
      ∨ p.length < PACKET_CONT_HEADER_SIZE + 1
  · rw [if_pos hlen]
    exact ⟨fun h => absurd h (by simp), fun h => absurd hlen h.1⟩
  · rw [if_neg hlen, nonZero_iff]
    by_cases hnz : p.all (· == 0) = true
    · rw [if_pos hnz]
      exact ⟨fun h => absurd h (by simp), fun h => absurd hnz h.2.1⟩
    · rw [if_neg hnz]
      exact ⟨fun h => ⟨hlen, hnz, h⟩, fun h => h.2.2⟩

/-- What an empty parser accepts. -/
theorem checkPacket_new_iff (p : Bytes) : new.checkPacket p = .ok () ↔ IsInitial p := by
  have hcheck : checkInitialization p = .ok ()
      ↔ ∃ b, p[4]? = some b ∧ b &&& PACKET_INITIAL_CMD_MASK ≠ 0 := by
    unfold checkInitialization
    cases p[4]? with
    | none => simp
    | some b => simp
  rw [checkPacket_ok_iff, if_pos (show new.packets = [] from rfl), hcheck]
  constructor
  · rintro ⟨hlen, hnz, hcmd⟩
    refine ⟨?_, hnz, hcmd⟩
    by_contra hshort
    exact hlen (.inl ⟨rfl, by omega⟩)
  · rintro ⟨hlong, hnz, hcmd⟩
    refine ⟨?_, hnz, hcmd⟩
    simp only [PACKET_INITIAL_HEADER_SIZE, PACKET_CONT_HEADER_SIZE] at hlong ⊢
    omega

theorem getPrefix_eq_iff {p q : Bytes} (hp : 4 ≤ p.length) (hq : 4 ≤ q.length) :
    getPrefix 4 p = getPrefix 4 q ↔ cidBytes p = cidBytes q := by
  unfold getPrefix cidBytes
  rw [if_pos hp, if_pos hq, Option.some.injEq]

/-- The tests on a continuation, one after the other. -/
theorem checkContinuation_ok_iff {initial : Bytes} {conts : List Bytes}
    (hinit : 4 ≤ initial.length) (hcount : conts.length ≤ 128) {p : Bytes}
    (hlen : 4 ≤ p.length) :
    checkContinuation ⟨initial :: conts⟩ p = .ok ()
      ↔ cidBytes p = cidBytes initial ∧ p[4]? = some (UInt8.ofNat conts.length)
        ∧ conts.length ≤ 127 := by
  unfold checkContinuation
  simp only [List.head?_cons, Option.bind_some, ne_eq, getPrefix_eq_iff hlen hinit,
    List.length_cons, Nat.add_sub_cancel]
  by_cases hcid : cidBytes p = cidBytes initial
  · rw [if_neg (not_not.mpr hcid)]
    -- at 128 the number has the bit of an initialization packet
    have h128 : conts.length ≤ 127 ↔ ¬ UInt8.ofNat conts.length > PACKET_CONT_SEQ_MAX := by
      rcases Nat.lt_or_ge 127 conts.length with hgt | hle
      · have : conts.length = 128 := by omega
        rw [this]
        decide
      · exact ⟨fun _ => seq_le_max hle, fun _ => hle⟩
    cases p[4]? with
    | none => simp
    | some seq =>
        by_cases hseq : seq = UInt8.ofNat conts.length
        · subst hseq
          by_cases hle : conts.length ≤ 127
          · simp [hcid, hle, seq_mask_eq_zero hle, h128.mp hle]
          · have : conts.length = 128 := by omega
            simp [this, PACKET_INITIAL_CMD_MASK]
        · simp only [Option.some.injEq, hseq, false_and, and_false, iff_false, not_false_eq_true,
            if_true]
          split_ifs <;> simp
  · rw [if_pos hcid]
    simp [hcid]

/-- **A chained parser accepts exactly the packets that keep it chained.** -/
theorem checkPacket_chained_iff {cid : Bytes} {initial : Bytes} {conts : List Bytes}
    (h : Chained cid (initial :: conts)) (p : Bytes) :
    checkPacket ⟨initial :: conts⟩ p = .ok () ↔ IsCont cid conts.length p := by
  -- the channel and the count are those of the packets held
  obtain ⟨hinit, hcid⟩ := h.isInitial
  have hlong : 4 ≤ initial.length := by
    have := hinit.long
    simp only [PACKET_INITIAL_HEADER_SIZE] at this
    omega
  have hcount : conts.length ≤ 128 := by
    have := h.length_le
    rw [List.length_cons] at this
    omega
  rw [checkPacket_ok_iff, if_neg (List.cons_ne_nil _ _)]
  constructor
  · rintro ⟨hlen, hnz, hcheck⟩
    have hp : PACKET_CONT_HEADER_SIZE + 1 ≤ p.length := by
      by_contra hshort
      exact hlen (.inr (by omega))
    have hp4 : 4 ≤ p.length := by
      simp only [PACKET_CONT_HEADER_SIZE] at hp
      omega
    obtain ⟨hsame, hnumber, hrange⟩ := (checkContinuation_ok_iff hlong hcount hp4).mp hcheck
    exact ⟨hp, hnz, hsame.trans hcid, hnumber, hrange⟩
  · rintro ⟨hp, hnz, hsame, hnumber, hrange⟩
    have hp4 : 4 ≤ p.length := by
      simp only [PACKET_CONT_HEADER_SIZE] at hp
      omega
    refine ⟨?_, hnz, (checkContinuation_ok_iff hlong hcount hp4).mpr
      ⟨hsame.trans hcid.symm, hnumber, hrange⟩⟩
    rintro (⟨hnil, _⟩ | hshort)
    · exact List.cons_ne_nil _ _ hnil
    · omega

/-- What a parser holds at any time: nothing, or chained packets. -/
def Held (ps : List Bytes) : Prop := ps = [] ∨ ∃ cid, Chained cid ps

theorem Held.of_snoc {ps : List Bytes} {p : Bytes} (h : Held (ps ++ [p])) : Held ps := by
  cases ps with
  | nil => exact .inl rfl
  | cons initial conts =>
      rcases h with hnil | ⟨cid, h⟩
      · simp at hnil
      · exact .inr ⟨cid, h.of_append.1⟩

theorem Held.of_append {ps : List Bytes} (qs : List Bytes) (h : Held (ps ++ qs)) : Held ps := by
  induction qs using List.reverseRecOn with
  | nil => simpa using h
  | append_singleton qs q ih =>
      rw [← List.append_assoc] at h
      exact ih h.of_snoc

/-- **Acceptance keeps the packets chained, and rejects everything else.** -/
theorem checkPacket_held_iff {ps : List Bytes} (h : Held ps) (p : Bytes) :
    checkPacket ⟨ps⟩ p = .ok () ↔ Held (ps ++ [p]) := by
  cases ps with
  | nil =>
      rw [show (⟨[]⟩ : HidMessageParser) = new from rfl, checkPacket_new_iff]
      constructor
      · exact fun hp => .inr ⟨cidBytes p, .initial hp rfl⟩
      · rintro (hnil | ⟨cid, hchained⟩)
        · simp at hnil
        · exact hchained.isInitial.1
  | cons initial conts =>
      rcases h with hnil | ⟨cid, hchained⟩
      · exact absurd hnil (List.cons_ne_nil _ _)
      · rw [checkPacket_chained_iff hchained]
        constructor
        · exact fun hp => .inr ⟨cid, hchained.cont hp⟩
        · rintro (hnil | ⟨cid', hnext⟩)
          · simp at hnil
          · obtain ⟨hold, hp⟩ := hnext.of_append
            rwa [← hold.isInitial.2, hchained.isInitial.2] at hp

/-! ## §3. What a chained parser reads. -/

/-- The parts of an initialization packet. -/
theorem exists_header {p : Bytes} (h : PACKET_INITIAL_HEADER_SIZE ≤ p.length) :
    ∃ cid cmdByte size body, cid.length = 4 ∧ size.length = 2
      ∧ p = cid ++ (cmdByte :: (size ++ body)) := by
  match p, h with
  | c0 :: c1 :: c2 :: c3 :: b :: l0 :: l1 :: body, _ =>
      exact ⟨[c0, c1, c2, c3], b, [l0, l1], body, rfl, rfl, rfl⟩

theorem expectedBytes_of_header {self : HidMessageParser} {cid size body : Bytes}
    {cmdByte : UInt8} {conts : List Bytes}
    (hself : self.packets = (cid ++ (cmdByte :: (size ++ body))) :: conts)
    (hcid : cid.length = 4) (hsize : size.length = 2) :
    self.expectedBytes = some (beDecode size) := by
  match cid, hcid, size, hsize with
  | [c0, c1, c2, c3], _, [l0, l1], _ => simp [expectedBytes, hself]

theorem HidCommand.toU8_of_tryFrom {b : UInt8} {cmd : HidCommand}
    (h : HidCommand.tryFrom b = some cmd) : b = cmd.toU8 := by
  unfold HidCommand.tryFrom at h
  repeat
    split at h
    · cases h
      assumption
  cases h

theorem HidCommand.tryFrom_eq_some_iff (b : UInt8) (cmd : HidCommand) :
    HidCommand.tryFrom (b ^^^ PACKET_INITIAL_CMD_MASK) = some cmd
      ↔ b = cmd.toU8 ||| PACKET_INITIAL_CMD_MASK := by
  constructor
  · intro h
    have hval : b ^^^ PACKET_INITIAL_CMD_MASK = cmd.toU8 := HidCommand.toU8_of_tryFrom h
    have hor : cmd.toU8 ^^^ PACKET_INITIAL_CMD_MASK = cmd.toU8 ||| PACKET_INITIAL_CMD_MASK := by
      cases cmd <;> decide
    rw [← hor, ← hval, UInt8.xor_assoc, UInt8.xor_self, UInt8.xor_zero]
  · intro h
    rw [h]
    exact cmd.tryFrom_toU8

/-- `ps` are the packets of `m`: chained on its channel, announcing its
length, and the last one completes it. -/
structure OnWire (m : HidMessage) (ps : List Bytes) : Prop where
  chained : Chained (beEncode 4 m.cid.toNat) ps
  size : m.payload.length ≤ 65535
  header : ∃ body conts,
    ps = initialPacket m.cid m.cmd (UInt16.ofNat m.payload.length) body :: conts
  payload : m.payload <+: bodies ps
  last : ∀ qs, qs <+: ps → qs ≠ [] → qs ≠ ps → (bodies qs).length < m.payload.length

/-- Packets on the wire are read as the message they are. -/
theorem OnWire.message_eq {m : HidMessage} {ps : List Bytes} (h : OnWire m ps) :
    message ⟨ps⟩ = .ok m
      ∧ ∀ qs, qs <+: ps → qs ≠ [] → qs ≠ ps → morePacketsNeeded ⟨qs⟩ = true := by
  obtain ⟨_, hsize, ⟨body, conts, hps⟩, ⟨pad, hpad⟩, hlast⟩ := h
  refine ⟨message_of_holds hsize ⟨body, conts, pad, hps, hpad.symm⟩, ?_⟩
  intro qs hpre hne hproper
  obtain ⟨q, qs', rfl⟩ := List.exists_cons_of_ne_nil hne
  have hcons := hpre
  rw [hps] at hcons
  obtain ⟨rfl, _⟩ := List.cons_prefix_cons.mp hcons
  have hexpected := @expectedBytes_initialPacket ⟨_ :: qs'⟩ m hsize body qs' rfl
  rw [morePacketsNeeded, hexpected]
  simpa [payloadLen_eq] using hlast _ hpre hne hproper

/-- The header `message` succeeded on is that of its message. -/
theorem header_of_message {c l body : Bytes} {b : UInt8} {conts : List Bytes}
    (hc : c.length = 4) (hl : l.length = 2) {m : HidMessage}
    (hmessage : message ⟨(c ++ (b :: (l ++ body))) :: conts⟩ = .ok m) :
    beEncode 4 m.cid.toNat = c ∧ m.payload.length = beDecode l
      ∧ c ++ (b :: (l ++ body))
          = initialPacket m.cid m.cmd (UInt16.ofNat m.payload.length) body
      ∧ m.payload <+: bodies ((c ++ (b :: (l ++ body))) :: conts) := by
  have hdone : morePacketsNeeded ⟨(c ++ (b :: (l ++ body))) :: conts⟩ = false := by
    by_contra hmore
    rw [message, if_pos (by simpa using hmore)] at hmessage
    cases hmessage
  have henough : beDecode l ≤ (bodies ((c ++ (b :: (l ++ body))) :: conts)).length := by
    rw [morePacketsNeeded, expectedBytes_of_header rfl hc hl, payloadLen_eq] at hdone
    simpa using hdone
  -- the header's numbers fit their fields, so encoding them gives its bytes back
  have hclt : beDecode c < 2 ^ 32 := by
    have := beDecode_lt c
    rwa [hc] at this
  have hllt : beDecode l < 2 ^ 16 := by
    have := beDecode_lt l
    rwa [hl] at this
  have hcidVal : beEncode 4 (UInt32.ofNat (beDecode c)).toNat = c := by
    rw [UInt32.toNat_ofNat', Nat.mod_eq_of_lt hclt, ← hc, beEncode_beDecode]
  have hlenVal : beEncode 2 (UInt16.ofNat (beDecode l)).toNat = l := by
    rw [UInt16.toNat_ofNat', Nat.mod_eq_of_lt hllt, ← hl, beEncode_beDecode]
  rw [message_of_header rfl hc hl hdone] at hmessage
  cases htry : HidCommand.tryFrom (b ^^^ PACKET_INITIAL_CMD_MASK) with
  | none =>
      rw [htry] at hmessage
      cases hmessage
  | some cmd =>
      rw [htry] at hmessage
      obtain rfl := Except.ok.inj hmessage
      have hlength : (List.take (beDecode l)
          (bodies ((c ++ (b :: (l ++ body))) :: conts))).length = beDecode l := by
        rw [List.length_take, Nat.min_eq_left henough]
      refine ⟨hcidVal, hlength, ?_, List.take_prefix _ _⟩
      rw [hlength, initialPacket, hcidVal, hlenVal,
        (HidCommand.tryFrom_eq_some_iff b cmd).mp htry]

/-- `OnWire` in terms of the parser. -/
theorem onWire_iff (m : HidMessage) (ps : List Bytes) :
    OnWire m ps ↔ ps ≠ [] ∧ Held ps ∧ message ⟨ps⟩ = .ok m
      ∧ ∀ qs, qs <+: ps → qs ≠ [] → qs ≠ ps → morePacketsNeeded ⟨qs⟩ = true := by
  constructor
  · intro h
    exact ⟨h.chained.ne_nil, .inr ⟨_, h.chained⟩, h.message_eq⟩
  · rintro ⟨hne, hheld, hmessage, hlast⟩
    rcases hheld with hnil | ⟨cid, hchained⟩
    · exact absurd hnil hne
    obtain ⟨initial, conts, rfl⟩ := List.exists_cons_of_ne_nil hne
    obtain ⟨hinit, hcid⟩ := hchained.isInitial
    obtain ⟨c, b, l, body, hc, hl, rfl⟩ := exists_header hinit.long
    obtain ⟨hcidVal, hlength, hheader, hpayload⟩ := header_of_message hc hl hmessage
    have hcc : cid = c := by rw [← hcid, cidBytes, ← hc, List.take_left]
    refine ⟨by rw [hcidVal, ← hcc]; rwa [hcc] at hchained ⊢, ?_, ⟨body, conts, by rw [hheader]⟩,
      hpayload, ?_⟩
    · have := beDecode_lt l
      rw [hl] at this
      omega
    · intro qs hpre hqne hproper
      have hneeded := hlast qs hpre hqne hproper
      obtain ⟨q, qs', rfl⟩ := List.exists_cons_of_ne_nil hqne
      obtain ⟨rfl, _⟩ := List.cons_prefix_cons.mp hpre
      rw [morePacketsNeeded, expectedBytes_of_header rfl hc hl, payloadLen_eq] at hneeded
      rw [hlength]
      simpa using hneeded

/-! ## §4. Collecting a message from a stream of reports. -/

/-- Feed reports until the parser rejects one or has a message; what it
returns, and the reports left. -/
def collect (self : HidMessageParser) :
    List Bytes → Option (Except IoError HidMessage × List Bytes)
  | [] => none
  | report :: reports =>
      match self.update report with
      | (.error e, _) => some (.error e, reports)
      | (.ok .morePacketsExpected, next) => collect next reports
      | (.ok .done, next) => some (next.message, reports)

theorem update_held {ps : List Bytes} (h : Held ps) (p : Bytes) :
    (Held (ps ++ [p]) ∧ update ⟨ps⟩ p = (.ok (state ⟨ps ++ [p]⟩), ⟨ps ++ [p]⟩))
      ∨ (¬ Held (ps ++ [p]) ∧ ∃ e, update ⟨ps⟩ p = (.error e, ⟨ps⟩)) := by
  rw [← checkPacket_held_iff h]
  cases hcheck : checkPacket ⟨ps⟩ p with
  | ok u => exact .inl ⟨rfl, by rw [update, hcheck]; rfl⟩
  | error e => exact .inr ⟨by simp, e, by rw [update, hcheck]⟩

/-- Collecting on from `held`: packets that complete it to a message. -/
theorem collect_ok_iff (m : HidMessage) (rest : List Bytes) (reports : List Bytes) :
    ∀ held, Held held →
      (collect ⟨held⟩ reports = some (.ok m, rest)
        ↔ ∃ ps, ps ≠ [] ∧ reports = ps ++ rest ∧ Held (held ++ ps)
          ∧ message ⟨held ++ ps⟩ = .ok m
          ∧ ∀ qs, qs <+: ps → qs ≠ [] → qs ≠ ps → morePacketsNeeded ⟨held ++ qs⟩ = true) := by
  -- by induction on the reports, with the packets held so far general
  induction reports with
  | nil =>
      intro held _
      constructor
      · intro h
        cases h
      · rintro ⟨ps, hne, hps, _⟩
        exact absurd (List.append_eq_nil_iff.mp hps.symm).1 hne
  | cons report reports ih =>
      intro held hheld
      rw [collect]
      rcases update_held hheld report with ⟨hnext, hupdate⟩ | ⟨hbad, e, hupdate⟩
      · rw [hupdate, state]
        -- a packet that fits: it is the last one, or the rest follows by induction
        by_cases hmore : morePacketsNeeded ⟨held ++ [report]⟩ = true
        · rw [if_pos hmore]
          show collect _ reports = _ ↔ _
          rw [ih _ hnext]
          constructor
          · rintro ⟨ps, hne, rfl, hps, hmessage, hlast⟩
            rw [List.append_assoc] at hps hmessage
            refine ⟨report :: ps, List.cons_ne_nil _ _, rfl, hps, hmessage, ?_⟩
            intro qs hpre hqne hproper
            obtain ⟨q, qs', rfl⟩ := List.exists_cons_of_ne_nil hqne
            obtain ⟨rfl, hqs'⟩ := List.cons_prefix_cons.mp hpre
            by_cases hnil : qs' = []
            · rw [hnil]
              exact hmore
            · have := hlast qs' hqs' hnil (fun h => hproper (by rw [h]))
              rwa [List.append_assoc] at this
          · rintro ⟨ps, hne, hreports, hps, hmessage, hlast⟩
            obtain ⟨q, ps', rfl⟩ := List.exists_cons_of_ne_nil hne
            obtain ⟨rfl, htail⟩ := List.cons.inj hreports
            have hps' : ps' ≠ [] := by
              intro hnil
              rw [hnil, message, if_pos hmore] at hmessage
              cases hmessage
            refine ⟨ps', hps', htail, by simpa using hps, by simpa using hmessage, ?_⟩
            intro qs hpre hqne hproper
            have := hlast (report :: qs) (List.cons_prefix_cons.mpr ⟨rfl, hpre⟩)
              (List.cons_ne_nil _ _) (fun h => hproper (List.cons.inj h).2)
            simpa using this
        · rw [if_neg hmore]
          show some (message _, reports) = _ ↔ _
          constructor
          · intro h
            obtain ⟨hmessage, rfl⟩ := Prod.mk.inj (Option.some.inj h)
            refine ⟨[report], List.cons_ne_nil _ _, rfl, hnext, hmessage, ?_⟩
            intro qs hpre hqne hproper
            obtain ⟨q, qs', rfl⟩ := List.exists_cons_of_ne_nil hqne
            obtain ⟨rfl, hqs'⟩ := List.cons_prefix_cons.mp hpre
            exact absurd (by rw [List.prefix_nil.mp hqs']) hproper
          · rintro ⟨ps, hne, hreports, hps, hmessage, hlast⟩
            obtain ⟨q, ps', rfl⟩ := List.exists_cons_of_ne_nil hne
            obtain ⟨rfl, rfl⟩ := List.cons.inj hreports
            have hps' : ps' = [] := by
              by_contra hps'
              exact hmore (hlast [report] (by simp) (List.cons_ne_nil _ _)
                (fun h => hps' (List.cons.inj h).2.symm))
            subst hps'
            rw [hmessage]
            rfl
      · rw [hupdate]
        constructor
        · intro h
          cases h
        · rintro ⟨ps, hne, hreports, hps, _⟩
          obtain ⟨q, ps', rfl⟩ := List.exists_cons_of_ne_nil hne
          obtain ⟨rfl, _⟩ := List.cons.inj hreports
          refine absurd (Held.of_append ps' ?_) hbad
          simpa using hps

/-- **A fresh parser collects `m` exactly from its packets on the wire.** -/
theorem collect_new_ok_iff (m : HidMessage) (reports rest : List Bytes) :
    collect new reports = some (.ok m, rest) ↔ ∃ ps, reports = ps ++ rest ∧ OnWire m ps := by
  rw [show new = ⟨[]⟩ from rfl, collect_ok_iff m rest reports [] (.inl rfl)]
  simp only [List.nil_append, onWire_iff]
  constructor
  · rintro ⟨ps, hne, hreports, h⟩
    exact ⟨ps, hreports, hne, h⟩
  · rintro ⟨ps, hreports, hne, h⟩
    exact ⟨ps, hne, hreports, h⟩

end HidMessageParser

end Libwebauthn.Transport.Hid
