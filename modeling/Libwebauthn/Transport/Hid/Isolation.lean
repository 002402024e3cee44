/-
  Libwebauthn.Transport.Hid.Isolation — receiving on a shared device.

  A HID device shows every application the reports of all channels.
  `hidRecv` does not filter them: it takes the channel of whatever
  initialization packet comes first and insists on it until that message is
  complete.  So no two channels are ever spliced, and a packet of another
  channel inside a message ends in an error.
-/
import Libwebauthn.Transport.Hid.Channel
import Libwebauthn.Transport.Hid.Wire

namespace Libwebauthn.Transport.Hid

/-! ## §1. The reports of a stream of turns. -/

/-- A turn without cancellation, timeout or read error. -/
def Turn.Quiet (turn : Turn) : Prop :=
  turn.cancelled = false ∧ turn.expired = false ∧ ∃ read, turn.read = .ok read

/-- The report a turn brings, if its read was not empty. -/
def Turn.report? (turn : Turn) : Option Bytes :=
  match turn.read with
  | .ok read => if read.bytes = [] then none else some read.report
  | .error _ => none

def reports (turns : List Turn) : List Bytes := turns.filterMap Turn.report?

theorem HidRead.report_length (read : HidRead) : read.report.length = PACKET_SIZE := by
  have := read.fits
  rw [HidRead.report, List.length_append, List.length_replicate]
  omega

theorem Turn.report?_length {turn : Turn} {report : Bytes} (h : turn.report? = some report) :
    report.length = PACKET_SIZE := by
  unfold Turn.report? at h
  cases hread : turn.read with
  | error e =>
      rw [hread] at h
      cases h
  | ok read =>
      rw [hread] at h
      by_cases hnil : read.bytes = []
      · simp only [if_pos hnil] at h
        cases h
      · simp only [if_neg hnil, Option.some.injEq] at h
        rw [← h, read.report_length]

theorem length_of_mem_reports {turns : List Turn} {report : Bytes}
    (h : report ∈ reports turns) : report.length = PACKET_SIZE := by
  obtain ⟨turn, _, hreport⟩ := List.mem_filterMap.mp h
  exact turn.report?_length hreport

namespace HidChannel

open HidMessageParser

/-- The receive loop does with `turns` what `collect` does with their
reports, and leaves fewer than `bound` turns. -/
def Agrees (parser : HidMessageParser) (turns : List Turn) (bound : Nat) : Prop :=
  (collect parser (reports turns) = none ∧ hidRecvHidapi parser turns = none)
  ∨ ∃ result rest turns',
      collect parser (reports turns) = some (result, rest)
      ∧ hidRecvHidapi parser turns = some ⟨result.mapError .frameParse, turns', []⟩
      ∧ reports turns' = rest ∧ (∀ turn ∈ turns', turn.Quiet) ∧ turns'.length < bound

/-- **The receive loop is `collect` on the reports**, when nothing else
happens. -/
theorem hidRecvHidapi_quiet (turns : List Turn) (hquiet : ∀ turn ∈ turns, turn.Quiet) :
    ∀ parser : HidMessageParser, Agrees parser turns turns.length := by
  induction turns with
  | nil => exact fun parser => .inl ⟨rfl, rfl⟩
  | cons turn turns ih =>
      intro parser
      have hrest : ∀ turn ∈ turns, turn.Quiet := fun t ht => hquiet t (List.mem_cons_of_mem _ ht)
      obtain ⟨hcancel, hexpired, read, hread⟩ := hquiet turn (List.mem_cons_self ..)
      -- a turn without a message costs one turn
      have hgoOn (next : HidMessageParser) : Agrees next turns (turns.length + 1) := by
        rcases ih hrest next with hnone | ⟨result, rest, turns', h1, h2, h3, h4, h5⟩
        · exact .inl hnone
        · exact .inr ⟨result, rest, turns', h1, h2, h3, h4, Nat.lt_succ_of_lt h5⟩
      unfold Agrees
      rw [hidRecvHidapi, hcancel, hexpired, hread]
      simp only [Bool.false_eq_true, if_false]
      -- an empty read is no report
      by_cases hnil : read.bytes = []
      · have hreport : turn.report? = none := by simp [Turn.report?, hread, hnil]
        rw [if_pos hnil, show reports (turn :: turns) = reports turns from
          List.filterMap_cons_none hreport]
        exact hgoOn parser
      · have hreport : turn.report? = some read.report := by simp [Turn.report?, hread, hnil]
        rw [if_neg hnil, show reports (turn :: turns) = read.report :: reports turns from
          List.filterMap_cons_some hreport, collect]
        rcases parser.update read.report with ⟨result, next⟩
        cases result with
        | error e => exact .inr ⟨_, _, turns, rfl, rfl, rfl, hrest, Nat.lt_succ_self _⟩
        | ok state =>
            cases state with
            | morePacketsExpected => exact hgoOn next
            | done => exact .inr ⟨_, _, turns, rfl, rfl, rfl, hrest, Nat.lt_succ_self _⟩

/-! ## §2. The first message of a stream. -/

/-- Whole KEEPALIVE messages, of any channel, and then a stream with `P`. -/
inductive AfterKeepAlives (P : List Bytes → Prop) : List Bytes → Prop
  | here {stream : List Bytes} (h : P stream) : AfterKeepAlives P stream
  | skip {keepAlive : HidMessage} {ps stream : List Bytes} (hcmd : keepAlive.cmd = .keepAlive)
      (hps : OnWire keepAlive ps) (h : AfterKeepAlives P stream) :
      AfterKeepAlives P (ps ++ stream)

/-- The stream starts with the packets of `m`, no KEEPALIVE. -/
def StartsWith (m : HidMessage) (stream : List Bytes) : Prop :=
  m.cmd ≠ .keepAlive ∧ ∃ ps rest, stream = ps ++ rest ∧ OnWire m ps

/-- A message of channel `cid` is interrupted by another channel's packet. -/
def StartsInterrupted (stream : List Bytes) : Prop :=
  ∃ (m : HidMessage) (ps ps' : List Bytes) (foreign : Bytes) (rest : List Bytes),
    stream = ps ++ foreign :: rest ∧ OnWire m (ps ++ ps') ∧ ps ≠ [] ∧ ps' ≠ []
      ∧ cidBytes foreign ≠ beEncode 4 m.cid.toNat ∧ NonZero foreign

/-- `hidRecv` returns `m`. -/
def Returns (self : HidChannel) (turns : List Turn) (m : HidMessage) : Prop :=
  ∃ ran, self.hidRecv turns = some ran ∧ ran.result = .ok m

theorem hidRecvLoop_of_ok (self : HidChannel) (fuel : Nat) {turns turns' : List Turn}
    {k : HidMessage} (h : hidRecvHidapi new turns = some ⟨.ok k, turns', []⟩) :
    self.hidRecvLoop (fuel + 1) turns
      = if k.cmd = .keepAlive then self.hidRecvLoop fuel turns'
        else some ⟨.ok k, turns', []⟩ := by
  obtain ⟨cid, cmd, payload⟩ := k
  rw [hidRecvLoop, h]
  cases cmd <;> rfl

theorem hidRecvLoop_of_frameParse (self : HidChannel) (fuel : Nat) {turns turns' : List Turn}
    {e : IoError} (h : hidRecvHidapi new turns = some ⟨.error (.frameParse e), turns', []⟩) :
    self.hidRecvLoop (fuel + 1) turns = some ⟨.error (.frameParse e), turns', []⟩ := by
  rw [hidRecvLoop, h]
  rfl

/-- The receive loop returns the message the reports start with. -/
theorem hidRecvHidapi_onWire {turns : List Turn} (hquiet : ∀ turn ∈ turns, turn.Quiet)
    {k : HidMessage} {ps rest : List Bytes} (hstream : reports turns = ps ++ rest)
    (hwire : OnWire k ps) :
    ∃ turns', hidRecvHidapi new turns = some ⟨.ok k, turns', []⟩
      ∧ reports turns' = rest ∧ (∀ turn ∈ turns', turn.Quiet)
      ∧ turns'.length < turns.length := by
  have hcollect := (collect_new_ok_iff k _ rest).mpr ⟨ps, hstream, hwire⟩
  rcases hidRecvHidapi_quiet turns hquiet new with
    ⟨hnone, _⟩ | ⟨result, rest', turns', hsome, hran, hrest, hquiet', hlen'⟩
  · rw [hnone] at hcollect
    cases hcollect
  · rw [hsome] at hcollect
    obtain ⟨rfl, rfl⟩ := Prod.mk.inj (Option.some.inj hcollect)
    exact ⟨turns', hran, hrest, hquiet', hlen'⟩

theorem hidRecvLoop_returns_iff (self : HidChannel) (m : HidMessage) :
    ∀ (fuel : Nat) (turns : List Turn), (∀ turn ∈ turns, turn.Quiet) → turns.length < fuel →
      ((∃ ran, self.hidRecvLoop fuel turns = some ran ∧ ran.result = .ok m)
        ↔ AfterKeepAlives (StartsWith m) (reports turns)) := by
  intro fuel
  -- by induction on the fuel: a turn takes one message, and is over unless it is a
  -- keep-alive
  induction fuel with
  | zero =>
      intro turns _ hlen
      omega
  | succ fuel ih =>
      intro turns hquiet hlen
      constructor
      · rintro ⟨ran, hran, hresult⟩
        rcases hidRecvHidapi_quiet turns hquiet new with
          ⟨_, hnone⟩ | ⟨result, rest, turns', hcollect, hsome, hrest, hquiet', hlen'⟩
        · rw [hidRecvLoop, hnone] at hran
          cases hran
        · cases result with
          | error e =>
              rw [self.hidRecvLoop_of_frameParse fuel hsome] at hran
              obtain rfl := Option.some.inj hran
              cases hresult
          | ok k =>
              obtain ⟨ps, hps, hwire⟩ := (collect_new_ok_iff k _ rest).mp hcollect
              rw [self.hidRecvLoop_of_ok fuel hsome] at hran
              rw [hps]
              by_cases hcmd : k.cmd = .keepAlive
              · rw [if_pos hcmd] at hran
                refine .skip hcmd hwire ?_
                rw [← hrest]
                exact (ih turns' hquiet' (by omega)).mp ⟨ran, hran, hresult⟩
              · rw [if_neg hcmd] at hran
                obtain rfl := Option.some.inj hran
                obtain rfl := Except.ok.inj hresult
                exact .here ⟨hcmd, ps, rest, rfl, hwire⟩
      · intro h
        generalize hstream : reports turns = stream at h
        cases h with
        | here h =>
            obtain ⟨hcmd, ps, rest, rfl, hwire⟩ := h
            obtain ⟨turns', hran, _⟩ := hidRecvHidapi_onWire hquiet hstream hwire
            refine ⟨⟨.ok m, turns', []⟩, ?_, rfl⟩
            rw [self.hidRecvLoop_of_ok fuel hran, if_neg hcmd]
        | skip hcmd hwire h =>
            obtain ⟨turns', hran, hrest, hquiet', hlen'⟩ :=
              hidRecvHidapi_onWire hquiet hstream hwire
            rw [self.hidRecvLoop_of_ok fuel hran, if_pos hcmd]
            rw [← hrest] at h
            exact (ih turns' hquiet' (by omega)).mpr h

/-- **What `hidRecv` returns.** -/
theorem hidRecv_returns_iff (self : HidChannel) {turns : List Turn}
    (hquiet : ∀ turn ∈ turns, turn.Quiet) (m : HidMessage) :
    self.Returns turns m ↔ AfterKeepAlives (StartsWith m) (reports turns) :=
  self.hidRecvLoop_returns_iff m _ turns hquiet (Nat.lt_succ_self _)

/-! ## §3. One channel's packets. -/

/-- The packet carries this channel id. -/
def onChannel (cid : UInt32) (p : Bytes) : Bool := cidBytes p == beEncode 4 cid.toNat

/-- The turns without the reports of other channels. -/
def own (cid : UInt32) (turns : List Turn) : List Turn :=
  turns.filter fun turn => turn.report?.all (onChannel cid)

theorem reports_own (cid : UInt32) (turns : List Turn) :
    reports (own cid turns) = (reports turns).filter (onChannel cid) := by
  induction turns with
  | nil => rfl
  | cons turn turns ih =>
      unfold own reports at ih ⊢
      cases hreport : turn.report? with
      | none =>
          rw [List.filter_cons_of_pos (by simp [hreport]), List.filterMap_cons_none hreport,
            List.filterMap_cons_none hreport, ih]
      | some report =>
          rw [List.filterMap_cons_some hreport]
          by_cases hown : onChannel cid report = true
          · rw [List.filter_cons_of_pos (by simpa [hreport] using hown),
              List.filterMap_cons_some hreport, List.filter_cons_of_pos hown, ih]
          · rw [List.filter_cons_of_neg (by simpa [hreport] using hown),
              List.filter_cons_of_neg hown, ih]

theorem own_quiet {cid : UInt32} {turns : List Turn} (hquiet : ∀ turn ∈ turns, turn.Quiet) :
    ∀ turn ∈ own cid turns, turn.Quiet :=
  fun turn hturn => hquiet turn (List.mem_of_mem_filter hturn)

/-- A message's packets are all of its own channel. -/
theorem filter_onWire {m : HidMessage} {ps : List Bytes} (h : OnWire m ps) (cid : UInt32) :
    ps.filter (onChannel cid) = if cid = m.cid then ps else [] := by
  have hall := h.chained.cidBytes_eq
  by_cases hcid : cid = m.cid
  · rw [if_pos hcid, List.filter_eq_self]
    intro p hp
    rw [onChannel, hall p hp, hcid, beq_self_eq_true]
  · rw [if_neg hcid, List.filter_eq_nil_iff]
    intro p hp hsame
    rw [onChannel, hall p hp, beq_iff_eq] at hsame
    have hval := congrArg beDecode hsame
    rw [beDecode_beEncode_of_lt m.cid.toNat_lt, beDecode_beEncode_of_lt cid.toNat_lt] at hval
    exact hcid (UInt32.toNat_inj.mp hval.symm)

theorem AfterKeepAlives.filter_own {m : HidMessage} {stream : List Bytes}
    (h : AfterKeepAlives (StartsWith m) stream) :
    AfterKeepAlives (StartsWith m) (stream.filter (onChannel m.cid)) := by
  induction h with
  | here h =>
      obtain ⟨hcmd, ps, rest, rfl, hwire⟩ := h
      rw [List.filter_append, filter_onWire hwire, if_pos rfl]
      exact .here ⟨hcmd, ps, _, rfl, hwire⟩
  | @skip k ps stream hcmd hwire _ ih =>
      rw [List.filter_append, filter_onWire hwire]
      by_cases hcid : m.cid = k.cid
      · rw [if_pos hcid]
        exact .skip hcmd hwire ih
      · rw [if_neg hcid]
        exact ih

/-- **The message returned is its channel's first one**, as if the packets
of all other channels were absent. -/
theorem hidRecv_own (self : HidChannel) {turns : List Turn}
    (hquiet : ∀ turn ∈ turns, turn.Quiet) {m : HidMessage} (h : self.Returns turns m) :
    self.Returns (own m.cid turns) m := by
  rw [hidRecv_returns_iff self (own_quiet hquiet), reports_own]
  exact ((hidRecv_returns_iff self hquiet m).mp h).filter_own

/-! ## §4. A foreign packet inside a message. -/

def cidMismatch : IoError := ⟨.invalidData, "Continuation packet CID mismatch"⟩

theorem update_foreign {cid initial p : Bytes} {conts : List Bytes}
    (h : Chained cid (initial :: conts)) (hlen : p.length = PACKET_SIZE) (hnz : NonZero p)
    (hforeign : cidBytes p ≠ cid) :
    update ⟨initial :: conts⟩ p = (.error cidMismatch, ⟨initial :: conts⟩) := by
  obtain ⟨hinit, hcid⟩ := h.isInitial
  have hlong : 4 ≤ initial.length := by
    have := hinit.long
    simp only [PACKET_INITIAL_HEADER_SIZE] at this
    omega
  have hp : 4 ≤ p.length := by
    rw [hlen]
    decide
  have hcheck : checkPacket ⟨initial :: conts⟩ p = .error cidMismatch := by
    unfold checkPacket
    rw [if_neg, if_neg ((nonZero_iff p).mp hnz), if_neg (List.cons_ne_nil _ _)]
    · unfold checkContinuation
      rw [List.head?_cons, Option.bind_some]
      simp only [ne_eq, getPrefix_eq_iff hp hlong]
      rw [if_pos (by rwa [hcid]), cidMismatch]
    · rw [hlen]
      simp [PACKET_SIZE, PACKET_CONT_HEADER_SIZE]
  rw [update, hcheck]

/-- Collecting runs through packets that leave the message incomplete. -/
theorem collect_append (qs : List Bytes) (reports : List Bytes) :
    ∀ held, Held held → Held (held ++ qs) →
      (∀ q, q <+: qs → q ≠ [] → morePacketsNeeded ⟨held ++ q⟩ = true) →
      collect ⟨held⟩ (qs ++ reports) = collect ⟨held ++ qs⟩ reports := by
  induction qs with
  | nil =>
      intro held _ _ _
      rw [List.nil_append, List.append_nil]
  | cons q qs ih =>
      intro held hheld hall hmore
      have hsplit : held ++ q :: qs = (held ++ [q]) ++ qs := by simp
      rw [hsplit] at hall ⊢
      have hnext : Held (held ++ [q]) := hall.of_append qs
      rcases update_held hheld q with ⟨_, hupdate⟩ | ⟨hbad, _⟩
      · rw [List.cons_append, collect, hupdate, state,
          if_pos (hmore [q] (by simp) (List.cons_ne_nil _ _))]
        refine ih _ hnext hall ?_
        intro q' hpre _
        have := hmore (q :: q') (List.cons_prefix_cons.mpr ⟨rfl, hpre⟩) (List.cons_ne_nil _ _)
        rwa [show held ++ q :: q' = (held ++ [q]) ++ q' from by simp] at this
      · exact absurd hnext hbad

/-- The receive loop fails on a packet of another channel. -/
theorem hidRecvHidapi_interrupted {turns : List Turn} (hquiet : ∀ turn ∈ turns, turn.Quiet)
    (h : StartsInterrupted (reports turns)) :
    ∃ turns', hidRecvHidapi new turns = some ⟨.error (.frameParse cidMismatch), turns', []⟩ := by
  obtain ⟨m, ps, ps', foreign, rest, hstream, hwire, hne, hne', hforeign, hnz⟩ := h
  have hheld : Held (ps ++ ps') := .inr ⟨_, hwire.chained⟩
  have hmem : foreign ∈ reports turns := by
    rw [hstream]
    simp
  have hlen := length_of_mem_reports hmem
  -- the first part of the message is no message yet
  have hmore : ∀ q, q <+: ps → q ≠ [] → morePacketsNeeded ⟨[] ++ q⟩ = true := by
    intro q hpre hqne
    refine hwire.message_eq.2 q (hpre.trans (List.prefix_append _ _)) hqne ?_
    intro heq
    have hle := hpre.length_le
    have hpos := List.length_pos_iff.mpr hne'
    rw [heq, List.length_append] at hle
    omega
  -- so the foreign packet is checked against the channel of the first one
  have hcollect : collect new (reports turns) = some (.error cidMismatch, rest) := by
    rw [hstream, show new = ⟨[]⟩ from rfl,
      collect_append ps _ [] (.inl rfl) (hheld.of_append ps') hmore, List.nil_append]
    obtain ⟨initial, conts, rfl⟩ := List.exists_cons_of_ne_nil hne
    rcases hheld.of_append ps' with hnil | ⟨cid, hchained⟩
    · exact absurd hnil hne
    · have hcid : cid = beEncode 4 m.cid.toNat := by
        rw [← hchained.isInitial.2]
        exact hwire.chained.cidBytes_eq initial (by simp)
      rw [collect, update_foreign hchained hlen hnz (by rwa [hcid])]
  rcases hidRecvHidapi_quiet turns hquiet new with
    ⟨hnone, _⟩ | ⟨result, rest', turns', hsome, hran, _⟩
  · rw [hnone] at hcollect
    cases hcollect
  · rw [hsome] at hcollect
    obtain ⟨rfl, _⟩ := Prod.mk.inj (Option.some.inj hcollect)
    exact ⟨turns', hran⟩

theorem hidRecvLoop_interrupted (self : HidChannel) :
    ∀ (fuel : Nat) (turns : List Turn), (∀ turn ∈ turns, turn.Quiet) → turns.length < fuel →
      AfterKeepAlives StartsInterrupted (reports turns) →
      ∃ ran, self.hidRecvLoop fuel turns = some ran
        ∧ ran.result = .error (.frameParse cidMismatch) := by
  intro fuel
  induction fuel with
  | zero =>
      intro turns _ hlen
      omega
  | succ fuel ih =>
      intro turns hquiet hlen h
      generalize hstream : reports turns = stream at h
      cases h with
      | here h =>
          obtain ⟨turns', hran⟩ := hidRecvHidapi_interrupted hquiet (by rwa [hstream])
          exact ⟨_, self.hidRecvLoop_of_frameParse fuel hran, rfl⟩
      | skip hcmd hwire h =>
          obtain ⟨turns', hran, hrest, hquiet', hlen'⟩ :=
            hidRecvHidapi_onWire hquiet hstream hwire
          rw [self.hidRecvLoop_of_ok fuel hran, if_pos hcmd]
          rw [← hrest] at h
          exact ih turns' hquiet' (by omega) h

/-- **A packet of another channel inside a message ends the receive** with a
parse error. -/
theorem hidRecv_interrupted (self : HidChannel) {turns : List Turn}
    (hquiet : ∀ turn ∈ turns, turn.Quiet)
    (h : AfterKeepAlives StartsInterrupted (reports turns)) :
    ∃ ran, self.hidRecv turns = some ran ∧ ran.result = .error (.frameParse cidMismatch) :=
  self.hidRecvLoop_interrupted _ turns hquiet (Nat.lt_succ_self _) h

/-! ## §5. How far channels are isolated. -/

/-- **Channel isolation as far as it goes**, for every stream of reports. -/
theorem hidRecv_isolation (self : HidChannel) (turns : List Turn)
    (hquiet : ∀ turn ∈ turns, turn.Quiet) :
    (∀ m, self.Returns turns m ↔ AfterKeepAlives (StartsWith m) (reports turns))
      ∧ (∀ m, self.Returns turns m → self.Returns (own m.cid turns) m)
      ∧ (AfterKeepAlives StartsInterrupted (reports turns) →
          ∃ ran, self.hidRecv turns = some ran
            ∧ ran.result = .error (.frameParse cidMismatch)) :=
  ⟨self.hidRecv_returns_iff hquiet, fun _ => self.hidRecv_own hquiet,
    self.hidRecv_interrupted hquiet⟩

/-- A turn that brings these bytes. -/
def reading (bytes : Bytes) (fits : bytes.length ≤ PACKET_SIZE) : Turn :=
  ⟨false, false, .ok ⟨bytes, fits⟩, none⟩

/-- A one-packet MSG of channel 0x05060708. -/
def foreignTurn : Turn := reading [5, 6, 7, 8, 0x83, 0, 1, 0xAA] (by decide)

/-- The CBOR answer of channel 0x01020304, in two packets. -/
def ownTurns : List Turn :=
  [reading ([1, 2, 3, 4, 0x90, 0, 58] ++ List.replicate 57 0xBB) (by decide),
   reading [1, 2, 3, 4, 0, 0xCC] (by decide)]

def ownMessage : HidMessage := ⟨0x01020304, .cbor, List.replicate 57 0xBB ++ [0xCC]⟩

/-- Alone, the answer is received; behind a foreign packet the foreign
message is returned; around one the receive fails. -/
theorem hidRecv_not_isolated :
    (HidChannel.mk 0x01020304).Returns ownTurns ownMessage
      ∧ own 0x01020304 (foreignTurn :: ownTurns) = ownTurns
      ∧ (HidChannel.mk 0x01020304).Returns (foreignTurn :: ownTurns) ⟨0x05060708, .msg, [0xAA]⟩
      ∧ ¬ (HidChannel.mk 0x01020304).Returns (foreignTurn :: ownTurns) ownMessage
      ∧ own 0x01020304 (ownTurns.take 1 ++ foreignTurn :: ownTurns.drop 1) = ownTurns
      ∧ ¬ (HidChannel.mk 0x01020304).Returns
          (ownTurns.take 1 ++ foreignTurn :: ownTurns.drop 1) ownMessage := by
  have halone : (HidChannel.mk 0x01020304).hidRecv ownTurns = some ⟨.ok ownMessage, [], []⟩ := by
    decide +kernel
  have hbehind : (HidChannel.mk 0x01020304).hidRecv (foreignTurn :: ownTurns)
      = some ⟨.ok ⟨0x05060708, .msg, [0xAA]⟩, ownTurns, []⟩ := by
    decide +kernel
  have haround : (HidChannel.mk 0x01020304).hidRecv
      (ownTurns.take 1 ++ foreignTurn :: ownTurns.drop 1)
        = some ⟨.error (.frameParse cidMismatch), ownTurns.drop 1, []⟩ := by
    decide +kernel
  refine ⟨⟨_, halone, rfl⟩, by decide +kernel, ⟨_, hbehind, rfl⟩, ?_, by decide +kernel, ?_⟩
  · rintro ⟨ran, hran, hresult⟩
    rw [hbehind] at hran
    obtain rfl := Option.some.inj hran
    exact absurd hresult (by decide)
  · rintro ⟨ran, hran, hresult⟩
    rw [haround] at hran
    obtain rfl := Option.some.inj hran
    exact absurd hresult (by decide)

/-- The foreign message received on channel 0x01020304 is its own channel's
first. -/
theorem hidRecv_isolation_foreign :
    AfterKeepAlives (StartsWith ⟨0x05060708, .msg, [0xAA]⟩) (reports (foreignTurn :: ownTurns))
      ∧ (HidChannel.mk 0x01020304).Returns (own 0x05060708 (foreignTurn :: ownTurns))
          ⟨0x05060708, .msg, [0xAA]⟩ := by
  have hquiet : ∀ turn ∈ foreignTurn :: ownTurns, turn.Quiet := by
    intro turn hturn
    simp only [foreignTurn, ownTurns, List.mem_cons, List.not_mem_nil, or_false] at hturn
    rcases hturn with rfl | rfl | rfl <;> exact ⟨rfl, rfl, _, rfl⟩
  obtain ⟨hiff, hown, _⟩ := hidRecv_isolation ⟨0x01020304⟩ (foreignTurn :: ownTurns) hquiet
  have hreturns : (HidChannel.mk 0x01020304).Returns (foreignTurn :: ownTurns)
      ⟨0x05060708, .msg, [0xAA]⟩ :=
    ⟨⟨.ok ⟨0x05060708, .msg, [0xAA]⟩, ownTurns, []⟩, by decide +kernel, rfl⟩
  exact ⟨(hiff _).mp hreturns, hown ⟨0x05060708, .msg, [0xAA]⟩ hreturns⟩

end HidChannel

end Libwebauthn.Transport.Hid
