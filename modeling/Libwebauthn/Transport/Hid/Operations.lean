/-
  Libwebauthn.Transport.Hid.Operations — CBOR and APDU operations on one HID
  channel (`cbor_send` to `apdu_recv` of `src/transport/hid/channel.rs`).

  The device answers the requests that reach it in order and once each, as
  late as it likes; an operation reads what comes next.  An operation that
  gives up leaves its answer unread, and nothing tells the next one whose
  answer it reads: `operations_own_answer` says when each operation still gets
  its own.
-/
import Mathlib.Data.List.TakeWhile
import Libwebauthn.Ctap1.Apdu
import Libwebauthn.Ctap2.CborMessage
import Libwebauthn.Lib.Steps
import Libwebauthn.Transport.Hid.Isolation

namespace Libwebauthn.Transport.Hid

/-! ## §1. Operations. -/

inductive OperationError where
  | hid (e : HidError)
  | responseDecode (e : IoError)
  deriving Repr, DecidableEq

namespace HidChannel

variable (self : HidChannel)

def cborSend (request : CborRequest) (turns : List Turn) : Option (Ran Unit) :=
  self.hidSend ⟨self.cid, .cbor, request.ctapHidData⟩ turns

def apduSend (request : ApduRequest) (turns : List Turn) : Option (Ran Unit) :=
  match request.rawLong with
  | .error e => some ⟨.error (.packetEncode e), turns, []⟩
  | .ok apduRaw => self.hidSend ⟨self.cid, .msg, apduRaw⟩ turns

end HidChannel

/-- The payload of a received message, decoded; the channel id and the
command are not looked at. -/
def decodeResponse {α : Type} (tryFrom : Bytes → Except IoError α) :
    Except HidError HidMessage → Except OperationError α
  | .error e => .error (.hid e)
  | .ok hidResponse => (tryFrom hidResponse.payload).mapError .responseDecode

namespace HidChannel

variable (self : HidChannel)

def cborRecv (turns : List Turn) :
    Option (Except OperationError CborResponse × List Turn) :=
  (self.hidRecv turns).map fun ran => (decodeResponse CborResponse.tryFrom ran.result, ran.turns)

def apduRecv (turns : List Turn) :
    Option (Except OperationError ApduResponse × List Turn) :=
  (self.hidRecv turns).map fun ran => (decodeResponse ApduResponse.tryFrom ran.result, ran.turns)

end HidChannel

inductive HidRequest where
  | cbor (request : CborRequest)
  | apdu (request : ApduRequest)
  deriving Repr, DecidableEq

inductive HidResponse where
  | cbor (response : CborResponse)
  | apdu (response : ApduResponse)
  deriving Repr, DecidableEq

/-- What a received message is to the operation of the request. -/
def HidRequest.decode (request : HidRequest) (received : Except HidError HidMessage) :
    Except OperationError HidResponse :=
  match request with
  | .cbor _ => (decodeResponse CborResponse.tryFrom received).map .cbor
  | .apdu _ => (decodeResponse ApduResponse.tryFrom received).map .apdu

namespace HidChannel

variable (self : HidChannel)

def send : HidRequest → List Turn → Option (Ran Unit)
  | .cbor request => self.cborSend request
  | .apdu request => self.apduSend request

def recv (request : HidRequest) (turns : List Turn) :
    Option (Except OperationError HidResponse × List Turn) :=
  match request with
  | .cbor _ => (self.cborRecv turns).map fun ran => (ran.1.map .cbor, ran.2)
  | .apdu _ => (self.apduRecv turns).map fun ran => (ran.1.map .apdu, ran.2)

end HidChannel

/-! ## §2. The device. -/

open HidMessageParser

/-- A message in the packets it comes in. -/
structure WireMessage where
  message : HidMessage
  packets : List Bytes
  onWire : OnWire message packets

/-- What the device sends for one request: any number of keep-alives, and
the answer. -/
structure DeviceAnswer where
  keepAlives : List WireMessage
  answer : WireMessage
  keepAlives_cmd : ∀ keepAlive ∈ keepAlives, keepAlive.message.cmd = .keepAlive
  answer_cmd : answer.message.cmd ≠ .keepAlive

def DeviceAnswer.packets (self : DeviceAnswer) : List Bytes :=
  self.keepAlives.flatMap (·.packets) ++ self.answer.packets

/-- The reports a receive reads: none from the turn on in which it is
cancelled or its time is up. -/
def readReports (turns : List Turn) : List Bytes :=
  reports (turns.takeWhile fun turn => !turn.cancelled && !turn.expired)

/-- An operation: its request, the turns of the operating system, and what
the device sends for the request if that reaches it. -/
structure OperationMove where
  request : HidRequest
  turns : List Turn
  answer : DeviceAnswer

structure OperationResult where
  request : HidRequest
  answer : DeviceAnswer
  result : Except OperationError HidResponse

/-- The reports the device still has to deliver, and the operations so far. -/
structure HidSystem where
  unread : List Bytes := []
  log : List OperationResult := []

namespace HidSystem

variable (self : HidChannel)

/-- One operation, over exactly its turns.  What it reads is what the device
has to deliver next. -/
def step (s : HidSystem) (move : OperationMove) : Option HidSystem :=
  let finish (result : Except OperationError HidResponse) : List OperationResult :=
    s.log ++ [⟨move.request, move.answer, result⟩]
  match self.send move.request move.turns with
  | none => none
  | some sent =>
      match sent.result with
      | .error e =>
          -- the device has no whole request to answer
          if sent.turns = [] then some { s with log := finish (.error (.hid e)) } else none
      | .ok () =>
          match self.recv move.request sent.turns with
          | some (result, []) =>
              let toDeliver := s.unread ++ move.answer.packets
              if readReports sent.turns <+: toDeliver then
                some
                  { unread := toDeliver.drop (readReports sent.turns).length
                    log := finish result }
              else none
          | _ => none

end HidSystem

/-! ## §3. What a receive that succeeds has read. -/

namespace HidChannel

theorem quiet_of_hidRecvHidapi {m : HidMessage} {rest : List Turn} {written : List Bytes}
    (turns : List Turn) : ∀ parser, hidRecvHidapi parser turns = some ⟨.ok m, rest, written⟩ →
      ∃ used, turns = used ++ rest ∧ ∀ turn ∈ used, turn.Quiet := by
  induction turns with
  | nil =>
      intro parser h
      cases h
  | cons turn turns ih =>
      intro parser h
      -- the turn itself is quiet, and either it is the last one or the loop goes on
      have hgoOn : ∀ next, turn.Quiet → hidRecvHidapi next turns = some ⟨.ok m, rest, written⟩ →
          ∃ used, turn :: turns = used ++ rest ∧ ∀ turn ∈ used, turn.Quiet := by
        intro next hquiet hnext
        obtain ⟨used, rfl, hused⟩ := ih next hnext
        exact ⟨turn :: used, rfl, List.forall_mem_cons.mpr ⟨hquiet, hused⟩⟩
      unfold hidRecvHidapi at h
      split at h
      · cases h
      · rename_i hcancelled
        split at h
        · cases h
        · rename_i hexpired
          split at h
          · cases h
          · rename_i read hread
            have hquiet : turn.Quiet :=
              ⟨by simpa using hcancelled, by simpa using hexpired, read, hread⟩
            split at h
            · exact hgoOn parser hquiet h
            · split at h
              · cases h
              · exact hgoOn _ hquiet h
              · obtain ⟨hresult, rfl, _⟩ := Ran.mk.inj (Option.some.inj h)
                exact ⟨[turn], rfl, by simpa using hquiet⟩

theorem quiet_of_hidRecvLoop (self : HidChannel) {m : HidMessage} {rest : List Turn}
    {written : List Bytes} (fuel : Nat) :
    ∀ turns, self.hidRecvLoop fuel turns = some ⟨.ok m, rest, written⟩ →
      ∃ used, turns = used ++ rest ∧ ∀ turn ∈ used, turn.Quiet := by
  -- by induction on the fuel: what this turn took, then what the loop takes
  induction fuel with
  | zero =>
      intro turns h
      cases h
  | succ fuel ih =>
      intro turns h
      unfold hidRecvLoop at h
      obtain ⟨⟨result, turns', written'⟩, hran, hloop⟩ := Option.bind_eq_some_iff.mp h
      clear h
      split at hloop
      · -- a keep-alive: what it took and what the rest of the loop took
        rename_i hkeep
        simp only at hkeep
        subst hkeep
        obtain ⟨used, rfl, hused⟩ := quiet_of_hidRecvHidapi turns _ hran
        obtain ⟨used', rfl, hused'⟩ := ih turns' hloop
        refine ⟨used ++ used', (List.append_assoc _ _ _).symm, ?_⟩
        intro turn hturn
        rcases List.mem_append.mp hturn with hturn | hturn
        · exact hused turn hturn
        · exact hused' turn hturn
      · rename_i hresult
        obtain ⟨cancel, _, hcancel⟩ := Option.bind_eq_some_iff.mp hloop
        simp only at hresult
        subst hresult
        cases hcancel
      · rename_i hresult
        obtain ⟨cancel, _, hcancel⟩ := Option.bind_eq_some_iff.mp hloop
        simp only at hresult
        subst hresult
        cases hcancel
      · cases hloop
        exact quiet_of_hidRecvHidapi turns _ hran

/-- A receive that succeeds on all its turns has met nothing but reads. -/
theorem quiet_of_hidRecv (self : HidChannel) {m : HidMessage} {turns : List Turn}
    {written : List Bytes} (h : self.hidRecv turns = some ⟨.ok m, [], written⟩) :
    ∀ turn ∈ turns, turn.Quiet := by
  obtain ⟨used, hturns, hused⟩ := quiet_of_hidRecvLoop self _ turns h
  rw [List.append_nil] at hturns
  exact hturns ▸ hused

theorem readReports_of_quiet {turns : List Turn} (h : ∀ turn ∈ turns, turn.Quiet) :
    readReports turns = reports turns := by
  rw [readReports, List.takeWhile_eq_self_iff.mpr]
  intro turn hturn
  obtain ⟨hcancelled, hexpired, _⟩ := h turn hturn
  rw [hcancelled, hexpired]
  rfl

/-! ## §4. Whose answer it is. -/

theorem AfterKeepAlives.append {m : HidMessage} {stream : List Bytes}
    (h : AfterKeepAlives (StartsWith m) stream) (more : List Bytes) :
    AfterKeepAlives (StartsWith m) (stream ++ more) := by
  induction h with
  | here h =>
      obtain ⟨hcmd, ps, rest, rfl, hwire⟩ := h
      exact .here ⟨hcmd, ps, rest ++ more, List.append_assoc _ _ _, hwire⟩
  | skip hcmd hwire _ ih =>
      rw [List.append_assoc]
      exact .skip hcmd hwire ih

/-- A stream starts with the packets of one message only. -/
theorem onWire_unique {m m' : HidMessage} {ps ps' rest rest' : List Bytes} (h : OnWire m ps)
    (h' : OnWire m' ps') (hstream : ps ++ rest = ps' ++ rest') : m = m' ∧ rest = rest' := by
  have hcollect := (collect_new_ok_iff m (ps ++ rest) rest).mpr ⟨ps, rfl, h⟩
  have hcollect' := (collect_new_ok_iff m' (ps' ++ rest') rest').mpr ⟨ps', rfl, h'⟩
  rw [hstream, hcollect'] at hcollect
  obtain ⟨hm, hrest⟩ := Prod.mk.inj (Option.some.inj hcollect)
  exact ⟨(Except.ok.inj hm).symm, hrest.symm⟩

/-- Behind the keep-alives of a request comes its answer. -/
theorem eq_answer {m : HidMessage} (answer : WireMessage)
    (hanswer : answer.message.cmd ≠ .keepAlive) (keepAlives : List WireMessage)
    (hkeep : ∀ keepAlive ∈ keepAlives, keepAlive.message.cmd = .keepAlive) :
    AfterKeepAlives (StartsWith m) (keepAlives.flatMap (·.packets) ++ answer.packets) →
      m = answer.message := by
  induction keepAlives with
  | nil =>
      intro h
      generalize hstream : [].flatMap WireMessage.packets ++ answer.packets = stream at h
      have hpackets : answer.packets ++ [] = stream := by simpa using hstream
      cases h with
      | here h =>
          obtain ⟨_, ps, rest, rfl, hwire⟩ := h
          exact (onWire_unique answer.onWire hwire hpackets).1.symm
      | skip hcmd hwire _ =>
          rw [← (onWire_unique answer.onWire hwire hpackets).1] at hcmd
          exact absurd hcmd hanswer
  | cons keepAlive keepAlives ih =>
      intro h
      obtain ⟨hcmd', hrest⟩ := List.forall_mem_cons.mp hkeep
      generalize hstream : (keepAlive :: keepAlives).flatMap WireMessage.packets ++ answer.packets
        = stream at h
      have hpackets : keepAlive.packets
          ++ (keepAlives.flatMap (·.packets) ++ answer.packets) = stream := by
        rw [← hstream, List.flatMap_cons, List.append_assoc]
      cases h with
      | here h =>
          obtain ⟨hcmd, ps, rest, rfl, hwire⟩ := h
          rw [← (onWire_unique keepAlive.onWire hwire hpackets).1] at hcmd
          exact absurd hcmd' hcmd
      | skip hcmd hwire h =>
          rw [← (onWire_unique keepAlive.onWire hwire hpackets).2] at h
          exact ih hrest h

/-- Nothing is left of an earlier answer but the end of one that was cut. -/
def NoAnswerUnread (unread : List Bytes) : Prop := ∀ p, unread.head? = some p → ¬ IsInitial p

instance : DecidablePred IsInitial := fun p =>
  decidable_of_iff _ (checkPacket_new_iff p)

instance : DecidablePred NoAnswerUnread
  | [] => .isTrue fun _ h => by cases h
  | p :: _ => decidable_of_iff (¬ IsInitial p) (by simp [NoAnswerUnread])

/-- **A receive that succeeds returns the answer of its own request**, when
no earlier answer is unread. -/
theorem hidRecv_own_answer (self : HidChannel) {unread : List Bytes} {answer : DeviceAnswer}
    {turns : List Turn} {m : HidMessage} {written : List Bytes}
    (hunread : NoAnswerUnread unread)
    (hreads : readReports turns <+: unread ++ answer.packets)
    (h : self.hidRecv turns = some ⟨.ok m, [], written⟩) : m = answer.answer.message := by
  have hquiet := quiet_of_hidRecv self h
  have hstream := (self.hidRecv_returns_iff hquiet m).mp ⟨_, h, rfl⟩
  rw [readReports_of_quiet hquiet] at hreads
  cases unread with
  | nil =>
      obtain ⟨more, hmore⟩ := hreads
      have hanswer := AfterKeepAlives.append hstream more
      rw [hmore, List.nil_append] at hanswer
      exact eq_answer answer.answer answer.answer_cmd answer.keepAlives answer.keepAlives_cmd
        hanswer
  | cons p unread =>
      -- the first report is no initialization packet, so nothing is received
      have hfirst : ∀ q, (reports turns).head? = some q → ¬ IsInitial q := by
        intro q hq
        refine hunread q ?_
        obtain ⟨more, hmore⟩ := hreads
        cases hturns : reports turns with
        | nil =>
            rw [hturns] at hq
            cases hq
        | cons q' qs =>
            rw [hturns] at hq hmore
            rw [← hq, List.head?_cons, List.head?_cons, (List.cons.inj hmore).1]
      have hinitial : ∀ {k : HidMessage} {ps rest : List Bytes}, OnWire k ps →
          reports turns = ps ++ rest → False := by
        intro k ps rest hwire hps
        obtain ⟨q, qs, rfl⟩ := List.exists_cons_of_ne_nil hwire.chained.ne_nil
        exact hfirst q (by rw [hps]; rfl) hwire.chained.isInitial.1
      generalize hstart : reports turns = stream at hstream
      cases hstream with
      | here hmessage =>
          obtain ⟨_, ps, rest, rfl, hwire⟩ := hmessage
          exact (hinitial hwire hstart).elim
      | skip _ hwire _ => exact (hinitial hwire hstart).elim

theorem recv_eq (self : HidChannel) (request : HidRequest) (turns : List Turn) :
    self.recv request turns
      = (self.hidRecv turns).map fun ran => (request.decode ran.result, ran.turns) := by
  cases request with
  | cbor request => exact Option.map_map _ _ _
  | apdu request => exact Option.map_map _ _ _

end HidChannel

namespace HidSystem

open HidChannel

variable (self : HidChannel)

/-- Every operation that returned a response returned that of its own
answer. -/
def AllOwn (s : HidSystem) : Prop :=
  ∀ op ∈ s.log, ∀ response, op.result = .ok response →
    op.request.decode (.ok op.answer.answer.message) = .ok response

/-- **Step lemma.** -/
theorem AllOwn.step {s s' : HidSystem} {move : OperationMove} (h : AllOwn s)
    (hunread : NoAnswerUnread s.unread) (hstep : s.step self move = some s') : AllOwn s' := by
  -- one operation more, of which nothing but its own answer is to be shown
  have hsnoc : ∀ {result : Except OperationError HidResponse} {unread : List Bytes},
      (∀ response, result = .ok response →
        move.request.decode (.ok move.answer.answer.message) = .ok response) →
      AllOwn ⟨unread, s.log ++ [⟨move.request, move.answer, result⟩]⟩ := by
    intro result unread hown op hop
    rcases List.mem_append.mp hop with hop | hop
    · exact h op hop
    · obtain rfl := List.mem_singleton.mp hop
      exact hown
  unfold HidSystem.step at hstep
  dsimp only at hstep
  split at hstep
  · cases hstep
  · rename_i sent hsent
    split at hstep
    · split at hstep
      · cases hstep
        exact hsnoc fun response hresponse => by cases hresponse
      · cases hstep
    · split at hstep
      · rename_i result hrecv
        split at hstep
        · rename_i hreads
          cases hstep
          refine hsnoc fun response hresponse => ?_
          rw [recv_eq, Option.map_eq_some_iff] at hrecv
          obtain ⟨⟨received, rest, written⟩, hran, hdecoded⟩ := hrecv
          obtain ⟨rfl, rfl⟩ := Prod.mk.inj hdecoded
          cases received with
          | error e =>
              cases hrequest : move.request <;> rw [hrequest] at hresponse <;> cases hresponse
          | ok m =>
              rw [hidRecv_own_answer self hunread hreads hran] at hresponse
              exact hresponse
        · cases hstep
      · cases hstep

/-- **Each operation gets the answer to its own request** in every run in
which no operation begins with the answer to an earlier one unread: whatever
is cancelled or times out, and however late the device answers. -/
theorem operations_own_answer (moves : List OperationMove) (s : HidSystem)
    (hrun : runSteps (step self) {} moves = some s)
    (halone : Along (step self) (fun s _ => NoAnswerUnread s.unread) {} moves) :
    ∀ op ∈ s.log, ∀ response, op.result = .ok response →
      op.request.decode (.ok op.answer.answer.message) = .ok response := by
  have hstart : AllOwn {} := by
    intro op hop
    cases hop
  exact runSteps_invariant_along (fun s move s' h hunread hstep => AllOwn.step self h hunread hstep)
    moves {} s hstart halone hrun

/-- The device's answer in one packet: a CBOR message with only a status. -/
def statusPacket (status : UInt8) : Bytes :=
  [1, 2, 3, 4, 0x90, 0, 1, status] ++ List.replicate 56 0

def statusAnswer (status : UInt8)
    (honWire : OnWire ⟨0x01020304, .cbor, [status]⟩ [statusPacket status]) : DeviceAnswer where
  keepAlives := []
  answer := ⟨⟨0x01020304, .cbor, [status]⟩, [statusPacket status], honWire⟩
  keepAlives_cmd := fun _ hmem => by cases hmem
  answer_cmd := fun hcmd => by cases hcmd

theorem onWire_of_collect {m : HidMessage} {ps : List Bytes}
    (h : collect new ps = some (.ok m, [])) : OnWire m ps := by
  obtain ⟨qs, hqs, hwire⟩ := (collect_new_ok_iff m ps []).mp h
  rw [List.append_nil] at hqs
  exact hqs ▸ hwire

def cancelledAnswer : DeviceAnswer := statusAnswer 0x2D (onWire_of_collect (by decide))
def okAnswer : DeviceAnswer := statusAnswer 0x00 (onWire_of_collect (by decide))

def writing : Turn := ⟨false, false, .ok ⟨[], by decide⟩, none⟩
def expiring : Turn := ⟨false, true, .ok ⟨[], by decide⟩, none⟩
def cancelling : Turn := ⟨true, false, .ok ⟨[], by decide⟩, none⟩

def selection : HidRequest := .cbor ⟨.authenticatorSelection, []⟩

set_option maxRecDepth 8000 in
/-- A request cancelled while it is written, and one that is answered. -/
theorem operations_own_answer_session :
    ∃ s, runSteps (step ⟨0x01020304⟩) {}
          [⟨selection, [cancelling, writing], cancelledAnswer⟩,
            ⟨selection, [writing, writing, reading (statusPacket 0x00) (by decide)], okAnswer⟩]
        = some s
      ∧ s.log.length = 2
      ∧ ∀ op ∈ s.log, ∀ response, op.result = .ok response →
          op.request.decode (.ok op.answer.answer.message) = .ok response :=
  ⟨_, rfl, rfl, operations_own_answer ⟨0x01020304⟩
    [⟨selection, [cancelling, writing], cancelledAnswer⟩,
      ⟨selection, [writing, writing, reading (statusPacket 0x00) (by decide)], okAnswer⟩]
    _ rfl (by decide +kernel)⟩

set_option maxRecDepth 8000 in
/-- A request that expires and is cancelled; the one behind it reads the
KEEPALIVE_CANCEL of the first as its own answer. -/
theorem operations_not_own_answer :
    ∃ s, runSteps (step ⟨0x01020304⟩) {}
          [⟨selection, [writing, expiring, writing], cancelledAnswer⟩,
            ⟨selection, [writing, reading (statusPacket 0x2D) (by decide)], okAnswer⟩] = some s
      ∧ ∃ op ∈ s.log, op.result = .ok (.cbor ⟨.keepAliveCancel, none⟩)
          ∧ op.request.decode (.ok op.answer.answer.message) = .ok (.cbor ⟨.ok, none⟩) :=
  ⟨_, rfl, ⟨selection, okAnswer, .ok (.cbor ⟨.keepAliveCancel, none⟩)⟩, .tail _ (.head _), rfl, rfl⟩

end HidSystem

end Libwebauthn.Transport.Hid
