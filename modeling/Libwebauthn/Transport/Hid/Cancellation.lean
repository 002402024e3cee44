/-
  Libwebauthn.Transport.Hid.Cancellation — which operations a cancel reaches
  (`HidChannelHandle::cancel_ongoing_operation` and the loops of
  `src/transport/hid/channel.rs` that poll for it).

  A call to `cancel_ongoing_operation` sends through a queue with room for one
  cancel, and waits for room where it is taken.  The loops of a send or a receive
  take what is in the queue once a turn; nothing else takes it.
-/
import Libwebauthn.Transport.Hid.Operations

namespace Libwebauthn.Transport.Hid

/-! ## §1. The queue of cancels. -/

/-- The calls made so far, numbered in order: those that wait for room, and the
one in the queue. -/
structure CancelQueue where
  issued : Nat := 0
  waiting : List Nat := []
  queued : Option Nat := none
  deriving DecidableEq

/-- What the handles do meanwhile. -/
inductive CancelEvent where
  /-- `cancel_ongoing_operation` is called. -/
  | issue
  /-- A call that waits gets into the queue. -/
  | deliver (i : Nat)
  /-- The future of a call that waits is dropped. -/
  | abandon (i : Nat)
  deriving DecidableEq

namespace CancelQueue

/-- A call that waits gets into the queue, if there is room. -/
def deliver (q : CancelQueue) (i : Nat) : CancelQueue :=
  match q.queued, q.waiting[i]? with
  | none, some cancel => { q with waiting := q.waiting.eraseIdx i, queued := some cancel }
  | _, _ => q

def apply (q : CancelQueue) : CancelEvent → CancelQueue
  | .issue => { q with issued := q.issued + 1, waiting := q.waiting ++ [q.issued] }
  | .deliver i => q.deliver i
  | .abandon i => { q with waiting := q.waiting.eraseIdx i }

def applyAll (q : CancelQueue) (events : List CancelEvent) : CancelQueue := events.foldl apply q

/-- The cancels that an operation can still meet. -/
def pending (q : CancelQueue) : List Nat := q.waiting ++ q.queued.toList

/-- Every pending cancel was issued after the first `start` ones. -/
def Since (start : Nat) (q : CancelQueue) : Prop :=
  start ≤ q.issued ∧ ∀ cancel ∈ q.pending, start ≤ cancel ∧ cancel < q.issued

/-- On an empty queue everything is still to come. -/
theorem since_of_pending_nil {q : CancelQueue} (h : q.pending = []) : Since q.issued q := by
  refine ⟨Nat.le_refl _, fun cancel hmem => ?_⟩
  rw [h] at hmem
  cases hmem

theorem deliver_issued (q : CancelQueue) (i : Nat) : (q.deliver i).issued = q.issued := by
  unfold deliver
  split <;> rfl

theorem mem_of_mem_deliver {q : CancelQueue} {i cancel : Nat} (h : cancel ∈ (q.deliver i).pending) :
    cancel ∈ q.pending := by
  unfold deliver at h
  split at h
  · next next hqueued hwaiting =>
      rcases List.mem_append.mp h with h | h
      · exact List.mem_append_left _ (List.mem_of_mem_eraseIdx h)
      · rw [Option.toList_some, List.mem_singleton] at h
        exact List.mem_append_left _ (h ▸ List.mem_of_getElem? hwaiting)
  · exact h

/-- What is pending since the start stays so, whatever happens to the queue. -/
theorem Since.apply {start : Nat} {q : CancelQueue} (h : Since start q) (event : CancelEvent) :
    Since start (q.apply event) := by
  obtain ⟨hstart, hpending⟩ := h
  cases event with
  | issue =>
      refine ⟨Nat.le_succ_of_le hstart, fun cancel hmem => ?_⟩
      have hcases : cancel ∈ q.pending ∨ cancel = q.issued := by
        simp only [CancelQueue.apply, pending, List.mem_append, List.mem_singleton] at hmem ⊢
        tauto
      show start ≤ cancel ∧ cancel < q.issued + 1
      rcases hcases with hold | rfl
      · have hrange := hpending cancel hold
        omega
      · omega
  | deliver i =>
      refine ⟨?_, fun cancel hmem => ?_⟩
      · show start ≤ (q.deliver i).issued
        rw [deliver_issued]
        exact hstart
      · show start ≤ cancel ∧ cancel < (q.deliver i).issued
        rw [deliver_issued]
        exact hpending cancel (mem_of_mem_deliver hmem)
  | abandon i =>
      refine ⟨hstart, fun cancel hmem => hpending cancel ?_⟩
      rcases List.mem_append.mp hmem with hmem | hmem
      · exact List.mem_append_left _ (List.mem_of_mem_eraseIdx hmem)
      · exact List.mem_append_right _ hmem

/-- Issued cancels are never taken back. -/
theorem issued_le_apply (q : CancelQueue) (event : CancelEvent) :
    q.issued ≤ (q.apply event).issued := by
  cases event with
  | issue => exact Nat.le_succ _
  | deliver i => exact Nat.le_of_eq (deliver_issued q i).symm
  | abandon i => exact Nat.le_refl _

theorem Since.applyAll {start : Nat} (events : List CancelEvent) :
    ∀ {q : CancelQueue}, Since start q → Since start (q.applyAll events) := by
  induction events with
  | nil => exact fun h => h
  | cons event events ih => exact fun h => ih (h.apply event)

theorem issued_le_applyAll (events : List CancelEvent) :
    ∀ q : CancelQueue, q.issued ≤ (q.applyAll events).issued := by
  induction events with
  | nil => exact fun q => Nat.le_refl _
  | cons event events ih =>
      exact fun q => Nat.le_trans (q.issued_le_apply event) (ih (q.apply event))

end CancelQueue

/-! ## §2. Turns that poll the queue. -/

/-- A turn of a loop: what the handles do before it polls, and the answers of
the operating system. -/
structure Poll where
  events : List CancelEvent
  expired : Bool
  read : Except String HidRead
  write : Option String
  deriving DecidableEq

/-- What `try_recv` sees. -/
def Poll.turn (poll : Poll) (q : CancelQueue) : Turn :=
  ⟨q.queued.isSome, poll.expired, poll.read, poll.write⟩

/-- The turns of an operation, with what they find in the queue; the queue they
leave, and the cancels they took. -/
def observe : CancelQueue → List Poll → List Turn × CancelQueue × List Nat
  | q, [] => ([], q, [])
  | q, poll :: polls =>
      let q := q.applyAll poll.events
      let rest := observe { q with queued := none } polls
      (poll.turn q :: rest.1, rest.2.1, q.queued.toList ++ rest.2.2)

/-- What an operation takes was issued since `start`. -/
theorem since_observe {start : Nat} (polls : List Poll) : ∀ {q : CancelQueue},
    CancelQueue.Since start q →
      CancelQueue.Since start (observe q polls).2.1
        ∧ q.issued ≤ (observe q polls).2.1.issued
        ∧ ∀ cancel ∈ (observe q polls).2.2,
          start ≤ cancel ∧ cancel < (observe q polls).2.1.issued := by
  induction polls with
  | nil => exact fun h => ⟨h, Nat.le_refl _, fun _ hmem => (by cases hmem)⟩
  | cons poll polls ih =>
      intro q h
      have hevents := h.applyAll poll.events
      have hissued := q.issued_le_applyAll poll.events
      have htaken : CancelQueue.Since start { q.applyAll poll.events with queued := none } :=
        ⟨hevents.1, fun cancel hmem =>
          hevents.2 cancel (List.mem_append_left _ (by simpa [CancelQueue.pending] using hmem))⟩
      obtain ⟨hrest, hgrows, hrange⟩ := ih htaken
      refine ⟨hrest, Nat.le_trans hissued hgrows, fun cancel hmem => ?_⟩
      rcases List.mem_append.mp hmem with hmem | hmem
      · -- the cancel that this turn took
        have hnow := hevents.2 cancel (List.mem_append_right _ hmem)
        exact ⟨hnow.1, Nat.lt_of_lt_of_le hnow.2 hgrows⟩
      · exact hrange cancel hmem

/-- A turn that finds a cancel takes it. -/
theorem taken_of_cancelled (polls : List Poll) : ∀ {q : CancelQueue},
    (∃ turn ∈ (observe q polls).1, turn.cancelled = true) → (observe q polls).2.2 ≠ [] := by
  induction polls with
  | nil =>
      rintro q ⟨turn, hmem, -⟩
      cases hmem
  | cons poll polls ih =>
      rintro q ⟨turn, hmem, hcancelled⟩ hnil
      obtain ⟨hnone, hrest⟩ := List.append_eq_nil_iff.mp hnil
      rcases List.mem_cons.mp hmem with rfl | hmem
      · obtain ⟨cancel, hqueued⟩ := Option.isSome_iff_exists.mp hcancelled
        rw [hqueued] at hnone
        cases hnone
      · exact ih ⟨turn, hmem, hcancelled⟩ hrest

/-! ## §3. An operation. -/

namespace HidChannel

variable (self : HidChannel)

/-- A send, and the receive after it. -/
def operate (request : HidRequest) (turns : List Turn) :
    Option (Except OperationError HidResponse × List Turn) := do
  let sent ← self.send request turns
  match sent.result with
  | .error e => some (.error (.hid e), sent.turns)
  | .ok () => self.recv request sent.turns

/-- Some turn found a cancel. -/
abbrev CancelledTurn (turns : List Turn) : Prop := ∃ turn ∈ turns, turn.cancelled = true

/-- A turn that was cancelled is one of a longer run. -/
theorem CancelledTurn.append_left {more : List Turn} (h : CancelledTurn more)
    (turns : List Turn) : CancelledTurn (turns ++ more) := by
  obtain ⟨turn, hmem, hcancelled⟩ := h
  exact ⟨turn, List.mem_append_right _ hmem, hcancelled⟩

/-- By induction on the packets: a write is cancelled only by a cancel it met. -/
theorem writePackets_spec (packets : List Bytes) : ∀ {turns : List Turn} {ran : Ran Unit},
    writePackets packets turns = some ran →
      (∃ used, turns = used ++ ran.turns)
        ∧ (ran.result = .error .cancelled → CancelledTurn turns) := by
  induction packets with
  | nil =>
      intro turns ran h
      obtain rfl := Option.some.inj h
      exact ⟨⟨[], rfl⟩, fun h => (by cases h)⟩
  | cons packet packets ih =>
      intro turns ran h
      cases turns with
      | nil => cases h
      | cons turn turns =>
          unfold writePackets at h
          split at h
          next hcancelled =>
            obtain rfl := Option.some.inj h
            exact ⟨⟨[turn], rfl⟩, fun _ => ⟨turn, List.mem_cons_self .., hcancelled⟩⟩
          next =>
            split at h
            · obtain rfl := Option.some.inj h
              exact ⟨⟨[turn], rfl⟩, fun h => (by cases h)⟩
            · obtain ⟨rest, hrest, rfl⟩ := Option.map_eq_some_iff.mp h
              obtain ⟨⟨used, hused⟩, hcancelled⟩ := ih hrest
              refine ⟨⟨turn :: used, congrArg (turn :: ·) hused⟩, fun h => ?_⟩
              exact (hcancelled h).append_left [turn]

theorem hidSendHidapi_spec {msg : HidMessage} {turns : List Turn} {ran : Ran Unit}
    (h : hidSendHidapi msg turns = some ran) :
    (∃ used, turns = used ++ ran.turns)
      ∧ (ran.result = .error .cancelled → CancelledTurn turns) := by
  unfold hidSendHidapi at h
  split at h
  · obtain rfl := Option.some.inj h
    exact ⟨⟨[], rfl⟩, fun h => (by cases h)⟩
  · exact writePackets_spec _ h

/-- A send that fails so found a cancel itself. -/
theorem hidSend_spec {msg : HidMessage} {turns : List Turn} {ran : Ran Unit}
    (h : self.hidSend msg turns = some ran) :
    (∃ used, turns = used ++ ran.turns)
      ∧ (ran.result = .error .cancelled → CancelledTurn turns) := by
  obtain ⟨first, hfirst, h⟩ := Option.bind_eq_some_iff.mp h
  obtain ⟨⟨used, hused⟩, hcancelled⟩ := hidSendHidapi_spec hfirst
  split at h
  next hresult =>
    obtain ⟨cancel, hcancel, h⟩ := Option.bind_eq_some_iff.mp h
    obtain rfl := Option.some.inj h
    obtain ⟨⟨used', hused'⟩, -⟩ := hidSendHidapi_spec hcancel
    refine ⟨⟨used ++ used', ?_⟩, fun _ => hcancelled hresult⟩
    rw [List.append_assoc, ← hused', ← hused]
  next =>
    obtain rfl := Option.some.inj h
    exact ⟨⟨used, hused⟩, hcancelled⟩

/-- By induction on the turns: so is a read. -/
theorem hidRecvHidapi_spec (turns : List Turn) : ∀ {parser : HidMessageParser}
    {ran : Ran HidMessage}, hidRecvHidapi parser turns = some ran →
      (∃ used, turns = used ++ ran.turns)
        ∧ (ran.result = .error .cancelled → CancelledTurn turns) := by
  induction turns with
  | nil =>
      intro parser ran h
      cases h
  | cons turn turns ih =>
      intro parser ran h
      -- the loop goes on after this turn
      have hgoOn : ∀ {next : HidMessageParser}, hidRecvHidapi next turns = some ran →
          (∃ used, turn :: turns = used ++ ran.turns)
            ∧ (ran.result = .error .cancelled → CancelledTurn (turn :: turns)) := by
        intro next hnext
        obtain ⟨⟨used, hused⟩, hcancelled⟩ := ih hnext
        refine ⟨⟨turn :: used, congrArg (turn :: ·) hused⟩, fun h => ?_⟩
        exact (hcancelled h).append_left [turn]
      -- it ends with this turn
      have hends : ∀ {result : Except HidError HidMessage}, result ≠ .error .cancelled →
          some (⟨result, turns, []⟩ : Ran HidMessage) = some ran →
            (∃ used, turn :: turns = used ++ ran.turns)
              ∧ (ran.result = .error .cancelled → CancelledTurn (turn :: turns)) := by
        intro result hother heq
        obtain rfl := Option.some.inj heq
        exact ⟨⟨[turn], rfl⟩, fun h => absurd h hother⟩
      unfold hidRecvHidapi at h
      split at h
      next hcancelled =>
        obtain rfl := Option.some.inj h
        exact ⟨⟨[turn], rfl⟩, fun _ => ⟨turn, List.mem_cons_self .., hcancelled⟩⟩
      next =>
        split at h
        · exact hends (fun h => (by cases h)) h
        split at h
        · exact hends (fun h => (by cases h)) h
        split at h
        · exact hgoOn h
        split at h
        · exact hends (fun h => (by cases h)) h
        · exact hgoOn h
        · refine hends (fun h => ?_) h
          unfold Except.mapError at h
          split at h <;> cases h

theorem hidRecvLoop_spec (fuel : Nat) : ∀ {turns : List Turn} {ran : Ran HidMessage},
    self.hidRecvLoop fuel turns = some ran →
      ran.result = .error .cancelled → CancelledTurn turns := by
  induction fuel with
  | zero =>
      intro turns ran h
      cases h
  | succ fuel ih =>
      intro turns ran h hresult
      unfold hidRecvLoop at h
      obtain ⟨first, hfirst, hloop⟩ := Option.bind_eq_some_iff.mp h
      obtain ⟨⟨used, hused⟩, hcancelled⟩ := hidRecvHidapi_spec turns hfirst
      split at hloop
      · -- a keep-alive, and the messages after it
        rw [hused]
        exact (ih hloop hresult).append_left used
      next hfirst =>
        exact hcancelled hfirst
      next hfirst =>
        obtain ⟨cancel, -, hloop⟩ := Option.bind_eq_some_iff.mp hloop
        obtain rfl := Option.some.inj hloop
        rw [hfirst] at hresult
        cases hresult
      next =>
        obtain rfl := Option.some.inj hloop
        exact hcancelled hresult

theorem send_spec {request : HidRequest} {turns : List Turn} {ran : Ran Unit}
    (h : self.send request turns = some ran) :
    (∃ used, turns = used ++ ran.turns)
      ∧ (ran.result = .error .cancelled → CancelledTurn turns) := by
  cases request with
  | cbor request => exact self.hidSend_spec h
  | apdu request =>
      have hsend : self.apduSend request turns = some ran := h
      unfold apduSend at hsend
      split at hsend
      · obtain rfl := Option.some.inj hsend
        exact ⟨⟨[], rfl⟩, fun h => (by cases h)⟩
      · exact self.hidSend_spec hsend

/-- Decoding a response does not cancel anything. -/
theorem decode_cancelled {α β : Type} {tryFrom : Bytes → Except IoError α} {wrap : α → β}
    {received : Except HidError HidMessage}
    (h : (decodeResponse tryFrom received).map wrap = .error (.hid .cancelled)) :
    received = .error .cancelled := by
  cases received with
  | error e =>
      cases h
      rfl
  | ok message =>
      unfold decodeResponse at h
      dsimp only at h
      cases hdecoded : tryFrom message.payload with
      | ok response =>
          rw [hdecoded] at h
          cases h
      | error e =>
          rw [hdecoded] at h
          cases h

/-- And so is the receiving of an answer, with its keep-alives. -/
theorem recv_spec {request : HidRequest} {turns rest : List Turn}
    (h : self.recv request turns = some (.error (.hid .cancelled), rest)) :
    CancelledTurn turns := by
  cases request with
  | cbor request =>
      obtain ⟨ran, hran, h⟩ := Option.map_eq_some_iff.mp h
      obtain ⟨received, hreceived, rfl⟩ := Option.map_eq_some_iff.mp hran
      exact self.hidRecvLoop_spec _ hreceived (decode_cancelled (Prod.mk.inj h).1)
  | apdu request =>
      obtain ⟨ran, hran, h⟩ := Option.map_eq_some_iff.mp h
      obtain ⟨received, hreceived, rfl⟩ := Option.map_eq_some_iff.mp hran
      exact self.hidRecvLoop_spec _ hreceived (decode_cancelled (Prod.mk.inj h).1)

/-- **An operation that is cancelled** has found a cancel in one of its turns. -/
theorem cancelledTurn_of_operate {request : HidRequest} {turns rest : List Turn}
    (h : self.operate request turns = some (.error (.hid .cancelled), rest)) :
    CancelledTurn turns := by
  obtain ⟨sent, hsend, h⟩ := Option.bind_eq_some_iff.mp h
  obtain ⟨⟨used, hused⟩, hcancelled⟩ := self.send_spec hsend
  split at h
  next e hresult =>
    obtain ⟨he, -⟩ := Prod.mk.inj (Option.some.inj h)
    obtain rfl := OperationError.hid.inj (Except.error.inj he)
    exact hcancelled hresult
  next =>
    rw [hused]
    exact (self.recv_spec h).append_left used

end HidChannel

/-! ## §4. Runs of a channel. -/

/-- What can happen next: something at the handles while no operation is
running, or an operation, with what happens between its last poll and its
end. -/
inductive ChannelMove where
  | idle (event : CancelEvent)
  | operation (request : HidRequest) (polls : List Poll) (last : List CancelEvent)

/-- An operation: its result, the cancels it took, and how many had been issued
when it began and when it ended. -/
structure CancelRecord where
  result : Except OperationError HidResponse
  taken : List Nat
  began : Nat
  ended : Nat

structure CancelSystem where
  queue : CancelQueue := {}
  log : List CancelRecord := []

/-- Where no operation starts: nothing is required; where one starts, no cancel is
left over. -/
def StartsFresh (s : CancelSystem) : ChannelMove → Prop
  | .idle _ => True
  | .operation _ _ _ => s.queue.pending = []

namespace CancelSystem

variable (self : HidChannel)

/-- One move; an operation uses exactly its turns. -/
def step (s : CancelSystem) : ChannelMove → Option CancelSystem
  | .idle event => some { s with queue := s.queue.apply event }
  | .operation request polls last =>
      let observed := observe s.queue polls
      match self.operate request observed.1 with
      | some (result, []) =>
          let queue := observed.2.1.applyAll last
          some
            { queue := queue
              log := s.log ++ [⟨result, observed.2.2, s.queue.issued, queue.issued⟩] }
      | _ => none

end CancelSystem

/-- Only cancels issued between its beginning and its end are taken by an
operation, and one that fails with `Cancelled` has met one of these. -/
structure CancelRecord.InScope (entry : CancelRecord) : Prop where
  cancelled : entry.result = .error (.hid .cancelled) → entry.began < entry.ended
  taken : ∀ cancel ∈ entry.taken, entry.began ≤ cancel ∧ cancel < entry.ended

/-- On a queue that is empty at the start, a cancel that hits was issued for
the operation. -/
theorem inScope_of_fresh (self : HidChannel) {q : CancelQueue} (hfresh : q.pending = [])
    {request : HidRequest} {polls : List Poll} {result : Except OperationError HidResponse}
    (h : self.operate request (observe q polls).1 = some (result, []))
    (last : List CancelEvent) :
    CancelRecord.InScope ⟨result, (observe q polls).2.2, q.issued,
      ((observe q polls).2.1.applyAll last).issued⟩ := by
  obtain ⟨-, hgrows, hrange⟩ := since_observe polls (CancelQueue.since_of_pending_nil hfresh)
  have hlast := (observe q polls).2.1.issued_le_applyAll last
  have htaken : ∀ cancel ∈ (observe q polls).2.2,
      q.issued ≤ cancel ∧ cancel < ((observe q polls).2.1.applyAll last).issued := by
    intro cancel hmem
    have hnow := hrange cancel hmem
    exact ⟨hnow.1, Nat.lt_of_lt_of_le hnow.2 hlast⟩
  refine ⟨fun hresult => ?_, htaken⟩
  obtain rfl : result = .error (.hid .cancelled) := hresult
  have hne := taken_of_cancelled polls (self.cancelledTurn_of_operate h)
  obtain ⟨cancel, hmem⟩ := List.exists_mem_of_ne_nil _ hne
  have hnow := htaken cancel hmem
  exact Nat.lt_of_le_of_lt hnow.1 hnow.2

/-- One move keeps the log in scope. -/
theorem inScope_step (self : HidChannel) {s s' : CancelSystem} {move : ChannelMove}
    (hlog : ∀ entry ∈ s.log, entry.InScope) (hstarts : StartsFresh s move)
    (hstep : s.step self move = some s') : ∀ entry ∈ s'.log, entry.InScope := by
  cases move with
  | idle event =>
      obtain rfl := Option.some.inj hstep
      exact hlog
  | operation request polls last =>
      unfold CancelSystem.step at hstep
      dsimp only at hstep
      split at hstep
      next result hoperate =>
        obtain rfl := Option.some.inj hstep
        intro entry hmem
        rcases List.mem_append.mp hmem with hmem | hmem
        · exact hlog entry hmem
        · rw [List.mem_singleton.mp hmem]
          exact inScope_of_fresh self hstarts hoperate last
      next => cases hstep

/-- In every run of a channel, an operation takes cancels of its own only, if
none starts with a cancel left over. -/
theorem cancellation_scope (self : HidChannel) (moves : List ChannelMove) {s : CancelSystem}
    (hrun : runSteps (CancelSystem.step self) {} moves = some s)
    (hfresh : Along (CancelSystem.step self) StartsFresh {} moves) :
    ∀ entry ∈ s.log, entry.InScope := by
  have hempty : ∀ entry ∈ ({} : CancelSystem).log, entry.InScope := fun _ hmem => (by cases hmem)
  exact runSteps_invariant_along (fun s _ _ => inScope_step self) moves {} s hempty hfresh hrun

/-! ## §5. A cancel that is left over. -/

/-- A turn in which nothing else happens. -/
def quietPoll (events : List CancelEvent) : Poll := ⟨events, false, .error "", none⟩

/-- `authenticatorGetInfo`. -/
def getInfoRequest : HidRequest := .cbor ⟨.authenticatorGetInfo, []⟩

/-- The operation is cancelled at its first poll, and a CANCEL is written. -/
theorem operate_cancelled (self : HidChannel) {first second : Turn}
    (hfirst : first.cancelled = true) (hsecond : second.cancelled = false)
    (hwrite : second.write = none) :
    self.operate getInfoRequest [first, second] = some (.error (.hid .cancelled), []) := by
  obtain ⟨cancelled, expired, read, write⟩ := first
  obtain ⟨cancelled', expired', read', write'⟩ := second
  obtain rfl : cancelled = true := hfirst
  obtain rfl : cancelled' = false := hsecond
  obtain rfl : write' = none := hwrite
  rfl

/-- **A cancel that is left over** reaches the next operation, whoever it was
meant for. -/
theorem stale_cancel_hits (self : HidChannel) {q : CancelQueue} (hstale : q.pending ≠ []) :
    ∃ polls, self.operate getInfoRequest (observe q polls).1
        = some (.error (.hid .cancelled), [])
      ∧ (observe q polls).2.1.issued = q.issued := by
  -- the queue has one, or has room for one that waits
  have hqueued : ((q.deliver 0).queued).isSome = true := by
    unfold CancelQueue.deliver
    obtain ⟨issued, waiting, queued⟩ := q
    cases queued with
    | some cancel => rfl
    | none =>
        cases waiting with
        | nil => exact absurd rfl hstale
        | cons cancel waiting => rfl
  refine ⟨[quietPoll [.deliver 0], quietPoll []], ?_, CancelQueue.deliver_issued q 0⟩
  exact operate_cancelled self hqueued rfl rfl

/-- A channel. -/
def channel : HidChannel := ⟨1⟩

/-- A cancel while an operation is running, and one after it. -/
def cancelledMoves : List ChannelMove :=
  [.operation getInfoRequest [quietPoll [.issue, .deliver 0], quietPoll []] []]

theorem cancellation_scope_own :
    ∃ s, runSteps (CancelSystem.step channel) {} cancelledMoves = some s
      ∧ (∃ entry ∈ s.log, entry.result = .error (.hid .cancelled))
      ∧ ∀ entry ∈ s.log, entry.InScope :=
  ⟨_, rfl, ⟨_, List.mem_cons_self .., rfl⟩,
    cancellation_scope channel cancelledMoves rfl ⟨rfl, fun _ _ => trivial⟩⟩

/-- The cancel comes when no operation is running. -/
def lateMoves : List ChannelMove :=
  [.idle .issue, .idle (.deliver 0), .operation getInfoRequest [quietPoll [], quietPoll []] []]

/-- The next operation fails for it. -/
theorem late_cancel_hits :
    ∃ s, runSteps (CancelSystem.step channel) {} lateMoves = some s
      ∧ ∃ entry ∈ s.log, entry.result = .error (.hid .cancelled) ∧ entry.began = entry.ended
        ∧ ∃ cancel ∈ entry.taken, cancel < entry.began :=
  ⟨_, rfl, _, List.mem_cons_self .., rfl, rfl, 0, List.mem_cons_self .., by decide⟩

end Libwebauthn.Transport.Hid
