/-
  Libwebauthn.Transport.Cable.Channel — operations on a hybrid channel
  (`src/transport/cable/channel.rs`).

  An operation is a `cbor_send` and a `cbor_recv`, each with a timeout, on
  the two queues of the connection task.  A system is the channel, the task
  and the phone; its `Move`s are the calls of the channel and the turns of
  the task, in any order and after any delay.  Nothing ties a response to
  its request: `responses_own` says when each operation still gets its own.
-/
import Libwebauthn.Lib.Steps
import Libwebauthn.Transport.Cable.Outcome

namespace Libwebauthn.Transport.Cable

/-! ## §1. The system. -/

inductive ConnectionState where
  | connecting
  | connected
  | terminated
  deriving Repr, DecidableEq

/-- `wait_for_connection`; `none` while it waits. -/
def waitForConnection : ConnectionState → Option (Except CableError Unit)
  | .connecting => none
  | .connected => some (.ok ())
  | .terminated => some (.error .connectionFailed)

/-- How the wait of a call ends. -/
inductive Wait where
  /-- There is no connection to wait on. -/
  | connectionDown
  | elapsed
  | ready
  deriving Repr, DecidableEq

/-- An operation on the channel: its number, and the request it sends. -/
structure Operation where
  index : Nat
  request : CborRequest
  deriving Repr, DecidableEq

/-- The channel, the task and the phone.  `owed` are the operations whose
request the phone has and has not answered yet, `answered` those whose
response is in the queue; the code knows neither. -/
structure Hybrid (N : Type) where
  connectionState : ConnectionState := .connected
  task : Connection N
  /-- The result of the task, when it is over. -/
  result : Option (Except CableError Unit) := none
  cborTx : List Operation := []
  waiting : Option Operation := none
  issued : Nat := 0
  owed : List Operation := []
  answered : List Operation := []
  /-- What each operation came to. -/
  log : List (Operation × Except CableError CborResponse) := []

inductive Move where
  | cborSend (request : CborRequest) (wait : Wait)
  | cborRecv (wait : Wait)
  /-- The task takes the next message of the data channel. -/
  | inbound (result : Except CableError (Option Bytes))
  /-- The task takes the next request. -/
  | outbound (sent : Except CableError Unit)
  /-- The state of the connection follows the task. -/
  | terminate
  deriving DecidableEq

variable {N P : Type} (prim : Primitives N P)

namespace Hybrid

def cborSend (s : Hybrid N) (request : CborRequest) (wait : Wait) : Option (Hybrid N) :=
  if s.waiting.isSome then none
  else
    let op : Operation := ⟨s.issued, request⟩
    let failed (e : CableError) : Hybrid N :=
      { s with issued := s.issued + 1, log := s.log ++ [(op, .error e)] }
    match wait with
    | .connectionDown =>
        match waitForConnection s.connectionState with
        | some (.error e) => some (failed e)
        | _ => none
    | .elapsed => some (failed .timeout)
    | .ready =>
        match s.result with
        | some _ => some (failed .transportUnavailable)
        | none =>
            some { s with
              issued := s.issued + 1
              cborTx := s.cborTx ++ [op]
              waiting := some op }

/-- The response is the one at the head of the queue. -/
def cborRecv (s : Hybrid N) (wait : Wait) : Option (Hybrid N) :=
  match s.waiting with
  | none => none
  | some op =>
      let failed (e : CableError) : Hybrid N :=
        { s with waiting := none, log := s.log ++ [(op, .error e)] }
      match wait with
      | .connectionDown =>
          match waitForConnection s.connectionState with
          | some (.error e) => some (failed e)
          | _ => none
      | .elapsed => some (failed .timeout)
      | .ready =>
          match s.task.cborRx with
          | response :: cborRx =>
              some { s with
                waiting := none
                task := { s.task with cborRx }
                answered := s.answered.tail
                log := s.log ++ [(op, .ok response)] }
          | [] =>
              match s.result with
              | some _ => some (failed .transportUnavailable)
              | none => none

end Hybrid

/-- The payload of a CTAP frame. -/
def ctapPayload (noise : TunnelNoiseState N) (frame : Bytes) : Option Bytes :=
  match (decryptFrame prim noise frame).1 with
  | .error _ => none
  | .ok plaintext =>
      match CableTunnelMessage.fromSlice plaintext with
      | .ok ⟨.ctap, payload⟩ => some payload
      | _ => none

variable (input : TunnelConnectionInput) (getInfoResponse : Bytes)
  (answer : Operation → CborResponse)

/-- The answer to the request of an operation: GetInfo is answered from the
initial message, anything else by the phone. -/
def ownAnswer (op : Operation) : CborResponse :=
  if op.request.command = .authenticatorGetInfo then
    .newSuccessFromSlice getInfoResponse
  else answer op

namespace Hybrid

def taskTurn (s : Hybrid N) (event : Event) : Hybrid N :=
  { s with
    task := (connectionStep prim input getInfoResponse s.task event).2
    result := (connectionStep prim input getInfoResponse s.task event).1 }

/-- The phone answers the requests it has, once each and in order, and may
send any other frames as well. -/
def inbound (s : Hybrid N) (result : Except CableError (Option Bytes)) : Option (Hybrid N) :=
  if s.result.isSome then none
  else
    match result with
    | .error e => some (s.taskTurn prim input getInfoResponse (.received (.error e) true))
    | .ok none => some (s.taskTurn prim input getInfoResponse (.received (.ok none) true))
    | .ok (some frame) =>
        match ctapPayload prim s.task.noise frame with
        | none =>
            some (s.taskTurn prim input getInfoResponse (.received (.ok (some frame)) true))
        | some payload =>
            match s.owed with
            | [] => none
            | op :: owed =>
                if CborResponse.tryFrom payload = .ok (answer op) then
                  some { s.taskTurn prim input getInfoResponse
                      (.received (.ok (some frame)) true) with
                    owed, answered := s.answered ++ [op] }
                else none

def outbound (s : Hybrid N) (sent : Except CableError Unit) : Option (Hybrid N) :=
  match s.result, s.cborTx with
  | none, op :: cborTx =>
      let s' := { s with cborTx }.taskTurn prim input getInfoResponse
        (.request op.request true sent)
      if op.request.command = .authenticatorGetInfo then
        some { s' with answered := s.answered ++ [op] }
      else if s'.result = none then some { s' with owed := s.owed ++ [op] }
      else some s'
  | _, _ => none

def step (s : Hybrid N) : Move → Option (Hybrid N)
  | .cborSend request wait => s.cborSend request wait
  | .cborRecv wait => s.cborRecv wait
  | .inbound result => s.inbound prim input getInfoResponse answer result
  | .outbound sent => s.outbound prim input getInfoResponse sent
  | .terminate =>
      if s.result.isSome then some { s with connectionState := .terminated } else none

/-- Behind the initial message: no request yet. -/
def start (noise : TunnelNoiseState N) : Hybrid N := { task := { noise } }

/-! ## §2. What the task does to the queue of responses. -/

theorem connectionStep_getInfo (conn : Connection N) {request : CborRequest}
    (hinfo : request.command = .authenticatorGetInfo) (sent : Except CableError Unit) :
    connectionStep prim input getInfoResponse conn (.request request true sent)
      = (none, { conn with
          cborRx := conn.cborRx ++ [.newSuccessFromSlice getInfoResponse] }) := by
  unfold connectionStep
  dsimp only
  rw [hinfo]
  rfl

theorem connectionStep_request_cborRx (conn : Connection N) {request : CborRequest}
    (hinfo : request.command ≠ .authenticatorGetInfo) (sent : Except CableError Unit) :
    (connectionStep prim input getInfoResponse conn (.request request true sent)).2.cborRx
      = conn.cborRx := by
  unfold connectionStep
  dsimp only
  split
  · exact absurd ‹_› hinfo
  · split <;> rfl

theorem connectionStep_frame_cborRx (conn : Connection N) (frame : Bytes) :
    (connectionStep prim input getInfoResponse conn (.received (.ok (some frame)) true)).2.cborRx
      = match ctapPayload prim conn.noise frame with
        | none => conn.cborRx
        | some payload =>
            match CborResponse.tryFrom payload with
            | .ok response => conn.cborRx ++ [response]
            | .error _ => conn.cborRx := by
  rw [connectionStep, connectionRecv, ctapPayload]
  rcases decryptFrame prim conn.noise frame with ⟨_ | plaintext, noise⟩
  · rfl
  · dsimp only
    rcases CableTunnelMessage.fromSlice plaintext with e | ⟨messageType, payload⟩
    · rfl
    · cases messageType
      · rfl
      · dsimp only
        cases CborResponse.tryFrom payload <;> rfl
      · rfl

/-! ## §3. Whose responses are in the queue. -/

/-- The responses in the queue are those of the operations answered, and an
operation that waits finds nothing of another one on its way. -/
structure Matched (s : Hybrid N) : Prop where
  queue : s.task.cborRx = s.answered.map (ownAnswer getInfoResponse answer)
  forwarded : ∀ op ∈ s.owed, op.request.command ≠ .authenticatorGetInfo
  current : ∀ op, s.waiting = some op → ∀ op' ∈ s.cborTx ++ s.owed ++ s.answered, op' = op
  logged : ∀ op response, (op, .ok response) ∈ s.log →
    response = ownAnswer getInfoResponse answer op

/-- Nothing of an earlier operation is outstanding: no request that waits to
be sent or answered, and no response that waits to be read. -/
def NothingOutstanding (s : Hybrid N) : Prop :=
  s.cborTx = [] ∧ s.owed = [] ∧ s.task.cborRx = []

/-- An operation begins with nothing of an earlier one outstanding. -/
def BeginsAlone (s : Hybrid N) : Move → Prop
  | .cborSend _ _ => NothingOutstanding s
  | _ => True

instance (s : Hybrid N) : DecidablePred (BeginsAlone s)
  | .cborSend _ _ => inferInstanceAs (Decidable (_ ∧ _))
  | .cborRecv _ => .isTrue trivial
  | .inbound _ => .isTrue trivial
  | .outbound _ => .isTrue trivial
  | .terminate => .isTrue trivial

variable {getInfoResponse answer} {s s' : Hybrid N}

theorem logged_snoc_error {log : List (Operation × Except CableError CborResponse)}
    (h : ∀ op response, (op, .ok response) ∈ log →
      response = ownAnswer getInfoResponse answer op) (op : Operation) (e : CableError) :
    ∀ op' response, (op', .ok response) ∈ log ++ [(op, .error e)] →
      response = ownAnswer getInfoResponse answer op' := by
  intro op' response hmem
  rw [List.mem_append, List.mem_singleton] at hmem
  rcases hmem with hmem | hmem
  · exact h op' response hmem
  · cases hmem

/-- An operation that fails leaves the queues alone. -/
theorem Matched.failed (h : Matched getInfoResponse answer s) {op : Operation}
    (e : CableError) {issued : Nat} {waiting : Option Operation}
    (hwaiting : waiting = s.waiting ∨ waiting = none) :
    Matched getInfoResponse answer
      { s with issued, waiting, log := s.log ++ [(op, .error e)] } := by
  refine ⟨h.queue, h.forwarded, ?_, logged_snoc_error h.logged op e⟩
  rcases hwaiting with rfl | rfl
  · exact h.current
  · intro op hop
    cases hop

theorem Matched.cborSend (h : Matched getInfoResponse answer s) (halone : NothingOutstanding s)
    {request : CborRequest} {wait : Wait} (hstep : s.cborSend request wait = some s') :
    Matched getInfoResponse answer s' := by
  unfold Hybrid.cborSend at hstep
  split at hstep
  · cases hstep
  · cases wait with
    | connectionDown =>
        dsimp only at hstep
        split at hstep
        · cases hstep
          exact h.failed _ (Or.inl rfl)
        · cases hstep
    | elapsed =>
        cases hstep
        exact h.failed _ (Or.inl rfl)
    | ready =>
        dsimp only at hstep
        split at hstep
        · cases hstep
          exact h.failed _ (Or.inl rfl)
        · cases hstep
          refine ⟨h.queue, h.forwarded, ?_, h.logged⟩
          -- with nothing outstanding, the new operation is the only one
          obtain ⟨htx, howed, hrx⟩ := halone
          have hanswered : s.answered = [] :=
            List.map_eq_nil_iff.mp (h.queue.symm.trans hrx)
          intro op hop op' hmem
          simp only [htx, howed, hanswered, List.nil_append, List.append_nil,
            List.mem_singleton] at hmem
          exact hmem.trans (Option.some.inj hop)

theorem Matched.cborRecv (h : Matched getInfoResponse answer s) {wait : Wait}
    (hstep : s.cborRecv wait = some s') : Matched getInfoResponse answer s' := by
  unfold Hybrid.cborRecv at hstep
  split at hstep
  · cases hstep
  · rename_i op hop
    cases wait with
    | connectionDown =>
        dsimp only at hstep
        split at hstep
        · cases hstep
          exact h.failed _ (Or.inr rfl)
        · cases hstep
    | elapsed =>
        cases hstep
        exact h.failed _ (Or.inr rfl)
    | ready =>
        dsimp only at hstep
        split at hstep
        · rename_i response cborRx hrx
          cases hstep
          obtain ⟨own, answered, hanswered, hown, htail⟩ :=
            List.map_eq_cons_iff.mp (h.queue.symm.trans hrx)
          refine ⟨?_, h.forwarded, ?_, ?_⟩
          · show cborRx = s.answered.tail.map _
            rw [hanswered, List.tail_cons, htail]
          · intro op' hop'
            cases hop'
          · intro op' response' hmem
            rw [List.mem_append, List.mem_singleton] at hmem
            rcases hmem with hmem | hmem
            · exact h.logged op' response' hmem
            · -- the response at the head is of the only operation there is
              cases hmem
              have hsame : own = op := h.current op hop own (by rw [hanswered]; simp)
              rw [← hown, hsame]
        · split at hstep
          · cases hstep
            exact h.failed _ (Or.inr rfl)
          · cases hstep

variable {prim input}

/-- A turn of the task that leaves the responses alone. -/
theorem Matched.taskTurn (h : Matched getInfoResponse answer s) {event : Event}
    (hrx : (connectionStep prim input getInfoResponse s.task event).2.cborRx = s.task.cborRx) :
    Matched getInfoResponse answer (s.taskTurn prim input getInfoResponse event) :=
  ⟨hrx.trans h.queue, h.forwarded, h.current, h.logged⟩

theorem Matched.inbound (h : Matched getInfoResponse answer s)
    {result : Except CableError (Option Bytes)}
    (hstep : s.inbound prim input getInfoResponse answer result = some s') :
    Matched getInfoResponse answer s' := by
  unfold Hybrid.inbound at hstep
  split at hstep
  · cases hstep
  · rcases result with e | _ | frame
    · cases hstep
      exact h.taskTurn rfl
    · cases hstep
      exact h.taskTurn rfl
    · have hqueue := connectionStep_frame_cborRx prim input getInfoResponse s.task frame
      dsimp only at hstep
      cases hpayload : ctapPayload prim s.task.noise frame with
      -- a frame that is no answer leaves the queue as it is
      | none =>
          rw [hpayload] at hstep hqueue
          cases hstep
          exact h.taskTurn hqueue
      | some payload =>
          rw [hpayload] at hstep hqueue
          dsimp only at hstep hqueue
          split at hstep
          · cases hstep
          · rename_i op owed howed
            split at hstep
            · rename_i hanswer
              cases hstep
              rw [hanswer] at hqueue
              have hinfo := h.forwarded op (by rw [howed]; simp)
              refine ⟨?_, ?_, ?_, h.logged⟩
              · -- the answer to the request the phone has had longest
                rw [List.map_append, ← h.queue]
                show (connectionStep prim input getInfoResponse s.task _).2.cborRx = _
                rw [hqueue, List.map_singleton, ownAnswer, if_neg hinfo]
              · exact fun op' hmem => h.forwarded op' (by rw [howed]; exact .tail _ hmem)
              · intro op' hop op'' hmem
                refine h.current op' hop op'' ?_
                simp only [List.mem_append, List.mem_singleton] at hmem ⊢
                rw [howed, List.mem_cons]
                tauto
            · cases hstep

theorem Matched.outbound (h : Matched getInfoResponse answer s) {sent : Except CableError Unit}
    (hstep : s.outbound prim input getInfoResponse sent = some s') :
    Matched getInfoResponse answer s' := by
  unfold Hybrid.outbound at hstep
  split at hstep
  · rename_i op cborTx _ htx
    dsimp only at hstep
    have hcurrent : ∀ op', s.waiting = some op' → ∀ op'' ∈ op :: (cborTx ++ s.owed ++ s.answered),
        op'' = op' := by
      intro op' hop op'' hmem
      exact h.current op' hop op'' (by rw [htx]; exact hmem)
    split at hstep
    -- getInfo is answered by the task itself, and the phone owes nothing for it
    · rename_i hinfo
      cases hstep
      refine ⟨?_, h.forwarded, ?_, h.logged⟩
      · rw [List.map_append, ← h.queue, List.map_singleton, ownAnswer, if_pos hinfo]
        show (connectionStep prim input getInfoResponse s.task _).2.cborRx = _
        rw [connectionStep_getInfo prim input getInfoResponse s.task hinfo]
      · intro op' hop op'' hmem
        refine hcurrent op' hop op'' ?_
        simp only [List.mem_append, List.mem_cons, List.not_mem_nil, or_false] at hmem ⊢
        tauto
    · rename_i hinfo
      -- any other request goes out, and its answer is owed
      have hqueue := connectionStep_request_cborRx prim input getInfoResponse s.task hinfo sent
      split at hstep
      · cases hstep
        refine ⟨hqueue.trans h.queue, ?_, ?_, h.logged⟩
        · intro op' hmem
          rw [List.mem_append, List.mem_singleton] at hmem
          rcases hmem with hmem | rfl
          · exact h.forwarded op' hmem
          · exact hinfo
        · intro op' hop op'' hmem
          refine hcurrent op' hop op'' ?_
          simp only [List.mem_append, List.mem_cons, List.not_mem_nil, or_false] at hmem ⊢
          tauto
      · cases hstep
        refine ⟨hqueue.trans h.queue, h.forwarded, ?_, h.logged⟩
        exact fun op' hop op'' hmem => hcurrent op' hop op'' (.tail _ hmem)
  · cases hstep

/-- **Step lemma.** -/
theorem Matched.step (h : Matched getInfoResponse answer s) {move : Move}
    (halone : BeginsAlone s move)
    (hstep : s.step prim input getInfoResponse answer move = some s') :
    Matched getInfoResponse answer s' := by
  cases move with
  | cborSend request wait => exact h.cborSend halone hstep
  | cborRecv wait => exact h.cborRecv hstep
  | inbound result => exact h.inbound hstep
  | outbound sent => exact h.outbound hstep
  | terminate =>
      unfold Hybrid.step at hstep
      dsimp only at hstep
      split at hstep
      · cases hstep
        exact ⟨h.queue, h.forwarded, h.current, h.logged⟩
      · cases hstep

variable (prim input getInfoResponse answer)

/-- **Each operation gets the answer to its own request** in every run in
which no operation begins before the answers to all earlier ones are read:
whatever the timeouts, the order of the turns and the delays of the phone. -/
theorem responses_own (noise : TunnelNoiseState N) (moves : List Move) (s : Hybrid N)
    (hrun : runSteps (step prim input getInfoResponse answer) (start noise) moves = some s)
    (halone : Along (step prim input getInfoResponse answer) BeginsAlone (start noise) moves) :
    ∀ op response, (op, .ok response) ∈ s.log →
      response = ownAnswer getInfoResponse answer op := by
  have hstart : Matched getInfoResponse answer (start noise) := by
    refine ⟨rfl, ?_, ?_, ?_⟩
    · intro op hmem
      cases hmem
    · intro op hop
      cases hop
    · intro op response hmem
      cases hmem
  exact (runSteps_invariant_along
    (fun s move s' h halone hstep => Matched.step h halone hstep) moves _ s hstart halone
    hrun).logged

/-- A phone that has no credentials, and then refuses. -/
def plainAnswer (op : Operation) : CborResponse :=
  if op.index = 0 then ⟨.noCredentials, none⟩ else ⟨.operationDenied, none⟩

/-- A request that is never taken, a cached GetInfo, and an assertion whose
answer comes behind an update. -/
def plainMoves : List Move :=
  [.cborSend ⟨.authenticatorSelection, []⟩ .elapsed,
    .cborSend ⟨.authenticatorGetInfo, []⟩ .ready, .outbound (.ok ()), .cborRecv .ready,
    .cborSend ⟨.authenticatorGetAssertion, [0xA0]⟩ .ready, .outbound (.ok ()),
    .inbound (.ok (some [2, 0xFF, 0])), .inbound (.ok (some [1, 0x27, 0])), .cborRecv .ready]

theorem responses_own_session :
    ∃ s, runSteps (step plainPrimitives plainInput plainInfo plainAnswer) (start ⟨(), []⟩)
          plainMoves = some s
      ∧ s.log.length = 3
      ∧ ∀ op response, (op, .ok response) ∈ s.log →
          response = ownAnswer plainInfo plainAnswer op :=
  ⟨_, rfl, rfl, responses_own plainPrimitives plainInput plainInfo plainAnswer ⟨(), []⟩
    plainMoves _ rfl (by decide)⟩

/-- The first operation gives up before the phone answers; the second one
reads the answer to the first. -/
theorem responses_not_own :
    ∃ s, runSteps (step plainPrimitives plainInput plainInfo plainAnswer) (start ⟨(), []⟩)
        [.cborSend ⟨.authenticatorGetAssertion, [0xA0]⟩ .ready, .outbound (.ok ()),
          .cborRecv .elapsed,
          .cborSend ⟨.authenticatorMakeCredential, [0xA0]⟩ .ready, .outbound (.ok ()),
          .inbound (.ok (some [1, 0x2E, 0])), .cborRecv .ready] = some s
      ∧ ∃ op response, (op, .ok response) ∈ s.log
          ∧ response ≠ ownAnswer plainInfo plainAnswer op := by
  refine ⟨_, rfl, ⟨1, ⟨.authenticatorMakeCredential, [0xA0]⟩⟩, ⟨.noCredentials, none⟩, ?_, ?_⟩
  · decide
  · decide

end Hybrid

end Libwebauthn.Transport.Cable
