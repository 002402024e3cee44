/-
  Libwebauthn.Transport.Cable.Outcome — how a hybrid connection ends
  (`connection` of `src/transport/cable/protocol.rs`).

  A turn of the loop either ends the connection or leaves it running.
  `connectionLoop_turns` takes a run apart into the turns before the last
  one, which all left it running, and the one that ended it.  A Shutdown
  or Update frame without a payload is refused as a framing error:
  `connection_conforms_iff` says that nothing else is in the way of the
  documented outcome.
-/
import Libwebauthn.Transport.Cable.Protocol

namespace Libwebauthn.Transport.Cable

variable {N P : Type} (prim : Primitives N P)

/-! ## §1. What a turn finds. -/

/-- A turn of the loop: the state it is taken in, and what it finds. -/
abbrev Turn (N : Type) := Connection N × Event

/-- The frame of a turn, decrypted and without its padding. -/
def framePlaintext : Turn N → Option (Except CableError Bytes)
  | (conn, .received (.ok (some frame)) _) => some (decryptFrame prim conn.noise frame).1
  | _ => none

/-- The data channel is closed, or the frame is a Shutdown. -/
def EndsCleanly (turn : Turn N) : Prop :=
  (∃ rxOpen, turn.2 = .received (.ok none) rxOpen)
    ∨ ∃ payload, framePlaintext prim turn = some (.ok (0 :: payload))

def IsUpdate (turn : Turn N) : Prop :=
  ∃ payload, framePlaintext prim turn = some (.ok (2 :: payload))

/-- What may make a connection fail. -/
inductive Faults : Turn N → Prop where
  | dataChannel (conn : Connection N) (e : CableError) (rxOpen : Bool) :
      Faults (conn, .received (.error e) rxOpen)
  /-- Not decrypted, or padded wrongly. -/
  | undecryptable (turn : Turn N) (e : CableError)
      (h : framePlaintext prim turn = some (.error e)) : Faults turn
  | noType (turn : Turn N) (h : framePlaintext prim turn = some (.ok [])) : Faults turn
  | unknownType (turn : Turn N) (messageType : UInt8) (payload : Bytes)
      (hunknown : 2 < messageType)
      (h : framePlaintext prim turn = some (.ok (messageType :: payload))) : Faults turn
  | notResponse (turn : Turn N) (payload : Bytes) (e : IoError)
      (h : framePlaintext prim turn = some (.ok (1 :: payload)))
      (hresponse : CborResponse.tryFrom payload = .error e) : Faults turn
  /-- Nobody reads responses any more. -/
  | queue (conn : Connection N) (event : Event)
      (h : (∃ result, event = .received result false)
        ∨ ∃ request sent, event = .request request false sent) : Faults (conn, event)
  /-- The request is too large, or cannot be encrypted. -/
  | unsendable (conn : Connection N) (request : CborRequest) (rxOpen : Bool)
      (sent : Except CableError Unit) (e : CableError)
      (h : (connectionSend prim conn.noise request).1 = .error e) :
      Faults (conn, .request request rxOpen sent)
  | notSent (conn : Connection N) (request : CborRequest) (rxOpen : Bool) (e : CableError) :
      Faults (conn, .request request rxOpen (.error e))

/-- A Shutdown or an Update without a payload. -/
def WithoutPayload (turn : Turn N) : Prop :=
  framePlaintext prim turn = some (.ok [0]) ∨ framePlaintext prim turn = some (.ok [2])

instance (turn : Turn N) : Decidable (WithoutPayload prim turn) :=
  inferInstanceAs (Decidable (_ ∨ _))

/-! ## §2. One turn. -/

/-- What a turn comes to. -/
def turnResult (input : TunnelConnectionInput) (getInfoResponse : Bytes) (turn : Turn N) :
    Option (Except CableError Unit) :=
  (connectionStep prim input getInfoResponse turn.1 turn.2).1

variable (input : TunnelConnectionInput) (getInfoResponse : Bytes)

/-- The turn a frame makes, by its plaintext. -/
theorem turnResult_frame (conn : Connection N) (frame : Bytes) (rxOpen : Bool) :
    turnResult prim input getInfoResponse (conn, .received (.ok (some frame)) rxOpen)
      = match (decryptFrame prim conn.noise frame).1 with
        | .error e => some (.error e)
        | .ok plaintext =>
            match CableTunnelMessage.fromSlice plaintext with
            | .error e => some (.error e)
            | .ok ⟨.shutdown, _⟩ => some (.ok ())
            | .ok ⟨.update, _⟩ => none
            | .ok ⟨.ctap, payload⟩ =>
                match CborResponse.tryFrom payload with
                | .error _ => some (.error .invalidFraming)
                | .ok _ => if rxOpen then none else some (.error .connectionFailed) := by
  rw [turnResult, connectionStep, connectionRecv]
  rcases decryptFrame prim conn.noise frame with ⟨_ | plaintext, noise⟩
  · rfl
  · dsimp only
    rcases CableTunnelMessage.fromSlice plaintext with e | ⟨messageType, payload⟩
    · rfl
    · cases messageType
      · rfl
      · dsimp only
        cases CborResponse.tryFrom payload with
        | error e => rfl
        | ok response => cases rxOpen <;> rfl
      · rfl

/-- `from_slice`, for a frame with a payload. -/
theorem fromSlice_cons_cons (messageType b : UInt8) (payload : Bytes) :
    CableTunnelMessage.fromSlice (messageType :: b :: payload)
      = if messageType = 0 then .ok ⟨.shutdown, b :: payload⟩
        else if messageType = 1 then .ok ⟨.ctap, b :: payload⟩
        else if messageType = 2 then .ok ⟨.update, b :: payload⟩
        else .error .invalidFraming := by
  unfold CableTunnelMessage.fromSlice
  split <;> simp_all

/-- A turn whose frame has the plaintext `bytes`. -/
theorem endsCleanly_plaintext {turn : Turn N} {r : Except CableError Bytes}
    (h : framePlaintext prim turn = some r) :
    EndsCleanly prim turn ↔ ∃ payload, r = .ok (0 :: payload) := by
  obtain ⟨conn, event⟩ := turn
  unfold EndsCleanly
  rw [h]
  constructor
  · rintro (⟨rxOpen, hclosed⟩ | ⟨payload, hpayload⟩)
    · simp only at hclosed
      subst hclosed
      cases h
    · exact ⟨payload, Option.some.inj hpayload⟩
  · rintro ⟨payload, rfl⟩
    exact Or.inr ⟨payload, rfl⟩

theorem isUpdate_plaintext {turn : Turn N} {r : Except CableError Bytes}
    (h : framePlaintext prim turn = some r) :
    IsUpdate prim turn ↔ ∃ payload, r = .ok (2 :: payload) := by
  unfold IsUpdate
  rw [h]
  constructor
  · rintro ⟨payload, hpayload⟩
    exact ⟨payload, Option.some.inj hpayload⟩
  · rintro ⟨payload, rfl⟩
    exact ⟨payload, rfl⟩

theorem turnResult_withoutPayload {turn : Turn N} (h : WithoutPayload prim turn) :
    turnResult prim input getInfoResponse turn = some (.error .invalidFraming) := by
  unfold WithoutPayload framePlaintext at h
  split at h
  · rw [turnResult_frame]
    obtain h | h := h <;> rw [Option.some.inj h] <;> rfl
  · obtain h | h := h <;> cases h

/-- The outcome a turn should have. -/
def TurnConforms (turn : Turn N) : Option (Except CableError Unit) → Prop
  | none => ¬ EndsCleanly prim turn
  | some (.ok ()) => EndsCleanly prim turn
  | some (.error _) => Faults prim turn ∧ ¬ EndsCleanly prim turn ∧ ¬ IsUpdate prim turn

theorem two_lt_of_ne {messageType : UInt8} (h0 : messageType ≠ 0) (h1 : messageType ≠ 1)
    (h2 : messageType ≠ 2) : 2 < messageType := by
  have h0' : messageType.toNat ≠ 0 := fun h => h0 (UInt8.toNat_inj.mp h)
  have h1' : messageType.toNat ≠ 1 := fun h => h1 (UInt8.toNat_inj.mp h)
  have h2' : messageType.toNat ≠ 2 := fun h => h2 (UInt8.toNat_inj.mp h)
  rw [UInt8.lt_iff_toNat_lt]
  show 2 < messageType.toNat
  omega

/-- The type of a frame decides, when there is a payload behind it. -/
theorem turnConforms_typed {conn : Connection N} {frame payload : Bytes} {messageType b : UInt8}
    {rxOpen : Bool}
    (hplain : framePlaintext prim (conn, .received (.ok (some frame)) rxOpen)
      = some (.ok (messageType :: b :: payload))) :
    TurnConforms prim (conn, .received (.ok (some frame)) rxOpen)
      (turnResult prim input getInfoResponse (conn, .received (.ok (some frame)) rxOpen)) := by
  have hclean := endsCleanly_plaintext prim hplain
  have hupdate := isUpdate_plaintext prim hplain
  have hdecrypt : (decryptFrame prim conn.noise frame).1 = .ok (messageType :: b :: payload) :=
    Option.some.inj hplain
  rw [turnResult_frame, hdecrypt]
  dsimp only
  rw [fromSlice_cons_cons]
  -- the types in the order of their codes: shutdown, update, CTAP, and the unknown ones
  by_cases h0 : messageType = 0
  · subst h0
    exact hclean.mpr ⟨_, rfl⟩
  have hnot : ¬ EndsCleanly prim (conn, .received (.ok (some frame)) rxOpen) := by
    rw [hclean]
    rintro ⟨rest, hrest⟩
    exact h0 (List.cons.inj (Except.ok.inj hrest)).1
  rw [if_neg h0]
  by_cases h2 : messageType = 2
  · subst h2
    exact hnot
  have hnotUpdate : ¬ IsUpdate prim (conn, .received (.ok (some frame)) rxOpen) := by
    rw [hupdate]
    rintro ⟨rest, hrest⟩
    exact h2 (List.cons.inj (Except.ok.inj hrest)).1
  by_cases h1 : messageType = 1
  · subst h1
    rw [if_pos rfl]
    dsimp only
    cases hresponse : CborResponse.tryFrom (b :: payload) with
    | error e => exact ⟨.notResponse _ _ e hplain hresponse, hnot, hnotUpdate⟩
    | ok response =>
        cases rxOpen with
        | true => exact hnot
        | false => exact ⟨.queue _ _ (Or.inl ⟨_, rfl⟩), hnot, hnotUpdate⟩
  · rw [if_neg h1, if_neg h2]
    exact ⟨.unknownType _ messageType _ (two_lt_of_ne h0 h1 h2) hplain, hnot, hnotUpdate⟩

/-- A frame that is refused as it stands. -/
theorem turnConforms_refused {conn : Connection N} {frame plaintext : Bytes} {e : CableError}
    {rxOpen : Bool}
    (hplain : framePlaintext prim (conn, .received (.ok (some frame)) rxOpen)
      = some (.ok plaintext))
    (hrefused : CableTunnelMessage.fromSlice plaintext = .error e)
    (hfaults : Faults prim (conn, .received (.ok (some frame)) rxOpen))
    (hshutdown : ∀ payload, plaintext ≠ 0 :: payload)
    (hupdate : ∀ payload, plaintext ≠ 2 :: payload) :
    TurnConforms prim (conn, .received (.ok (some frame)) rxOpen)
      (turnResult prim input getInfoResponse (conn, .received (.ok (some frame)) rxOpen)) := by
  have hdecrypt : (decryptFrame prim conn.noise frame).1 = .ok plaintext :=
    Option.some.inj hplain
  rw [turnResult_frame, hdecrypt]
  dsimp only
  rw [hrefused]
  refine ⟨hfaults, ?_, ?_⟩
  · rw [endsCleanly_plaintext prim hplain]
    rintro ⟨payload, h⟩
    exact hshutdown payload (Except.ok.inj h)
  · rw [isUpdate_plaintext prim hplain]
    rintro ⟨payload, h⟩
    exact hupdate payload (Except.ok.inj h)

theorem turnConforms_frame {conn : Connection N} {frame : Bytes} {rxOpen : Bool}
    (hpayload : ¬ WithoutPayload prim (conn, .received (.ok (some frame)) rxOpen)) :
    TurnConforms prim (conn, .received (.ok (some frame)) rxOpen)
      (turnResult prim input getInfoResponse (conn, .received (.ok (some frame)) rxOpen)) := by
  rcases hdecrypt : (decryptFrame prim conn.noise frame).1 with e | plaintext
  · have hplain : framePlaintext prim (conn, .received (.ok (some frame)) rxOpen)
        = some (.error e) := congrArg some hdecrypt
    rw [turnResult_frame, hdecrypt]
    refine ⟨.undecryptable _ e hplain, ?_, ?_⟩
    · rw [endsCleanly_plaintext prim hplain]
      rintro ⟨_, h⟩
      cases h
    · rw [isUpdate_plaintext prim hplain]
      rintro ⟨_, h⟩
      cases h
  · have hplain : framePlaintext prim (conn, .received (.ok (some frame)) rxOpen)
        = some (.ok plaintext) := congrArg some hdecrypt
    -- no type, a type alone, or a type and a payload
    rcases plaintext with _ | ⟨messageType, _ | ⟨b, payload⟩⟩
    · exact turnConforms_refused prim input getInfoResponse hplain rfl (.noType _ hplain)
        (fun payload h => by cases h) (fun payload h => by cases h)
    · have h0 : messageType ≠ 0 := by
        rintro rfl
        exact hpayload (Or.inl hplain)
      have h2 : messageType ≠ 2 := by
        rintro rfl
        exact hpayload (Or.inr hplain)
      refine turnConforms_refused prim input getInfoResponse hplain rfl ?_
        (fun payload h => h0 (List.cons.inj h).1) (fun payload h => h2 (List.cons.inj h).1)
      by_cases h1 : messageType = 1
      · subst h1
        exact .notResponse _ [] _ hplain rfl
      · exact .unknownType _ messageType [] (two_lt_of_ne h0 h1 h2) hplain
    · exact turnConforms_typed prim input getInfoResponse hplain

theorem turnConforms_request (conn : Connection N) (request : CborRequest) (rxOpen : Bool)
    (sent : Except CableError Unit) :
    TurnConforms prim (conn, .request request rxOpen sent)
      (turnResult prim input getInfoResponse (conn, .request request rxOpen sent)) := by
  have hnot : ¬ EndsCleanly prim (conn, .request request rxOpen sent) := by
    rintro (⟨_, h⟩ | ⟨_, h⟩) <;> cases h
  have hnotUpdate : ¬ IsUpdate prim (conn, .request request rxOpen sent) := by
    rintro ⟨_, h⟩
    cases h
  unfold turnResult connectionStep
  dsimp only
  split
  · -- the cached GetInfo response
    cases rxOpen with
    | true => exact hnot
    | false => exact ⟨.queue _ _ (Or.inr ⟨request, sent, rfl⟩), hnot, hnotUpdate⟩
  · rcases hsend : connectionSend prim conn.noise request with ⟨e | frame, noise⟩
    · exact ⟨.unsendable _ _ _ _ e (congrArg Prod.fst hsend), hnot, hnotUpdate⟩
    · cases sent with
      | error e => exact ⟨.notSent _ _ _ e, hnot, hnotUpdate⟩
      | ok sent => exact hnot

/-- **Step lemma**: the outcome of a turn whose frame, if it is one, is no
Shutdown or Update without a payload. -/
theorem turnConforms {turn : Turn N} (hpayload : ¬ WithoutPayload prim turn) :
    TurnConforms prim turn (turnResult prim input getInfoResponse turn) := by
  obtain ⟨conn, event⟩ := turn
  cases event with
  | received result rxOpen =>
      rcases result with e | _ | frame
      · refine ⟨.dataChannel _ e rxOpen, ?_, ?_⟩
        · rintro (⟨_, h⟩ | ⟨_, h⟩) <;> cases h
        · rintro ⟨_, h⟩
          cases h
      · exact Or.inl ⟨rxOpen, rfl⟩
      · exact turnConforms_frame prim input getInfoResponse hpayload
  | request request rxOpen sent =>
      exact turnConforms_request prim input getInfoResponse conn request rxOpen sent

/-! ## §3. A whole run. -/

/-- Every turn left the connection running, but the last one of a run that
ended. -/
def StopsAtResult (run : ConnectionRun N) : Prop :=
  (run.result = none ∧ ∀ turn ∈ run.turns, turnResult prim input getInfoResponse turn = none)
    ∨ ∃ before last, run.turns = before ++ [last]
      ∧ (∀ turn ∈ before, turnResult prim input getInfoResponse turn = none)
      ∧ run.result = turnResult prim input getInfoResponse last ∧ run.result ≠ none

/-- **Run lemma**: a run takes its events in order and stops at its result. -/
theorem connectionLoop_turns (events : List Event) :
    ∀ conn : Connection N,
      events = (connectionLoop prim input getInfoResponse events conn).turns.map Prod.snd
          ++ (connectionLoop prim input getInfoResponse events conn).rest
        ∧ StopsAtResult prim input getInfoResponse
            (connectionLoop prim input getInfoResponse events conn) := by
  -- by induction on the events: the first turn with a result is the last one
  induction events with
  | nil => exact fun conn => ⟨rfl, Or.inl ⟨rfl, fun turn h => by cases h⟩⟩
  | cons event events ih =>
      intro conn
      rcases hstep : connectionStep prim input getInfoResponse conn event with ⟨result, conn'⟩
      have hturn : turnResult prim input getInfoResponse (conn, event) = result :=
        congrArg Prod.fst hstep
      unfold connectionLoop
      rw [hstep]
      cases result with
      | some result =>
          refine ⟨rfl, Or.inr ⟨[], (conn, event), rfl, ?_, hturn.symm, ?_⟩⟩
          · intro turn hmem
            cases hmem
          · exact Option.some_ne_none result
      | none =>
          obtain ⟨hevents, hstops⟩ := ih conn'
          refine ⟨congrArg (event :: ·) hevents, ?_⟩
          rcases hstops with ⟨hnone, hall⟩ | ⟨before, last, hturns, hbefore, hresult, hended⟩
          · exact Or.inl ⟨hnone, List.forall_mem_cons.mpr ⟨hturn, hall⟩⟩
          · exact Or.inr ⟨(conn, event) :: before, last, congrArg (_ :: ·) hturns,
              List.forall_mem_cons.mpr ⟨hturn, hbefore⟩, hresult, hended⟩

/-- What the documented outcome of a connection comes to. -/
structure OutcomeConforms (events : List Event) (run : ConnectionRun N) : Prop where
  /-- Clean exactly on a close or a Shutdown. -/
  clean : run.result = some (.ok ()) ↔ ∃ turn ∈ run.turns, EndsCleanly prim turn
  /-- An error only for a fault, found in the last turn. -/
  faults : ∀ e, run.result = some (.error e) →
    ∃ turn, run.turns.getLast? = some turn ∧ Faults prim turn
  /-- No update ends the connection, whatever is in it. -/
  updates : ∀ turn ∈ run.turns, IsUpdate prim turn →
    turnResult prim input getInfoResponse turn = none
  /-- Nothing is processed after the turn that ended it. -/
  stops : events = run.turns.map Prod.snd ++ run.rest
    ∧ StopsAtResult prim input getInfoResponse run

theorem not_endsCleanly_of_isUpdate {turn : Turn N} (h : IsUpdate prim turn) :
    ¬ EndsCleanly prim turn := by
  obtain ⟨payload, hpayload⟩ := h
  rw [endsCleanly_plaintext prim hpayload]
  rintro ⟨_, h⟩
  cases h

/-- A turn that conforms, by its result. -/
theorem TurnConforms.endsCleanly_iff {turn : Turn N} {result : Option (Except CableError Unit)}
    (h : TurnConforms prim turn result) : EndsCleanly prim turn ↔ result = some (.ok ()) := by
  rcases result with _ | e | ⟨⟩
  · exact iff_of_false h (by simp)
  · exact iff_of_false h.2.1 (by simp)
  · exact iff_of_true h rfl

theorem TurnConforms.isUpdate {turn : Turn N} {result : Option (Except CableError Unit)}
    (h : TurnConforms prim turn result) (hupdate : IsUpdate prim turn) : result = none := by
  rcases result with _ | e | ⟨⟩
  · rfl
  · exact absurd hupdate h.2.2
  · exact absurd h (not_endsCleanly_of_isUpdate prim hupdate)

/-- A run whose turns all conform. -/
theorem outcomeConforms_of_turns {events : List Event} {run : ConnectionRun N}
    (hstops : events = run.turns.map Prod.snd ++ run.rest
      ∧ StopsAtResult prim input getInfoResponse run)
    (hturns : ∀ turn ∈ run.turns,
      TurnConforms prim turn (turnResult prim input getInfoResponse turn)) :
    OutcomeConforms prim input getInfoResponse events run := by
  refine ⟨?_, ?_, fun turn hmem => TurnConforms.isUpdate prim (hturns turn hmem), hstops⟩
  -- the result is that of the last turn, and the turns before have none
  · rcases hstops.2 with ⟨hnone, hall⟩ | ⟨before, last, hsplit, hbefore, hresult, _⟩
    · rw [hnone]
      refine iff_of_false (by simp) ?_
      rintro ⟨turn, hmem, hclean⟩
      rw [TurnConforms.endsCleanly_iff prim (hturns turn hmem), hall turn hmem] at hclean
      cases hclean
    · have hlast := hturns last (by rw [hsplit]; simp)
      rw [hresult, ← TurnConforms.endsCleanly_iff prim hlast]
      constructor
      · exact fun h => ⟨last, by rw [hsplit]; simp, h⟩
      · rintro ⟨turn, hmem, hclean⟩
        have hresult' := (TurnConforms.endsCleanly_iff prim (hturns turn hmem)).mp hclean
        rw [hsplit, List.mem_append, List.mem_singleton] at hmem
        rcases hmem with hmem | rfl
        · rw [hbefore turn hmem] at hresult'
          cases hresult'
        · exact hclean
  · intro e he
    rcases hstops.2 with ⟨hnone, _⟩ | ⟨before, last, hsplit, _, hresult, _⟩
    · rw [hnone] at he
      cases he
    · have hlast := hturns last (by rw [hsplit]; simp)
      rw [← hresult, he] at hlast
      exact ⟨last, by rw [hsplit, List.getLast?_append]; rfl, hlast.1⟩

/-- A Shutdown or an Update without a payload breaks the outcome. -/
theorem not_outcomeConforms {events : List Event} {run : ConnectionRun N} {turn : Turn N}
    (hmem : turn ∈ run.turns) (hpayload : WithoutPayload prim turn) :
    ¬ OutcomeConforms prim input getInfoResponse events run := by
  intro h
  have hturn := turnResult_withoutPayload prim input getInfoResponse hpayload
  rcases hpayload with hshutdown | hupdate
  · have hok := h.clean.mpr ⟨turn, hmem, Or.inr ⟨[], hshutdown⟩⟩
    rcases h.stops.2 with ⟨hnone, _⟩ | ⟨before, last, hsplit, hbefore, hresult, _⟩
    · rw [hnone] at hok
      cases hok
    · rw [hsplit, List.mem_append, List.mem_singleton] at hmem
      rcases hmem with hmem | rfl
      · rw [hbefore turn hmem] at hturn
        cases hturn
      · rw [← hresult, hok] at hturn
        cases hturn
  · rw [h.updates turn hmem ⟨[], hupdate⟩] at hturn
    cases hturn

/-- **The outcome of a connection is the documented one exactly when no
Shutdown and no Update comes without a payload**: for every accepted initial
message and every sequence of events. -/
theorem connection_conforms_iff (noise noise' : TunnelNoiseState N) (initial : Bytes)
    (events : List Event)
    (haccepted : connectionRecvInitial prim noise initial = (.ok getInfoResponse, noise')) :
    OutcomeConforms prim input getInfoResponse events
        (connection prim input noise (.ok (some initial)) events)
      ↔ ∀ turn ∈ (connection prim input noise (.ok (some initial)) events).turns,
          ¬ WithoutPayload prim turn := by
  have hrun : connection prim input noise (.ok (some initial)) events
      = connectionLoop prim input getInfoResponse events { noise := noise' } := by
    rw [connection, haccepted]
  rw [hrun]
  constructor
  · exact fun h turn hmem hpayload =>
      not_outcomeConforms prim input getInfoResponse hmem hpayload h
  · exact fun h => outcomeConforms_of_turns prim input getInfoResponse
      (connectionLoop_turns prim input getInfoResponse events _)
      fun turn hmem => turnConforms prim input getInfoResponse (h turn hmem)

/-- A phone whose frames are in the clear: a GetInfo response with a version
and an AAGUID, and no other map to decode. -/
def plainInfo : Bytes :=
  [0xA2, 0x01, 0x81, 0x68, 0x46, 0x49, 0x44, 0x4F, 0x5F, 0x32, 0x5F, 0x30, 0x03, 0x50]
    ++ List.replicate 16 0x07

def plainPrimitives : Primitives Unit Unit where
  readMessage noise frame := (some frame, noise)
  writeMessage noise frame := (some frame, noise)
  decodeInitialMessage bytes :=
    if bytes.take 4 = [0xA1, 0x01, 0x58, 0x1E] then some (bytes.drop 4) else none
  decodesAsGetInfo info := info == plainInfo
  decodeMap _ := none
  publicKeyFromSec1 _ := none
  diffieHellman _ _ := []
  hmacSha256 _ _ := []

def plainInput : TunnelConnectionInput where
  connectionType := .qrCode "" "" []
  tunnelDomain := ""
  hasKnownDeviceStore := true

/-- The initial message, with no padding. -/
def plainInitial : Bytes := [0xA1, 0x01, 0x58, 0x1E] ++ plainInfo ++ [0]

/-- A cached GetInfo, a malformed Update, a response and a Shutdown, and a
frame that comes too late. -/
theorem connection_conforms_iff_session :
    OutcomeConforms plainPrimitives plainInput plainInfo
      [.request ⟨.authenticatorGetInfo, []⟩ true (.ok ()),
        .received (.ok (some [2, 0xFF, 0])) true, .received (.ok (some [1, 0x2E, 0])) true,
        .received (.ok (some [0, 0x01, 0])) true, .received (.ok (some [3, 0])) true]
      (connection plainPrimitives plainInput ⟨(), []⟩ (.ok (some plainInitial))
        [.request ⟨.authenticatorGetInfo, []⟩ true (.ok ()),
          .received (.ok (some [2, 0xFF, 0])) true, .received (.ok (some [1, 0x2E, 0])) true,
          .received (.ok (some [0, 0x01, 0])) true, .received (.ok (some [3, 0])) true]) :=
  (connection_conforms_iff plainPrimitives plainInput plainInfo ⟨(), []⟩ ⟨(), []⟩ plainInitial
    [.request ⟨.authenticatorGetInfo, []⟩ true (.ok ()),
      .received (.ok (some [2, 0xFF, 0])) true, .received (.ok (some [1, 0x2E, 0])) true,
      .received (.ok (some [0, 0x01, 0])) true, .received (.ok (some [3, 0])) true]
    (by decide)).mpr (by decide)

/-- A Shutdown without a payload is reported as a framing error. -/
theorem connection_not_conforms :
    (connection plainPrimitives plainInput ⟨(), []⟩ (.ok (some plainInitial))
        [.received (.ok (some [0, 0])) true]).result = some (.error .invalidFraming)
      ∧ ¬ OutcomeConforms plainPrimitives plainInput plainInfo
        [.received (.ok (some [0, 0])) true]
        (connection plainPrimitives plainInput ⟨(), []⟩ (.ok (some plainInitial))
          [.received (.ok (some [0, 0])) true]) := by
  have hmem : (({ noise := ⟨(), []⟩ }, .received (.ok (some [0, 0])) true) : Turn Unit)
      ∈ (connection plainPrimitives plainInput ⟨(), []⟩ (.ok (some plainInitial))
          [.received (.ok (some [0, 0])) true]).turns := List.mem_singleton.mpr rfl
  exact ⟨by decide, not_outcomeConforms plainPrimitives plainInput plainInfo hmem (Or.inl rfl)⟩

end Libwebauthn.Transport.Cable
