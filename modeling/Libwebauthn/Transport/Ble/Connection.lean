/-
  Libwebauthn.Transport.Ble.Connection — receiving a frame over GATT
  notifications (`src/transport/ble/btleplug/connection.rs`).

  `frameRecv` puts notifications together until a frame is there, passes
  over keep-alives and pings, and returns the response.  One parser serves
  all frames of a call.  It is reset behind a keep-alive, but not behind a
  ping: `frameRecv_msg_iff` is the exact condition under which the response
  that follows is returned.
-/
import Libwebauthn.Transport.Ble.RoundTrip

namespace Libwebauthn.Transport.Ble

/-! ## §1. The loop. -/

/-- `btleplug::Error`, as far as `frame_recv` returns it. -/
inductive BleError where
  | invalidFraming
  | operationFailed
  | connectionFailed
  | canceled
  | timeout
  deriving Repr, DecidableEq

/-- What waiting for the next notification comes to. -/
inductive StatusEvent where
  | notification (value : Bytes)
  /-- The stream ended. -/
  | ended
  | timedOut
  deriving Repr, DecidableEq

/-- What a call returns (`none` while it waits), the events it left, and
what it wrote to the control point. -/
structure FrameRecv where
  result : Option (Except BleError BleFrame)
  rest : List StatusEvent
  written : List Bytes := []
  deriving Repr, DecidableEq

/-- The best-effort Cancel: 20 bytes a fragment when the control point
length cannot be read, and nothing at all when it cannot be used. -/
def sendCancel (controlPointLength : Option Nat) : List Bytes :=
  match (BleFrame.mk .cancel []).fragments true (controlPointLength.getD 20) with
  | .ok fragments => fragments
  | .error _ => []

def frameRecvLoop (controlPointLength : Option Nat) :
    List StatusEvent → BleFrameParser → FrameRecv
  | [], _ => { result := none, rest := [] }
  | .ended :: events, _ => { result := some (.error .connectionFailed), rest := events }
  | .timedOut :: events, _ =>
      { result := some (.error .timeout)
        rest := events
        written := sendCancel controlPointLength }
  | .notification fragment :: events, parser =>
      match parser.update fragment with
      | (.error _, _) => { result := some (.error .invalidFraming), rest := events }
      | (.ok .moreFragmentsExpected, parser) => frameRecvLoop controlPointLength events parser
      | (.ok .done, parser) =>
          match parser.frame with
          | .error _ => { result := some (.error .invalidFraming), rest := events }
          | .ok frame =>
              match frame.cmd with
              | .keepalive => frameRecvLoop controlPointLength events parser.reset
              | .cancel => { result := some (.error .canceled), rest := events }
              | .error => { result := some (.error .operationFailed), rest := events }
              -- ignored as well, but the parser keeps its fragments
              | .ping => frameRecvLoop controlPointLength events parser
              | .msg => { result := some (.ok frame), rest := events }

def frameRecv (controlPointLength : Option Nat) (events : List StatusEvent) : FrameRecv :=
  frameRecvLoop controlPointLength events .new

/-! ## §2. One frame. -/

/-- A frame with the fragments it is sent in. -/
structure SentFrame (overflowChecks : Bool) where
  frame : BleFrame
  maxFragmentLength : Nat
  fragments : List Bytes
  /-- What the 16-bit length can say. -/
  fits : frame.data.length ≤ 65535
  supported : 4 ≤ maxFragmentLength
  sent : frame.fragments overflowChecks maxFragmentLength = .ok fragments

variable {overflowChecks : Bool} (controlPointLength : Option Nat)

def notifications (fragments : List Bytes) : List StatusEvent :=
  fragments.map .notification

theorem notifications_append (fs gs : List Bytes) (events : List StatusEvent) :
    notifications (fs ++ gs) ++ events = notifications fs ++ (notifications gs ++ events) := by
  rw [notifications, List.map_append, List.append_assoc]
  rfl

/-- Fragments that ask for more, and a last one that completes a frame. -/
theorem frameRecvLoop_of_feed (events : List StatusEvent) {frame : BleFrame}
    (fragments : List Bytes) :
    ∀ (parser parser' : BleFrameParser) (n : Nat), fragments.length = n + 1 →
      feed BleFrameParser.update parser fragments
        = (List.replicate n (.ok .moreFragmentsExpected) ++ [.ok .done], parser') →
      parser'.frame = .ok frame →
      frameRecvLoop controlPointLength (notifications fragments ++ events) parser
        = match frame.cmd with
          | .keepalive => frameRecvLoop controlPointLength events parser'.reset
          | .cancel => { result := some (.error .canceled), rest := events }
          | .error => { result := some (.error .operationFailed), rest := events }
          | .ping => frameRecvLoop controlPointLength events parser'
          | .msg => { result := some (.ok frame), rest := events } := by
  -- by induction on the fragments; only the last one completes the frame
  induction fragments with
  | nil =>
      intro parser parser' n hlen
      cases hlen
  | cons fragment fragments ih =>
      intro parser parser' n hlen hfeed hframe
      rcases hupdate : parser.update fragment with ⟨out, next⟩
      rw [feed_cons hupdate] at hfeed
      obtain ⟨houts, hlast⟩ := Prod.mk.inj hfeed
      cases n with
      | zero =>
          obtain rfl : fragments = [] := List.length_eq_zero_iff.mp (by simpa using hlen)
          obtain ⟨rfl, _⟩ := List.cons.inj houts
          obtain rfl : next = parser' := hlast
          rw [show notifications [fragment] ++ events = .notification fragment :: events from rfl,
            frameRecvLoop, hupdate]
          simp only [hframe]
      | succ n =>
          obtain ⟨rfl, htail⟩ := List.cons.inj houts
          rw [show notifications (fragment :: fragments) ++ events
              = .notification fragment :: (notifications fragments ++ events) from rfl,
            frameRecvLoop, hupdate]
          exact ih next parser' n (by simpa using hlen) (Prod.ext htail hlast) hframe

/-- **A whole frame, for a fresh parser.** -/
theorem frameRecvLoop_sentFrame (f : SentFrame overflowChecks) (events : List StatusEvent) :
    ∃ parser' : BleFrameParser, parser'.frame = .ok f.frame
      ∧ frameRecvLoop controlPointLength (notifications f.fragments ++ events) .new
        = match f.frame.cmd with
          | .keepalive => frameRecvLoop controlPointLength events .new
          | .cancel => { result := some (.error .canceled), rest := events }
          | .error => { result := some (.error .operationFailed), rest := events }
          | .ping => frameRecvLoop controlPointLength events parser'
          | .msg => { result := some (.ok f.frame), rest := events } := by
  obtain ⟨frame, maxFragmentLength, fragments, hfits, hmax, hsent⟩ := f
  rw [frame.fragments_eq overflowChecks hmax] at hsent
  split at hsent
  · cases hsent
  obtain rfl := Except.ok.inj hsent
  obtain ⟨houts, hframe⟩ := BleFrameParser.feed_allFragments hfits hmax
  refine ⟨_, hframe, ?_⟩
  exact frameRecvLoop_of_feed controlPointLength events _ .new _
    ((frame.allFragments maxFragmentLength).length - 1) rfl (Prod.ext houts rfl) hframe

/-! ## §3. Behind a ping. -/

/-- The parser holds a complete ping, and perhaps more. -/
def HoldsPing (parser : BleFrameParser) : Prop :=
  ∃ data, parser.frame = .ok ⟨.ping, data⟩

/-- **Step lemma**: whatever follows a ping is taken for a part of it. -/
theorem holdsPing_update {parser : BleFrameParser} (h : HoldsPing parser) (fragment : Bytes) :
    (∃ e, parser.update fragment = (.error e, parser))
      ∨ ∃ next, parser.update fragment = (.ok .done, next) ∧ HoldsPing next := by
  obtain ⟨fragments⟩ := parser
  obtain ⟨data, hframe⟩ := h
  obtain ⟨hdone, ⟨b, initial, conts, hfragments, htry⟩, _⟩ :=
    (BleFrameParser.frame_eq_ok_iff _ _ _).mp hframe
  obtain rfl : fragments = (b :: initial) :: conts := hfragments
  have hnext := BleFrameParser.moreFragmentsNeeded_snoc hdone fragment
  unfold BleFrameParser.update
  split
  · exact .inl ⟨_, rfl⟩
  · refine .inr ⟨⟨(b :: initial) :: conts ++ [fragment]⟩, ?_,
      BleFrameParser.bodies ((b :: initial) :: conts ++ [fragment]), ?_⟩
    · show (Except.ok (if BleFrameParser.moreFragmentsNeeded ⟨_⟩ = true then _ else _), _) = _
      rw [hnext]
      rfl
    · exact (BleFrameParser.frame_eq_ok_iff _ _ _).mpr
        ⟨hnext, ⟨b, initial, conts ++ [fragment], rfl, htry⟩, rfl⟩

/-- **Run lemma**: behind a ping nothing is received any more. -/
theorem frameRecvLoop_holdsPing (events : List StatusEvent) :
    ∀ parser, HoldsPing parser → ∀ frame,
      (frameRecvLoop controlPointLength events parser).result ≠ some (.ok frame) := by
  induction events with
  | nil =>
      intro parser _ frame h
      cases h
  | cons event events ih =>
      intro parser hping frame
      cases event with
      | ended => exact fun h => by cases h
      | timedOut => exact fun h => by cases h
      | notification fragment =>
          rw [frameRecvLoop]
          rcases holdsPing_update hping fragment with ⟨e, hupdate⟩ | ⟨next, hupdate, hnext⟩
          · rw [hupdate]
            exact fun h => by cases h
          · obtain ⟨data, hframe⟩ := hnext
            rw [hupdate]
            simp only [hframe]
            exact ih next ⟨data, hframe⟩ frame

/-! ## §4. The whole call. -/

/-- **Run lemma**: keep-alives leave no trace. -/
theorem frameRecvLoop_keepalives (ignored : List (SentFrame overflowChecks))
    (events : List StatusEvent) (h : ∀ f ∈ ignored, f.frame.cmd = .keepalive) :
    frameRecvLoop controlPointLength
        (notifications (ignored.flatMap SentFrame.fragments) ++ events) .new
      = frameRecvLoop controlPointLength events .new := by
  induction ignored with
  | nil => rfl
  | cons f ignored ih =>
      obtain ⟨parser', _, hloop⟩ := frameRecvLoop_sentFrame controlPointLength f
        (notifications (ignored.flatMap SentFrame.fragments) ++ events)
      rw [h f (by simp)] at hloop
      rw [List.flatMap_cons, notifications_append, hloop]
      exact ih fun g hg => h g (List.mem_cons_of_mem _ hg)

/-- **The response behind keep-alives and pings is returned, with nothing of
the rest consumed, exactly when there is no ping.** -/
theorem frameRecv_msg_iff (ignored : List (SentFrame overflowChecks))
    (msg : SentFrame overflowChecks) (rest : List StatusEvent)
    (hignored : ∀ f ∈ ignored, f.frame.cmd = .keepalive ∨ f.frame.cmd = .ping)
    (hmsg : msg.frame.cmd = .msg) :
    frameRecv controlPointLength
        (notifications (ignored.flatMap SentFrame.fragments ++ msg.fragments) ++ rest)
      = { result := some (.ok msg.frame), rest := rest }
      ↔ ∀ f ∈ ignored, f.frame.cmd ≠ .ping := by
  unfold frameRecv
  rw [notifications_append]
  constructor
  · intro hrun f hf hping
    -- the first ping is there at the latest
    obtain ⟨first, hfirst⟩ : ∃ first, ignored.find? (fun f => f.frame.cmd = .ping) = some first :=
      Option.isSome_iff_exists.mp (List.find?_isSome.mpr ⟨f, hf, by simpa using hping⟩)
    obtain ⟨hfirstPing, before, behind, rfl, hbefore⟩ := List.find?_eq_some_iff_append.mp hfirst
    have hkeepalives : ∀ g ∈ before, g.frame.cmd = .keepalive := by
      intro g hg
      have hno := hbefore g hg
      exact (hignored g (by simp [hg])).resolve_right (by simpa using hno)
    obtain ⟨parser', hframe, hloop⟩ := frameRecvLoop_sentFrame controlPointLength first
      (notifications (behind.flatMap SentFrame.fragments)
        ++ (notifications msg.fragments ++ rest))
    have hcmd : first.frame.cmd = .ping := by simpa using hfirstPing
    rw [hcmd] at hloop
    rw [List.flatMap_append, notifications_append,
      frameRecvLoop_keepalives controlPointLength before _ hkeepalives, List.flatMap_cons,
      notifications_append, hloop] at hrun
    refine frameRecvLoop_holdsPing controlPointLength _ parser' ⟨first.frame.data, ?_⟩ msg.frame
      (congrArg FrameRecv.result hrun)
    rw [hframe, ← hcmd]
  · intro hno
    have hkeepalives : ∀ f ∈ ignored, f.frame.cmd = .keepalive :=
      fun f hf => (hignored f hf).resolve_right (hno f hf)
    obtain ⟨_, _, hloop⟩ := frameRecvLoop_sentFrame controlPointLength msg rest
    rw [hmsg] at hloop
    rw [frameRecvLoop_keepalives controlPointLength ignored _ hkeepalives, hloop]

/-- A frame in one fragment of at most 20 bytes. -/
def shortFrame (cmd : BleCommand) (data : Bytes) (fits : data.length ≤ 17) : SentFrame true where
  frame := ⟨cmd, data⟩
  maxFragmentLength := 20
  fragments := [initialFragment cmd (UInt16.ofNat data.length) data]
  fits := fits.trans (by decide)
  supported := by decide
  sent := by
    rw [BleFrame.fragments_eq true _ (by decide)]
    have hnone : BleFrame.contChunks ⟨cmd, data⟩ 20 = [] := by
      unfold BleFrame.contChunks
      rw [List.drop_eq_nil_of_le (by simpa using fits), chunksOf_nil]
    rw [hnone, if_neg (by simp), BleFrame.allFragments, hnone,
      List.take_of_length_le (by simpa using fits)]
    rfl

/-- Two keep-alives, then the response and one notification more. -/
theorem frameRecv_msg_iff_keepalives :
    frameRecv none
        (notifications ([shortFrame .keepalive [1] (by decide),
            shortFrame .keepalive [2] (by decide)].flatMap SentFrame.fragments
          ++ (shortFrame .msg [0] (by decide)).fragments) ++ [.notification [7]])
      = { result := some (.ok ⟨.msg, [0]⟩), rest := [.notification [7]] } :=
  (frameRecv_msg_iff none
    [shortFrame .keepalive [1] (by decide), shortFrame .keepalive [2] (by decide)]
    (shortFrame .msg [0] (by decide)) [.notification [7]] (by decide) rfl).mpr (by decide)

/-- A ping in front, and the response is never returned. -/
theorem frameRecv_ping_msg :
    let run := frameRecv none
      (notifications ([shortFrame .ping [] (by decide)].flatMap SentFrame.fragments
        ++ (shortFrame .msg [0] (by decide)).fragments) ++ [.notification [7]])
    run.result = none
      ∧ run ≠ { result := some (.ok ⟨.msg, [0]⟩), rest := [.notification [7]] } :=
  ⟨rfl, fun h => by cases congrArg FrameRecv.result h⟩

end Libwebauthn.Transport.Ble
