/-
  Libwebauthn.Transport.Cable.L2cap — hybrid messages over a BLE L2CAP stream
  (`src/transport/cable/l2cap.rs`).

  A message is written with CRLF behind it; `recv` buffers what it reads and
  cuts the first message off.  Nothing escapes a CRLF inside a message:
  `recv_roundTrip_iff` is the exact condition under which the peer gets the
  messages that were sent, and `recv_chunking_independent` says what arrives of
  any stream, in whatever pieces it is read.
-/
import Libwebauthn.Lib.Delimited
import Libwebauthn.Transport.Cable.Error

namespace Libwebauthn.Transport.Cable

/-! ## §1. The channel. -/

/-- End-of-Message (CRLF). -/
def EOM : Bytes := [0x0D, 0x0A]

inductive StreamErrorKind where
  | connectionReset
  | brokenPipe
  | unexpectedEof
  | other
  deriving Repr, DecidableEq

/-- What a `read` on the stream comes back with; no bytes is the end. -/
inductive StreamRead where
  | bytes (chunk : Bytes)
  | error (kind : StreamErrorKind) (cause : String)
  deriving Repr, DecidableEq

/-- The bytes of a read.  A peer that tears the connection down counts as
the end of the stream. -/
def StreamRead.bytesRead : StreamRead → Except CableError Bytes
  | .bytes chunk => .ok chunk
  | .error .connectionReset _ => .ok []
  | .error .brokenPipe _ => .ok []
  | .error .unexpectedEof _ => .ok []
  | .error .other cause => .error (.io cause)

/-- The bytes read past a message boundary, and the reads to come. -/
structure L2capDataChannel where
  readBuf : Bytes
  reads : List StreamRead
  deriving Repr, DecidableEq

/-- The first message of the buffer, and the buffer afterwards. -/
def splitNextMessage (buf : Bytes) : Option Bytes × Bytes :=
  match positionOf EOM buf with
  | none => (none, buf)
  | some eom => (some (buf.take eom), buf.drop (eom + EOM.length))

namespace L2capDataChannel

/-- The bytes `send` writes. -/
def send (message : Bytes) : Bytes := message ++ EOM

/-- The loop of `recv`; `none` while the next read is outstanding. -/
def recvLoop :
    (reads : List StreamRead) → (readBuf : Bytes) →
      Option (Except CableError (Option Bytes)) × L2capDataChannel
  | reads, readBuf =>
      match splitNextMessage readBuf with
      | (some message, rest) => (some (.ok (some message)), ⟨rest, reads⟩)
      | (none, readBuf) =>
          match reads with
          | [] => (none, ⟨readBuf, []⟩)
          | read :: reads =>
              match read.bytesRead with
              | .error e => (some (.error e), ⟨readBuf, reads⟩)
              | .ok [] =>
                  -- only a clean close if nothing is half-buffered
                  if readBuf = [] then (some (.ok none), ⟨readBuf, reads⟩)
                  else (some (.error .connectionLost), ⟨readBuf, reads⟩)
              | .ok (b :: chunk) => recvLoop reads (readBuf ++ b :: chunk)

def recv (self : L2capDataChannel) :
    Option (Except CableError (Option Bytes)) × L2capDataChannel :=
  recvLoop self.reads self.readBuf

/-- The results of `n` calls of `recv`. -/
def receive : (n : Nat) → L2capDataChannel → List (Option (Except CableError (Option Bytes)))
  | 0, _ => []
  | n + 1, self => self.recv.1 :: receive n self.recv.2

/-! ## §2. What `recv` returns. -/

theorem EOM_ne_nil : EOM ≠ [] := List.cons_ne_nil _ _

theorem splitNextMessage_eq (buf : Bytes) :
    splitNextMessage buf
      = match splitFirst EOM buf with
        | none => (none, buf)
        | some (message, rest) => (some message, rest) := by
  unfold splitNextMessage splitFirst
  cases positionOf EOM buf <;> rfl

/-- A message holds a CRLF as soon as it does with the next CR behind it. -/
theorem EOM_infix_iff (message : Bytes) :
    EOM <:+: message ++ EOM.dropLast ↔ EOM <:+: message :=
  pair_infix_append_iff (by decide) message

/-- A channel that has `stream` before it, in whatever pieces, and then
`close`. -/
def Carries (stream : Bytes) (close : StreamRead) (self : L2capDataChannel) : Prop :=
  ∃ chunks : List Bytes, (∀ chunk ∈ chunks, chunk ≠ [])
    ∧ self.reads = chunks.map .bytes ++ [close] ∧ self.readBuf ++ chunks.flatten = stream

/-- **A stream with a message in front**: `recv` returns it, whatever the
pieces. -/
theorem recv_of_split {stream message rest : Bytes} {close : StreamRead}
    (hsplit : splitFirst EOM stream = some (message, rest)) :
    ∀ self, Carries stream close self →
      self.recv.1 = some (.ok (some message)) ∧ Carries rest close self.recv.2 := by
  rintro ⟨readBuf, reads⟩ ⟨chunks, hne, hreads, hstream⟩
  simp only at hreads hstream
  subst hreads
  show (recvLoop _ readBuf).1 = _ ∧ Carries rest close (recvLoop _ readBuf).2
  induction chunks generalizing readBuf with
  | nil =>
      rw [List.flatten_nil, List.append_nil] at hstream
      rw [recvLoop, splitNextMessage_eq, hstream, hsplit]
      exact ⟨rfl, [], by simp, rfl, List.append_nil rest⟩
  | cons chunk chunks ih =>
      rw [recvLoop, splitNextMessage_eq]
      rcases hcut : splitFirst EOM readBuf with _ | ⟨message', rest'⟩
      · -- nothing complete yet: the next chunk joins the buffer
        obtain ⟨b, chunk', rfl⟩ := List.exists_cons_of_ne_nil (hne chunk (by simp))
        refine ih (readBuf ++ b :: chunk') (fun c hc => hne c (List.mem_cons_of_mem _ hc)) ?_
        rw [← hstream, List.flatten_cons, List.append_assoc]
      · have hwhole := splitFirst_append EOM_ne_nil hcut (chunk :: chunks).flatten
        rw [hstream, hsplit, Option.some.injEq, Prod.mk.injEq] at hwhole
        obtain ⟨rfl, rfl⟩ := hwhole
        exact ⟨rfl, chunk :: chunks, hne, rfl, rfl⟩

/-- **A stream without a delimiter**: `recv` reads on to the close. -/
theorem recv_of_no_split {stream : Bytes} {close : StreamRead}
    (hclose : close.bytesRead = .ok []) (hsplit : splitFirst EOM stream = none) :
    ∀ self, Carries stream close self →
      self.recv.1 = some (if stream = [] then .ok none else .error .connectionLost) := by
  rintro ⟨readBuf, reads⟩ ⟨chunks, hne, hreads, hstream⟩
  simp only at hreads hstream
  subst hreads
  show (recvLoop _ readBuf).1 = _
  induction chunks generalizing readBuf with
  | nil =>
      rw [List.flatten_nil, List.append_nil] at hstream
      rw [recvLoop, splitNextMessage_eq, hstream, hsplit]
      simp only [List.map_nil, List.nil_append, hclose]
      by_cases hnil : stream = []
      · rw [if_pos hnil, if_pos hnil]
      · rw [if_neg hnil, if_neg hnil]
  | cons chunk chunks ih =>
      rw [recvLoop, splitNextMessage_eq]
      rcases hcut : splitFirst EOM readBuf with _ | ⟨message', rest'⟩
      · obtain ⟨b, chunk', rfl⟩ := List.exists_cons_of_ne_nil (hne chunk (by simp))
        refine ih (readBuf ++ b :: chunk') (fun c hc => hne c (List.mem_cons_of_mem _ hc)) ?_
        rw [← hstream, List.flatten_cons, List.append_assoc]
      · have hwhole := splitFirst_append EOM_ne_nil hcut (chunk :: chunks).flatten
        rw [hstream, hsplit] at hwhole
        cases hwhole

/-! ## §3. The round trip. -/

/-- The results of receiving `messages` and then the close. -/
def received (messages : List Bytes) : List (Option (Except CableError (Option Bytes))) :=
  messages.map (fun message => some (.ok (some message))) ++ [some (.ok none)]

/-- **Run lemma**: the messages arrive exactly when none holds a CRLF. -/
theorem receive_carries_iff {close : StreamRead} (hclose : close.bytesRead = .ok [])
    (messages : List Bytes) :
    ∀ self, Carries (messages.flatMap send) close self →
      (receive (messages.length + 1) self = received messages
        ↔ ∀ message ∈ messages, ¬ EOM <:+: message) := by
  induction messages with
  | nil =>
      intro self hself
      have hrecv := recv_of_no_split hclose (splitFirst_nil EOM) self hself
      rw [if_pos rfl] at hrecv
      constructor
      · intro _ message hmem
        cases hmem
      · intro _
        show [self.recv.1] = _
        rw [hrecv]
        rfl
  | cons message messages ih =>
      intro self hself
      have hstream : (message :: messages).flatMap send
          = message ++ EOM ++ messages.flatMap send := rfl
      rw [hstream] at hself
      show self.recv.1 :: receive (messages.length + 1) self.recv.2
          = some (.ok (some message)) :: received messages ↔ _
      by_cases hholds : EOM <:+: message
      · -- the cut is inside the message, or nowhere
        constructor
        · intro h
          have hhead := (List.cons.inj h).1
          rcases hcut : splitFirst EOM (message ++ EOM ++ messages.flatMap send)
            with _ | ⟨message', rest⟩
          · rw [recv_of_no_split hclose hcut self hself] at hhead
            split at hhead <;> cases hhead
          · rw [(recv_of_split hcut self hself).1] at hhead
            obtain rfl : message' = message := by simpa using hhead
            have hfree := ((splitFirst_eq_some_iff EOM_ne_nil _ _ _).mp hcut).2
            exact absurd ((EOM_infix_iff message').mpr hholds) hfree
        · exact fun h => absurd hholds (h message (by simp))
      · have hcut := (splitFirst_terminated_iff EOM_ne_nil message (messages.flatMap send)).mpr
          (fun h => hholds ((EOM_infix_iff message).mp h))
        obtain ⟨hrecv, hnext⟩ := recv_of_split hcut self hself
        rw [hrecv, List.cons.injEq, ih _ hnext, List.forall_mem_cons]
        exact ⟨fun h => ⟨hholds, h.2⟩, fun h => ⟨rfl, h.2⟩⟩

/-- **The round trip holds exactly for messages without a CRLF**: for every
list of messages, every way the stream is cut into reads and every clean
close. -/
theorem recv_roundTrip_iff (messages chunks : List Bytes) (close : StreamRead)
    (hchunks : chunks.flatten = messages.flatMap send)
    (hreads : ∀ chunk ∈ chunks, 1 ≤ chunk.length ∧ chunk.length ≤ 1024)
    (hclose : close.bytesRead = .ok []) :
    receive (messages.length + 1) ⟨[], chunks.map .bytes ++ [close]⟩ = received messages
      ↔ ∀ message ∈ messages, ¬ EOM <:+: message := by
  refine receive_carries_iff hclose messages _ ⟨chunks, ?_, rfl, hchunks⟩
  intro chunk hmem
  exact List.length_pos_iff.mp (hreads chunk hmem).1

/-- Messages with parts of a CRLF at their ends, cut between CR and LF. -/
theorem recv_roundTrip_iff_parts :
    receive 4 ⟨[], [.bytes [0x01, 0x0D, 0x0D], .bytes [0x0A, 0x0A, 0x0D], .bytes [0x0A, 0x0D, 0x0A],
        .error .connectionReset ""]⟩
      = received [[0x01, 0x0D], [0x0A], []] :=
  (recv_roundTrip_iff [[0x01, 0x0D], [0x0A], []]
    [[0x01, 0x0D, 0x0D], [0x0A, 0x0A, 0x0D], [0x0A, 0x0D, 0x0A]] (.error .connectionReset "")
    (by decide) (by decide) rfl).mpr (by decide)

/-- One message with a CRLF inside arrives as two. -/
theorem recv_not_roundTrip :
    receive 3 ⟨[], [.bytes (send [0x01, 0x0D, 0x0A, 0x02]), .bytes []]⟩
        = received [[0x01], [0x02]]
      ∧ receive 2 ⟨[], [.bytes (send [0x01, 0x0D, 0x0A, 0x02]), .bytes []]⟩
        ≠ received [[0x01, 0x0D, 0x0A, 0x02]] := by
  decide

/-! ## §4. Any way of reading the stream. -/

/-- How a stream ends: with a close right behind a message, or in the middle of
one. -/
def closed (last : Bytes) : Except CableError (Option Bytes) :=
  if last = [] then .ok none else .error .connectionLost

/-- **The pieces of the stream** are what `recv` returns, and then the close. -/
theorem receive_pieces {close : StreamRead} (hclose : close.bytesRead = .ok [])
    {stream last : Bytes}
    {pieces : List Bytes} (h : Pieces EOM stream pieces last) :
    ∀ self, Carries stream close self →
      receive (pieces.length + 1) self
        = pieces.map (fun piece => some (.ok (some piece))) ++ [some (closed last)] := by
  induction h with
  | @last rest hnone =>
      intro self hself
      have hsplit : splitFirst EOM rest = none := by
        cases hcut : splitFirst EOM rest with
        | none => rfl
        | some cut =>
            obtain ⟨hrest, -⟩ := (splitFirst_eq_some_iff EOM_ne_nil rest cut.1 cut.2).mp hcut
            exact absurd ⟨cut.1, cut.2, hrest.symm⟩ hnone
      show [self.recv.1] = [some (closed rest)]
      rw [recv_of_no_split hclose hsplit self hself]
      rfl
  | @cut piece rest last pieces hleftmost _ ih =>
      intro self hself
      have hsplit := (splitFirst_terminated_iff EOM_ne_nil piece rest).mpr hleftmost
      obtain ⟨hrecv, hnext⟩ := recv_of_split hsplit self hself
      show self.recv.1 :: receive (pieces.length + 1) self.recv.2
        = some (.ok (some piece)) :: (_ ++ [some (closed last)])
      rw [hrecv, ih self.recv.2 hnext]

/-- Nothing is left exactly behind a CRLF, or of an empty stream. -/
theorem pieces_last_eq_nil_iff {stream last : Bytes} {pieces : List Bytes}
    (h : Pieces EOM stream pieces last) : last = [] ↔ stream = [] ∨ EOM <:+ stream := by
  induction h with
  | @last rest hnone =>
      exact ⟨Or.inl, fun h => h.elim id fun hsuffix => absurd hsuffix.isInfix hnone⟩
  | @cut piece rest last pieces _ _ ih =>
      have hne : piece ++ EOM ++ rest ≠ [] := by
        intro hnil
        exact EOM_ne_nil (List.append_eq_nil_iff.mp (List.append_eq_nil_iff.mp hnil).1).2
      rw [ih, or_iff_right hne]
      constructor
      · rintro (rfl | hsuffix)
        · rw [List.append_nil]
          exact List.suffix_append piece EOM
        · exact hsuffix.trans (List.suffix_append _ _)
      · intro hsuffix
        rcases rest with _ | ⟨b, _ | ⟨c, rest⟩⟩
        · exact Or.inl rfl
        · -- the last LF of the CRLF before is no CR
          obtain ⟨front, hfront⟩ := hsuffix
          have hsplit : (front ++ [0x0D]) ++ [0x0A] = (piece ++ [0x0D, 0x0A]) ++ [b] := by
            simpa [EOM] using hfront
          have hbefore := (List.append_inj' hsplit rfl).1
          have hcr : front ++ [0x0D] = (piece ++ [0x0D]) ++ [0x0A] := by simpa using hbefore
          cases (List.append_inj' hcr rfl).2
        · refine Or.inr (List.suffix_of_suffix_length_le hsuffix (List.suffix_append _ _) ?_)
          exact Nat.le_add_left 2 rest.length

/-- **Receiving does not depend on how the stream is cut into reads**: for every
stream there are pieces, ended by its successive CRLFs, that `recv` returns,
and then the close. -/
theorem recv_chunking_independent (stream : Bytes) :
    ∃ pieces last, Pieces EOM stream pieces last
      ∧ ∀ (chunks : List Bytes) (close : StreamRead), chunks.flatten = stream →
        (∀ chunk ∈ chunks, 1 ≤ chunk.length ∧ chunk.length ≤ 1024) →
          close.bytesRead = .ok [] →
            receive (pieces.length + 1) ⟨[], chunks.map .bytes ++ [close]⟩
              = pieces.map (fun piece => some (.ok (some piece)))
                ++ [some (if stream = [] ∨ EOM <:+ stream then .ok none
                  else .error .connectionLost)] := by
  obtain ⟨pieces, last, hpieces⟩ := exists_pieces EOM_ne_nil stream
  refine ⟨pieces, last, hpieces, fun chunks close hchunks hreads hclose => ?_⟩
  have hne : ∀ chunk ∈ chunks, chunk ≠ [] :=
    fun chunk hmem => List.length_pos_iff.mp (hreads chunk hmem).1
  have hcarries : Carries stream close ⟨[], chunks.map .bytes ++ [close]⟩ :=
    ⟨chunks, hne, rfl, hchunks⟩
  rw [receive_pieces hclose hpieces _ hcarries]
  have hlast := pieces_last_eq_nil_iff hpieces
  unfold closed
  by_cases hnil : last = []
  · rw [if_pos hnil, if_pos (hlast.mp hnil)]
  · rw [if_neg hnil, if_neg fun h => hnil (hlast.mpr h)]

end L2capDataChannel

end Libwebauthn.Transport.Cable
