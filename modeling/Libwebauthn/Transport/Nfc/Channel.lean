/-
  Libwebauthn.Transport.Nfc.Channel — the NFC channel
  (`src/transport/nfc/channel.rs`).

  A backend hands a command to the card and writes what it answers into a
  buffer.  A request goes out in messages of up to 250 bytes, a response comes
  in parts that the card announces one by one.

    • `handleRaw_of_answers` — the parts are collected, each asked for once;
    • `sent_handleRaw` — what any card is sent, however the exchange ends;
    • `cborSend_of_answers`, `sent_cborSend` — the same for a whole request;
    • `nfc_chaining` — both loops.
-/
import Libwebauthn.Ctap2.CborMessage
import Libwebauthn.Lib.Proc
import Libwebauthn.Lib.Segments
import Libwebauthn.Transport.Nfc.Commands

namespace Libwebauthn.Transport.Nfc

/-! ## §1. The channel. -/

/-- `NfcError`: errors of the crate are `R`, those of the backend `E`. -/
inductive NfcError (R E : Type) where
  | apdu (e : R)
  | backend (e : E)
  | responseDecode (e : IoError)
  | bufferOverflow (len : Nat)
  | noResponse
  deriving Repr, DecidableEq

/-- `HandlerInCtx`, over the states of the card: the command and the buffer
give the number of bytes written, or an error, and the buffer, which keeps its
size. -/
structure Backend (σ E : Type) where
  handleInCtx : σ → Bytes → Bytes → Except E Nat × Bytes × σ
  length_buf : ∀ card command buf, (handleInCtx card command buf).2.1.length = buf.length

/-- `sent` keeps the commands that were handed to the backend. -/
structure NfcChannel (σ : Type) where
  card : σ
  sent : List Bytes
  apduResponse : Option ApduResponse
  cborResponse : Option CborResponse

abbrev NfcRun (σ R E α : Type) := Proc (NfcChannel σ) (NfcError R E) α

def SW1_MORE_DATA : UInt8 := 0x61

/-- What `handle_raw` has in its variables. -/
structure Received where
  rapdu : Bytes
  sw1 : UInt8
  sw2 : UInt8
  buf : Bytes
  deriving Repr, DecidableEq

section

variable {σ R E : Type} (apdu : ApduCrate R) (backend : Backend σ E)

def NfcChannel.transmitted (self : NfcChannel σ) (command : Bytes) (card : σ) : NfcChannel σ :=
  { self with card, sent := self.sent ++ [command] }

/-- `handle_in_ctx`. -/
def handleInCtx (command buf : Bytes) : NfcRun σ R E (Nat × Bytes) := fun channel =>
  let answer := backend.handleInCtx channel.card command buf
  let channel := channel.transmitted command answer.2.2
  match answer.1 with
  | .ok len => (.ok (len, answer.2.1), channel)
  | .error e => (.error (.backend e), channel)

/-- `buf.get(..len)`. -/
def respBytes (len : Nat) (buf : Bytes) : Except (NfcError R E) Bytes :=
  match getPrefix len buf with
  | some bytes => .ok bytes
  | none => .error (.bufferOverflow len)

/-- One command, and its response after what was received. -/
def exchange (command rapdu buf : Bytes) : NfcRun σ R E Received := do
  let written ← handleInCtx backend command buf
  let bytes ← Proc.ofExcept (respBytes written.1 written.2)
  let resp := apdu.response bytes
  pure ⟨rapdu ++ resp.payload, resp.sw1, resp.sw2, written.2⟩

def getResponseBytes (sw2 : UInt8) : Bytes :=
  apdu.toVec (GetResponseCommand.mk 0x00 0x00 sw2).toCommand

/-- One turn of the loop of `handle_raw`. -/
def moreData (received : Received) : NfcRun σ R E (Received ⊕ Received) :=
  if received.sw1 = SW1_MORE_DATA then do
    let received ← exchange apdu backend (getResponseBytes apdu received.sw2) received.rapdu
      received.buf
    pure (.inl received)
  else pure (.inr received)

/-- `handle_raw`, of up to `fuel` turns. -/
def handleRaw (fuel : Nat) (command : Command) : NfcRun σ R E Bytes := do
  let received ← exchange apdu backend (apdu.toVec command) [] (List.replicate 1024 0)
  let received ← Proc.loop (moreData apdu backend) fuel received
  pure (received.rapdu ++ [received.sw1, received.sw2])

def handle (fuel : Nat) (command : Command) : NfcRun σ R E Bytes := do
  let rapdu ← handleRaw apdu backend fuel command
  Proc.ofExcept ((apdu.result (apdu.response rapdu)).mapError NfcError.apdu)

def apduSend (fuel : Nat) (request : ApduRequest) : NfcRun σ R E Unit := do
  let resp ← handleRaw apdu backend fuel (fromApduRequest request)
  let apduResponse ← Proc.ofExcept ((ApduResponse.tryFrom resp).mapError NfcError.responseDecode)
  Proc.modify fun channel => { channel with apduResponse := some apduResponse }

def apduRecv : NfcRun σ R E ApduResponse := fun channel =>
  match channel.apduResponse with
  | some apduResponse => (.ok apduResponse, { channel with apduResponse := none })
  | none => (.error .noResponse, channel)

/-- The loop of `cbor_send`: what is left to send once no more than 250 bytes
are. -/
def sendMore (fuel : Nat) (rest : Bytes) : NfcRun σ R E Bytes :=
  if rest.length > 250 then do
    let _ ← handle apdu backend fuel (CtapMsgCommand.mk true (rest.take 250)).toCommand
    sendMore fuel (rest.drop 250)
  else pure rest
termination_by rest.length
decreasing_by
  rw [List.length_drop]
  omega

def cborSend (fuel : Nat) (request : CborRequest) : NfcRun σ R E Unit := do
  let rest ← sendMore apdu backend fuel request.ctapHidData
  let resp ← handle apdu backend fuel (CtapMsgCommand.mk false rest).toCommand
  let cborResponse ← Proc.ofExcept ((CborResponse.tryFrom resp).mapError NfcError.responseDecode)
  Proc.modify fun channel => { channel with cborResponse := some cborResponse }

def cborRecv : NfcRun σ R E CborResponse := fun channel =>
  match channel.cborResponse with
  | some cborResponse => (.ok cborResponse, { channel with cborResponse := none })
  | none => (.error .noResponse, channel)

end

/-! ## §2. A response in parts. -/

section

variable {σ R E : Type} {apdu : ApduCrate R} {backend : Backend σ E}

/-- The card answers `command` with a payload and a status, whatever the
buffer held. -/
def Replies (backend : Backend σ E) (card : σ) (command payload : Bytes) (sw1 sw2 : UInt8)
    (card' : σ) : Prop :=
  ∀ buf : Bytes, buf.length = 1024 → ∃ (len : Nat) (buf' : Bytes),
    backend.handleInCtx card command buf = (.ok len, buf', card') ∧ len ≤ 1024 ∧
      buf'.take len = payload ++ [sw1, sw2]

/-- The card answers `command` in parts: each but the last announces the next
one, which it gives when it is asked for as many bytes. -/
inductive Answers (apdu : ApduCrate R) (backend : Backend σ E) (sw1 sw2 : UInt8) (card' : σ) :
    σ → Bytes → List Bytes → List UInt8 → Prop where
  | last {card : σ} {command payload : Bytes}
      (hreply : Replies backend card command payload sw1 sw2 card') (hsw : sw1 ≠ SW1_MORE_DATA) :
      Answers apdu backend sw1 sw2 card' card command [payload] []
  | more {card next : σ} {command payload : Bytes} {count : UInt8} {parts : List Bytes}
      {counts : List UInt8}
      (hreply : Replies backend card command payload SW1_MORE_DATA count next)
      (hrest : Answers apdu backend sw1 sw2 card' next (getResponseBytes apdu count) parts counts) :
      Answers apdu backend sw1 sw2 card' card command (payload :: parts) (count :: counts)

/-- A command that the card replies to comes back as payload and status. -/
theorem exchange_of_replies (hapdu : apdu.Lawful) {channel : NfcChannel σ}
    {command payload rapdu buf : Bytes} {sw1 sw2 : UInt8} {card' : σ}
    (h : Replies backend channel.card command payload sw1 sw2 card') (hbuf : buf.length = 1024) :
    ∃ buf' : Bytes, buf'.length = 1024 ∧
      (exchange apdu backend command rapdu buf : NfcRun σ R E Received) channel
        = (.ok ⟨rapdu ++ payload, sw1, sw2, buf'⟩, channel.transmitted command card') := by
  obtain ⟨len, buf', hanswer, hlen, hbytes⟩ := h buf hbuf
  have hlength : buf'.length = 1024 := by
    have hkeeps := backend.length_buf channel.card command buf
    rwa [hanswer, hbuf] at hkeeps
  have hhandle : (handleInCtx backend command buf : NfcRun σ R E (Nat × Bytes)) channel
      = (.ok (len, buf'), channel.transmitted command card') := by
    unfold handleInCtx
    rw [hanswer]
  have hresp : (respBytes len buf' : Except (NfcError R E) Bytes)
      = .ok (payload ++ [sw1, sw2]) := by
    unfold respBytes getPrefix
    rw [if_pos (by omega), hbytes]
  refine ⟨buf', hlength, ?_⟩
  unfold exchange
  rw [Proc.bind_of_ok hhandle]
  dsimp only
  rw [hresp]
  show (Outcome.ok
    (Received.mk (rapdu ++ (apdu.response (payload ++ [sw1, sw2])).payload) _ _ buf'),
    _) = _
  rw [hapdu.response]

/-- **The parts are collected in order**, after what was there before. -/
theorem collect_of_answers (hapdu : apdu.Lawful) {sw1 sw2 : UInt8} {card card' : σ}
    {command : Bytes} {parts : List Bytes} {counts : List UInt8}
    (h : Answers apdu backend sw1 sw2 card' card command parts counts) :
    ∀ (channel : NfcChannel σ) (rapdu buf : Bytes) (fuel : Nat), channel.card = card →
      buf.length = 1024 → counts.length < fuel →
      ∃ buf' : Bytes, (exchange apdu backend command rapdu buf
          >>= Proc.loop (moreData apdu backend) fuel : NfcRun σ R E Received) channel
        = (.ok ⟨rapdu ++ parts.flatten, sw1, sw2, buf'⟩,
          { channel with
            card := card'
            sent := channel.sent ++ command :: counts.map (getResponseBytes apdu) }) := by
  -- by induction on the answers, with what has been received so far general
  induction h with
  | last hreply hsw =>
      intro channel rapdu buf fuel hcard hbuf hfuel
      obtain ⟨fuel, rfl⟩ := Nat.exists_eq_succ_of_ne_zero (Nat.ne_zero_of_lt hfuel)
      obtain ⟨buf', _, hexchange⟩ := exchange_of_replies hapdu (hcard ▸ hreply) hbuf
      refine ⟨buf', ?_⟩
      rw [Proc.bind_of_ok hexchange]
      unfold Proc.loop moreData
      rw [if_neg hsw]
      simp only [List.flatten_cons, List.flatten_nil, List.append_nil, List.map_nil]
      rfl
  | @more _ next _ payload count parts counts hreply _ ih =>
      intro channel rapdu buf fuel hcard hbuf hfuel
      obtain ⟨fuel, rfl⟩ := Nat.exists_eq_succ_of_ne_zero (Nat.ne_zero_of_lt hfuel)
      obtain ⟨buf', hbuf', hexchange⟩ := exchange_of_replies hapdu (hcard ▸ hreply) hbuf
      obtain ⟨final, hrun⟩ := ih (channel.transmitted _ next) (rapdu ++ payload) buf' fuel rfl hbuf'
        (Nat.lt_of_succ_lt_succ hfuel)
      refine ⟨final, ?_⟩
      rw [Proc.bind_of_ok hexchange]
      unfold Proc.loop
      have hturn : moreData apdu backend ⟨rapdu ++ payload, SW1_MORE_DATA, count, buf'⟩
          = (exchange apdu backend (getResponseBytes apdu count) (rapdu ++ payload) buf'
            >>= fun received => pure (.inl received) : NfcRun σ R E (Received ⊕ Received)) :=
        if_pos rfl
      rw [hturn, bind_assoc]
      simp only [pure_bind]
      rw [hrun]
      simp only [List.flatten_cons, List.append_assoc, List.map_cons, NfcChannel.transmitted]
      rfl

/-- All parts of an answer are fetched, by as many commands as the card asks
for. -/
theorem handleRaw_of_answers (hapdu : apdu.Lawful) {sw1 sw2 : UInt8} {channel : NfcChannel σ}
    {card' : σ} {command : Command} {parts : List Bytes} {counts : List UInt8}
    (h : Answers apdu backend sw1 sw2 card' channel.card (apdu.toVec command) parts counts)
    {fuel : Nat} (hfuel : counts.length < fuel) :
    (handleRaw apdu backend fuel command : NfcRun σ R E Bytes) channel
      = (.ok (parts.flatten ++ [sw1, sw2]),
        { channel with
          card := card'
          sent := channel.sent
            ++ apdu.toVec command :: counts.map (getResponseBytes apdu) }) := by
  obtain ⟨buf, hrun⟩ := collect_of_answers hapdu h channel [] (List.replicate 1024 0) fuel rfl
    List.length_replicate hfuel
  unfold handleRaw
  rw [← bind_assoc, Proc.bind_of_ok hrun]
  rfl

/-- A success in parts is their concatenation. -/
theorem handle_of_answers (hapdu : apdu.Lawful) {sw1 sw2 : UInt8} {channel : NfcChannel σ}
    {card' : σ} {command : Command} {parts : List Bytes} {counts : List UInt8} {resp : Bytes}
    (h : Answers apdu backend sw1 sw2 card' channel.card (apdu.toVec command) parts counts)
    (hresult : apdu.result ⟨parts.flatten, sw1, sw2⟩ = .ok resp)
    {fuel : Nat} (hfuel : counts.length < fuel) :
    (handle apdu backend fuel command : NfcRun σ R E Bytes) channel
      = (.ok resp,
        { channel with
          card := card'
          sent := channel.sent
            ++ apdu.toVec command :: counts.map (getResponseBytes apdu) }) := by
  unfold handle
  rw [Proc.bind_of_ok (handleRaw_of_answers hapdu h hfuel), hapdu.response, hresult]
  rfl

/-! ## §3. What a card is sent. -/

/-- Some parts were asked for. -/
def AsksOn (apdu : ApduCrate R) (channel channel' : NfcChannel σ) : Prop :=
  ∃ counts : List UInt8, channel'.sent = channel.sent ++ counts.map (getResponseBytes apdu)

instance : IsPreorder (NfcChannel σ) (AsksOn apdu) where
  refl channel := ⟨[], (List.append_nil _).symm⟩
  trans channel channel' channel'' h h' := by
    obtain ⟨counts, h⟩ := h
    obtain ⟨counts', h'⟩ := h'
    exact ⟨counts ++ counts', by rw [h', h, List.append_assoc, List.map_append]⟩

/-- However an exchange ends, its command was sent. -/
theorem sent_exchange (command rapdu buf : Bytes) (channel : NfcChannel σ) :
    ((exchange apdu backend command rapdu buf : NfcRun σ R E Received) channel).2.sent
      = channel.sent ++ [command] := by
  unfold exchange
  rw [Proc.bind_apply]
  unfold handleInCtx
  rcases backend.handleInCtx channel.card command buf with ⟨answer, buf', card'⟩
  cases answer with
  | error e => rfl
  | ok len =>
      unfold respBytes
      dsimp only
      cases getPrefix len buf' with
      | none => rfl
      | some bytes => rfl

/-- Each further command asks for just the bytes that are announced. -/
theorem asksOn_moreData (received : Received) :
    Proc.Advances (AsksOn apdu) (moreData apdu backend received :
      NfcRun σ R E (Received ⊕ Received)) := by
  unfold moreData
  split
  · refine Proc.Advances.bind ?_ fun _ => Proc.Advances.pure _
    exact fun channel => ⟨[received.sw2], sent_exchange _ _ _ channel⟩
  · exact Proc.Advances.pure _

/-- A command, and the parts that were asked for after it. -/
def wire (apdu : ApduCrate R) (command : Command) (counts : List UInt8) : List Bytes :=
  apdu.toVec command :: counts.map (getResponseBytes apdu)

/-- Whatever the card does, it is sent the command once, and then only asked
for more. -/
theorem sent_handleRaw (fuel : Nat) (command : Command) (channel : NfcChannel σ) :
    ∃ counts, ((handleRaw apdu backend fuel command : NfcRun σ R E Bytes) channel).2.sent
      = channel.sent ++ wire apdu command counts := by
  have hfirst : ((exchange apdu backend (apdu.toVec command) [] (List.replicate 1024 0) :
      NfcRun σ R E Received) channel).2.sent = channel.sent ++ [apdu.toVec command] :=
    sent_exchange _ _ _ channel
  have hrest : ∀ received, Proc.Advances (AsksOn apdu)
      (Proc.loop (moreData apdu backend) fuel received >>= fun received =>
        pure (received.rapdu ++ [received.sw1, received.sw2]) : NfcRun σ R E Bytes) :=
          fun received =>
    (Proc.Advances.loop asksOn_moreData fuel received).bind fun _ => Proc.Advances.pure _
  unfold handleRaw
  rw [Proc.bind_apply]
  rcases hrun : (exchange apdu backend (apdu.toVec command) [] (List.replicate 1024 0) :
    NfcRun σ R E Received) channel with ⟨outcome, channel'⟩
  rw [hrun] at hfirst
  cases outcome with
  | ok received =>
      obtain ⟨counts, hsent⟩ := hrest received channel'
      exact ⟨counts, by rw [hsent, hfirst, List.append_assoc]; rfl⟩
  | error e => exact ⟨[], hfirst⟩
  | running => exact ⟨[], hfirst⟩

/-- However the card answers, the command goes out first and only requests for
more behind it. -/
theorem sent_handle (fuel : Nat) (command : Command) (channel : NfcChannel σ) :
    ∃ counts, ((handle apdu backend fuel command : NfcRun σ R E Bytes) channel).2.sent
      = channel.sent ++ wire apdu command counts := by
  obtain ⟨counts, hsent⟩ : ∃ counts, ((handleRaw apdu backend fuel command :
      NfcRun σ R E Bytes) channel).2.sent = channel.sent ++ wire apdu command counts :=
    sent_handleRaw fuel command channel
  refine ⟨counts, ?_⟩
  unfold handle
  rw [Proc.bind_apply]
  rcases hrun : (handleRaw apdu backend fuel command : NfcRun σ R E Bytes) channel
    with ⟨outcome, channel'⟩
  rw [hrun] at hsent
  cases outcome with
  | ok rapdu =>
      dsimp only
      rw [Proc.ofExcept_state]
      exact hsent
  | error e => exact hsent
  | running => exact hsent

end

/-! ## §4. A request in messages. -/

/-- Every piece but the last has more after it. -/
def marked : List Bytes → List CtapMsgCommand
  | [] => []
  | [piece] => [⟨false, piece⟩]
  | piece :: next :: pieces => ⟨true, piece⟩ :: marked (next :: pieces)

/-- The messages of a request. -/
def chain (data : Bytes) : List CtapMsgCommand := marked (chunksOf 250 data)

/-- Marking changes no payload. -/
theorem marked_payload (pieces : List Bytes) :
    (marked pieces).map CtapMsgCommand.payload = pieces := by
  induction pieces with
  | nil => rfl
  | cons piece pieces ih =>
      cases pieces with
      | nil => rfl
      | cons next pieces => exact congrArg (piece :: ·) ih

/-- The marks. -/
theorem marked_eq_concat {pieces : List Bytes} (h : pieces ≠ []) :
    ∃ front last, marked pieces = front ++ [last] ∧
      (∀ message ∈ front, message.hasMore = true) ∧ last.hasMore = false := by
  induction pieces with
  | nil => exact absurd rfl h
  | cons piece pieces ih =>
      cases pieces with
      | nil => exact ⟨[], ⟨false, piece⟩, rfl, fun _ hmem => absurd hmem List.not_mem_nil, rfl⟩
      | cons next pieces =>
          obtain ⟨front, last, heq, hfront, hlast⟩ := ih (List.cons_ne_nil _ _)
          refine ⟨⟨true, piece⟩ :: front, last, congrArg (_ :: ·) heq, ?_, hlast⟩
          intro message hmem
          rcases List.mem_cons.mp hmem with rfl | hmem
          · rfl
          · exact hfront message hmem

/-- The pieces are the message. -/
theorem chain_flatten (data : Bytes) :
    ((chain data).map CtapMsgCommand.payload).flatten = data := by
  unfold chain
  rw [marked_payload, chunksOf_flatten (by decide)]

/-- Each piece has a byte at least, and 250 at most. -/
theorem chain_payload {data : Bytes} :
    ∀ message ∈ chain data, 1 ≤ message.payload.length ∧ message.payload.length ≤ 250 := by
  intro message hmem
  have hpiece : message.payload ∈ chunksOf 250 data := by
    rw [← marked_payload (chunksOf 250 data)]
    exact List.mem_map_of_mem hmem
  exact ⟨List.length_pos_iff.mpr (chunksOf_ne_nil (by decide) data _ hpiece),
    chunksOf_length_le (by decide) data _ hpiece⟩

/-- A short message is one piece, and the last. -/
theorem chain_of_le {data : Bytes} (hne : data ≠ []) (hle : data.length ≤ 250) :
    chain data = [⟨false, data⟩] := by
  unfold chain
  rw [chunksOf_of_ne_nil (by decide) hne, List.take_of_length_le hle, List.drop_of_length_le hle,
    chunksOf_nil]
  rfl

/-- A long one begins with a full piece that is not the last. -/
theorem chain_of_lt {data : Bytes} (hlt : 250 < data.length) :
    chain data = ⟨true, data.take 250⟩ :: chain (data.drop 250) := by
  have hne : data ≠ [] := List.length_pos_iff.mp (by omega)
  have hrest : data.drop 250 ≠ [] := by
    rw [← List.length_pos_iff, List.length_drop]
    omega
  unfold chain
  rw [chunksOf_of_ne_nil (by decide) hne, chunksOf_of_ne_nil (by decide) hrest]
  rfl

section

variable {σ R E : Type} (apdu : ApduCrate R) (backend : Backend σ E)

/-- One message after the other; the response is that to the last one. -/
def handleAll (fuel : Nat) : List CtapMsgCommand → NfcRun σ R E Bytes
  | [] => pure []
  | [message] => handle apdu backend fuel message.toCommand
  | message :: next :: messages => do
      let _ ← handle apdu backend fuel message.toCommand
      handleAll fuel (next :: messages)

theorem chain_ne_nil {data : Bytes} (hne : data ≠ []) : chain data ≠ [] := by
  intro h
  have hflatten := chain_flatten data
  rw [h] at hflatten
  exact hne hflatten.symm

/-- **The loop sends the chain.** -/
theorem sendMore_eq (fuel : Nat) (data : Bytes) (hne : data ≠ []) :
    (sendMore apdu backend fuel data >>= fun rest =>
        handle apdu backend fuel (CtapMsgCommand.mk false rest).toCommand : NfcRun σ R E Bytes)
      = handleAll apdu backend fuel (chain data) := by
  induction hn : data.length using Nat.strong_induction_on generalizing data with
  | _ n ih =>
      rw [sendMore]
      by_cases hlt : data.length > 250
      · have hdrop : (data.drop 250).length = data.length - 250 := List.length_drop
        have hrest : data.drop 250 ≠ [] := List.length_pos_iff.mp (by omega)
        obtain ⟨next, messages, hchain⟩ := List.exists_cons_of_ne_nil (chain_ne_nil hrest)
        rw [if_pos hlt, bind_assoc]
        simp only [ih (data.drop 250).length (by omega) (data.drop 250) hrest rfl]
        rw [chain_of_lt hlt, hchain]
        rfl
      · rw [if_neg hlt, pure_bind, chain_of_le hne (Nat.le_of_not_lt hlt)]
        rfl

end

section

variable {σ R E : Type} {apdu : ApduCrate R} {backend : Backend σ E}

/-- What a card is sent of some messages, with the parts of each response that
were asked for. -/
def wireAll (apdu : ApduCrate R) (groups : List (CtapMsgCommand × List UInt8)) : List Bytes :=
  groups.flatMap fun group => wire apdu group.1.toCommand group.2

/-- Whatever the card does, it is sent the messages from the first one on, and
all of them where none fails. -/
theorem sent_handleAll (fuel : Nat) (messages : List CtapMsgCommand) :
    ∀ channel : NfcChannel σ, ∃ groups,
      ((handleAll apdu backend fuel messages : NfcRun σ R E Bytes) channel).2.sent
          = channel.sent ++ wireAll apdu groups ∧
        groups.map Prod.fst <+: messages ∧
        ∀ resp channel', (handleAll apdu backend fuel messages : NfcRun σ R E Bytes) channel
          = (.ok resp, channel') → groups.map Prod.fst = messages := by
  induction messages with
  | nil =>
      intro channel
      exact ⟨[], (List.append_nil _).symm, List.prefix_rfl, fun _ _ _ => rfl⟩
  | cons message messages ih =>
      intro channel
      obtain ⟨counts, hsent⟩ : ∃ counts, ((handle apdu backend fuel message.toCommand :
          NfcRun σ R E Bytes) channel).2.sent
            = channel.sent ++ wire apdu message.toCommand counts :=
        sent_handle fuel message.toCommand channel
      -- the last message ends the chain, whatever comes back
      cases messages with
      | nil =>
          refine ⟨[(message, counts)], ?_, List.prefix_rfl, fun _ _ _ => rfl⟩
          rw [wireAll, List.flatMap_cons, List.flatMap_nil, List.append_nil]
          exact hsent
      | cons next messages =>
          rcases hrun : (handle apdu backend fuel message.toCommand : NfcRun σ R E Bytes) channel
            with ⟨outcome, channel'⟩
          rw [hrun] at hsent
          -- a chain that stops here has sent this message, and none of those after it
          have hstop : (∀ resp, outcome ≠ .ok resp) → ∃ groups,
              channel'.sent = channel.sent ++ wireAll apdu groups ∧
                groups.map Prod.fst <+: message :: next :: messages := by
            intro _
            refine ⟨[(message, counts)], ?_, ⟨next :: messages, rfl⟩⟩
            rw [wireAll, List.flatMap_cons, List.flatMap_nil, List.append_nil]
            exact hsent
          unfold handleAll
          rw [Proc.bind_apply, hrun]
          cases outcome with
          | ok resp =>
              obtain ⟨groups, hrest, hfront, hall⟩ := ih channel'
              refine ⟨(message, counts) :: groups, ?_, ?_, ?_⟩
              · rw [hrest, hsent, List.append_assoc]
                rfl
              · exact (List.prefix_cons_inj message).mpr hfront
              · intro resp channel'' hok
                exact congrArg (message :: ·) (hall resp channel'' hok)
          | error e =>
              obtain ⟨groups, hgroups, hfront⟩ := hstop (fun _ h => by cases h)
              exact ⟨groups, hgroups, hfront, fun _ _ h => by cases h⟩
          | running =>
              obtain ⟨groups, hgroups, hfront⟩ := hstop (fun _ h => by cases h)
              exact ⟨groups, hgroups, hfront, fun _ _ h => by cases h⟩

/-- The card answers every message in parts, and with success. -/
inductive Acknowledges (apdu : ApduCrate R) (backend : Backend σ E) (resp : Bytes) (card' : σ) :
    σ → List (CtapMsgCommand × List UInt8) → Prop where
  | last {card : σ} {message : CtapMsgCommand} {parts : List Bytes} {counts : List UInt8}
      {sw1 sw2 : UInt8}
      (hanswers : Answers apdu backend sw1 sw2 card' card (apdu.toVec message.toCommand) parts
        counts)
      (hresult : apdu.result ⟨parts.flatten, sw1, sw2⟩ = .ok resp) :
      Acknowledges apdu backend resp card' card [(message, counts)]
  | more {card next : σ} {message : CtapMsgCommand} {parts : List Bytes} {counts : List UInt8}
      {sw1 sw2 : UInt8} {ack : Bytes} {groups : List (CtapMsgCommand × List UInt8)}
      (hanswers : Answers apdu backend sw1 sw2 next card (apdu.toVec message.toCommand) parts
        counts)
      (hresult : apdu.result ⟨parts.flatten, sw1, sw2⟩ = .ok ack)
      (hrest : Acknowledges apdu backend resp card' next groups) :
      Acknowledges apdu backend resp card' card ((message, counts) :: groups)

/-- By induction on the pieces: each is acknowledged, and the last is answered. -/
theorem handleAll_of_acknowledges (hapdu : apdu.Lawful) {resp : Bytes} {card card' : σ}
    {groups : List (CtapMsgCommand × List UInt8)} {fuel : Nat}
    (h : Acknowledges apdu backend resp card' card groups) :
    ∀ channel : NfcChannel σ, channel.card = card →
      (∀ group ∈ groups, group.2.length < fuel) →
      (handleAll apdu backend fuel (groups.map Prod.fst) : NfcRun σ R E Bytes) channel
        = (.ok resp,
          { channel with card := card', sent := channel.sent ++ wireAll apdu groups }) := by
  -- by induction on the messages that the card acknowledges
  induction h with
  | last hanswers hresult =>
      intro channel hcard hfuel
      have hrun := handle_of_answers hapdu (hcard ▸ hanswers) hresult
        (hfuel _ (List.mem_singleton.mpr rfl))
      rw [wireAll, List.flatMap_cons, List.flatMap_nil, List.append_nil]
      exact hrun
  | @more _ next message _ counts _ _ _ groups hanswers hresult hrest ih =>
      intro channel hcard hfuel
      have hrun := handle_of_answers hapdu (hcard ▸ hanswers) hresult
        (hfuel _ List.mem_cons_self)
      have hgo := ih { channel with
        card := next
        sent := channel.sent
          ++ apdu.toVec message.toCommand :: counts.map (getResponseBytes apdu) } rfl
        fun group hmem => hfuel group (List.mem_cons_of_mem _ hmem)
      obtain ⟨group, rest, rfl⟩ : ∃ group rest, groups = group :: rest := by
        cases hrest with
        | last => exact ⟨_, _, rfl⟩
        | more => exact ⟨_, _, rfl⟩
      show (handle apdu backend fuel message.toCommand >>= fun _ =>
        handleAll apdu backend fuel ((group :: rest).map Prod.fst)) channel = _
      rw [Proc.bind_of_ok hrun, hgo]
      simp only [wireAll, List.flatMap_cons, List.append_assoc]
      rfl

/-- A request is sent piece by piece, and the last answer is kept for the
receiver. -/
theorem cborSend_eq (fuel : Nat) (request : CborRequest) :
    (cborSend apdu backend fuel request : NfcRun σ R E Unit)
      = handleAll apdu backend fuel (chain request.ctapHidData) >>= fun resp =>
        Proc.ofExcept ((CborResponse.tryFrom resp).mapError NfcError.responseDecode)
          >>= fun cborResponse =>
            Proc.modify fun channel => { channel with cborResponse := some cborResponse } := by
  rw [← sendMore_eq apdu backend fuel request.ctapHidData (List.cons_ne_nil _ _), bind_assoc]
  rfl

/-- Storing the response sends nothing. -/
theorem sent_cborSend (fuel : Nat) (request : CborRequest) (channel : NfcChannel σ) :
    ((cborSend apdu backend fuel request : NfcRun σ R E Unit) channel).2.sent
      = ((handleAll apdu backend fuel (chain request.ctapHidData) :
        NfcRun σ R E Bytes) channel).2.sent := by
  rw [cborSend_eq]
  refine Proc.Keeps.after (f := NfcChannel.sent) (fun resp => ?_) channel
  exact (Proc.Keeps.ofExcept _).bind fun _ => Proc.Keeps.modify fun _ => rfl

/-- What a run that sent a request returned. -/
theorem handleAll_of_cborSend {fuel : Nat} {request : CborRequest} {channel channel' : NfcChannel σ}
    (h : (cborSend apdu backend fuel request : NfcRun σ R E Unit) channel = (.ok (), channel')) :
    ∃ resp channel'', (handleAll apdu backend fuel (chain request.ctapHidData) :
      NfcRun σ R E Bytes) channel = (.ok resp, channel'') := by
  rw [cborSend_eq] at h
  obtain ⟨resp, channel'', hrun, _⟩ := Proc.bind_eq_ok_iff.mp h
  exact ⟨resp, channel'', hrun⟩

/-- **A request that a card acknowledges** goes through, whatever its length. -/
theorem cborSend_of_acknowledges (hapdu : apdu.Lawful) {resp : Bytes} {channel : NfcChannel σ}
    {card' : σ} {groups : List (CtapMsgCommand × List UInt8)} {fuel : Nat} {request : CborRequest}
    (h : Acknowledges apdu backend resp card' channel.card groups)
    (hgroups : groups.map Prod.fst = chain request.ctapHidData)
    (hfuel : ∀ group ∈ groups, group.2.length < fuel) {cborResponse : CborResponse}
    (hresp : CborResponse.tryFrom resp = .ok cborResponse) :
    (cborSend apdu backend fuel request : NfcRun σ R E Unit) channel
      = (.ok (),
        { channel with
          card := card'
          sent := channel.sent ++ wireAll apdu groups
          cborResponse := some cborResponse }) := by
  have hrun := handleAll_of_acknowledges hapdu h channel rfl hfuel
  rw [hgroups] at hrun
  rw [cborSend_eq, Proc.bind_of_ok hrun, hresp]
  rfl

end

/-! ## §5. Both loops. -/

section

variable {σ R E : Type}

/-- The messages of some data: pieces of up to 250 bytes, which make it up, in
short commands whose class has the chaining bit on all but the last. -/
structure Chains (apdu : ApduCrate R) (data : Bytes) (messages : List CtapMsgCommand) : Prop where
  flatten : (messages.map CtapMsgCommand.payload).flatten = data
  payload : ∀ message ∈ messages, 1 ≤ message.payload.length ∧ message.payload.length ≤ 250
  marks : ∃ front last, messages = front ++ [last] ∧
    (∀ message ∈ front, message.hasMore = true) ∧ last.hasMore = false
  parses : ∀ message ∈ messages, LengthFields.short.parse (apdu.toVec message.toCommand)
    = some ⟨if message.hasMore then 0x90 else 0x80, 0x10, 0x00, 0x00, message.payload, none⟩

theorem chains_chain {apdu : ApduCrate R} (hapdu : apdu.Lawful) {data : Bytes} (hne : data ≠ []) :
    Chains apdu data (chain data) where
  flatten := chain_flatten data
  payload := chain_payload
  marks := marked_eq_concat ((chunksOf_eq_nil_iff (by decide)).not.mpr hne)
  parses message hmem := by
    obtain ⟨hpos, hle⟩ := chain_payload message hmem
    exact parse_ctapMsg hapdu hpos (by omega)

/-- **Chaining, both ways.**  A request is sent in messages that make it up,
marked as chained: any card gets the first of them and on, all of them where
`cbor_send` returns, and one that acknowledges them gets all.  A response in
parts is returned as the parts in order and the last status, and the card was
asked for each further part once, with the count it announced. -/
theorem nfc_chaining {apdu : ApduCrate R} (hapdu : apdu.Lawful) (backend : Backend σ E) :
    (∀ request : CborRequest, ∃ messages, Chains apdu request.ctapHidData messages ∧
      (∀ fuel channel, ∃ groups,
        ((cborSend apdu backend fuel request : NfcRun σ R E Unit) channel).2.sent
            = channel.sent ++ wireAll apdu groups ∧
          groups.map Prod.fst <+: messages ∧
          ∀ channel', (cborSend apdu backend fuel request : NfcRun σ R E Unit) channel
            = (.ok (), channel') → groups.map Prod.fst = messages) ∧
      ∀ (fuel : Nat) (channel : NfcChannel σ) (resp : Bytes) (card' : σ)
        (groups : List (CtapMsgCommand × List UInt8)) (cborResponse : CborResponse),
        Acknowledges apdu backend resp card' channel.card groups →
        groups.map Prod.fst = messages → (∀ group ∈ groups, group.2.length < fuel) →
        CborResponse.tryFrom resp = .ok cborResponse →
        (cborSend apdu backend fuel request : NfcRun σ R E Unit) channel
          = (.ok (),
            { channel with
              card := card'
              sent := channel.sent ++ wireAll apdu groups
              cborResponse := some cborResponse })) ∧
    (∀ (command : Command) (channel : NfcChannel σ) (sw1 sw2 : UInt8) (card' : σ)
      (parts : List Bytes) (counts : List UInt8),
      Answers apdu backend sw1 sw2 card' channel.card (apdu.toVec command) parts counts →
      ∀ fuel, counts.length < fuel →
        (handleRaw apdu backend fuel command : NfcRun σ R E Bytes) channel
          = (.ok (parts.flatten ++ [sw1, sw2]),
            { channel with
              card := card'
              sent := channel.sent
                ++ apdu.toVec command :: counts.map (getResponseBytes apdu) })) ∧
    ∀ count : UInt8, LengthFields.short.parse (getResponseBytes apdu count)
      = some ⟨0x00, 0xC0, 0x00, 0x00, [],
        some (if count.toNat = 0 then 256 else count.toNat)⟩ := by
  refine ⟨?_, ?_, parse_getResponse hapdu⟩
  · intro request
    refine ⟨chain request.ctapHidData, chains_chain hapdu (List.cons_ne_nil _ _), ?_, ?_⟩
    · intro fuel channel
      -- whatever the card answers, the chain is sent in order
      obtain ⟨groups, hsent, hfront, hall⟩ := @sent_handleAll σ R E apdu backend fuel
        (chain request.ctapHidData) channel
      refine ⟨groups, (sent_cborSend fuel request channel).trans hsent, hfront, ?_⟩
      intro channel' hok
      obtain ⟨resp, channel'', hrun⟩ := handleAll_of_cborSend hok
      exact hall resp channel'' hrun
    · intro fuel channel resp card' groups cborResponse hacks hgroups hfuel hresp
      exact cborSend_of_acknowledges hapdu hacks hgroups hfuel hresp
  · intro command channel sw1 sw2 card' parts counts h fuel hfuel
    exact handleRaw_of_answers hapdu h hfuel

end

/-! ### A card with its replies written down. -/

/-- Short commands as the standard writes them. -/
def shortApdu : ApduCrate Unit where
  toVec command := command.meaning.encode .short
  response bytes := match bytes.reverse with
    | sw2 :: sw1 :: body => ⟨body.reverse, sw1, sw2⟩
    | _ => ⟨[], 0, 0⟩
  result response :=
    if response.sw1 = 0x90 ∧ response.sw2 = 0x00 then .ok response.payload else .error ()

theorem lawful_shortApdu : shortApdu.Lawful where
  toVec command hshort := by
    refine LengthFields.parse_eq_some_iff.mpr ⟨⟨?_, ?_⟩, rfl⟩
    · show (command.payload.getD []).length < 256
      cases hpayload : command.payload with
      | none => decide
      | some payload => exact Nat.lt_succ_of_le (hshort.payload payload hpayload).2
    · intro ne hmem
      obtain ⟨le, hle, rfl⟩ := Option.map_eq_some_iff.mp hmem
      have hmax : LengthFields.short.maxNe = 256 := rfl
      have hbound := hshort.le le hle
      rw [hmax]
      split <;> omega
  response payload sw1 sw2 := by
    unfold shortApdu
    simp

/-- The card gives its replies one after the other. -/
def nextReply : List Bytes → Bytes → Bytes → Except Unit Nat × Bytes × List Bytes
  | [], _, buf => (.error (), buf, [])
  | reply :: replies, _, buf =>
      if reply.length ≤ buf.length then
        (.ok reply.length, reply ++ buf.drop reply.length, replies)
      else (.error (), buf, replies)

theorem length_nextReply (replies : List Bytes) (command buf : Bytes) :
    (nextReply replies command buf).2.1.length = buf.length := by
  cases replies with
  | nil => rfl
  | cons reply replies =>
      by_cases hfits : reply.length ≤ buf.length
      · have hlength : (reply ++ buf.drop reply.length).length = buf.length := by
          rw [List.length_append, List.length_drop]
          omega
        rwa [nextReply, if_pos hfits]
      · rw [nextReply, if_neg hfits]

def scriptedBackend : Backend (List Bytes) Unit := ⟨nextReply, length_nextReply⟩

/-- The scripted card replies as its script says. -/
theorem replies_scripted (payload : Bytes) (sw1 sw2 : UInt8) {replies : List Bytes}
    (command : Bytes) (h : payload.length ≤ 1022) :
    Replies scriptedBackend ((payload ++ [sw1, sw2]) :: replies)
      command payload sw1 sw2 replies := by
  intro buf hbuf
  have hlength : (payload ++ [sw1, sw2]).length = payload.length + 2 := List.length_append
  refine ⟨_, _, if_pos (by omega), by omega, ?_⟩
  rw [List.take_left]

/-- A card that acknowledges every message, and answers the last with `resp`. -/
def acknowledging (resp : Bytes) : List CtapMsgCommand → List Bytes
  | [] | [_] => [resp ++ [0x90, 0x00]]
  | _ :: message :: messages => [0x90, 0x00] :: acknowledging resp (message :: messages)

theorem acknowledges_scripted {resp : Bytes} (hresp : resp.length ≤ 1022) :
    ∀ {messages : List CtapMsgCommand}, messages ≠ [] →
      Acknowledges shortApdu scriptedBackend resp [] (acknowledging resp messages)
        (messages.map fun message => (message, []))
  | [], h => absurd rfl h
  | [_], _ => .last (.last (replies_scripted resp 0x90 0x00 _ hresp) (by decide))
      (congrArg Except.ok (List.append_nil resp))
  | _ :: message :: messages, _ =>
      .more (.last (replies_scripted [] 0x90 0x00 _ (by decide)) (by decide)) rfl
        (acknowledges_scripted hresp (List.cons_ne_nil message messages))

/-- Longer than a message. -/
def longRequest : CborRequest := ⟨.authenticatorMakeCredential, List.replicate 300 0⟩

/-- A request in several messages, and a response in three parts, the second
of them empty. -/
theorem nfc_chaining_scripted :
    (∃ messages, 1 < messages.length ∧
        Chains shortApdu longRequest.ctapHidData messages ∧
        (cborSend shortApdu scriptedBackend 1 longRequest : NfcRun (List Bytes) Unit Unit Unit)
            ⟨acknowledging [0x00] messages, [], none, none⟩
          = (.ok (), ⟨[], wireAll shortApdu (messages.map fun message => (message, [])), none,
            some ⟨.ok, none⟩⟩)) ∧
    ((handleRaw shortApdu scriptedBackend 3 (CtapMsgCommand.mk false [0x04]).toCommand :
        NfcRun (List Bytes) Unit Unit Bytes)
        ⟨[[0xAA, 0x61, 0x00], [0x61, 0x01], [0xBB, 0x90, 0x00]], [], none, none⟩)
      = (.ok [0xAA, 0xBB, 0x90, 0x00],
        ⟨[], [[0x80, 0x10, 0x00, 0x00, 0x01, 0x04], [0x00, 0xC0, 0x00, 0x00, 0x00],
          [0x00, 0xC0, 0x00, 0x00, 0x01]], none, none⟩) := by
  obtain ⟨hrequests, hresponses, -⟩ := nfc_chaining lawful_shortApdu scriptedBackend
  constructor
  · obtain ⟨messages, hchains, -, hacknowledged⟩ := hrequests longRequest
    have hlength : longRequest.ctapHidData.length = 301 := by
      show (List.replicate 300 (0 : UInt8)).length + 1 = 301
      rw [List.length_replicate]
    have htotal := congrArg List.length hchains.flatten
    rw [hlength] at htotal
    have hmany : 1 < messages.length := by
      rcases messages with _ | ⟨message, _ | ⟨next, messages⟩⟩
      · cases htotal
      · have hle := (hchains.payload message List.mem_cons_self).2
        simp only [List.map_cons, List.map_nil, List.flatten_cons, List.flatten_nil,
          List.append_nil] at htotal
        omega
      · rw [List.length_cons, List.length_cons]
        omega
    refine ⟨messages, hmany, hchains, ?_⟩
    have hne : messages ≠ [] := List.ne_nil_of_length_pos (by omega)
    exact hacknowledged 1 ⟨acknowledging [0x00] messages, [], none, none⟩ [0x00] [] _ ⟨.ok, none⟩
      (acknowledges_scripted (by decide) hne)
      (by rw [List.map_map]; exact List.map_id messages)
      (by simp) rfl
  · have hanswers : Answers shortApdu scriptedBackend 0x90 0x00 []
        [[0xAA, 0x61, 0x00], [0x61, 0x01], [0xBB, 0x90, 0x00]]
        (shortApdu.toVec (CtapMsgCommand.mk false [0x04]).toCommand) [[0xAA], [], [0xBB]]
        [0x00, 0x01] :=
      .more (replies_scripted [0xAA] 0x61 0x00 _ (by decide)) <|
        .more (replies_scripted [] 0x61 0x01 _ (by decide)) <|
          .last (replies_scripted [0xBB] 0x90 0x00 _ (by decide)) (by decide)
    exact hresponses _
      ⟨[[0xAA, 0x61, 0x00], [0x61, 0x01], [0xBB, 0x90, 0x00]], [], none, none⟩ _ _ _ _ _ hanswers
      3 (by decide)

end Libwebauthn.Transport.Nfc
