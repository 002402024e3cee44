/-
  Libwebauthn.LargeBlob.Chunks — what the two transfer loops put on the wire,
  against any device.

  `SetChunks` says what the fragments of an upload look like, and
  `FetchEnded` how a fetch ends after the fragments it was given.  Neither
  assumes anything of the answers.

    • `upload_setChunks` — the set commands of an upload, however it ends;
    • `fetchSerializedArray_ended` — a fetch ends, and behind the cap with an
      error.
-/
import Libwebauthn.LargeBlob.Store

namespace Libwebauthn

open Proc

variable {σ T : Type}

/-! ## §1. The fragments of an upload. -/

/-- The bytes a set command carries. -/
def Ctap2LargeBlobsRequest.setBytes (self : Ctap2LargeBlobsRequest) : Bytes := self.set.getD []

/-- The message that the pinUvAuthParam of a fragment authenticates. -/
def largeBlobAuthMessage (crypto : Crypto) (offset : Nat) (chunk : Bytes) : Bytes :=
  List.replicate 32 0xff ++ [0x0c, 0x00] ++ leEncode 4 offset ++ crypto.sha256 chunk

/-- The request carries the parameter over its own offset and fragment. -/
def SignedChunk (crypto : Crypto) (token : Bytes) (version : Ctap2PinUvAuthProtocol)
    (request : Ctap2LargeBlobsRequest) : Prop :=
  ∃ param, version.authenticate crypto token
        (largeBlobAuthMessage crypto request.offset request.setBytes) = .ok param
    ∧ request.pinUvAuthParam = some param ∧ request.pinUvAuthProtocol = some version.toNat

/-- Signed with the token that was given, and bare without one. -/
def AuthorisedChunk (crypto : Crypto) :
    Option (Bytes × Ctap2PinUvAuthProtocol) → Ctap2LargeBlobsRequest → Prop
  | none, request => request.pinUvAuthParam = none ∧ request.pinUvAuthProtocol = none
  | some (token, version), request => SignedChunk crypto token version request

/-- The set commands of an upload of `serialized`, as far as it came. -/
structure SetChunks (crypto : Crypto) (serialized : Bytes) (maxFragment : Nat)
    (pinUvAuth : Option (Bytes × Ctap2PinUvAuthProtocol))
    (sent : List Ctap2LargeBlobsRequest) : Prop where
  /-- Each fragment starts where those before it end. -/
  contiguous : ∀ i request, sent[i]? = some request →
    request.offset = ((sent.take i).flatMap Ctap2LargeBlobsRequest.setBytes).length
  chunk : ∀ request ∈ sent, ∃ chunk, request.set = some chunk
    ∧ chunk ≠ [] ∧ chunk.length ≤ maxFragment
  /-- The first fragment announces the total length, and no other one does. -/
  total : ∀ i request, sent[i]? = some request →
    request.length = if i = 0 then some serialized.length else none
  authorised : ∀ request ∈ sent, AuthorisedChunk crypto pinUvAuth request
  upTo : sent.flatMap Ctap2LargeBlobsRequest.setBytes <+: serialized

namespace SetChunks

variable {crypto : Crypto} {serialized : Bytes} {maxFragment : Nat}
  {pinUvAuth : Option (Bytes × Ctap2PinUvAuthProtocol)} {sent : List Ctap2LargeBlobsRequest}

theorem nil : SetChunks crypto serialized maxFragment pinUvAuth [] where
  contiguous := fun i request h => by cases h
  chunk := fun request h => by cases h
  total := fun i request h => by cases h
  authorised := fun request h => by cases h
  upTo := List.nil_prefix

/-- Only the empty list of fragments carries no bytes. -/
theorem sent_eq_nil_iff (h : SetChunks crypto serialized maxFragment pinUvAuth sent) :
    sent = [] ↔ (sent.flatMap Ctap2LargeBlobsRequest.setBytes).length = 0 := by
  constructor
  · intro hnil
    rw [hnil]
    rfl
  · intro hzero
    by_contra hne
    obtain ⟨request, rest, rfl⟩ := List.exists_cons_of_ne_nil hne
    obtain ⟨chunk, hset, hchunk, _⟩ := h.chunk request (List.mem_cons_self ..)
    rw [List.flatMap_cons, List.length_append, Ctap2LargeBlobsRequest.setBytes, hset,
      Option.getD_some] at hzero
    have := List.length_pos_iff.mpr hchunk
    omega

/-- The element at `i` of a list with one more at its end. -/
theorem getElem?_snoc {request next : Ctap2LargeBlobsRequest} {i : Nat}
    (h : (sent ++ [next])[i]? = some request) :
    (sent[i]? = some request ∧ (sent ++ [next]).take i = sent.take i ∧ (i = 0 → sent ≠ []))
      ∨ (request = next ∧ (sent ++ [next]).take i = sent ∧ i = sent.length) := by
  by_cases hi : i < sent.length
  · left
    rw [List.getElem?_append_left hi] at h
    refine ⟨h, by rw [List.take_append_of_le_length hi.le], ?_⟩
    intro _ hnil
    rw [hnil] at hi
    exact absurd hi (by simp)
  · right
    rw [List.getElem?_append_right (by omega), List.getElem?_singleton] at h
    by_cases hzero : i - sent.length = 0
    · rw [if_pos hzero] at h
      have heq : i = sent.length := by omega
      exact ⟨(Option.some.inj h).symm, by rw [heq, List.take_left], heq⟩
    · rw [if_neg hzero] at h
      cases h

/-- **Step lemma**: one fragment more, the next one of the array. -/
theorem snoc (h : SetChunks crypto serialized maxFragment pinUvAuth sent)
    (hpos : 0 < maxFragment) {offset : Nat} (hoffset : offset < serialized.length)
    (hsent : sent.flatMap Ctap2LargeBlobsRequest.setBytes = serialized.take offset)
    {next : Ctap2LargeBlobsRequest} {chunk : Bytes} {chunkAuth : Option (Bytes × Nat)}
    (hchunk : chunk = (serialized.drop offset).take maxFragment)
    (hnext : next = Platform.uploadRequest serialized chunk offset chunkAuth)
    (hauth : AuthorisedChunk crypto pinUvAuth next) :
    SetChunks crypto serialized maxFragment pinUvAuth (sent ++ [next])
      ∧ (sent ++ [next]).flatMap Ctap2LargeBlobsRequest.setBytes
          = serialized.take (offset + chunk.length) := by
  -- the offset is what has been sent so far
  have hlength : (sent.flatMap Ctap2LargeBlobsRequest.setBytes).length = offset := by
    rw [hsent, List.length_take]
    omega
  have hfields : next.set = some chunk ∧ next.offset = offset
      ∧ next.length = if offset = 0 then some serialized.length else none := by
    rw [hnext]
    unfold Platform.uploadRequest
    by_cases hzero : offset = 0
    · rw [if_pos hzero, if_pos hzero, hzero]
      exact ⟨rfl, rfl, rfl⟩
    · rw [if_neg hzero, if_neg hzero]
      exact ⟨rfl, rfl, rfl⟩
  obtain ⟨hset, hat, htotal⟩ := hfields
  have hbytes : (sent ++ [next]).flatMap Ctap2LargeBlobsRequest.setBytes
      = serialized.take (offset + chunk.length) := by
    rw [List.flatMap_append, hsent, List.flatMap_singleton, Ctap2LargeBlobsRequest.setBytes, hset,
      Option.getD_some, hchunk, Platform.take_fragment]
  -- only the first chunk carries the total
  have hempty : sent.length = 0 ↔ offset = 0 := by
    rw [List.length_eq_zero_iff, h.sent_eq_nil_iff, hlength]
  refine ⟨⟨?_, ?_, ?_, ?_, ?_⟩, hbytes⟩
  · intro i request hi
    rcases getElem?_snoc hi with ⟨hold, htake, _⟩ | ⟨rfl, htake, _⟩
    · rw [htake]
      exact h.contiguous i request hold
    · rw [htake, hlength, hat]
  · intro request hmem
    rcases List.mem_append.mp hmem with hold | hlast
    · exact h.chunk request hold
    · rw [List.mem_singleton.mp hlast]
      refine ⟨chunk, hset, ?_, ?_⟩
      · intro hnil
        rw [hchunk, List.take_eq_nil_iff, List.drop_eq_nil_iff] at hnil
        omega
      · rw [hchunk]
        exact List.length_take_le _ _
  · intro i request hi
    rcases getElem?_snoc hi with ⟨hold, _, _⟩ | ⟨rfl, _, rfl⟩
    · exact h.total i request hold
    · rw [htotal]
      by_cases hzero : offset = 0
      · rw [if_pos hzero, if_pos (hempty.mpr hzero)]
      · rw [if_neg hzero, if_neg (mt hempty.mp hzero)]
  · intro request hmem
    rcases List.mem_append.mp hmem with hold | hlast
    · exact h.authorised request hold
    · rw [List.mem_singleton.mp hlast]
      exact hauth
  · rw [hbytes]
    exact List.take_prefix _ _

end SetChunks

/-! ## §2. Uploading to any device. -/

/-- A set command is one more on the wire, whatever it was answered. -/
theorem World.setsSent_command (w : World σ T) (env : σ) {request : Ctap2LargeBlobsRequest}
    {chunk : Bytes} (hset : request.set = some chunk)
    (answer : Except (WebAuthnError T) Ctap2LargeBlobsResponse) :
    World.setsSent { w with env := env, wire := w.wire ++ [.largeBlobs request answer] }
      = w.setsSent ++ [request] := by
  have hsome : request.set.isSome = true := by rw [hset]; rfl
  unfold World.setsSent
  rw [List.filterMap_append]
  simp only [List.filterMap_cons, List.filterMap_nil, if_pos hsome]

namespace Platform

variable {p : Platform σ T} {serialized : Bytes} {maxFragment : Nat}
  {pinUvAuth : Option (Bytes × Ctap2PinUvAuthProtocol)}

theorem uploadRequest_set (serialized chunk : Bytes) (offset : Nat)
    (chunkAuth : Option (Bytes × Nat)) :
    (uploadRequest serialized chunk offset chunkAuth).set = some chunk := by
  unfold uploadRequest
  split <;> rfl

theorem uploadRequest_auth (serialized chunk : Bytes) (offset : Nat)
    (chunkAuth : Option (Bytes × Nat)) :
    (uploadRequest serialized chunk offset chunkAuth).offset = offset
      ∧ (uploadRequest serialized chunk offset chunkAuth).pinUvAuthParam = chunkAuth.map Prod.fst
      ∧ (uploadRequest serialized chunk offset chunkAuth).pinUvAuthProtocol
          = chunkAuth.map Prod.snd := by
  unfold uploadRequest
  split
  next hzero => exact ⟨hzero.symm, rfl, rfl⟩
  next => exact ⟨rfl, rfl, rfl⟩

theorem chunkAuth_of_ok {token param : Bytes} {version : Ctap2PinUvAuthProtocol} {offset : Nat}
    {chunk : Bytes}
    (h : largeBlobPinUvAuthParam p.crypto token version offset chunk = .ok param)
    (w : World σ T) :
    p.chunkAuth (some (token, version)) offset chunk w
      = (.ok (some (param, version.toNat)), w) := by
  have hparam : blobCommand (Ctap.liftPlatform
      (largeBlobPinUvAuthParam p.crypto token version offset chunk)) w = (.ok param, w) := by
    rw [h]
    rfl
  show (blobCommand _ >>= _) w = _
  rw [Proc.bind_of_ok hparam]
  rfl

theorem chunkAuth_of_error {token : Bytes} {version : Ctap2PinUvAuthProtocol} {offset : Nat}
    {chunk : Bytes} {e : PlatformError}
    (h : largeBlobPinUvAuthParam p.crypto token version offset chunk = .error e)
    (w : World σ T) :
    p.chunkAuth (some (token, version)) offset chunk w
      = (.error (.webauthn (.platform e)), w) := by
  have hparam : blobCommand (Ctap.liftPlatform
      (largeBlobPinUvAuthParam p.crypto token version offset chunk)) w
        = (.error (.webauthn (.platform e)), w) := by
    rw [h]
    rfl
  show (blobCommand _ >>= _) w = _
  rw [Proc.bind_apply, hparam]

variable (serialized pinUvAuth) in
/-- The parameter is over the offset and the fragment it goes out with. -/
theorem triple_chunkAuth (P : World σ T → Prop) (offset : Nat) (chunk : Bytes) :
    Proc.Triple P (p.chunkAuth pinUvAuth offset chunk)
      (fun chunkAuth w => P w ∧ AuthorisedChunk p.crypto pinUvAuth
        (uploadRequest serialized chunk offset chunkAuth)) P := by
  cases pinUvAuth with
  | none =>
      obtain ⟨_, hparam, hprotocol⟩ := uploadRequest_auth serialized chunk offset none
      exact Proc.Triple.pure fun w hw => ⟨hw, hparam, hprotocol⟩
  | some auth =>
      obtain ⟨token, version⟩ := auth
      cases hauth : largeBlobPinUvAuthParam p.crypto token version offset chunk with
      | error e =>
          intro w hw
          rw [chunkAuth_of_error hauth]
          exact hw
      | ok param =>
          intro w hw
          obtain ⟨hat, hparam, hprotocol⟩ :=
            uploadRequest_auth serialized chunk offset (some (param, version.toNat))
          rw [chunkAuth_of_ok hauth]
          refine ⟨hw, param, ?_, hparam, hprotocol⟩
          rw [hat, Ctap2LargeBlobsRequest.setBytes, uploadRequest_set, Option.getD_some]
          exact hauth

/-- A command goes on the wire, whatever the device answers. -/
theorem triple_command_any {request : Ctap2LargeBlobsRequest} {P Q : World σ T → Prop}
    (h : ∀ (w : World σ T) (env : σ) answer, P w →
      Q { w with env := env, wire := w.wire ++ [.largeBlobs request answer] }) :
    Proc.Triple P (blobCommand (p.ctap2LargeBlobs request)) (fun _ => Q) Q := by
  refine Proc.Triple.mapError fun w hw => ?_
  unfold ctap2LargeBlobs Ctap.command
  rcases p.largeBlobs request w.env with ⟨answer, env⟩
  cases answer with
  | ok response => exact h w env _ hw
  | error e => exact h w env _ hw

/-- The set commands of an upload so far; all up to `offset` has been sent. -/
def Uploading (crypto : Crypto) (serialized : Bytes) (maxFragment : Nat)
    (pinUvAuth : Option (Bytes × Ctap2PinUvAuthProtocol)) (before : List Ctap2LargeBlobsRequest)
    (offset : Nat) (w : World σ T) : Prop :=
  ∃ sent, w.setsSent = before ++ sent ∧ SetChunks crypto serialized maxFragment pinUvAuth sent
    ∧ sent.flatMap Ctap2LargeBlobsRequest.setBytes = serialized.take offset

/-- **Step lemma**: a turn sends the next fragment, if any is left. -/
theorem triple_uploadTurn_chunks (hpos : 0 < maxFragment)
    (before : List Ctap2LargeBlobsRequest) (offset : Nat) :
    Proc.Triple (fun w : World σ T => offset ≤ serialized.length
        ∧ Uploading p.crypto serialized maxFragment pinUvAuth before offset w)
      (p.uploadTurn serialized maxFragment pinUvAuth offset)
      (fun next w => match next with
        | .inl offset' => offset' ≤ serialized.length
            ∧ Uploading p.crypto serialized maxFragment pinUvAuth before offset' w
        | .inr _ => Uploading p.crypto serialized maxFragment pinUvAuth before
            serialized.length w)
      fun w => ∃ offset', Uploading p.crypto serialized maxFragment pinUvAuth before offset' w := by
  unfold uploadTurn
  split
  next hoffset =>
    set chunk := (serialized.drop offset).take maxFragment with hchunk
    refine Proc.Triple.bind _ ((triple_chunkAuth serialized pinUvAuth
      (fun w => Uploading p.crypto serialized maxFragment pinUvAuth before offset w)
      offset chunk).conseq (fun w hw => hw.2) (fun _ _ => id) fun w hw => ⟨offset, hw⟩)
      fun chunkAuth => ?_
    -- the fragment is on the wire whether the device takes it or not
    have hcommand : Proc.Triple (fun w : World σ T =>
          Uploading p.crypto serialized maxFragment pinUvAuth before offset w
          ∧ AuthorisedChunk p.crypto pinUvAuth (uploadRequest serialized chunk offset chunkAuth))
        (blobCommand (p.ctap2LargeBlobs (uploadRequest serialized chunk offset chunkAuth)))
        (fun _ => Uploading p.crypto serialized maxFragment pinUvAuth before
          (offset + chunk.length))
        (Uploading p.crypto serialized maxFragment pinUvAuth before (offset + chunk.length)) := by
      refine triple_command_any fun w env answer hw => ?_
      obtain ⟨⟨sent, hsets, hchunks, hbytes⟩, hauth⟩ := hw
      obtain ⟨hchunks', hbytes'⟩ := hchunks.snoc hpos hoffset hbytes hchunk rfl hauth
      refine ⟨sent ++ [uploadRequest serialized chunk offset chunkAuth], ?_, hchunks', hbytes'⟩
      rw [World.setsSent_command w env (uploadRequest_set _ _ _ _), hsets, List.append_assoc]
    refine Proc.Triple.bind _ (hcommand.conseq (fun _ => id) (fun _ _ => id)
      fun w hw => ⟨_, hw⟩) fun _ => ?_
    split
    · exact Proc.Triple.pure fun w hw => ⟨fragment_le hoffset.le maxFragment, hw⟩
    · exact Proc.Triple.throw fun w hw => ⟨_, hw⟩
  next hend =>
    refine Proc.Triple.pure fun w hw => ?_
    have hall : offset = serialized.length := by omega
    rw [← hall]
    exact hw.2

variable (serialized pinUvAuth) in
/-- **Run lemma**: the set commands of an upload, on any device; all of the
array is sent when it returns. -/
theorem upload_setChunks (hpos : 0 < maxFragment) (w : World σ T) :
    ∃ sent, (p.uploadSerializedArray serialized maxFragment pinUvAuth w).2.setsSent
          = w.setsSent ++ sent
      ∧ SetChunks p.crypto serialized maxFragment pinUvAuth sent
      ∧ ((p.uploadSerializedArray serialized maxFragment pinUvAuth w).1 = .ok () →
          sent.flatMap Ctap2LargeBlobsRequest.setBytes = serialized) := by
  -- every turn extends the chunks sent; the checks in front of the loop send nothing
  have hloop : Proc.Triple (fun w' : World σ T => w' = w)
      (p.uploadSerializedArray serialized maxFragment pinUvAuth)
      (fun _ => Uploading p.crypto serialized maxFragment pinUvAuth w.setsSent serialized.length)
      fun w' => ∃ offset,
        Uploading p.crypto serialized maxFragment pinUvAuth w.setsSent offset w' := by
    have hstart : Uploading p.crypto serialized maxFragment pinUvAuth w.setsSent 0 w :=
      ⟨[], (List.append_nil _).symm, .nil, by rw [List.take_zero]; rfl⟩
    have hfailed : ∀ (e : LargeBlobError T), Proc.Triple (fun w' : World σ T => w' = w)
        (Proc.throw e : BlobProc σ T Unit)
        (fun _ => Uploading p.crypto serialized maxFragment pinUvAuth w.setsSent serialized.length)
        fun w' => ∃ offset,
          Uploading p.crypto serialized maxFragment pinUvAuth w.setsSent offset w' :=
      fun e => Proc.Triple.throw fun w' hw' => ⟨0, by rw [hw']; exact hstart⟩
    unfold uploadSerializedArray
    split
    · exact hfailed _
    split
    · exact hfailed _
    split
    · exact hfailed _
    refine (Proc.Triple.loop (fun offset w' => offset ≤ serialized.length
        ∧ Uploading p.crypto serialized maxFragment pinUvAuth w.setsSent offset w')
      (fun offset => (triple_uploadTurn_chunks hpos w.setsSent offset).post ?_)
      (fun offset w' hw' => ⟨offset, hw'.2⟩) blobTurns 0).pre ?_
    · intro next w' hw'
      cases next <;> exact hw'
    intro w' hw'
    rw [hw']
    exact ⟨Nat.zero_le _, hstart⟩
  -- however it ends, what has been sent are chunks; all of them when it succeeds
  have hend := hloop w rfl
  rcases hrun : p.uploadSerializedArray serialized maxFragment pinUvAuth w with ⟨outcome, w'⟩
  rw [hrun] at hend
  cases outcome with
  | ok u =>
      obtain ⟨sent, hsets, hchunks, hbytes⟩ := hend
      refine ⟨sent, hsets, hchunks, fun _ => ?_⟩
      rw [hbytes, List.take_length]
  | error e =>
      obtain ⟨_, sent, hsets, hchunks, _⟩ := hend
      exact ⟨sent, hsets, hchunks, fun h => by cases h⟩
  | running =>
      obtain ⟨_, sent, hsets, hchunks, _⟩ := hend
      exact ⟨sent, hsets, hchunks, fun h => by cases h⟩

end Platform

/-! ## §3. Fetching from any device. -/

/-- The fragments that the get commands were answered with. -/
def World.fragmentsRead (w : World σ T) : List Bytes :=
  w.wire.filterMap fun
    | .largeBlobs request (.ok response) =>
        if request.get.isSome then some (response.config.getD []) else none
    | _ => none

theorem World.fragmentsRead_ok (w : World σ T) (env : σ) (offset length : Nat)
    (response : Ctap2LargeBlobsResponse) :
    World.fragmentsRead { w with env := env, wire :=
        w.wire ++ [.largeBlobs (.newGet offset length) (.ok response)] }
      = w.fragmentsRead ++ [response.config.getD []] := by
  unfold World.fragmentsRead
  rw [List.filterMap_append]
  rfl

theorem World.fragmentsRead_error (w : World σ T) (env : σ) (offset length : Nat)
    (e : WebAuthnError T) :
    World.fragmentsRead { w with env := env, wire :=
        w.wire ++ [.largeBlobs (.newGet offset length) (.error e)] }
      = w.fragmentsRead := by
  unfold World.fragmentsRead
  rw [List.filterMap_append]
  exact List.append_nil _

/-- How a fetch ends after `fragments`: with all of them when the last one is
short, behind the cap, or with an error of the device. -/
inductive FetchEnded (maxFragment : Nat) :
    List Bytes → Outcome (LargeBlobError T) Bytes → Prop where
  | read {full : List Bytes} {last : Bytes} (hfull : ∀ f ∈ full, maxFragment ≤ f.length)
      (hcap : full.flatten.length ≤ LARGE_BLOB_MAX_ARRAY_BYTES)
      (hlast : last.length < maxFragment) :
      FetchEnded maxFragment (full ++ [last]) (.ok (full ++ [last]).flatten)
  | exceeded {full : List Bytes} {last : Bytes}
      (hfull : ∀ f ∈ full ++ [last], maxFragment ≤ f.length)
      (hbefore : full.flatten.length ≤ LARGE_BLOB_MAX_ARRAY_BYTES)
      (hcap : LARGE_BLOB_MAX_ARRAY_BYTES < (full ++ [last]).flatten.length) :
      FetchEnded maxFragment (full ++ [last])
        (.error (.corrupted "serialized array exceeds platform cap"))
  | failed {full : List Bytes} (hfull : ∀ f ∈ full, maxFragment ≤ f.length)
      (hcap : full.flatten.length ≤ LARGE_BLOB_MAX_ARRAY_BYTES) (e : WebAuthnError T) :
      FetchEnded maxFragment full (.error (.webauthn e))

namespace FetchEnded

variable {maxFragment : Nat} {fragments : List Bytes} {outcome : Outcome (LargeBlobError T) Bytes}

/-- Full fragments beyond the cap end in the error. -/
theorem error_of_exceeded (h : FetchEnded maxFragment fragments outcome)
    (hfull : ∀ f ∈ fragments, maxFragment ≤ f.length)
    (hcap : LARGE_BLOB_MAX_ARRAY_BYTES < fragments.flatten.length) :
    outcome = .error (.corrupted "serialized array exceeds platform cap") := by
  cases h with
  | read _ _ hlast =>
      have := hfull _ (List.mem_append_right _ (List.mem_singleton_self _))
      omega
  | exceeded => rfl
  | failed _ hroom => omega

end FetchEnded

namespace Platform

variable {p : Platform σ T} {maxFragment : Nat}

/-- **Step lemma**: all that a turn can do that has read `out`. -/
theorem fetchTurn_cases (maxFragment : Nat) (out : Bytes) (w : World σ T) :
    ∃ w', (∃ e, p.fetchTurn maxFragment ⟨out, out.length⟩ w = (.error (.webauthn e), w')
          ∧ w'.fragmentsRead = w.fragmentsRead)
      ∨ ∃ chunk, w'.fragmentsRead = w.fragmentsRead ++ [chunk]
        ∧ ((chunk.length < maxFragment
            ∧ p.fetchTurn maxFragment ⟨out, out.length⟩ w = (.ok (.inr (out ++ chunk)), w'))
          ∨ (maxFragment ≤ chunk.length ∧ LARGE_BLOB_MAX_ARRAY_BYTES < (out ++ chunk).length
            ∧ p.fetchTurn maxFragment ⟨out, out.length⟩ w
                = (.error (.corrupted "serialized array exceeds platform cap"), w'))
          ∨ (maxFragment ≤ chunk.length ∧ (out ++ chunk).length ≤ LARGE_BLOB_MAX_ARRAY_BYTES
            ∧ p.fetchTurn maxFragment ⟨out, out.length⟩ w
                = (.ok (.inl ⟨out ++ chunk, (out ++ chunk).length⟩), w'))) := by
  rcases hanswer : p.largeBlobs (.newGet out.length maxFragment) w.env with ⟨answer, env⟩
  let w' : World σ T := { w with
    env := env
    wire := w.wire ++ [.largeBlobs (.newGet out.length maxFragment) answer] }
  refine ⟨w', ?_⟩
  -- the command fails, or its fragment is the last one, one too many, or kept
  cases answer with
  | error e =>
      refine .inl ⟨e, ?_, w.fragmentsRead_error env _ _ e⟩
      unfold fetchTurn
      rw [Proc.bind_apply, blobCommand_of_error hanswer]
  | ok response =>
      refine .inr ⟨response.config.getD [], w.fragmentsRead_ok env _ _ response, ?_⟩
      unfold fetchTurn
      rw [Proc.bind_of_ok (blobCommand_of_ok hanswer)]
      dsimp only
      generalize response.config.getD [] = chunk
      by_cases hlast : chunk.length < maxFragment
      · rw [if_pos hlast]
        exact .inl ⟨hlast, rfl⟩
      · rw [if_neg hlast]
        by_cases hover : (out ++ chunk).length > LARGE_BLOB_MAX_ARRAY_BYTES
        · rw [if_pos hover]
          exact .inr (.inl ⟨not_lt.mp hlast, hover, rfl⟩)
        · -- within the cap the offset does not overflow
          have hbound : out.length + chunk.length ≤ 4 * 1024 * 1024 := by
            rw [← List.length_append]
            exact not_lt.mp hover
          rw [if_neg hover, Nat.mod_eq_of_lt (by omega), if_pos (by omega)]
          refine .inr (.inr ⟨not_lt.mp hlast, not_lt.mp hover, ?_⟩)
          rw [List.length_append]
          rfl

/-- **Run lemma**: from full fragments within the cap, on any device. -/
theorem fetchLoop_ended (hpos : 0 < maxFragment) (before : List Bytes) (fuel : Nat) :
    ∀ {full : List Bytes} {w : World σ T}, w.fragmentsRead = before ++ full →
      (∀ f ∈ full, maxFragment ≤ f.length) →
      full.flatten.length ≤ LARGE_BLOB_MAX_ARRAY_BYTES →
      LARGE_BLOB_MAX_ARRAY_BYTES + 1 - full.flatten.length < fuel →
      ∃ fragments, (Proc.loop (p.fetchTurn maxFragment) fuel
            ⟨full.flatten, full.flatten.length⟩ w).2.fragmentsRead = before ++ fragments
        ∧ FetchEnded maxFragment fragments (Proc.loop (p.fetchTurn maxFragment) fuel
            ⟨full.flatten, full.flatten.length⟩ w).1 := by
  induction fuel with
  | zero => intro full w _ _ _ hfuel; omega
  | succ fuel ih =>
      intro full w hread hfull hcap hfuel
      rw [Proc.loop, Proc.bind_apply]
      obtain ⟨w', hturn⟩ := fetchTurn_cases (p := p) maxFragment full.flatten w
      -- a turn that fails, and the three ways a fragment is taken
      rcases hturn with ⟨e, hturn, hkept⟩ | ⟨chunk, hmore, hturn⟩
      · rw [hturn]
        exact ⟨full, hkept.trans hread, .failed hfull hcap e⟩
      · have hflat : full.flatten ++ chunk = (full ++ [chunk]).flatten := by simp
        rw [hread, List.append_assoc] at hmore
        rw [hflat] at hturn
        have hfull' : maxFragment ≤ chunk.length →
            ∀ f ∈ full ++ [chunk], maxFragment ≤ f.length := by
          intro hchunk f hf
          rcases List.mem_append.mp hf with hold | hnew
          · exact hfull f hold
          · rw [List.mem_singleton.mp hnew]
            exact hchunk
        rcases hturn with ⟨hlast, hturn⟩ | ⟨hlong, hover, hturn⟩ | ⟨hlong, hroom, hturn⟩
        · rw [hturn]
          exact ⟨full ++ [chunk], hmore, .read hfull hcap hlast⟩
        · rw [hturn]
          exact ⟨full ++ [chunk], hmore, .exceeded (hfull' hlong) hcap hover⟩
        · rw [hturn]
          -- a full fragment lowers what is left up to the cap
          refine ih hmore (hfull' hlong) hroom ?_
          rw [← hflat, List.length_append] at hroom ⊢
          omega

/-- **A fetch ends**, whatever the device answers. -/
theorem fetchSerializedArray_ended (hpos : 0 < maxFragment) (w : World σ T) :
    ∃ fragments, (p.fetchSerializedArray maxFragment w).2.fragmentsRead
          = w.fragmentsRead ++ fragments
      ∧ FetchEnded maxFragment fragments (p.fetchSerializedArray maxFragment w).1 := by
  have hread : w.fragmentsRead = w.fragmentsRead ++ [] := (List.append_nil _).symm
  have hloop := fetchLoop_ended (p := p) hpos w.fragmentsRead blobTurns hread
    (fun _ hmem => absurd hmem List.not_mem_nil) (Nat.zero_le _) (Nat.lt_succ_self _)
  exact hloop

end Platform

end Libwebauthn
