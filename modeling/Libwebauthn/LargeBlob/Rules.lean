/-
  Libwebauthn.LargeBlob.Rules — transfers to a device that follows the rules of
  authenticatorLargeBlobs.

  `BlobRules` are the device's side of the command: a get returns what there is
  of the substring asked for, a set is taken in sequence, within the lengths
  announced and allowed and under the token in force, and the last fragment
  replaces the array if the trailer is right.
-/
import Libwebauthn.LargeBlob.Chunks
import Libwebauthn.LargeBlob.MapUpdate

namespace Libwebauthn

open Proc

variable {σ T : Type}

/-! ## §1. The rules. -/

structure BlobRules where
  /-- The longest fragment the device takes or gives. -/
  limit : Nat
  /-- The longest array the device stores. -/
  capacity : Nat
  /-- The token that writes need, if the device is protected. -/
  token : Option (Bytes × Ctap2PinUvAuthProtocol)

namespace BlobRules

/-- The last 16 bytes are those of the hash of the others. -/
def intact (crypto : Crypto) (array : Bytes) : Bool :=
  array.drop (array.length - LARGE_BLOB_HASH_LEN)
    == arrayTrailer crypto (array.take (array.length - LARGE_BLOB_HASH_LEN))

def get (self : BlobRules) (blobs : BlobStore) (offset length : Nat) : Option Bytes :=
  if self.limit < length ∨ blobs.array.length < offset then none
  else some ((blobs.array.drop offset).take length)

/-- The pinUvAuthParam of a request, against the token in force. -/
def authorises (crypto : Crypto) (self : BlobRules) (request : Ctap2LargeBlobsRequest) : Bool :=
  match self.token with
  | none => true
  | some (token, version) =>
      match version.authenticate crypto token
          (largeBlobAuthMessage crypto request.offset request.setBytes) with
      | .ok param => request.pinUvAuthParam == some param
          && request.pinUvAuthProtocol == some version.toNat
      | .error _ => false

/-- All that has come so far; a complete array must be intact. -/
def keep (crypto : Crypto) (blobs : BlobStore) (total : Nat) (received : Bytes) :
    Option BlobStore :=
  if received.length = total ∧ intact crypto received = false then none
  else blobs.receive total received

/-- The fragment at offset 0 announces the total length. -/
def first (crypto : Crypto) (self : BlobRules) (blobs : BlobStore) (chunk : Bytes) :
    Option Nat → Option BlobStore
  | some total =>
      if total < 17 ∨ self.capacity < total then none else keep crypto blobs total chunk
  | none => none

/-- Any other one starts where the upload stands. -/
def continuation (crypto : Crypto) (blobs : BlobStore) (offset : Nat) (chunk : Bytes) :
    Option Nat → Option (Nat × Bytes) → Option BlobStore
  | none, some (total, received) =>
      if offset = received.length then keep crypto blobs total (received ++ chunk) else none
  | _, _ => none

def set (crypto : Crypto) (self : BlobRules) (blobs : BlobStore)
    (request : Ctap2LargeBlobsRequest) : Option BlobStore :=
  if self.limit < request.setBytes.length ∨ self.authorises crypto request = false then none
  else if request.offset = 0 then self.first crypto blobs request.setBytes request.length
  else continuation crypto blobs request.offset request.setBytes request.length blobs.pending

end BlobRules

/-- The device answers by `rules`; `store` is what it keeps.  Any answer other
than success is one that the rules refuse, and changes nothing. -/
structure FollowsBlobRules (p : Platform σ T) (rules : BlobRules) (store : σ → BlobStore) :
    Prop where
  get_taken : ∀ {s offset length bytes}, rules.get (store s) offset length = some bytes →
    ∃ response s', p.largeBlobs (.newGet offset length) s = (.ok response, s')
      ∧ response.config.getD [] = bytes ∧ (store s').array = (store s).array
  get_refused : ∀ {s offset length}, rules.get (store s) offset length = none →
    ∃ e s', p.largeBlobs (.newGet offset length) s = (.error e, s')
      ∧ (store s').array = (store s).array
  set_taken : ∀ {s request blobs}, request.set.isSome →
    rules.set p.crypto (store s) request = some blobs →
    ∃ response s', p.largeBlobs request s = (.ok response, s') ∧ store s' = blobs
  set_refused : ∀ {s request}, request.set.isSome →
    rules.set p.crypto (store s) request = none →
    ∃ e s', p.largeBlobs request s = (.error e, s') ∧ (store s').array = (store s).array

theorem BlobRules.accept_of_keep {crypto : Crypto} {blobs blobs' : BlobStore} {total : Nat}
    {received : Bytes} (h : BlobRules.keep crypto blobs total received = some blobs') :
    blobs.receive total received = some blobs' := by
  unfold BlobRules.keep at h
  split at h
  · cases h
  · exact h

/-- What the rules take is taken as a store takes it. -/
theorem BlobRules.accept_of_set {crypto : Crypto} {rules : BlobRules} {blobs blobs' : BlobStore}
    {request : Ctap2LargeBlobsRequest} (h : rules.set crypto blobs request = some blobs') :
    blobs.accept request.setBytes request.offset request.length = some blobs' := by
  unfold BlobRules.set at h
  split at h
  · cases h
  split at h
  next hzero =>
    -- the first fragment announces the length
    unfold BlobRules.first at h
    split at h
    next total hlength =>
      split at h
      · cases h
      · unfold BlobStore.accept
        rw [hlength]
        dsimp only
        rw [if_pos hzero]
        exact accept_of_keep h
    next => cases h
  next =>
    unfold BlobRules.continuation at h
    split at h
    next hlength hpending =>
      split at h
      next hoffset =>
        unfold BlobStore.accept
        rw [hlength, hpending]
        dsimp only
        rw [if_pos hoffset]
        exact accept_of_keep h
      next => cases h
    next => cases h

/-- A device that follows the rules is a store, for fragments within its limit. -/
theorem FollowsBlobRules.storesBlobs {p : Platform σ T} {rules : BlobRules}
    {store : σ → BlobStore} (h : FollowsBlobRules p rules store)
    (hrandom : ∀ n s, store (p.random n s).2 = store s) : StoresBlobs p store rules.limit where
  get s offset length hlimit hoffset := by
    refine h.get_taken ?_
    unfold BlobRules.get
    rw [if_neg (by omega)]
  set {s s' request chunk response} hset hanswer := by
    have hsome : request.set.isSome = true := by
      rw [hset]
      rfl
    have hbytes : request.setBytes = chunk := by
      rw [Ctap2LargeBlobsRequest.setBytes, hset, Option.getD_some]
    cases hrules : rules.set p.crypto (store s) request with
    | none =>
        obtain ⟨e, s'', herror, -⟩ := h.set_refused hsome hrules
        cases herror.symm.trans hanswer
    | some blobs =>
        obtain ⟨response', s'', hok, hstored⟩ := h.set_taken hsome hrules
        rw [← (Prod.mk.inj (hok.symm.trans hanswer)).2, hstored, ← hbytes]
        exact BlobRules.accept_of_set hrules
  random := hrandom

/-- The device takes fragments of this size of an array of this length, under
the token given. -/
structure BlobRules.Takes (rules : BlobRules) (serialized : Bytes) (maxFragment : Nat)
    (pinUvAuth : Option (Bytes × Ctap2PinUvAuthProtocol)) : Prop where
  fragment : maxFragment ≤ rules.limit
  capacity : serialized.length ≤ rules.capacity
  token : rules.token = none ∨ rules.token = pinUvAuth
  /-- The platform keeps no token of another length. -/
  valid : ∀ token version, pinUvAuth = some (token, version) →
    version.pinUvAuthTokenLenValid token.length = true

/-! ## §2. What the rules say of the fragments of an upload. -/

namespace BlobRules

variable {crypto : Crypto} {rules : BlobRules} {serialized : Bytes} {maxFragment : Nat}
  {pinUvAuth : Option (Bytes × Ctap2PinUvAuthProtocol)}

/-- A fragment signed with the token in force is authorised. -/
theorem authorises_of_authorised {request : Ctap2LargeBlobsRequest}
    (htoken : rules.token = none ∨ rules.token = pinUvAuth)
    (h : AuthorisedChunk crypto pinUvAuth request) : rules.authorises crypto request = true := by
  unfold authorises
  rcases htoken with hnone | hsame
  · rw [hnone]
  · rw [hsame]
    cases pinUvAuth with
    | none => rfl
    | some auth =>
        obtain ⟨param, hparam, hcarried, hprotocol⟩ := h
        dsimp only
        rw [hparam, hcarried, hprotocol]
        simp

/-- **The next fragment of an upload is in sequence**: what decides is whether
the array is complete and intact. -/
theorem set_uploadRequest (htakes : rules.Takes serialized maxFragment pinUvAuth)
    (hmin : 17 ≤ serialized.length) {offset : Nat} (hoffset : offset < serialized.length)
    {blobs : BlobStore} (huploaded : Platform.Uploaded serialized offset blobs) {chunk : Bytes}
    (hchunk : chunk = (serialized.drop offset).take maxFragment)
    {chunkAuth : Option (Bytes × Nat)}
    (hauth : AuthorisedChunk crypto pinUvAuth
      (Platform.uploadRequest serialized chunk offset chunkAuth)) :
    rules.set crypto blobs (Platform.uploadRequest serialized chunk offset chunkAuth)
      = keep crypto blobs serialized.length (serialized.take (offset + chunk.length)) := by
  have hreceived : serialized.take offset ++ chunk
      = serialized.take (offset + chunk.length) := by
    rw [hchunk]
    exact Platform.take_fragment serialized offset maxFragment
  have hlimit : chunk.length ≤ rules.limit := by
    rw [hchunk]
    exact (List.length_take_le _ _).trans htakes.fragment
  have hbytes : (Platform.uploadRequest serialized chunk offset chunkAuth).setBytes = chunk := by
    rw [Ctap2LargeBlobsRequest.setBytes, Platform.uploadRequest_set, Option.getD_some]
  have hcapacity := htakes.capacity
  -- nothing about the fragment itself is refused
  have htaken : ¬ (rules.limit
        < (Platform.uploadRequest serialized chunk offset chunkAuth).setBytes.length
      ∨ rules.authorises crypto (Platform.uploadRequest serialized chunk offset chunkAuth)
        = false) := by
    rw [hbytes, authorises_of_authorised htakes.token hauth]
    simp only [Bool.true_eq_false, or_false, not_lt]
    exact hlimit
  unfold set
  rw [if_neg htaken, hbytes, ← hreceived]
  unfold Platform.uploadRequest
  by_cases hzero : offset = 0
  · rw [if_pos hzero, hzero]
    show rules.first crypto blobs chunk (some serialized.length) = _
    rw [first, if_neg (by omega)]
    rfl
  · rw [if_neg hzero]
    -- a later fragment continues the upload that is pending
    cases huploaded with
    | start => exact absurd rfl hzero
    | done => exact absurd hoffset (lt_irrefl _)
    | pending _ hpending =>
        have hlength : (serialized.take offset).length = offset := by
          rw [List.length_take, Nat.min_eq_left hoffset.le]
        show (if offset = 0 then _
          else continuation crypto blobs offset chunk none blobs.pending) = _
        rw [if_neg hzero, hpending, continuation, if_pos hlength.symm]

/-- A fragment that others follow is kept, and the array stays. -/
theorem keep_of_lt (crypto : Crypto) {offset : Nat} (hoffset : offset < serialized.length)
    (blobs : BlobStore) :
    ∃ blobs', blobs.receive serialized.length (serialized.take offset) = some blobs'
      ∧ keep crypto blobs serialized.length (serialized.take offset) = some blobs'
      ∧ blobs'.array = blobs.array := by
  have hlength : (serialized.take offset).length = offset := by
    rw [List.length_take, Nat.min_eq_left hoffset.le]
  have hreceive : blobs.receive serialized.length (serialized.take offset)
      = some { blobs with pending := some (serialized.length, serialized.take offset) } := by
    unfold BlobStore.receive
    rw [if_pos (by omega)]
  refine ⟨_, hreceive, ?_, rfl⟩
  unfold keep
  rw [if_neg (by omega), hreceive]

/-- The last fragment replaces the array, if it is intact. -/
theorem keep_length (blobs : BlobStore) :
    keep crypto blobs serialized.length (serialized.take serialized.length)
      = if intact crypto serialized then some ⟨serialized, none⟩ else none := by
  rw [List.take_length]
  unfold keep BlobStore.receive
  cases hintact : intact crypto serialized with
  | true => rw [if_neg (by simp), if_neg (lt_irrefl _), if_pos rfl, if_pos rfl]
  | false => rw [if_pos ⟨rfl, rfl⟩, if_neg (by simp)]

end BlobRules

/-! ## §3. Uploading. -/

/-- The bytes of all set commands on the wire. -/
def World.bytesSent (w : World σ T) : Bytes :=
  w.setsSent.flatMap Ctap2LargeBlobsRequest.setBytes

namespace Platform

variable {p : Platform σ T} {rules : BlobRules} {store : σ → BlobStore} {serialized : Bytes}
  {maxFragment : Nat} {pinUvAuth : Option (Bytes × Ctap2PinUvAuthProtocol)}

/-- An upload that has come to `offset`, on a device that held `old`. -/
structure UnderWay (p : Platform σ T) (store : σ → BlobStore) (serialized old before : Bytes)
    (offset : Nat) (w : World σ T) : Prop where
  bound : offset ≤ serialized.length
  uploaded : Uploaded serialized offset (store w.env)
  kept : offset < serialized.length → arrayAt store w = old
  intact : offset = serialized.length → BlobRules.intact p.crypto serialized = true
  sent : w.bytesSent = before ++ serialized.take offset

/-- An upload refused at its end, for a trailer that is not right. -/
structure RefusedAtEnd (p : Platform σ T) (store : σ → BlobStore) (serialized old before : Bytes)
    (w : World σ T) : Prop where
  intact : BlobRules.intact p.crypto serialized = false
  kept : arrayAt store w = old
  sent : w.bytesSent = before ++ serialized

/-- A token of a valid length signs every fragment. -/
theorem chunkAuth_valid (htakes : rules.Takes serialized maxFragment pinUvAuth) (offset : Nat)
    (chunk : Bytes) (w : World σ T) :
    ∃ chunkAuth, p.chunkAuth pinUvAuth offset chunk w = (.ok chunkAuth, w)
      ∧ AuthorisedChunk p.crypto pinUvAuth (uploadRequest serialized chunk offset chunkAuth) := by
  have hsigned := triple_chunkAuth (p := p) serialized pinUvAuth
    (fun _ => True) offset chunk w trivial
  cases hauth : pinUvAuth with
  | none =>
      rw [hauth] at hsigned
      exact ⟨none, rfl, hsigned.2⟩
  | some auth =>
      obtain ⟨token, version⟩ := auth
      obtain ⟨param, hparam⟩ := Ctap2PinUvAuthProtocol.authenticate_of_lenValid
        (htakes.valid token version hauth) (largeBlobAuthMessage p.crypto offset chunk)
      have hrun := chunkAuth_of_ok (p := p) hparam w
      rw [hauth, hrun] at hsigned
      exact ⟨_, hrun, hsigned.2⟩

/-- The request of the next fragment, as the turn sends it. -/
theorem uploadTurn_eq {offset : Nat} (hoffset : offset < serialized.length)
    {chunkAuth : Option (Bytes × Nat)} {w : World σ T}
    (hauth : p.chunkAuth pinUvAuth offset ((serialized.drop offset).take maxFragment) w
      = (.ok chunkAuth, w))
    (hcap : serialized.length ≤ LARGE_BLOB_MAX_ARRAY_BYTES) :
    p.uploadTurn serialized maxFragment pinUvAuth offset w
      = (blobCommand (p.ctap2LargeBlobs (uploadRequest serialized
            ((serialized.drop offset).take maxFragment) offset chunkAuth)) >>= fun _ =>
          pure (.inl (offset + ((serialized.drop offset).take maxFragment).length))) w := by
  have hnext : offset + ((serialized.drop offset).take maxFragment).length < 2 ^ 32 := by
    have hbound := fragment_le hoffset.le maxFragment
    have : serialized.length ≤ 4 * 1024 * 1024 := hcap
    omega
  unfold uploadTurn
  rw [if_pos hoffset, Proc.bind_of_ok hauth]
  simp only [if_pos hnext]
  rfl

/-- **Step lemma**: the next fragment is taken, unless it is the last one of an
array with a wrong trailer. -/
theorem uploadTurn_rules (hrules : FollowsBlobRules p rules store)
    (htakes : rules.Takes serialized maxFragment pinUvAuth) (hmin : 17 ≤ serialized.length)
    (hcap : serialized.length ≤ LARGE_BLOB_MAX_ARRAY_BYTES) (hpos : 0 < maxFragment)
    {old before : Bytes} {offset : Nat} {w : World σ T}
    (h : UnderWay p store serialized old before offset w) (hoffset : offset < serialized.length) :
    ∃ w', (∃ offset', offset < offset'
          ∧ p.uploadTurn serialized maxFragment pinUvAuth offset w = (.ok (.inl offset'), w')
          ∧ UnderWay p store serialized old before offset' w')
      ∨ ∃ e, p.uploadTurn serialized maxFragment pinUvAuth offset w = (.error e, w')
          ∧ RefusedAtEnd p store serialized old before w' := by
  set chunk := (serialized.drop offset).take maxFragment with hchunk
  have hbound : offset + chunk.length ≤ serialized.length := fragment_le hoffset.le maxFragment
  have hmore : 0 < chunk.length := by
    rw [hchunk, List.length_take, List.length_drop]
    omega
  obtain ⟨chunkAuth, hauth, hsigned⟩ := chunkAuth_valid (p := p) htakes offset chunk w
  have hturn := uploadTurn_eq hoffset hauth hcap
  have hdecides := BlobRules.set_uploadRequest htakes hmin hoffset h.uploaded hchunk hsigned
  set request := uploadRequest serialized chunk offset chunkAuth with hrequest
  have hset : request.set = some chunk := uploadRequest_set _ _ _ _
  have hsome : request.set.isSome = true := by rw [hset]; rfl
  -- the fragment is on the wire, whatever the device makes of it
  have hsent : ∀ (env : σ) answer, World.bytesSent
      { w with env := env, wire := w.wire ++ [.largeBlobs request answer] }
        = before ++ serialized.take (offset + chunk.length) := by
    intro env answer
    have hbytes : request.setBytes = chunk := by
      rw [Ctap2LargeBlobsRequest.setBytes, hset, Option.getD_some]
    have hold : w.setsSent.flatMap Ctap2LargeBlobsRequest.setBytes
        = before ++ serialized.take offset := h.sent
    unfold World.bytesSent
    rw [World.setsSent_command w env hset, List.flatMap_append, List.flatMap_singleton, hbytes,
      hold, List.append_assoc, hchunk, take_fragment]
  rw [hturn, Proc.bind_apply]
  by_cases hlast : offset + chunk.length < serialized.length
  · -- others follow
    obtain ⟨blobs, hreceive, hkeep, harray⟩ := BlobRules.keep_of_lt p.crypto hlast (store w.env)
    obtain ⟨response, s', hanswer, hstore⟩ := hrules.set_taken hsome (hdecides.trans hkeep)
    rw [blobCommand_of_ok hanswer]
    refine ⟨_, .inl ⟨offset + chunk.length, by omega, rfl, hbound, ?_, ?_,
      fun hend => by omega, hsent s' _⟩⟩
    · rw [hstore]
      exact .receive hbound hreceive
    · intro _
      show (store s').array = old
      rw [hstore, harray]
      exact h.kept hoffset
  · have hend : offset + chunk.length = serialized.length := by omega
    rw [hend, BlobRules.keep_length] at hdecides
    cases hintact : BlobRules.intact p.crypto serialized with
    | true =>
        rw [hintact, if_pos rfl] at hdecides
        obtain ⟨response, s', hanswer, hstore⟩ := hrules.set_taken hsome hdecides
        rw [blobCommand_of_ok hanswer]
        refine ⟨_, .inl ⟨offset + chunk.length, by omega, rfl, hbound, ?_,
          fun hlt => by omega, fun _ => hintact, hsent s' _⟩⟩
        rw [hend]
        exact .done (by rw [hstore])
    | false =>
        rw [hintact, if_neg (by simp)] at hdecides
        obtain ⟨e, s', hanswer, hkept⟩ := hrules.set_refused hsome hdecides
        rw [blobCommand_of_error hanswer]
        refine ⟨_, .inr ⟨.webauthn e, rfl, hintact, hkept.trans (h.kept hoffset), ?_⟩⟩
        rw [hsent, hend, List.take_length]

/-- **Run lemma**: the rest of an upload. -/
theorem uploadLoop_rules (hrules : FollowsBlobRules p rules store)
    (htakes : rules.Takes serialized maxFragment pinUvAuth) (hmin : 17 ≤ serialized.length)
    (hcap : serialized.length ≤ LARGE_BLOB_MAX_ARRAY_BYTES) (hpos : 0 < maxFragment)
    {old before : Bytes} (fuel : Nat) :
    ∀ {offset : Nat} {w : World σ T}, UnderWay p store serialized old before offset w →
      serialized.length - offset < fuel →
      ∃ w', (Proc.loop (p.uploadTurn serialized maxFragment pinUvAuth) fuel offset w
            = (.ok (), w') ∧ UnderWay p store serialized old before serialized.length w')
        ∨ ∃ e, Proc.loop (p.uploadTurn serialized maxFragment pinUvAuth) fuel offset w
            = (.error e, w') ∧ RefusedAtEnd p store serialized old before w' := by
  -- by induction on the turns: each one takes the upload on, or is refused at the end
  induction fuel with
  | zero => intro offset w _ hfuel; omega
  | succ fuel ih =>
      intro offset w h hfuel
      by_cases hoffset : offset < serialized.length
      · obtain ⟨w', hturn⟩ := uploadTurn_rules hrules htakes hmin hcap hpos h hoffset
        rw [Proc.loop, Proc.bind_apply]
        rcases hturn with ⟨offset', hlt, hturn, hnext⟩ | ⟨e, hturn, hrefused⟩
        · rw [hturn]
          exact ih hnext (by omega)
        · rw [hturn]
          exact ⟨w', .inr ⟨e, rfl, hrefused⟩⟩
      · have hend : offset = serialized.length := by
          have := h.bound
          omega
        have hturn : p.uploadTurn serialized maxFragment pinUvAuth offset w
            = (.ok (.inr ()), w) := by
          unfold uploadTurn
          rw [if_neg hoffset]
          rfl
        rw [Proc.loop, Proc.bind_apply, hturn]
        exact ⟨w, .inl ⟨rfl, hend ▸ h⟩⟩

/-- **An upload to a device that follows the rules.**  All fragments go out, and
the array is replaced exactly when its trailer is right. -/
theorem uploadSerializedArray_rules (hrules : FollowsBlobRules p rules store)
    (htakes : rules.Takes serialized maxFragment pinUvAuth) (hmin : 17 ≤ serialized.length)
    (hcap : serialized.length ≤ LARGE_BLOB_MAX_ARRAY_BYTES) (hpos : 0 < maxFragment)
    {w w' : World σ T} {outcome : Outcome (LargeBlobError T) Unit}
    (hrun : p.uploadSerializedArray serialized maxFragment pinUvAuth w = (outcome, w')) :
    (∃ sent, w'.setsSent = w.setsSent ++ sent
        ∧ SetChunks p.crypto serialized maxFragment pinUvAuth sent
        ∧ sent.flatMap Ctap2LargeBlobsRequest.setBytes = serialized)
      ∧ (BlobRules.intact p.crypto serialized = true →
          outcome = .ok () ∧ arrayAt store w' = serialized)
      ∧ (BlobRules.intact p.crypto serialized = false →
          (∃ e, outcome = .error e) ∧ arrayAt store w' = arrayAt store w) := by
  have hloop : p.uploadSerializedArray serialized maxFragment pinUvAuth w
      = Proc.loop (p.uploadTurn serialized maxFragment pinUvAuth) blobTurns 0 w := by
    have hsmall : serialized.length ≤ 4 * 1024 * 1024 := hcap
    unfold uploadSerializedArray
    rw [if_neg (by omega), if_neg (by omega), if_neg (by omega)]
  have hstart : UnderWay p store serialized (arrayAt store w) w.bytesSent 0 w :=
    ⟨Nat.zero_le _, .start, fun _ => rfl, fun hzero => by omega,
      by rw [List.take_zero, List.append_nil]⟩
  have hfuel : serialized.length - 0 < blobTurns := by
    unfold blobTurns
    omega
  -- all the bytes went out, so the fragments are the whole array
  have hwhole : w'.bytesSent = w.bytesSent ++ serialized →
      ∃ sent, w'.setsSent = w.setsSent ++ sent
        ∧ SetChunks p.crypto serialized maxFragment pinUvAuth sent
        ∧ sent.flatMap Ctap2LargeBlobsRequest.setBytes = serialized := by
    intro hsent
    obtain ⟨sent, hsets, hchunks, _⟩ :=
      upload_setChunks (p := p) serialized pinUvAuth hpos w
    rw [hrun] at hsets
    refine ⟨sent, hsets, hchunks, ?_⟩
    unfold World.bytesSent at hsent
    rw [hsets, List.flatMap_append] at hsent
    exact List.append_cancel_left hsent
  obtain ⟨w'', hend⟩ := uploadLoop_rules hrules htakes hmin hcap hpos blobTurns hstart hfuel
  rw [← hloop, hrun] at hend
  rcases hend with ⟨hrun', hdone⟩ | ⟨e, hrun', hrefused⟩
  · obtain ⟨rfl, rfl⟩ := Prod.mk.inj hrun'
    have hintact := hdone.intact rfl
    refine ⟨hwhole (by rw [hdone.sent, List.take_length]), fun _ => ⟨rfl, ?_⟩, fun hbad => ?_⟩
    · exact hdone.uploaded.array_of_length (by omega)
    · rw [hintact] at hbad
      cases hbad
  · obtain ⟨rfl, rfl⟩ := Prod.mk.inj hrun'
    refine ⟨hwhole hrefused.sent, fun hintact => ?_, fun _ => ⟨⟨e, rfl⟩, hrefused.kept⟩⟩
    rw [hrefused.intact] at hintact
    cases hintact

/-! ## §4. Fetching. -/

/-- Within its limit a device gives any fragment of its array. -/
theorem servesFragments_rules (hrules : FollowsBlobRules p rules store)
    (hlimit : maxFragment ≤ rules.limit) : ServesFragments p store maxFragment := by
  intro s offset hoffset
  refine hrules.get_taken ?_
  unfold BlobRules.get
  rw [if_neg (by omega)]

/-- **A fetch from a device that follows the rules** returns its array, and
beyond the device's own limit the device's error. -/
theorem fetchSerializedArray_rules (hrules : FollowsBlobRules p rules store)
    (hpos : 0 < maxFragment) {w : World σ T}
    (hcap : (arrayAt store w).length ≤ LARGE_BLOB_MAX_ARRAY_BYTES) :
    (maxFragment ≤ rules.limit →
        (p.fetchSerializedArray maxFragment w).1 = .ok (arrayAt store w))
      ∧ (rules.limit < maxFragment →
        ∃ e, (p.fetchSerializedArray maxFragment w).1 = .error (.webauthn e)) := by
  constructor
  · intro hlimit
    obtain ⟨outcome, w', hrun, _, _, _, htotal⟩ :=
      fetchSerializedArray_stored (servesFragments_rules hrules hlimit) hpos w
    rw [hrun]
    exact htotal hcap
  · intro hlimit
    have hget : rules.get (store w.env) 0 maxFragment = none := by
      unfold BlobRules.get
      rw [if_pos (.inl hlimit)]
    obtain ⟨e, s', hanswer, _⟩ := hrules.get_refused hget
    refine ⟨e, ?_⟩
    unfold fetchSerializedArray
    rw [show blobTurns = LARGE_BLOB_MAX_ARRAY_BYTES + 1 + 1 from rfl, Proc.loop, Proc.bind_apply]
    unfold fetchTurn
    rw [Proc.bind_apply, blobCommand_of_error hanswer]

/-! ## §5. The transfer. -/

/-- **Chunked transfer.**  Any device is sent the fragments of the array, one
that follows the rules stores them, and gives them back to any later fetch that
asks within its limit.  A fetch from any device ends, behind the cap with an
error. -/
theorem largeBlob_transfer (p : Platform σ T) {maxFragment : Nat} (hpos : 0 < maxFragment) :
    (∀ serialized pinUvAuth (w : World σ T),
      ∃ sent, (p.uploadSerializedArray serialized maxFragment pinUvAuth w).2.setsSent
            = w.setsSent ++ sent
        ∧ SetChunks p.crypto serialized maxFragment pinUvAuth sent
        ∧ ((p.uploadSerializedArray serialized maxFragment pinUvAuth w).1 = .ok () →
            sent.flatMap Ctap2LargeBlobsRequest.setBytes = serialized))
    ∧ (∀ rules store, FollowsBlobRules p rules store →
      ∀ serialized pinUvAuth (w : World σ T), 17 ≤ serialized.length →
        serialized.length ≤ LARGE_BLOB_MAX_ARRAY_BYTES →
        rules.Takes serialized maxFragment pinUvAuth →
        ∀ outcome w', p.uploadSerializedArray serialized maxFragment pinUvAuth w = (outcome, w') →
          (∃ sent, w'.setsSent = w.setsSent ++ sent
              ∧ SetChunks p.crypto serialized maxFragment pinUvAuth sent
              ∧ sent.flatMap Ctap2LargeBlobsRequest.setBytes = serialized)
          ∧ (BlobRules.intact p.crypto serialized = true →
              outcome = .ok () ∧ arrayAt store w' = serialized)
          ∧ (BlobRules.intact p.crypto serialized = false →
              (∃ e, outcome = .error e) ∧ arrayAt store w' = arrayAt store w))
    ∧ (∀ rules store, FollowsBlobRules p rules store →
      ∀ serialized (w : World σ T), serialized.length ≤ LARGE_BLOB_MAX_ARRAY_BYTES →
        arrayAt store w = serialized →
        (maxFragment ≤ rules.limit →
            (p.fetchSerializedArray maxFragment w).1 = .ok serialized)
          ∧ (rules.limit < maxFragment →
            ∃ e, (p.fetchSerializedArray maxFragment w).1 = .error (.webauthn e)))
    ∧ ∀ w : World σ T, ∃ fragments,
        (p.fetchSerializedArray maxFragment w).2.fragmentsRead = w.fragmentsRead ++ fragments
        ∧ FetchEnded maxFragment fragments (p.fetchSerializedArray maxFragment w).1
        ∧ ((∀ f ∈ fragments, maxFragment ≤ f.length) →
            LARGE_BLOB_MAX_ARRAY_BYTES < fragments.flatten.length →
            (p.fetchSerializedArray maxFragment w).1
              = .error (.corrupted "serialized array exceeds platform cap")) := by
  -- the upload as it stands, at a device that follows the rules, the fetch there, and as it
  -- stands
  refine ⟨fun serialized pinUvAuth w => upload_setChunks serialized pinUvAuth hpos w, ?_, ?_, ?_⟩
  · intro rules store hrules serialized pinUvAuth w hmin hcap htakes outcome w' hrun
    exact uploadSerializedArray_rules hrules htakes hmin hcap hpos hrun
  · intro rules store hrules serialized w hcap harray
    rw [← harray] at hcap ⊢
    exact fetchSerializedArray_rules hrules hpos hcap
  · intro w
    obtain ⟨fragments, hread, hended⟩ := fetchSerializedArray_ended (p := p) hpos w
    exact ⟨fragments, hread, hended, fun hfull hover => hended.error_of_exceeded hfull hover⟩

end Platform

/-! ## §6. A device that follows the rules. -/

/-- What is stored is answered with success, anything else with an error. -/
def answerSet (s : BlobStore) :
    Option BlobStore → Except MockError Ctap2LargeBlobsResponse × BlobStore
  | some s' => (.ok ⟨none⟩, s')
  | none => (.error (.ctap .other), s)

def answerGet (s : BlobStore) :
    Option Bytes → Except MockError Ctap2LargeBlobsResponse × BlobStore
  | some bytes => (.ok ⟨some bytes⟩, s)
  | none => (.error (.ctap .other), s)

/-- A device that does nothing but follow the rules. -/
def rulesPlatform (rules : BlobRules) : Platform BlobStore Empty :=
  { blobPlatform with
    largeBlobs := fun request s =>
      if request.set.isSome then answerSet s (rules.set transparentCrypto s request)
      else answerGet s (rules.get s request.offset (request.get.getD 0)) }

theorem followsBlobRules_rulesPlatform (rules : BlobRules) :
    FollowsBlobRules (rulesPlatform rules) rules id where
  get_taken {s offset length bytes} h := by
    have h : rules.get s offset length = some bytes := h
    refine ⟨⟨some bytes⟩, s, ?_, rfl, rfl⟩
    show answerGet s (rules.get s offset length) = _
    rw [h, answerGet]
  get_refused {s offset length} h := by
    have h : rules.get s offset length = none := h
    refine ⟨.ctap .other, s, ?_, rfl⟩
    show answerGet s (rules.get s offset length) = _
    rw [h, answerGet]
  set_taken {s request blobs} hset h := by
    have h : rules.set transparentCrypto s request = some blobs := h
    refine ⟨⟨none⟩, blobs, ?_, rfl⟩
    show (if request.set.isSome then answerSet s (rules.set transparentCrypto s request)
      else _) = _
    rw [if_pos hset, h, answerSet]
  set_refused {s request} hset h := by
    have h : rules.set transparentCrypto s request = none := h
    refine ⟨.ctap .other, s, ?_, rfl⟩
    show (if request.set.isSome then answerSet s (rules.set transparentCrypto s request)
      else _) = _
    rw [if_pos hset, h, answerSet]

/-- Fragments of at most 20 bytes, an array of at most 100, under a token. -/
def smallRules : BlobRules := ⟨20, 100, some (List.replicate 16 6, .one)⟩

theorem smallRules_takes :
    smallRules.Takes (List.replicate 34 0) 17 (some (List.replicate 16 6, .one)) where
  fragment := by decide
  capacity := by decide
  token := .inr rfl
  valid token version h := by
    obtain ⟨rfl, rfl⟩ := Prod.mk.inj (Option.some.inj h)
    rfl

/-- 34 bytes in two full fragments, read back in two and an empty one. -/
theorem largeBlob_transfer_full :
    ∃ w', (rulesPlatform smallRules).uploadSerializedArray (List.replicate 34 0) 17
        (some (List.replicate 16 6, .one)) (.start ⟨[], none⟩ none) = (.ok (), w')
      ∧ ((rulesPlatform smallRules).fetchSerializedArray 17 w').1
          = .ok (List.replicate 34 0) := by
  have htransfer := Platform.largeBlob_transfer (rulesPlatform smallRules)
    (show 0 < 17 by decide)
  have hrules := followsBlobRules_rulesPlatform smallRules
  rcases hrun : (rulesPlatform smallRules).uploadSerializedArray (List.replicate 34 0) 17
    (some (List.replicate 16 6, .one)) (.start ⟨[], none⟩ none) with ⟨outcome, w'⟩
  obtain ⟨_, hstored, _⟩ := htransfer.2.1 smallRules id hrules (List.replicate 34 0)
    (some (List.replicate 16 6, .one)) _ (by decide) (by decide) smallRules_takes outcome w' hrun
  obtain ⟨houtcome, harray⟩ := hstored (by decide)
  refine ⟨w', by rw [houtcome], ?_⟩
  exact (htransfer.2.2.1 smallRules id hrules (List.replicate 34 0) w' (by decide) harray).1
    (by decide)

/-- The same 34 bytes are not read back in fragments of 21: they are longer than
the device gives, so it refuses the first one. -/
theorem largeBlob_transfer_above :
    FollowsBlobRules (rulesPlatform smallRules) smallRules id
      ∧ ∃ w', (rulesPlatform smallRules).uploadSerializedArray (List.replicate 34 0) 17
          (some (List.replicate 16 6, .one)) (.start ⟨[], none⟩ none) = (.ok (), w')
        ∧ Platform.arrayAt id w' = List.replicate 34 0
        ∧ (∃ e, ((rulesPlatform smallRules).fetchSerializedArray 21 w').1
            = .error (.webauthn e))
        ∧ ((rulesPlatform smallRules).fetchSerializedArray 21 w').1
            ≠ .ok (List.replicate 34 0) := by
  have hrules := followsBlobRules_rulesPlatform smallRules
  rcases hrun : (rulesPlatform smallRules).uploadSerializedArray (List.replicate 34 0) 17
    (some (List.replicate 16 6, .one)) (.start ⟨[], none⟩ none) with ⟨outcome, w'⟩
  obtain ⟨-, hstored, -⟩ := Platform.uploadSerializedArray_rules hrules smallRules_takes
    (by decide) (by decide) (by decide) hrun
  obtain ⟨rfl, harray⟩ := hstored (by decide)
  obtain ⟨-, hrefused⟩ := Platform.fetchSerializedArray_rules hrules (by decide : 0 < 21)
    (show (Platform.arrayAt id w').length ≤ LARGE_BLOB_MAX_ARRAY_BYTES by rw [harray]; decide)
  obtain ⟨e, herror⟩ := hrefused (by decide)
  refine ⟨hrules, w', rfl, harray, ⟨e, herror⟩, ?_⟩
  rw [herror]
  exact fun heq => by cases heq

end Libwebauthn
