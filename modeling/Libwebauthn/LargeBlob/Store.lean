/-
  Libwebauthn.LargeBlob.Store — a device that stores the largeBlobArray.

  `BlobStore` is the array of a device, with the upload that is under way.
  A platform `StoresBlobs` when it answers as such a store does.  Then
  fetching returns the array (`fetchSerializedArray_stored`), and an upload
  that returns has replaced it (`uploadSerializedArray_stored`).
-/
import Libwebauthn.LargeBlob.Transfer

namespace Libwebauthn

open Proc

variable {σ T : Type}

/-! ## §1. The store. -/

/-- The array, and the announced length of an upload with what has come. -/
structure BlobStore where
  array : Bytes
  pending : Option (Nat × Bytes) := none
  deriving Repr, DecidableEq

namespace BlobStore

/-- All that has come so far; the last fragment replaces the array. -/
def receive (self : BlobStore) (total : Nat) (received : Bytes) : Option BlobStore :=
  if received.length < total then some { self with pending := some (total, received) }
  else if received.length = total then some ⟨received, none⟩
  else none

/-- A fragment: the first one announces the length, the others continue. -/
def accept (self : BlobStore) (chunk : Bytes) (offset : Nat) (length : Option Nat) :
    Option BlobStore :=
  match length, self.pending with
  | some total, _ => if offset = 0 then self.receive total chunk else none
  | none, some (total, received) =>
      if offset = received.length then self.receive total (received ++ chunk) else none
  | none, none => none

theorem accept_continuation {self : BlobStore} {total : Nat} {received : Bytes}
    (h : self.pending = some (total, received)) (chunk : Bytes) :
    self.accept chunk received.length none = self.receive total (received ++ chunk) := by
  unfold accept
  rw [h]
  exact if_pos rfl

end BlobStore

/-- A platform whose device keeps `store`: it returns what it holds, in
fragments of up to `limit` bytes, and a fragment it takes is added. -/
structure StoresBlobs (p : Platform σ T) (store : σ → BlobStore) (limit : Nat) : Prop where
  get : ∀ s offset length, length ≤ limit → offset ≤ (store s).array.length →
    ∃ response s', p.largeBlobs (.newGet offset length) s = (.ok response, s')
      ∧ response.config.getD [] = ((store s).array.drop offset).take length
      ∧ (store s').array = (store s).array
  set : ∀ {s s' request chunk response}, request.set = some chunk →
    p.largeBlobs request s = (.ok response, s') →
      (store s).accept chunk request.offset request.length = some (store s')
  random : ∀ n s, store (p.random n s).2 = store s

/-- The device answers a get of `maxFragment` bytes within its array with what
there is of them. -/
def ServesFragments (p : Platform σ T) (store : σ → BlobStore) (maxFragment : Nat) : Prop :=
  ∀ s offset, offset ≤ (store s).array.length →
    ∃ response s', p.largeBlobs (.newGet offset maxFragment) s = (.ok response, s')
      ∧ response.config.getD [] = ((store s).array.drop offset).take maxFragment
      ∧ (store s').array = (store s).array

theorem StoresBlobs.serves {p : Platform σ T} {store : σ → BlobStore} {limit : Nat}
    (h : StoresBlobs p store limit) {maxFragment : Nat} (hlimit : maxFragment ≤ limit) :
    ServesFragments p store maxFragment :=
  fun s offset hoffset => h.get s offset maxFragment hlimit hoffset

/-- The set commands on the wire. -/
def World.setsSent (w : World σ T) : List Ctap2LargeBlobsRequest :=
  w.wire.filterMap fun
    | .largeBlobs request _ => if request.set.isSome then some request else none
    | _ => none

namespace Platform

variable {p : Platform σ T} {store : σ → BlobStore} {limit : Nat}

/-- The array of the device. -/
abbrev arrayAt (store : σ → BlobStore) (w : World σ T) : Bytes := (store w.env).array

/-- A command that the device takes. -/
theorem blobCommand_of_ok {request : Ctap2LargeBlobsRequest} {response : Ctap2LargeBlobsResponse}
    {w : World σ T} {s' : σ} (h : p.largeBlobs request w.env = (.ok response, s')) :
    blobCommand (p.ctap2LargeBlobs request) w
      = (.ok response, { w with
          env := s', wire := w.wire ++ [.largeBlobs request (.ok response)] }) := by
  unfold blobCommand Proc.mapError ctap2LargeBlobs Ctap.command
  rw [h]

/-- And one that it refuses. -/
theorem blobCommand_of_error {request : Ctap2LargeBlobsRequest} {e : WebAuthnError T}
    {w : World σ T} {s' : σ} (h : p.largeBlobs request w.env = (.error e, s')) :
    blobCommand (p.ctap2LargeBlobs request) w
      = (.error (.webauthn e), { w with
          env := s', wire := w.wire ++ [.largeBlobs request (.error e)] }) := by
  unfold blobCommand Proc.mapError ctap2LargeBlobs Ctap.command
  rw [h]

/-! ## §2. Fetching. -/

/-- What one turn returns when the array is `stored`. -/
def fetchOutcome (stored : Bytes) (maxFragment offset : Nat) :
    Outcome (LargeBlobError T) (FetchState ⊕ Bytes) :=
  if stored.length < offset + maxFragment then .ok (.inr stored)
  else if offset + maxFragment > LARGE_BLOB_MAX_ARRAY_BYTES then
    .error (.corrupted "serialized array exceeds platform cap")
  else .ok (.inl ⟨stored.take (offset + maxFragment), offset + maxFragment⟩)

theorem fetchTurn_stored {maxFragment : Nat} (hserves : ServesFragments p store maxFragment)
    {offset : Nat} {w : World σ T} (hoffset : offset ≤ (arrayAt store w).length) :
    ∃ w', p.fetchTurn maxFragment ⟨(arrayAt store w).take offset, offset⟩ w
        = (fetchOutcome (arrayAt store w) maxFragment offset, w')
      ∧ arrayAt store w' = arrayAt store w ∧ w'.setsSent = w.setsSent := by
  obtain ⟨response, s', hanswer, hconfig, hkept⟩ := hserves w.env offset hoffset
  let w' : World σ T := { w with
    env := s'
    wire := w.wire ++ [.largeBlobs (.newGet offset maxFragment) (.ok response)] }
  have hcommand : blobCommand (p.ctap2LargeBlobs (.newGet offset maxFragment)) w
      = (.ok response, w') :=
    blobCommand_of_ok hanswer
  have hsets : w'.setsSent = w.setsSent := by
    unfold World.setsSent
    rw [List.filterMap_append]
    exact List.append_nil _
  refine ⟨w', ?_, hkept, hsets⟩
  generalize hstored : arrayAt store w = stored at *
  unfold fetchTurn fetchOutcome
  rw [Proc.bind_of_ok hcommand]
  dsimp only
  rw [hconfig, show (store w.env).array = stored from hstored]
  have hchunk : ((stored.drop offset).take maxFragment).length
      = min maxFragment (stored.length - offset) := by
    rw [List.length_take, List.length_drop]
  by_cases hlast : stored.length < offset + maxFragment
  · -- the last fragment is shorter than what was asked for
    have hrest : (stored.drop offset).take maxFragment = stored.drop offset :=
      List.take_of_length_le (by rw [List.length_drop]; omega)
    rw [if_pos (by omega), if_pos hlast, hrest, List.take_append_drop]
    rfl
  -- a full fragment: the next turn starts behind it, unless that is over the cap
  · have hlength : (stored.take offset ++ (stored.drop offset).take maxFragment).length
        = offset + maxFragment := by
      rw [List.length_append, List.length_take, hchunk]
      omega
    rw [if_neg (by omega), if_neg hlast, hlength]
    by_cases hcap : offset + maxFragment > LARGE_BLOB_MAX_ARRAY_BYTES
    · rw [if_pos hcap, if_pos hcap]
      rfl
    · have hbound : offset + maxFragment ≤ 4 * 1024 * 1024 := not_lt.mp hcap
      rw [if_neg hcap, if_neg hcap, hchunk, Nat.min_eq_left (by omega),
        Nat.mod_eq_of_lt (by omega), if_pos (by omega), ← List.take_add]
      rfl

/-- The loop from a prefix of the array: what it returns is the array, and
it does return when the array is within the cap. -/
theorem fetchLoop_stored {maxFragment : Nat} (hserves : ServesFragments p store maxFragment)
    (hpos : 0 < maxFragment) {stored : Bytes} (fuel : Nat) :
    ∀ {offset : Nat} {w : World σ T}, arrayAt store w = stored → offset ≤ stored.length →
      ∃ outcome w', Proc.loop (p.fetchTurn maxFragment) fuel ⟨stored.take offset, offset⟩ w
          = (outcome, w')
        ∧ arrayAt store w' = stored ∧ w'.setsSent = w.setsSent
        ∧ (∀ out, outcome = .ok out → out = stored)
        ∧ (stored.length ≤ LARGE_BLOB_MAX_ARRAY_BYTES → stored.length - offset < fuel →
          outcome = .ok stored) := by
  -- by induction on the turns, each at a later offset of the same array
  induction fuel with
  | zero =>
      intro offset w hstored _
      refine ⟨.running, w, rfl, hstored, rfl, fun out hout => ?_, fun _ hfuel => ?_⟩
      · cases hout
      · omega
  | succ fuel ih =>
      intro offset w hstored hoffset
      obtain ⟨w', hturn, hkept, hsets⟩ :=
        fetchTurn_stored hserves (hstored ▸ hoffset)
      rw [hstored] at hturn hkept
      unfold fetchOutcome at hturn
      rw [Proc.loop, Proc.bind_apply, hturn]
      by_cases hlast : stored.length < offset + maxFragment
      · rw [if_pos hlast]
        exact ⟨_, w', rfl, hkept, hsets, fun out hout => (Outcome.ok.inj hout).symm,
          fun _ _ => rfl⟩
      · rw [if_neg hlast]
        by_cases hcap : offset + maxFragment > LARGE_BLOB_MAX_ARRAY_BYTES
        · rw [if_pos hcap]
          refine ⟨_, w', rfl, hkept, hsets, fun out hout => ?_, fun hlength _ => ?_⟩
          · cases hout
          · omega
        · rw [if_neg hcap]
          obtain ⟨outcome, w'', hrun, hkept', hsets', hout, htotal⟩ :=
            ih hkept (not_lt.mp hlast)
          exact ⟨outcome, w'', hrun, hkept', hsets'.trans hsets, hout,
            fun hlength hfuel => htotal hlength (by omega)⟩

theorem fetchSerializedArray_stored {maxFragment : Nat}
    (hserves : ServesFragments p store maxFragment) (hpos : 0 < maxFragment) (w : World σ T) :
    ∃ outcome w', p.fetchSerializedArray maxFragment w = (outcome, w')
      ∧ arrayAt store w' = arrayAt store w ∧ w'.setsSent = w.setsSent
      ∧ (∀ out, outcome = .ok out → out = arrayAt store w)
      ∧ ((arrayAt store w).length ≤ LARGE_BLOB_MAX_ARRAY_BYTES →
        outcome = .ok (arrayAt store w)) := by
  obtain ⟨outcome, w', hrun, hkept, hsets, hout, htotal⟩ :=
    fetchLoop_stored hserves hpos blobTurns (w := w) rfl (Nat.zero_le _)
  exact ⟨outcome, w', hrun, hkept, hsets, hout, fun hlength => htotal hlength (by
    unfold blobTurns
    omega)⟩

/-! ## §3. Uploading. -/

/-- How far an upload has come before `offset`: nothing has been sent, or
all up to `offset` has, or the array is replaced. -/
inductive Uploaded (serialized : Bytes) : (offset : Nat) → BlobStore → Prop where
  | start {blobs : BlobStore} : Uploaded serialized 0 blobs
  | pending {offset : Nat} {blobs : BlobStore} (hoffset : offset < serialized.length)
      (hpending : blobs.pending = some (serialized.length, serialized.take offset)) :
      Uploaded serialized offset blobs
  | done {blobs : BlobStore} (harray : blobs.array = serialized) :
      Uploaded serialized serialized.length blobs

/-- An upload that has come to the end has replaced the array. -/
theorem Uploaded.array_of_length {serialized : Bytes} {blobs : BlobStore}
    (h : Uploaded serialized serialized.length blobs) (hpos : 0 < serialized.length) :
    blobs.array = serialized := by
  generalize hoffset : serialized.length = offset at h
  cases h with
  | start => omega
  | pending hlt => omega
  | done harray => exact harray

/-- The request of a fragment, as `upload_serialized_array` builds it. -/
def uploadRequest (serialized chunk : Bytes) (offset : Nat) (chunkAuth : Option (Bytes × Nat)) :
    Ctap2LargeBlobsRequest :=
  if offset = 0 then .newSetFirst chunk serialized.length chunkAuth
  else .newSetContinuation chunk offset chunkAuth

/-- What has come, with one fragment more, is all up to the new offset. -/
theorem take_fragment (serialized : Bytes) (offset maxFragment : Nat) :
    serialized.take offset ++ (serialized.drop offset).take maxFragment
      = serialized.take (offset + ((serialized.drop offset).take maxFragment).length) := by
  rw [← List.take_add, List.take_eq_take_iff, List.length_take, List.length_drop]
  omega

/-- A fragment ends within the array. -/
theorem fragment_le {serialized : Bytes} {offset : Nat} (h : offset ≤ serialized.length)
    (maxFragment : Nat) :
    offset + ((serialized.drop offset).take maxFragment).length ≤ serialized.length := by
  rw [List.length_take, List.length_drop]
  omega

/-- The store has received all up to `offset`. -/
theorem Uploaded.receive {serialized : Bytes} {offset : Nat} {blobs blobs' : BlobStore}
    (hbound : offset ≤ serialized.length)
    (h : blobs.receive serialized.length (serialized.take offset) = some blobs') :
    Uploaded serialized offset blobs' := by
  unfold BlobStore.receive at h
  rw [List.length_take, Nat.min_eq_left hbound] at h
  split at h
  next hlt =>
    rw [← Option.some.inj h]
    exact .pending hlt rfl
  next hge =>
    have hend : offset = serialized.length := by omega
    rw [if_pos hend] at h
    rw [← Option.some.inj h, hend, List.take_length]
    exact .done rfl

/-- A fragment that the store accepts moves the upload on. -/
theorem Uploaded.accept {serialized : Bytes} {offset maxFragment : Nat}
    {blobs blobs' : BlobStore} (h : Uploaded serialized offset blobs)
    (hoffset : offset < serialized.length) {chunkAuth : Option (Bytes × Nat)}
    (haccept : blobs.accept ((serialized.drop offset).take maxFragment)
      (uploadRequest serialized ((serialized.drop offset).take maxFragment) offset chunkAuth).offset
      (uploadRequest serialized ((serialized.drop offset).take maxFragment) offset chunkAuth).length
        = some blobs') :
    Uploaded serialized (offset + ((serialized.drop offset).take maxFragment).length) blobs' := by
  have hreceived := take_fragment serialized offset maxFragment
  have hbound := fragment_le hoffset.le maxFragment
  generalize offset + ((serialized.drop offset).take maxFragment).length = offset' at *
  -- either way the store has received all up to the new offset
  have hreceive : blobs.receive serialized.length (serialized.take offset') = some blobs' := by
    rw [← hreceived]
    unfold uploadRequest at haccept
    by_cases hzero : offset = 0
    · rw [if_pos hzero] at haccept
      rw [hzero] at haccept ⊢
      exact haccept
    · rw [if_neg hzero] at haccept
      cases h with
      | start => exact absurd rfl hzero
      | done => exact absurd hoffset (lt_irrefl _)
      | pending hlt hpending =>
          have hlength : (serialized.take offset).length = offset := by
            rw [List.length_take, Nat.min_eq_left hlt.le]
          have hcontinue := BlobStore.accept_continuation hpending
            ((serialized.drop offset).take maxFragment)
          rw [hlength] at hcontinue
          rw [← hcontinue]
          exact haccept
  exact .receive hbound hreceive

theorem keeps_chunkAuth {γ : Type} (f : World σ T → γ)
    (pinUvAuth : Option (Bytes × Ctap2PinUvAuthProtocol)) (offset : Nat) (chunk : Bytes) :
    Proc.Keeps f (p.chunkAuth pinUvAuth offset chunk) := by
  unfold chunkAuth
  split
  · exact Proc.Keeps.pure _
  · exact Proc.Keeps.bind (Proc.Keeps.mapError (Proc.Keeps.ofExcept _)) fun _ => Proc.Keeps.pure _

/-- A set command that the device took has changed its store. -/
theorem triple_setCommand (hstore : StoresBlobs p store limit) {request : Ctap2LargeBlobsRequest}
    {chunk : Bytes} (hset : request.set = some chunk) {P Q : BlobStore → Prop}
    (h : ∀ blobs blobs', P blobs →
      blobs.accept chunk request.offset request.length = some blobs' → Q blobs') :
    Proc.Triple (fun w => P (store w.env)) (blobCommand (p.ctap2LargeBlobs request))
      (fun _ w => Q (store w.env)) fun _ => True := by
  refine Proc.Triple.mapError fun w hw => ?_
  unfold ctap2LargeBlobs Ctap.command
  rcases hanswer : p.largeBlobs request w.env with ⟨answer, env⟩
  cases answer with
  | error e => trivial
  | ok response => exact h _ _ hw (hstore.set hset hanswer)

theorem triple_uploadTurn (hstore : StoresBlobs p store limit) (serialized : Bytes)
    (maxFragment : Nat)
    (pinUvAuth : Option (Bytes × Ctap2PinUvAuthProtocol)) (offset : Nat) :
    Proc.Triple (fun w => Uploaded serialized offset (store w.env))
      (p.uploadTurn serialized maxFragment pinUvAuth offset)
      (fun next w => match next with
        | .inl offset => Uploaded serialized offset (store w.env)
        | .inr _ => serialized ≠ [] → arrayAt store w = serialized) fun _ => True := by
  unfold uploadTurn
  split
  -- one more fragment is accepted
  next hoffset =>
    refine Proc.Triple.bind (fun _ w => Uploaded serialized offset (store w.env))
      ((keeps_chunkAuth World.env pinUvAuth offset _).triple (fun env =>
        Uploaded serialized offset (store env))
        |>.conseq (fun _ => id) (fun _ _ => id) fun _ _ => trivial) fun chunkAuth => ?_
    refine Proc.Triple.bind (fun _ w => Uploaded serialized
      (offset + ((serialized.drop offset).take maxFragment).length) (store w.env)) ?_ fun _ => ?_
    · have hset : (uploadRequest serialized ((serialized.drop offset).take maxFragment) offset
          chunkAuth).set = some ((serialized.drop offset).take maxFragment) := by
        unfold uploadRequest
        split <;> rfl
      exact triple_setCommand hstore hset fun blobs blobs' hbefore haccept =>
        hbefore.accept hoffset haccept
    · split
      · exact Proc.Triple.pure fun _ => id
      · exact Proc.Triple.throw fun _ _ => trivial
  -- at the end of the array it is complete, unless it is empty
  next hend =>
    refine Proc.Triple.pure fun w hw hne => ?_
    cases hw with
    | start => exact absurd (List.length_pos_iff.mpr hne) hend
    | pending hlt => exact absurd hlt hend
    | done harray => exact harray

/-- An upload that returns was within the cap, and has replaced the array. -/
theorem uploadSerializedArray_stored (hstore : StoresBlobs p store limit) {serialized : Bytes}
    {maxFragment : Nat} {pinUvAuth : Option (Bytes × Ctap2PinUvAuthProtocol)} {w w' : World σ T}
    (h : p.uploadSerializedArray serialized maxFragment pinUvAuth w = (.ok (), w')) :
    serialized.length ≤ LARGE_BLOB_MAX_ARRAY_BYTES ∧ arrayAt store w' = serialized := by
  unfold uploadSerializedArray at h
  split at h
  · cases h
  split at h
  · cases h
  next hmin =>
    split at h
    · cases h
    next hcap =>
      have hloop : Proc.Triple (fun w => Uploaded serialized 0 (store w.env))
          (Proc.loop (p.uploadTurn serialized maxFragment pinUvAuth) blobTurns 0)
          (fun _ w => serialized ≠ [] → arrayAt store w = serialized) fun _ => True := by
        refine Proc.Triple.loop
          (fun offset (w : World σ T) => Uploaded serialized offset (store w.env))
          (fun offset => ?_) (fun _ _ _ => trivial) blobTurns 0
        refine (triple_uploadTurn hstore serialized maxFragment pinUvAuth offset).post ?_
        intro next w hw
        cases next <;> exact hw
      refine ⟨not_lt.mp hcap, hloop.ok Uploaded.start h ?_⟩
      rintro rfl
      exact hmin (by decide)

end Platform

end Libwebauthn
