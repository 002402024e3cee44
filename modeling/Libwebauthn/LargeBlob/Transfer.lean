/-
  Libwebauthn.LargeBlob.Transfer — reading and writing the largeBlobArray
  over authenticatorLargeBlobs (`src/ops/webauthn/large_blob.rs`).

  The array is read and written in fragments.  A writer reads the whole
  array, rebuilds it without the entries of its own key, and uploads the
  result (`writeAuthenticatorLargeBlob`, `deleteAuthenticatorLargeBlob`).
-/
import Libwebauthn.Transport.Channel

namespace Libwebauthn

abbrev LARGE_BLOB_DEFAULT_FRAGMENT : Nat := 960

/-- `maxMsgSize - 64`, or the default of the specification. -/
def maxFragmentLength : Option Nat → Nat
  | some m => max (m - 64) 1
  | none => LARGE_BLOB_DEFAULT_FRAGMENT

namespace Ctap2LargeBlobsRequest

def newGet (offset length : Nat) : Ctap2LargeBlobsRequest :=
  { get := some length, offset := offset }

def newSetFirst (chunk : Bytes) (totalLength : Nat) (pinUvAuth : Option (Bytes × Nat)) :
    Ctap2LargeBlobsRequest :=
  { set := some chunk
    offset := 0
    length := some totalLength
    pinUvAuthParam := pinUvAuth.map Prod.fst
    pinUvAuthProtocol := pinUvAuth.map Prod.snd }

def newSetContinuation (chunk : Bytes) (offset : Nat) (pinUvAuth : Option (Bytes × Nat)) :
    Ctap2LargeBlobsRequest :=
  { set := some chunk
    offset := offset
    pinUvAuthParam := pinUvAuth.map Prod.fst
    pinUvAuthProtocol := pinUvAuth.map Prod.snd }

end Ctap2LargeBlobsRequest

/-- A procedure on the large blob array of a channel. -/
abbrev BlobProc (σ T α : Type) := Proc (World σ T) (LargeBlobError T) α

/-- The arguments of `authenticate` for a fragment. -/
def largeBlobPinUvAuthParam (crypto : Crypto) (token : Bytes) (version : Ctap2PinUvAuthProtocol)
    (offset : Nat) (chunk : Bytes) : Except PlatformError Bytes :=
  version.authenticate crypto token
    (List.replicate 32 0xff ++ [0x0c, 0x00] ++ leEncode 4 offset ++ crypto.sha256 chunk)

/-- Turns enough for either loop below: a fragment has at least one byte,
and neither loop goes on behind the cap. -/
def blobTurns : Nat := LARGE_BLOB_MAX_ARRAY_BYTES + 2

/-- What `fetch_serialized_array` has read so far. -/
structure FetchState where
  out : Bytes := []
  offset : Nat := 0
  deriving Repr, DecidableEq

namespace Platform

variable {σ T : Type} (p : Platform σ T)

/-- The `map_err(LargeBlobError::Webauthn)` of every command. -/
def blobCommand {α : Type} (m : Ctap σ T α) : BlobProc σ T α := Proc.mapError .webauthn m

/-! ## §1. Reading. -/

def fetchTurn (maxFragment : Nat) (state : FetchState) : BlobProc σ T (FetchState ⊕ Bytes) := do
  let resp ← blobCommand (p.ctap2LargeBlobs (.newGet state.offset maxFragment))
  let chunk := resp.config.getD []
  let out := state.out ++ chunk
  if chunk.length < maxFragment then pure (.inr out)
  else if out.length > LARGE_BLOB_MAX_ARRAY_BYTES then
    Proc.throw (.corrupted "serialized array exceeds platform cap")
  else
    let offset := state.offset + chunk.length % 2 ^ 32
    if offset < 2 ^ 32 then pure (.inl ⟨out, offset⟩)
    else Proc.throw (.corrupted "offset overflow")

def fetchSerializedArray (maxFragment : Nat) : BlobProc σ T Bytes :=
  Proc.loop (p.fetchTurn maxFragment) blobTurns {}

def fetchLargeBlobEntries (maxFragment : Nat) : BlobProc σ T (List LargeBlobMapEntry) := do
  let serialized ← p.fetchSerializedArray maxFragment
  let arrayBytes ← Proc.ofExcept (stripArrayTrailer p.crypto serialized)
  Proc.ofExcept (parseLargeBlobArray p.codecs arrayBytes)

def readAuthenticatorLargeBlob (largeBlobKey : Bytes) (maxFragment : Nat) :
    BlobProc σ T (Option Bytes) := do
  let entries ← p.fetchLargeBlobEntries maxFragment
  Proc.ofExcept (decryptFirstMatching p.crypto p.codecs largeBlobKey entries)

/-- A mismatched trailer stands for the initial empty array; an array with a
matching one that does not parse is an error. -/
def fetchOrInitial (maxFragment : Nat) : BlobProc σ T (List RawArrayEntry) := do
  let serialized ← p.fetchSerializedArray maxFragment
  match (stripArrayTrailer p.crypto serialized : Except (LargeBlobError T) Bytes) with
  | .ok arrayBytes => Proc.ofExcept (parseArrayRawEntries p.codecs arrayBytes)
  | .error _ => pure []

/-! ## §2. Writing. -/

/-- The pinUvAuthParam of a fragment, and its protocol. -/
def chunkAuth (pinUvAuth : Option (Bytes × Ctap2PinUvAuthProtocol)) (offset : Nat)
    (chunk : Bytes) : BlobProc σ T (Option (Bytes × Nat)) :=
  match pinUvAuth with
  | none => pure none
  | some (token, version) => do
      let param ← blobCommand
        (Ctap.liftPlatform (largeBlobPinUvAuthParam p.crypto token version offset chunk))
      pure (some (param, version.toNat))

/-- One turn of `while (offset as usize) < serialized.len()`. -/
def uploadTurn (serialized : Bytes) (maxFragment : Nat)
    (pinUvAuth : Option (Bytes × Ctap2PinUvAuthProtocol)) (offset : Nat) :
    BlobProc σ T (Nat ⊕ Unit) :=
  if offset < serialized.length then do
    -- the slice up to `min(offset + max_fragment, len)`, which is in range
    let chunk := (serialized.drop offset).take maxFragment
    let chunkAuth ← p.chunkAuth pinUvAuth offset chunk
    let _ ← blobCommand (p.ctap2LargeBlobs
      (if offset = 0 then .newSetFirst chunk serialized.length chunkAuth
        else .newSetContinuation chunk offset chunkAuth))
    if offset + chunk.length < 2 ^ 32 then pure (.inl (offset + chunk.length))
    else Proc.throw (.corrupted "offset overflow")
  else pure (.inr ())

def uploadSerializedArray (serialized : Bytes) (maxFragment : Nat)
    (pinUvAuth : Option (Bytes × Ctap2PinUvAuthProtocol)) : BlobProc σ T Unit :=
  if ¬serialized.length < 2 ^ 32 then
    Proc.throw (.corrupted "serialized array exceeds u32::MAX")
  else if serialized.length < 17 then
    Proc.throw (.corrupted ("serialized array length " ++ toString serialized.length
      ++ " below 17-byte minimum"))
  else if serialized.length > LARGE_BLOB_MAX_ARRAY_BYTES then
    Proc.throw (.corrupted ("serialized array " ++ toString serialized.length
      ++ " exceeds platform cap " ++ toString LARGE_BLOB_MAX_ARRAY_BYTES))
  else Proc.loop (p.uploadTurn serialized maxFragment pinUvAuth) blobTurns 0

def writeAuthenticatorLargeBlob (largeBlobKey blob : Bytes) (maxFragment : Nat)
    (pinUvAuth : Option (Bytes × Ctap2PinUvAuthProtocol)) : BlobProc σ T Unit :=
  if blob.length > LARGE_BLOB_MAX_ORIG_SIZE then
    Proc.throw (.corrupted ("blob length " ++ toString blob.length
      ++ " exceeds platform cap " ++ toString LARGE_BLOB_MAX_ORIG_SIZE))
  else do
    let existing ← p.fetchOrInitial maxFragment
    let nonce ← blobCommand (p.randomBytes LARGE_BLOB_NONCE_LEN)
    let entryBytes ← Proc.ofExcept (encryptEntry p.crypto p.codecs largeBlobKey nonce blob)
    p.uploadSerializedArray
      (rebuildSerializedArray p.crypto existing largeBlobKey (some entryBytes)) maxFragment
      pinUvAuth

def deleteAuthenticatorLargeBlob (largeBlobKey : Bytes) (maxFragment : Nat)
    (pinUvAuth : Option (Bytes × Ctap2PinUvAuthProtocol)) : BlobProc σ T Unit := do
  let existing ← p.fetchOrInitial maxFragment
  if existing.any fun e => e.ownedBy p.crypto largeBlobKey then
    p.uploadSerializedArray (rebuildSerializedArray p.crypto existing largeBlobKey none)
      maxFragment pinUvAuth
  else Proc.throw .noMatch

/-! ## §3. What the transfers leave alone. -/

/-- A fetch sends large blob commands and nothing else. -/
theorem dialogue_fetchSerializedArray (maxFragment : Nat) :
    Ctap.Dialogue Exchange.Auxiliary (p.fetchSerializedArray maxFragment) := by
  refine Ctap.Dialogue.loop (fun state => ?_) _ _
  refine Ctap.Dialogue.bind (Ctap.Dialogue.mapError (p.dialogue_ctap2LargeBlobs _)) fun resp => ?_
  dsimp only
  split
  · exact Ctap.Dialogue.pure _
  · split
    · exact Ctap.Dialogue.throw _
    · split
      · exact Ctap.Dialogue.pure _
      · exact Ctap.Dialogue.throw _

theorem dialogue_fetchOrInitial (maxFragment : Nat) :
    Ctap.Dialogue Exchange.Auxiliary (p.fetchOrInitial maxFragment) := by
  refine Ctap.Dialogue.bind (p.dialogue_fetchSerializedArray _) fun serialized => ?_
  split
  · exact Ctap.Dialogue.ofExcept _
  · exact Ctap.Dialogue.pure _

theorem dialogue_fetchLargeBlobEntries (maxFragment : Nat) :
    Ctap.Dialogue Exchange.Auxiliary (p.fetchLargeBlobEntries maxFragment) := by
  refine Ctap.Dialogue.bind (p.dialogue_fetchSerializedArray _) fun serialized => ?_
  exact Ctap.Dialogue.bind (Ctap.Dialogue.ofExcept _) fun _ => Ctap.Dialogue.ofExcept _

/-- So does an upload. -/
theorem dialogue_uploadSerializedArray (serialized : Bytes) (maxFragment : Nat)
    (pinUvAuth : Option (Bytes × Ctap2PinUvAuthProtocol)) :
    Ctap.Dialogue Exchange.Auxiliary
      (p.uploadSerializedArray serialized maxFragment pinUvAuth) := by
  have hauth : ∀ offset chunk,
      Ctap.Dialogue Exchange.Auxiliary (p.chunkAuth pinUvAuth offset chunk) := by
    intro offset chunk
    cases pinUvAuth with
    | none => exact Ctap.Dialogue.pure _
    | some auth =>
        exact Ctap.Dialogue.bind (Ctap.Dialogue.mapError (Ctap.Dialogue.liftPlatform _))
          fun _ => Ctap.Dialogue.pure _
  unfold uploadSerializedArray
  split
  · exact Ctap.Dialogue.throw _
  · split
    · exact Ctap.Dialogue.throw _
    · split
      · exact Ctap.Dialogue.throw _
      · refine Ctap.Dialogue.loop (fun offset => ?_) _ _
        unfold uploadTurn
        split
        · refine Ctap.Dialogue.bind (hauth _ _) fun _ => ?_
          refine Ctap.Dialogue.bind (Ctap.Dialogue.mapError (p.dialogue_ctap2LargeBlobs _))
            fun _ => ?_
          split
          · exact Ctap.Dialogue.pure _
          · exact Ctap.Dialogue.throw _
        · exact Ctap.Dialogue.pure _

/-- A write is a fetch and an upload. -/
theorem dialogue_writeAuthenticatorLargeBlob (largeBlobKey blob : Bytes)
    (maxFragment : Nat) (pinUvAuth : Option (Bytes × Ctap2PinUvAuthProtocol)) :
    Ctap.Dialogue Exchange.Auxiliary
      (p.writeAuthenticatorLargeBlob largeBlobKey blob maxFragment pinUvAuth) := by
  unfold writeAuthenticatorLargeBlob
  split
  · exact Ctap.Dialogue.throw _
  · refine Ctap.Dialogue.bind (p.dialogue_fetchOrInitial _)
      fun existing => ?_
    refine Ctap.Dialogue.bind (Ctap.Dialogue.mapError (Ctap.Dialogue.ask _)) fun nonce => ?_
    refine Ctap.Dialogue.bind (Ctap.Dialogue.ofExcept _) fun entryBytes => ?_
    exact p.dialogue_uploadSerializedArray _ _ _

theorem dialogue_deleteAuthenticatorLargeBlob (largeBlobKey : Bytes) (maxFragment : Nat)
    (pinUvAuth : Option (Bytes × Ctap2PinUvAuthProtocol)) :
    Ctap.Dialogue Exchange.Auxiliary
      (p.deleteAuthenticatorLargeBlob largeBlobKey maxFragment pinUvAuth) := by
  refine Ctap.Dialogue.bind (p.dialogue_fetchOrInitial _)
    fun existing => ?_
  split
  · exact p.dialogue_uploadSerializedArray _ _ _
  · exact Ctap.Dialogue.throw _

/-! ## §4. The transfers end. -/

variable {p} {maxFragment : Nat}

/-- A full fragment brings the array closer to the cap. -/
theorem fetchTurn_closer (hpos : 0 < maxFragment) {state state' : FetchState} {w w' : World σ T}
    (h : p.fetchTurn maxFragment state w = (.ok (.inl state'), w')) :
    LARGE_BLOB_MAX_ARRAY_BYTES + 1 - state'.out.length
      < LARGE_BLOB_MAX_ARRAY_BYTES + 1 - state.out.length := by
  obtain ⟨resp, w₁, -, h⟩ := Proc.bind_eq_ok_iff.mp h
  dsimp only at h
  split at h
  · cases h
  · split at h
    · cases h
    · split at h
      · obtain ⟨hout, -⟩ := Prod.mk.inj h
        rw [← Sum.inl.inj (Outcome.ok.inj hout)]
        simp only [List.length_append] at *
        omega
      · cases h

/-- A fetch comes to an end: each full fragment moves the offset on, up to the
cap. -/
theorem ends_fetchSerializedArray (hpos : 0 < maxFragment) :
    Proc.Ends (p.fetchSerializedArray maxFragment) := by
  refine Proc.Ends.loop (fun state => LARGE_BLOB_MAX_ARRAY_BYTES + 1 - state.out.length)
    (fun state => ?_) (fun _ _ _ _ => fetchTurn_closer hpos) _ _ ?_
  · refine Proc.Ends.bind (Proc.Ends.mapError (Ctap.ends_command _ _)) fun resp => ?_
    dsimp only
    split
    · exact Proc.Ends.pure _
    · split
      · exact Proc.Ends.throw _
      · split
        · exact Proc.Ends.pure _
        · exact Proc.Ends.throw _
  · show LARGE_BLOB_MAX_ARRAY_BYTES + 1 - 0 < LARGE_BLOB_MAX_ARRAY_BYTES + 2
    omega

theorem ends_fetchOrInitial (hpos : 0 < maxFragment) :
    Proc.Ends (p.fetchOrInitial maxFragment) := by
  refine Proc.Ends.bind (ends_fetchSerializedArray hpos) fun serialized => ?_
  split
  · exact Proc.Ends.ofExcept _
  · exact Proc.Ends.pure _

theorem ends_fetchLargeBlobEntries (hpos : 0 < maxFragment) :
    Proc.Ends (p.fetchLargeBlobEntries maxFragment) := by
  refine Proc.Ends.bind (ends_fetchSerializedArray hpos) fun serialized => ?_
  exact Proc.Ends.bind (Proc.Ends.ofExcept _) fun _ => Proc.Ends.ofExcept _

/-- A fragment that went out brings the upload closer to its end. -/
theorem uploadTurn_closer (hpos : 0 < maxFragment) {serialized : Bytes}
    {pinUvAuth : Option (Bytes × Ctap2PinUvAuthProtocol)} {offset offset' : Nat}
    {w w' : World σ T}
    (h : p.uploadTurn serialized maxFragment pinUvAuth offset w = (.ok (.inl offset'), w')) :
    serialized.length - offset' < serialized.length - offset := by
  unfold uploadTurn at h
  split at h
  next hlt =>
    obtain ⟨chunkAuth, w₁, -, h⟩ := Proc.bind_eq_ok_iff.mp h
    obtain ⟨resp, w₂, -, h⟩ := Proc.bind_eq_ok_iff.mp h
    split at h
    · obtain ⟨hout, -⟩ := Prod.mk.inj h
      rw [← Sum.inl.inj (Outcome.ok.inj hout), List.length_take, List.length_drop]
      omega
    · cases h
  next => cases h

/-- An upload comes to an end: each fragment takes something off what is left. -/
theorem ends_uploadSerializedArray (hpos : 0 < maxFragment) (serialized : Bytes)
    (pinUvAuth : Option (Bytes × Ctap2PinUvAuthProtocol)) :
    Proc.Ends (p.uploadSerializedArray serialized maxFragment pinUvAuth) := by
  have hauth : ∀ offset chunk, Proc.Ends (p.chunkAuth pinUvAuth offset chunk) := by
    intro offset chunk
    cases pinUvAuth with
    | none => exact Proc.Ends.pure _
    | some auth =>
        exact Proc.Ends.bind (Proc.Ends.mapError (Ctap.ends_liftPlatform _))
          fun _ => Proc.Ends.pure _
  unfold uploadSerializedArray
  split
  · exact Proc.Ends.throw _
  · split
    · exact Proc.Ends.throw _
    · split
      · exact Proc.Ends.throw _
      next hcap =>
        -- each fragment brings the offset closer to the end of the array
        refine Proc.Ends.loop (fun offset => serialized.length - offset) (fun offset => ?_)
          (fun _ _ _ _ => uploadTurn_closer hpos) _ _ ?_
        · unfold uploadTurn
          split
          · refine Proc.Ends.bind (hauth _ _) fun _ => ?_
            refine Proc.Ends.bind (Proc.Ends.mapError (Ctap.ends_command _ _)) fun _ => ?_
            split
            · exact Proc.Ends.pure _
            · exact Proc.Ends.throw _
          · exact Proc.Ends.pure _
        · show serialized.length - 0 < LARGE_BLOB_MAX_ARRAY_BYTES + 2
          omega

/-- And so does a write. -/
theorem ends_writeAuthenticatorLargeBlob (hpos : 0 < maxFragment) (largeBlobKey blob : Bytes)
    (pinUvAuth : Option (Bytes × Ctap2PinUvAuthProtocol)) :
    Proc.Ends (p.writeAuthenticatorLargeBlob largeBlobKey blob maxFragment pinUvAuth) := by
  unfold writeAuthenticatorLargeBlob
  split
  · exact Proc.Ends.throw _
  · refine Proc.Ends.bind (ends_fetchOrInitial hpos) fun existing => ?_
    refine Proc.Ends.bind (Proc.Ends.mapError fun w h => by cases h) fun nonce => ?_
    refine Proc.Ends.bind (Proc.Ends.ofExcept _) fun entryBytes => ?_
    exact ends_uploadSerializedArray hpos _ _

/-- And a delete, which may upload nothing. -/
theorem ends_deleteAuthenticatorLargeBlob (hpos : 0 < maxFragment) (largeBlobKey : Bytes)
    (pinUvAuth : Option (Bytes × Ctap2PinUvAuthProtocol)) :
    Proc.Ends (p.deleteAuthenticatorLargeBlob largeBlobKey maxFragment pinUvAuth) := by
  refine Proc.Ends.bind (ends_fetchOrInitial hpos) fun existing => ?_
  split
  · exact ends_uploadSerializedArray hpos _ _
  · exact Proc.Ends.throw _

end Platform

/-- However small the message size of a device, a fragment has room for a byte. -/
theorem maxFragmentLength_pos (maxMsgSize : Option Nat) : 0 < maxFragmentLength maxMsgSize := by
  cases maxMsgSize with
  | none => exact (by decide : 0 < LARGE_BLOB_DEFAULT_FRAGMENT)
  | some m =>
      show 0 < max (m - 64) 1
      omega

end Libwebauthn
