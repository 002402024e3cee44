/-
  Libwebauthn.Transport.Cable.Framing — the padding of hybrid frames
  (`connection_send` and `strip_frame_padding` of
  `src/transport/cable/protocol.rs`).

  A request is filled up to a whole number of granules; the last byte counts the
  zeros before it.  The type of the frame goes in front of all that, so a frame
  is one byte longer than its granules.

    • `stripFramePadding_prefix` — any plaintext loses its end, or is refused;
    • `frame_roundTrip` — the receiving code reads a request as it was sent.
-/
import Libwebauthn.Transport.Cable.Outcome

namespace Libwebauthn.Transport.Cable

/-- The bytes that a request is filled up with. -/
def extraBytes (cborRequest : Bytes) : Nat :=
  PADDING_GRANULARITY - cborRequest.length % PADDING_GRANULARITY

theorem extraBytes_pos (cborRequest : Bytes) : 1 ≤ extraBytes cborRequest := by
  unfold extraBytes PADDING_GRANULARITY
  omega

theorem extraBytes_le (cborRequest : Bytes) : extraBytes cborRequest ≤ 32 := by
  unfold extraBytes PADDING_GRANULARITY
  omega

/-- The zeros that stay, and then their number. -/
theorem padRequest_eq (cborRequest : Bytes) :
    padRequest cborRequest = cborRequest ++ List.replicate (extraBytes cborRequest - 1) 0
      ++ [UInt8.ofNat (extraBytes cborRequest - 1)] := by
  have hpos := extraBytes_pos cborRequest
  show (cborRequest ++ List.replicate (extraBytes cborRequest) 0).set
    (cborRequest.length + extraBytes cborRequest - 1)
    (UInt8.ofNat (extraBytes cborRequest - 1)) = _
  obtain ⟨zeros, hzeros⟩ : ∃ zeros, extraBytes cborRequest = zeros + 1 :=
    ⟨extraBytes cborRequest - 1, by omega⟩
  rw [hzeros, List.replicate_succ', ← List.append_assoc, List.set_append_right]
  · have hat : cborRequest.length + (zeros + 1) - 1
        - (cborRequest ++ List.replicate zeros 0).length = 0 := by
      rw [List.length_append, List.length_replicate]
      omega
    rw [hat]
    rfl
  · rw [List.length_append, List.length_replicate]
    omega

theorem padRequest_length (cborRequest : Bytes) :
    (padRequest cborRequest).length = cborRequest.length + extraBytes cborRequest := by
  have hpos := extraBytes_pos cborRequest
  rw [padRequest_eq, List.length_append, List.length_append, List.length_replicate,
    List.length_singleton]
  omega

/-- A padded request fills its granules. -/
theorem padRequest_granules (cborRequest : Bytes) :
    (padRequest cborRequest).length % PADDING_GRANULARITY = 0 := by
  rw [padRequest_length]
  unfold extraBytes PADDING_GRANULARITY
  omega

/-- Behind any front, the padding of a request is what is cut off. -/
theorem stripFramePadding_padRequest (front cborRequest : Bytes) :
    stripFramePadding (front ++ padRequest cborRequest) = .ok (front ++ cborRequest) := by
  have hpos := extraBytes_pos cborRequest
  have hle := extraBytes_le cborRequest
  have hlast : (front ++ padRequest cborRequest).getLast?
      = some (UInt8.ofNat (extraBytes cborRequest - 1)) := by
    rw [padRequest_eq, ← List.append_assoc]
    exact List.getLast?_concat
  have hcount : (UInt8.ofNat (extraBytes cborRequest - 1)).toNat + 1 = extraBytes cborRequest := by
    rw [UInt8.toNat_ofNat', Nat.mod_eq_of_lt (by omega)]
    omega
  have hlength : (front ++ padRequest cborRequest).length
      = (front ++ cborRequest).length + extraBytes cborRequest := by
    rw [List.length_append, List.length_append, padRequest_length]
    omega
  unfold stripFramePadding
  rw [hlast]
  dsimp only
  rw [hcount, if_neg (by omega), hlength, Nat.add_sub_cancel]
  -- what is left is the front and the request
  have hsplit : front ++ padRequest cborRequest
      = (front ++ cborRequest) ++ (List.replicate (extraBytes cborRequest - 1) 0
        ++ [UInt8.ofNat (extraBytes cborRequest - 1)]) := by
    rw [padRequest_eq, List.append_assoc, List.append_assoc]
  rw [hsplit, List.take_left]

/-- **Any plaintext**: what the padding leaves is its beginning. -/
theorem stripFramePadding_prefix (plaintext : Bytes) :
    (∃ frame, stripFramePadding plaintext = .ok frame ∧ frame <+: plaintext)
      ∨ stripFramePadding plaintext = .error .invalidFraming := by
  unfold stripFramePadding
  cases plaintext.getLast? with
  | none => exact Or.inr rfl
  | some paddingLen =>
      dsimp only
      split
      · exact Or.inr rfl
      · exact Or.inl ⟨_, rfl, List.take_prefix _ _⟩

/-- The plaintext that `connection_send` builds. -/
def requestPlaintext (request : CborRequest) : Bytes :=
  (CableTunnelMessage.mk .ctap (padRequest request.rawLong)).toVec

/-- The receiving side's own code. -/
def readPlaintext (plaintext : Bytes) : Except CableError CableTunnelMessage :=
  (stripFramePadding plaintext).bind CableTunnelMessage.fromSlice

theorem readPlaintext_requestPlaintext (request : CborRequest) :
    readPlaintext (requestPlaintext request) = .ok ⟨.ctap, request.rawLong⟩ := by
  have hstrip : stripFramePadding (requestPlaintext request) = .ok ([1] ++ request.rawLong) :=
    stripFramePadding_padRequest [1] request.rawLong
  unfold readPlaintext
  rw [hstrip]
  rfl

/-- A request that is sent goes out in a frame that the receiving code reads as
the request; and no plaintext at all makes that code go wrong. -/
theorem frame_roundTrip {N P : Type} (prim : Primitives N P) (noise : TunnelNoiseState N)
    (request : CborRequest) {encryptedFrame : Bytes}
    (haccepted : (connectionSend prim noise request).1 = .ok encryptedFrame) :
    (prim.writeMessage noise.transportState (requestPlaintext request)).1 = some encryptedFrame
      ∧ readPlaintext (requestPlaintext request) = .ok ⟨.ctap, request.rawLong⟩
      ∧ (padRequest request.rawLong).length % 32 = 0
      ∧ (∃ padding : UInt8, (requestPlaintext request).getLast? = some padding
        ∧ padding.toNat ≤ 31)
      ∧ ∀ plaintext,
        (∃ frame, stripFramePadding plaintext = .ok frame ∧ frame <+: plaintext)
          ∨ stripFramePadding plaintext = .error .invalidFraming := by
  -- at most 32 bytes are added, so the last of them is one byte's value
  have hle := extraBytes_le request.rawLong
  refine ⟨?_, readPlaintext_requestPlaintext request, padRequest_granules request.rawLong, ?_,
    stripFramePadding_prefix⟩
  · unfold connectionSend at haccepted
    dsimp only at haccepted
    split at haccepted
    · cases haccepted
    split at haccepted
    · cases haccepted
    next frame transportState hwrite =>
      have hplaintext : prim.writeMessage noise.transportState (requestPlaintext request)
          = (some frame, transportState) := hwrite
      rw [hplaintext, Except.ok.inj haccepted]
  · refine ⟨UInt8.ofNat (extraBytes request.rawLong - 1), ?_, ?_⟩
    · show ([1] ++ padRequest request.rawLong).getLast? = _
      rw [padRequest_eq, ← List.append_assoc]
      exact List.getLast?_concat
    · rw [UInt8.toNat_ofNat', Nat.mod_eq_of_lt (by omega)]
      omega

/-- A request that fills a granule already: 32 bytes more are added. -/
def fullRequest : CborRequest := ⟨.authenticatorMakeCredential, List.replicate 31 0xA0⟩

theorem frame_roundTrip_full :
    (plainPrimitives.writeMessage () (requestPlaintext fullRequest)).1
        = some (requestPlaintext fullRequest)
      ∧ readPlaintext (requestPlaintext fullRequest) = .ok ⟨.ctap, fullRequest.rawLong⟩
      ∧ (padRequest fullRequest.rawLong).length % 32 = 0
      ∧ (∃ padding : UInt8, (requestPlaintext fullRequest).getLast? = some padding
        ∧ padding.toNat ≤ 31)
      ∧ ∀ plaintext,
        (∃ frame, stripFramePadding plaintext = .ok frame ∧ frame <+: plaintext)
          ∨ stripFramePadding plaintext = .error .invalidFraming :=
  frame_roundTrip plainPrimitives ⟨(), []⟩ fullRequest rfl

end Libwebauthn.Transport.Cable
