/-
  Libwebauthn.Webauthn.Announced — how many assertions a getAssertion
  returns (`get_assertion_fido2` of `src/webauthn.rs`).

  The device announces a number of assertions with its first answer, and
  gives the others one by one.  As many are fetched as it announces, and no
  more than its maxCredentialCountInList, which caps what a hostile number
  could ask for.

    • `nextAssertions_answers` — the further assertions, in order;
    • `finishAssertion_total` — the largeBlob extension fails no ceremony;
    • `assertions_announced` — the assertions of a run, one by one.
-/
import Libwebauthn.Webauthn.Opening
import Libwebauthn.Transport.Mock

namespace Libwebauthn

open Platform

variable {σ T : Type}

/-! ## §1. The large blob of an assertion. -/

/-- `assertion` with an output of the largeBlob extension, or as it is. -/
inductive WithLargeBlob (assertion : Assertion) : Assertion → Prop where
  | absent : WithLargeBlob assertion assertion
  | attached (entry : GetAssertionLargeBlobExtensionOutput) :
      WithLargeBlob assertion { assertion with
        unsignedExtensionsOutput :=
          some { assertion.unsignedExtensionsOutput.getD {} with largeBlob := some entry } }

theorem withLargeBlob_attachLargeBlobs (assertions : List Assertion)
    (outputs : List GetAssertionLargeBlobExtensionOutput) :
    List.Forall₂ WithLargeBlob assertions (attachLargeBlobs assertions outputs) := by
  induction assertions generalizing outputs with
  | nil => exact .nil
  | cons assertion assertions ih =>
      cases outputs with
      | nil => exact List.forall₂_same.mpr fun _ _ => .absent
      | cons entry entries => exact .cons (.attached entry) (ih entries)

namespace Platform

variable (p : Platform σ T)

/-! ## §2. The further assertions. -/

/-- The device answers getNextAssertion with these, in this order. -/
inductive Answers : σ → List Ctap2GetAssertionResponse → Prop where
  | nil (env : σ) : Answers env []
  | cons {env env' : σ} {response : Ctap2GetAssertionResponse}
      {responses : List Ctap2GetAssertionResponse}
      (hnext : p.getNextAssertion env = (.ok response, env')) (hrest : Answers env' responses) :
      Answers env (response :: responses)

/-- Answers for the relying party of the operation. -/
def ForRelyingParty (op : GetAssertionRequest) (response : Ctap2GetAssertionResponse) : Prop :=
  response.authenticatorData.rpIdHash = p.crypto.sha256 (utf8 op.relyingPartyId)

theorem validateRpIdHash_ok {op : GetAssertionRequest} {response : Ctap2GetAssertionResponse}
    (h : p.ForRelyingParty op response) (w : World σ T) :
    p.validateRpIdHash op response w = (.ok (), w) := by
  unfold ForRelyingParty at h
  unfold validateRpIdHash
  rw [if_neg (not_not.mpr h)]
  rfl

/-- The loop takes the answers in order, as many as it is to take. -/
theorem nextAssertions_answers {op : GetAssertionRequest}
    {responses : List Ctap2GetAssertionResponse} (hrp : ∀ r ∈ responses, p.ForRelyingParty op r) :
    ∀ {w : World σ T}, p.Answers w.env responses → ∀ n ≤ responses.length,
      ∃ w', p.nextAssertions op n w = (.ok (responses.take n), w') ∧ w'.session = w.session := by
  -- by induction on the device's answers, one command for each
  induction responses with
  | nil =>
      intro w _ n hn
      obtain rfl : n = 0 := Nat.le_zero.mp hn
      exact ⟨w, rfl, rfl⟩
  | cons response responses ih =>
      intro w hanswers n hn
      cases n with
      | zero => exact ⟨w, rfl, rfl⟩
      | succ n =>
          cases hanswers with
          | @cons _ env' _ _ hnext hrest =>
              have hcommand : p.ctap2GetNextAssertion w = (.ok response, { w with
                  env := env', wire := w.wire ++ [.getNextAssertion (.ok response)] }) := by
                unfold ctap2GetNextAssertion Ctap.command
                rw [hnext]
              obtain ⟨w', hrun, hsession⟩ := ih (fun r hmem => hrp r (List.mem_cons_of_mem _ hmem))
                (w := { w with
                  env := env', wire := w.wire ++ [.getNextAssertion (.ok response)] })
                hrest n (Nat.le_of_succ_le_succ hn)
              refine ⟨w', ?_, hsession⟩
              unfold nextAssertions
              rw [Proc.bind_of_ok hcommand,
                Proc.bind_of_ok (p.validateRpIdHash_ok (hrp response List.mem_cons_self) _),
                Proc.bind_of_ok hrun]
              rfl

/-! ## §3. The large blobs. -/

theorem total_largeBlobOutputs (op : GetAssertionRequest) (info : Ctap2GetInfoResponse)
    (responses : List Ctap2GetAssertionResponse) :
    Proc.Total (p.largeBlobOutputs op info responses) := by
  have hpos := maxFragmentLength_pos info.maxMsgSize
  -- a failed write is an output as well, so it does not end the ceremony
  have hwrite : ∀ action,
      Proc.Total (p.writeLargeBlob (maxFragmentLength info.maxMsgSize) responses action) := by
    intro action
    refine Proc.Total.bind (fun w => ⟨_, _, rfl⟩) fun authData => ?_
    cases responses with
    | nil => exact Proc.Total.pure _
    | cons resp rest =>
        refine Proc.Total.bind ?_ fun _ => Proc.Total.pure _
        unfold writeOrDeleteForFirst
        split
        · exact Proc.Total.pure _
        · refine Proc.Total.bind (Proc.Total.attempt ?_) fun _ => Proc.Total.pure _
          cases action with
          | write payload => exact ends_writeAuthenticatorLargeBlob hpos _ _ _
          | delete => exact ends_deleteAuthenticatorLargeBlob hpos _ _
  unfold largeBlobOutputs
  split
  · refine Proc.Total.bind ?_ fun _ => Proc.Total.pure _
    unfold fetchEntriesFor
    split
    · exact Proc.Total.bind (Proc.Total.attempt (ends_fetchLargeBlobEntries hpos))
        fun _ => Proc.Total.pure _
    · exact Proc.Total.pure _
  · exact hwrite _
  · exact hwrite _
  · exact Proc.Total.pure _

/-- From the accepted response on, a device that answers all it is asked for
gets the ceremony to return. -/
theorem finishAssertion_total {op : GetAssertionRequest} (info : Ctap2GetInfoResponse)
    {response : Ctap2GetAssertionResponse} {rest : List Ctap2GetAssertionResponse}
    (hrp : ∀ r ∈ response :: rest, p.ForRelyingParty op r) {w : World σ T}
    (hanswers : p.Answers w.env rest) (hcount : assertionCount info response - 1 ≤ rest.length) :
    ∃ out, (p.finishAssertion op info response w).1 = .ok out
      ∧ List.Forall₂ WithLargeBlob
          ((response :: rest.take (assertionCount info response - 1)).map fun r =>
            r.intoAssertionOutput p.crypto op w.session.authData) out := by
  obtain ⟨w₁, hnext, hsession⟩ := p.nextAssertions_answers
    (fun r hmem => hrp r (List.mem_cons_of_mem _ hmem)) hanswers _ hcount
  unfold finishAssertion
  rw [Proc.bind_of_ok (p.validateRpIdHash_ok (hrp response List.mem_cons_self) w),
    Proc.bind_of_ok hnext]
  obtain ⟨_, w₂, hlog⟩ : ∃ u w₂, (Ctap.modifyLog fun l => { l with
      responses := l.responses ++ (response :: rest.take (assertionCount info response - 1)) } :
      Ctap σ T Unit) w₁ = (.ok u, w₂) ∧ w₂.session.authData = w.session.authData :=
    ⟨_, _, rfl, by rw [← hsession]⟩
  rw [Proc.bind_of_ok hlog.1]
  obtain ⟨outputs, w₃, houtputs⟩ := p.total_largeBlobOutputs op info
    (response :: rest.take (assertionCount info response - 1)) w₂
  -- fetching the large blobs changes no session data
  have hkept := (p.dialogue_largeBlobOutputs op info
    (response :: rest.take (assertionCount info response - 1))).keeps_session w₂
  rw [houtputs] at hkept
  rw [Proc.bind_of_ok houtputs]
  refine ⟨_, rfl, ?_⟩
  rw [show w₃.session = w₂.session from hkept, hlog.2]
  exact withLargeBlob_attachLargeBlobs _ _

/-! ## §4. Runs. -/

/-- A run from `w` up to the answer of the device, and what the device then
has to say: it announces `n` assertions, and gives the `n - 1` others. -/
structure Announced (fuel : Nat) (op : GetAssertionRequest) (w : World σ T)
    (info : Ctap2GetInfoResponse) (n : Nat) (response : Ctap2GetAssertionResponse)
    (rest : List Ctap2GetAssertionResponse) (w' : World σ T) : Prop where
  begins : ∃ request w₁, p.openAssertion op w = (.ok (info, request), w₁)
    ∧ p.retryLoop (p.getAssertionCeremony op) fuel request w₁ = (.ok response, w')
  count : response.credentialsCount = some n
  length : rest.length = n - 1
  answers : p.Answers w'.env rest
  forRelyingParty : ∀ r ∈ response :: rest, p.ForRelyingParty op r

/-- **The assertions that are returned**: those that the device announced, in
its order and one by one, up to its maxCredentialCountInList; 255 when it has
none, and one in any case. -/
theorem assertions_announced {fuel : Nat} {op : GetAssertionRequest} {w w' : World σ T}
    {info : Ctap2GetInfoResponse} {n : Nat} {response : Ctap2GetAssertionResponse}
    {rest : List Ctap2GetAssertionResponse}
    (h : p.Announced fuel op w info n response rest w') :
    ∃ out, (p.getAssertionFido2 fuel op w).1 = .ok out
      ∧ out.length = max 1 (min n (info.maxCredentialCount.getD 255))
      ∧ List.Forall₂ WithLargeBlob
          (((response :: rest).take (max 1 (min n (info.maxCredentialCount.getD 255)))).map
            fun r => r.intoAssertionOutput p.crypto op w'.session.authData) out := by
  obtain ⟨request, w₁, hopened, hresponse⟩ := h.begins
  -- the count announced, up to what the device can have
  have hcount : assertionCount info response = min n (info.maxCredentialCount.getD 255) := by
    unfold assertionCount
    rw [h.count]
    rfl
  have hlength := h.length
  obtain ⟨out, hout, hblobs⟩ := p.finishAssertion_total info h.forRelyingParty h.answers
    (by rw [hcount]; omega)
  rw [hcount] at hblobs
  have hle : min n (info.maxCredentialCount.getD 255) ≤ n := Nat.min_le_left _ _
  generalize min n (info.maxCredentialCount.getD 255) = count at hblobs hle ⊢
  have htake : (response :: rest).take (max 1 count) = response :: rest.take (count - 1) := by
    rw [show max 1 count = count - 1 + 1 by omega, List.take_succ_cons]
  refine ⟨out, ?_, ?_, ?_⟩
  · rw [p.getAssertionFido2_eq, Proc.bind_of_ok hopened, Proc.bind_of_ok hresponse]
    exact hout
  · rw [← hblobs.length_eq, List.length_map, List.length_cons, List.length_take]
    omega
  · rw [htake]
    exact hblobs

end Platform

/-! ## §5. Two discoverable credentials. -/

/-- The device gives its further assertions from the same queue. -/
def enumeratingPlatform : Platform MockChannel Empty :=
  { mockPlatform false with
    getNextAssertion := fun s =>
      ((popAnswer s.getAssertion).1, { s with getAssertion := (popAnswer s.getAssertion).2 }) }

/-- A device with two credentials for the relying party, which takes lists of
`limit` credentials. -/
def twoAccounts (limit : Option Nat) : MockChannel :=
  { getInfo := [{ maxCredentialCount := limit }, { maxCredentialCount := limit }]
    getAssertion :=
      [.ok { plainGetAssertionResponse (some (listedCredential 1)) with
          credentialsCount := some 2 },
        .ok (plainGetAssertionResponse (some (listedCredential 2)))] }

def discoverOp : GetAssertionRequest :=
  { plainGetAssertionOp with userVerification := .discouraged }

theorem forRelyingParty_twoAccounts :
    ∀ r ∈ [{ plainGetAssertionResponse (some (listedCredential 1)) with
        credentialsCount := some 2 }, plainGetAssertionResponse (some (listedCredential 2))],
      enumeratingPlatform.ForRelyingParty discoverOp r := by
  intro r hmem
  simp only [List.mem_cons, List.not_mem_nil, or_false] at hmem
  rcases hmem with rfl | rfl
  · rfl
  · rfl

set_option maxRecDepth 8000 in
theorem assertions_announced_two :
    ∃ out, (enumeratingPlatform.getAssertionFido2 3 discoverOp
        (.start (twoAccounts none) none)).1 = .ok out ∧ out.length = 2 := by
  have hannounced : enumeratingPlatform.Announced 3 discoverOp (.start (twoAccounts none) none)
      _ 2 _ [plainGetAssertionResponse (some (listedCredential 2))] _ :=
    ⟨⟨_, _, rfl, rfl⟩, rfl, rfl, .cons rfl (.nil _), forRelyingParty_twoAccounts⟩
  obtain ⟨out, hout, hlength, -⟩ := assertions_announced enumeratingPlatform hannounced
  exact ⟨out, hout, hlength⟩

set_option maxRecDepth 8000 in
/-- With a list limit of one, the second account is not returned. -/
theorem assertions_not_all_announced :
    ∃ info response rest w' out,
      enumeratingPlatform.Announced 3 discoverOp (.start (twoAccounts (some 1)) none) info 2
        response rest w'
      ∧ (enumeratingPlatform.getAssertionFido2 3 discoverOp
          (.start (twoAccounts (some 1)) none)).1 = .ok out
      ∧ out.length = 1 :=
  ⟨_, _, _, _, _, ⟨⟨_, _, rfl, rfl⟩, rfl, rfl, .cons rfl (.nil _), forRelyingParty_twoAccounts⟩,
    rfl, rfl⟩

end Libwebauthn
