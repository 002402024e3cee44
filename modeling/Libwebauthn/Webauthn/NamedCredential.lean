/-
  Libwebauthn.Webauthn.NamedCredential — which credential an assertion names
  (`into_assertion_output` of `src/proto/ctap2/model/get_assertion.rs`).

  A device may leave the credential out of its answer when the allow list
  it was sent has one entry.  The conversion of the answer fills it in from
  the caller's allow list, which is not the one that was sent once an
  oversized or an unknown credential has been dropped.
-/
import Libwebauthn.Webauthn.Runs
import Libwebauthn.Transport.Mock
import Mathlib.Data.List.Forall2

namespace Libwebauthn

variable {σ T : Type}

/-- The assertion made of a response to `sent` names the credential of the
response, or else the one entry of the allow list that was sent. -/
def NamesCredential (sent : Ctap2GetAssertionRequest) (response : Ctap2GetAssertionResponse)
    (credentialId : Option Ctap2PublicKeyCredentialDescriptor) : Prop :=
  (∀ credential, response.credentialId = some credential → credentialId = some credential)
    ∧ (response.credentialId = none → ∀ entry, sent.allow = [entry] → credentialId = some entry)

namespace Platform

/-- The large blob outputs do not change which credential is named. -/
theorem attachLargeBlobs_credentialIds (assertions : List Assertion)
    (entries : List GetAssertionLargeBlobExtensionOutput) :
    (attachLargeBlobs assertions entries).map (·.credentialId)
      = assertions.map (·.credentialId) := by
  induction assertions generalizing entries with
  | nil => cases entries <;> rfl
  | cons assertion assertions ih =>
      cases entries with
      | nil => rfl
      | cons entry entries =>
          show assertion.credentialId :: _ = _
          rw [ih]
          rfl

end Platform

/-- One response: what is filled in is right just when the caller's list is
the one that was sent. -/
theorem namesCredential_iff (crypto : Crypto) (op : GetAssertionRequest)
    (authData : Option AuthTokenData) (sent : Ctap2GetAssertionRequest)
    (response : Ctap2GetAssertionResponse) :
    NamesCredential sent response (response.intoAssertionOutput crypto op authData).credentialId
      ↔ (response.credentialId = none → ∀ entry, sent.allow = [entry] → op.allow = [entry]) := by
  unfold Ctap2GetAssertionResponse.intoAssertionOutput NamesCredential
  dsimp only
  -- a response that names no credential is filled in from the caller's list of one
  rcases response.credentialId with _ | credential
  · rw [Option.none_or]
    constructor
    · intro h _ entry hsent
      have hfilled := h.2 rfl entry hsent
      split at hfilled
      next hlength =>
        obtain ⟨only, honly⟩ := List.length_eq_one_iff.mp hlength
        rw [honly] at hfilled
        rw [honly, Option.some.inj hfilled]
      next => cases hfilled
    · intro h
      refine ⟨fun credential hcredential => (by cases hcredential), fun _ entry hsent => ?_⟩
      rw [h rfl entry hsent]
      rfl
  · rw [Option.some_or]
    constructor
    · intro _ hnone
      cases hnone
    · intro _
      refine ⟨fun credential' hcredential => hcredential, fun hnone => ?_⟩
      cases hnone

/-- **When every assertion names its credential**: a run of getAssertion
that returns does so exactly when each answer without a credential came to
an allow list of one entry that is the caller's own. -/
theorem assertions_named_iff (p : Platform σ T) (fuel : Nat) (op : GetAssertionRequest) (env : σ)
    (authData : Option AuthTokenData) {out : List Assertion}
    (hok : (p.getAssertionFido2 fuel op (.start env authData)).1 = .ok out) :
    ∃ a response rest, (p.assertedAttempts fuel op (.start env authData)).getLast? = some a
      ∧ a.answer = .ok response
      ∧ (p.getAssertionFido2 fuel op (.start env authData)).2.session.log.responses
        = response :: rest
      ∧ (List.Forall₂ (fun response assertion =>
            NamesCredential a.sent response assertion.credentialId) (response :: rest) out
          ↔ ∀ r ∈ response :: rest, r.credentialId = none →
              ∀ entry, a.sent.allow = [entry] → op.allow = [entry]) := by
  obtain ⟨info, request, response, rest, as, a, hasserted⟩ :=
    p.getAssertionFido2_ok fuel op (.start env authData) rfl hok
  refine ⟨a, response, rest, hasserted.getLast?_assertedAttempts, hasserted.answer,
    hasserted.responses, ?_⟩
  obtain ⟨outputs, hout⟩ := hasserted.out
  have hids : out.map (·.credentialId) = (response :: rest).map fun r =>
      (r.intoAssertionOutput p.crypto op a.authData).credentialId := by
    rw [hout, Platform.attachLargeBlobs_credentialIds, List.map_map]
    rfl
  rw [← List.forall₂_map_right_iff (f := Assertion.credentialId), hids,
    List.forall₂_map_right_iff, List.forall₂_same]
  exact forall₂_congr fun r _ => namesCredential_iff p.crypto op a.authData a.sent r

/-! ## Runs on queued answers. -/

def listingGetAssertionOp (allow : List Ctap2PublicKeyCredentialDescriptor) :
    GetAssertionRequest :=
  { plainGetAssertionOp with allow := allow, userVerification := .discouraged }

/-- A device that knows the first credential it is asked about, and does not
name it in its assertion. -/
def silentDevice (probes : List (Except MockError Ctap2GetAssertionResponse)) : MockChannel :=
  { getInfo := [{}, {}]
    getAssertion := probes ++ [.ok (plainGetAssertionResponse none)] }

set_option maxRecDepth 8000 in
theorem assertions_named_iff_single :
    ∃ out, ((mockPlatform true).getAssertionFido2 3 (listingGetAssertionOp [listedCredential 1])
        (.start (silentDevice [.ok (plainGetAssertionResponse none)]) none)).1 = .ok out
      ∧ ∃ a response rest, ((mockPlatform true).assertedAttempts 3
          (listingGetAssertionOp [listedCredential 1])
          (.start (silentDevice [.ok (plainGetAssertionResponse none)]) none)).getLast? = some a
        ∧ a.answer = .ok response
        ∧ ((mockPlatform true).getAssertionFido2 3 (listingGetAssertionOp [listedCredential 1])
            (.start (silentDevice [.ok (plainGetAssertionResponse none)])
              none)).2.session.log.responses = response :: rest
        ∧ (List.Forall₂ (fun response assertion =>
              NamesCredential a.sent response assertion.credentialId) (response :: rest) out
            ↔ ∀ r ∈ response :: rest, r.credentialId = none →
                ∀ entry, a.sent.allow = [entry] → [listedCredential 1] = [entry]) :=
  ⟨_, rfl, assertions_named_iff (mockPlatform true) 3 (listingGetAssertionOp [listedCredential 1])
    (silentDevice [.ok (plainGetAssertionResponse none)]) none rfl⟩

set_option maxRecDepth 8000 in
/-- Of two listed credentials the device knows one: that one is sent, and
the assertion by it names none. -/
theorem assertions_not_named :
    ∃ out a response, ((mockPlatform true).getAssertionFido2 3
        (listingGetAssertionOp [listedCredential 1, listedCredential 2])
        (.start (silentDevice [.ok (plainGetAssertionResponse none),
          .error (.ctap .noCredentials)]) none)).1 = .ok [out]
      ∧ ((mockPlatform true).assertedAttempts 3
          (listingGetAssertionOp [listedCredential 1, listedCredential 2])
          (.start (silentDevice [.ok (plainGetAssertionResponse none),
            .error (.ctap .noCredentials)]) none)).getLast? = some a
      ∧ a.answer = .ok response ∧ a.sent.allow = [listedCredential 1]
      ∧ ¬ NamesCredential a.sent response out.credentialId := by
  refine ⟨_, _, _, rfl, rfl, rfl, rfl, fun hnames => ?_⟩
  cases hnames.2 rfl _ rfl

end Libwebauthn
