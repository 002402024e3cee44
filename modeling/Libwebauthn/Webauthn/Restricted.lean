/-
  Libwebauthn.Webauthn.Restricted — a getAssertion for listed credentials
  never goes out without a list (`get_assertion_fido2` of `src/webauthn.rs`).

  An empty allow list is left out of the request, which then asks for any
  discoverable credential.  The list can be emptied by the length filter, with
  preflight also by the device's answers to the probes; what happens then is
  decided in `allowList`, once and before the loop.
-/
import Libwebauthn.Webauthn.HmacEnvelope
import Libwebauthn.Webauthn.Opening

namespace Libwebauthn

open Platform

variable {σ T : Type}

/-! ## §1. What the turns of a loop keep. -/

/-- A turn of getAssertion writes to the authentication, the options and the
extensions only. -/
theorem Attempted.keeps_get {β : Type} {p : Platform σ T} {op : GetAssertionRequest}
    {a : Attempt T Ctap2GetAssertionRequest Ctap2GetAssertionResponse}
    (h : Attempted p.crypto (p.getAssertionCeremony op) a) {f : Ctap2GetAssertionRequest → β}
    (hf : ∀ (r : Ctap2GetAssertionRequest) param proto options extensions,
      f { r with
          pinAuthParam := param
          pinAuthProto := proto
          options := options
          extensions := extensions } = f r) : f a.sent = f a.entry := by
  obtain ⟨houtcome, hsealed⟩ := h
  have hverified := houtcome.keeps (f := f) (fun r => hf r r.pinAuthParam r.pinAuthProto _ _)
    fun hcalc => by
      obtain ⟨param, -, hcalc⟩ := except_bind_eq_ok_iff.mp hcalc
      rw [← Except.ok.inj hcalc]
      exact hf _ _ _ _ _
  rcases Ctap2GetAssertionRequest.sealed_cases p hsealed with
    ⟨hsame, -⟩ | ⟨data, iv, ext, input, envelope, -, -, -, -, -, hsent⟩
  · rw [hsame, hverified]
  · rw [hsent, ← hverified]
    exact hf _ _ _ _ _

/-- A turn of makeCredential does the same. -/
theorem Attempted.keeps_make {β : Type} {p : Platform σ T} {op : MakeCredentialRequest}
    {a : Attempt T Ctap2MakeCredentialRequest Ctap2MakeCredentialResponse}
    (h : Attempted p.crypto (p.makeCredentialCeremony op) a)
    {f : Ctap2MakeCredentialRequest → β}
    (hf : ∀ (r : Ctap2MakeCredentialRequest) param proto options extensions,
      f { r with
          pinAuthParam := param
          pinAuthProto := proto
          options := options
          extensions := extensions } = f r) : f a.sent = f a.entry := by
  obtain ⟨houtcome, hsealed⟩ := h
  -- the verification sets the parameter and the options
  have hverified := houtcome.keeps (f := f) (fun r => hf r r.pinAuthParam r.pinAuthProto _ _)
    fun hcalc => by
      obtain ⟨param, -, hcalc⟩ := except_bind_eq_ok_iff.mp hcalc
      rw [← Except.ok.inj hcalc]
      exact hf _ _ _ _ _
  rw [← hverified]
  -- and the ceremony seals its extensions
  cases hdata : a.authData with
  | none =>
      rw [hdata] at hsealed
      exact congrArg f hsealed
  | some data =>
      rw [hdata] at hsealed
      obtain ⟨iv, -, hiv⟩ := hsealed
      unfold makeCredentialCeremony at hiv
      dsimp only at hiv
      split at hiv
      · rw [← Except.ok.inj hiv]
      · obtain ⟨ext', -, hiv⟩ := except_bind_eq_ok_iff.mp hiv
        rw [← Except.ok.inj hiv]
        exact hf _ _ _ _ _

theorem Attempted.allow {p : Platform σ T} {op : GetAssertionRequest}
    {a : Attempt T Ctap2GetAssertionRequest Ctap2GetAssertionResponse}
    (h : Attempted p.crypto (p.getAssertionCeremony op) a) : a.sent.allow = a.entry.allow :=
  h.keeps_get fun _ _ _ _ _ => rfl

theorem Attempted.exclude {p : Platform σ T} {op : MakeCredentialRequest}
    {a : Attempt T Ctap2MakeCredentialRequest Ctap2MakeCredentialResponse}
    (h : Attempted p.crypto (p.makeCredentialCeremony op) a) :
    a.sent.exclude = a.entry.exclude :=
  h.keeps_make fun _ _ _ _ _ => rfl

theorem Ctap2GetAssertionRequest.fields_fromWebauthnRequest {crypto : Crypto}
    {op : GetAssertionRequest} {info : Ctap2GetInfoResponse} {request : Ctap2GetAssertionRequest}
    (h : fromWebauthnRequest crypto op info = .ok request) :
    request.allow = op.allow ∧ request.relyingPartyId = op.relyingPartyId := by
  have hop : ∀ b : Bool, ∀ op' : GetAssertionRequest, op' = (if b then
      { op with extensions := op.extensions.map fun ext => { ext with largeBlob := none } }
      else op) → op'.allow = op.allow ∧ op'.relyingPartyId = op.relyingPartyId := by
    intro b op' hop'
    rw [hop']
    cases b <;> exact ⟨rfl, rfl⟩
  unfold fromWebauthnRequest at h
  dsimp only at h
  split at h
  · split at h
    · obtain ⟨ext', -, h⟩ := except_bind_eq_ok_iff.mp h
      rw [← Except.ok.inj h]
      exact hop _ _ rfl
    · rw [← Except.ok.inj h]
      exact hop _ _ rfl
  · rw [← Except.ok.inj h]
    exact hop _ _ rfl

theorem Ctap2GetAssertionRequest.allow_fromWebauthnRequest {crypto : Crypto}
    {op : GetAssertionRequest} {info : Ctap2GetInfoResponse} {request : Ctap2GetAssertionRequest}
    (h : fromWebauthnRequest crypto op info = .ok request) : request.allow = op.allow :=
  (fields_fromWebauthnRequest h).1

/-! ## §2. The list before the loop. -/

namespace Platform

variable (p : Platform σ T)

/-- What is left of the caller's list: the ids of a length the device may
have, and with preflight those that it knows. -/
def remaining (op : GetAssertionRequest) (info : Ctap2GetInfoResponse) :
    Ctap σ T (List Ctap2PublicKeyCredentialDescriptor) :=
  if p.supportsPreflight then
    p.ctap2Preflight (filterOversizedCredentials info op.allow) (op.clientDataHash p.crypto)
      op.relyingPartyId
  else pure (filterOversizedCredentials info op.allow)

/-- When nothing is left: with preflight the user is asked for a touch first,
and the device for a dummy credential. -/
def refuseList : Ctap σ T (List Ctap2PublicKeyCredentialDescriptor) :=
  if p.supportsPreflight then do
    p.sendUxUpdate .presenceRequired
    let _ ← (Proc.attempt (p.ctap2MakeCredential .dummy) :
      Ctap σ T (Except (WebAuthnError T) Ctap2MakeCredentialResponse))
    Proc.throw (.ctap .noCredentials)
  else Proc.throw (.ctap .noCredentials)

theorem refuseList_error (w : World σ T) :
    (p.refuseList w).1 = .error (.ctap .noCredentials) := by
  unfold refuseList
  split
  · obtain ⟨_, w₁, hprompt⟩ : ∃ u w₁, p.sendUxUpdate .presenceRequired w = (.ok u, w₁) :=
      ⟨_, _, rfl⟩
    have hdummy : (Proc.attempt (p.ctap2MakeCredential .dummy) : Ctap σ T _) w₁ = _ :=
      Ctap.attempt_command (p.makeCredential .dummy) (.makeCredential .dummy) w₁
    rw [Proc.bind_of_ok hprompt]
    exact congrArg Prod.fst (Proc.bind_of_ok hdummy _)
  · rfl

theorem allowList_eq {op : GetAssertionRequest} (hallow : op.allow ≠ [])
    (info : Ctap2GetInfoResponse) :
    p.allowList op info op.allow = (do
      let left ← p.remaining op info
      if left.isEmpty then p.refuseList else pure left) := by
  have hempty : (!op.allow.isEmpty) = true := by
    simp [hallow]
  unfold allowList remaining refuseList
  rw [hempty]
  simp only [Bool.and_true]
  cases p.supportsPreflight with
  | true => rfl
  | false =>
      show (if (filterOversizedCredentials info op.allow).isEmpty then _ else _) = _
      rfl

/-- The list that is sent is not empty. -/
theorem allowList_ne_nil {op : GetAssertionRequest} (hallow : op.allow ≠ [])
    {info : Ctap2GetInfoResponse} {allow : List Ctap2PublicKeyCredentialDescriptor}
    {w w' : World σ T} (h : p.allowList op info op.allow w = (.ok allow, w')) : allow ≠ [] := by
  rw [p.allowList_eq hallow] at h
  obtain ⟨left, w₁, hleft, h⟩ := Proc.bind_eq_ok_iff.mp h
  split at h
  · have hrefused := p.refuseList_error w₁
    rw [h] at hrefused
    cases hrefused
  next hne =>
    obtain ⟨hout, -⟩ := Prod.mk.inj h
    rw [← Outcome.ok.inj hout]
    exact fun hnil => hne (List.isEmpty_iff.mpr hnil)

/-- When nothing is left, the ceremony ends before its loop. -/
theorem allowList_nothing_left {op : GetAssertionRequest} (hallow : op.allow ≠ [])
    {info : Ctap2GetInfoResponse} {w w' : World σ T}
    (h : p.remaining op info w = (.ok [], w')) :
    (p.allowList op info op.allow w).1 = .error (.ctap .noCredentials) := by
  rw [p.allowList_eq hallow, Proc.bind_of_ok h]
  exact p.refuseList_error w'

/-! ## §3. Runs. -/

/-- A run from `w` gets as far as the list, and nothing of it is left. -/
def FindsNothing (op : GetAssertionRequest) (w : World σ T) : Prop :=
  writesManyCredentials op = false ∧ ∃ info w₁ request w₂, p.ctap2GetInfo w = (.ok info, w₁)
    ∧ Ctap2GetAssertionRequest.fromWebauthnRequest p.crypto op info = .ok request
    ∧ p.remaining op info w₁ = (.ok [], w₂)

theorem openAssertion_of_findsNothing {op : GetAssertionRequest} (hallow : op.allow ≠ [])
    {w : World σ T} (h : p.FindsNothing op w) :
    (p.openAssertion op w).1 = .error (.ctap .noCredentials) := by
  obtain ⟨hwrites, info, w₁, request, w₂, hinfo, hrequest, hremaining⟩ := h
  have hlist := p.allowList_nothing_left hallow hremaining
  unfold openAssertion
  rw [hwrites, if_neg (by simp), Proc.bind_of_ok hinfo,
    Proc.bind_of_ok (liftPlatform_eq_ok_iff.mpr ⟨hrequest, rfl⟩),
    Ctap2GetAssertionRequest.allow_fromWebauthnRequest hrequest]
  rcases hall : p.allowList op info op.allow w₁ with ⟨outcome, w₃⟩
  rw [hall] at hlist
  rw [Proc.bind_apply, hall, show outcome = _ from hlist]

/-- Every attempt of a restricted run is for some credential. -/
theorem assertedAttempts_allow {fuel : Nat} {op : GetAssertionRequest} (hallow : op.allow ≠ [])
    {w : World σ T} (hlog : w.session.log = {}) :
    ∀ a ∈ p.assertedAttempts fuel op w, a.sent.allow ≠ [] := by
  rcases hopening : p.openAssertion op w with ⟨outcome, w'⟩
  by_cases hopened : ∃ opened, outcome = .ok opened
  · obtain ⟨⟨info, request⟩, rfl⟩ := hopened
    obtain ⟨request₀, allow, w₁, -, hrequest, hlist, -, rfl⟩ := p.openAssertion_ok hopening
    rw [Ctap2GetAssertionRequest.allow_fromWebauthnRequest hrequest] at hlist
    have hlogged := p.assertedAttempts_opened fuel hlog hopening
    intro a hmem
    rw [(hlogged.attempted a hmem).allow]
    -- the list is decided once, and every turn passes it on
    refine hlogged.invariant (I := fun request => request.allow ≠ [])
      (p.allowList_ne_nil hallow hlist) (fun b hattempted hentry => ?_) a hmem
    rw [hattempted.allow]
    exact hentry
  · rw [p.assertedAttempts_stopped fuel hlog fun opened h =>
      hopened ⟨opened, by rw [← h, hopening]⟩]
    intro a hmem
    cases hmem

end Platform

/-- A getAssertion command is for some credential. -/
def Exchange.Restricted : Exchange T → Prop
  | .getAssertion request _ => request.allow ≠ []
  | _ => True

/-- A getAssertion command tests for a credential, silently and without
authentication. -/
def Exchange.OnlyProbes : Exchange T → Prop
  | .getAssertion request answer => Probe (.getAssertion request answer)
  | _ => True

/-- **A restricted request stays restricted**: every getAssertion command of
a run carries a list that is not empty, and when nothing is left of the
caller's list, the run ends with `NoCredentials` and no command but probes. -/
theorem getAssertionFido2_restricted (p : Platform σ T) (fuel : Nat) (op : GetAssertionRequest)
    (hallow : op.allow ≠ []) (env : σ) (authData : Option AuthTokenData) :
    (∀ x ∈ (p.getAssertionFido2 fuel op (.start env authData)).2.wire, x.Restricted)
      ∧ (p.FindsNothing op (.start env authData) →
          (p.getAssertionFido2 fuel op (.start env authData)).1 = .error (.ctap .noCredentials)
          ∧ ∀ x ∈ (p.getAssertionFido2 fuel op (.start env authData)).2.wire, x.OnlyProbes) := by
  have haccounted := p.accounted_getAssertionFido2 fuel op env authData
  constructor
  · intro x hmem
    cases x with
    | getAssertion request answer =>
        -- a probe has one credential, an attempt what is left of the list
        rcases haccounted _ hmem with ⟨credential, hash, rp, rfl⟩ | ⟨a, hlogged, rfl, -⟩
        · exact List.cons_ne_nil _ _
        · exact p.assertedAttempts_allow hallow rfl a hlogged
    | makeCredential request answer => trivial
    | getInfo answer => trivial
    | clientPin request answer => trivial
    | getNextAssertion answer => trivial
    | largeBlobs request answer => trivial
  · intro hnothing
    have hopening := p.openAssertion_of_findsNothing hallow hnothing
    have hstopped : ∀ opened, (p.openAssertion op (.start env authData)).1 ≠ .ok opened := by
      intro opened h
      rw [hopening] at h
      cases h
    -- the loop is not reached, so every assertion on the wire is a probe
    have hattempts := p.assertedAttempts_stopped fuel rfl hstopped
    refine ⟨?_, fun x hmem => ?_⟩
    · rw [p.getAssertionFido2_eq]
      exact ((Proc.bind_of_not_ok hstopped).2 _).mpr hopening
    · cases x with
      | getAssertion request answer =>
          rcases haccounted _ hmem with hprobe | ⟨a, hlogged, -⟩
          · exact hprobe
          · unfold assertedAttempts at hattempts
            rw [hattempts] at hlogged
            cases hlogged
      | makeCredential request answer => trivial
      | getInfo answer => trivial
      | clientPin request answer => trivial
      | getNextAssertion answer => trivial
      | largeBlobs request answer => trivial

/-- Of two listed credentials the device knows none. -/
def knowsNone : MockChannel :=
  { getInfo := [{}, {}]
    getAssertion := [.error (.ctap .noCredentials), .error (.ctap .noCredentials)] }

/-- The operation on those two. -/
def twoListedOp : GetAssertionRequest :=
  { plainGetAssertionOp with allow := [listedCredential 1, listedCredential 2] }

set_option maxRecDepth 8000 in
theorem getAssertionFido2_restricted_knowsNone :
    (∀ x ∈ ((mockPlatform true).getAssertionFido2 3 twoListedOp
        (.start knowsNone none)).2.wire, x.Restricted)
      ∧ ((mockPlatform true).getAssertionFido2 3 twoListedOp (.start knowsNone none)).1
        = .error (.ctap .noCredentials) :=
  have h := getAssertionFido2_restricted (mockPlatform true) 3 twoListedOp
    (List.cons_ne_nil _ _) knowsNone none
  ⟨h.1, (h.2 ⟨rfl, _, _, _, _, rfl, rfl, rfl⟩).1⟩

end Libwebauthn
