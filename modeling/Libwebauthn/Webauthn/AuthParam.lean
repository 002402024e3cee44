/-
  Libwebauthn.Webauthn.AuthParam — the authentication parameters that the
  retry loops send (`handle_errors!` and its loops in `src/webauthn.rs`).

  The request is changed in place from one turn to the next.  A turn whose
  user verification ends with a token sets the parameters anew; any other
  turn sends what the one before has left (`Attempted.authConforms_iff`).
  So the parameters are those of the turn exactly when every turn after the
  first ends with a token (`authParams_conform_iff`), and a device that asks
  for another kind of verification after it has rejected a cached token gets
  the parameters of that token (`authParams_stale`).
-/
import Libwebauthn.Webauthn.Runs
import Libwebauthn.Transport.Mock

namespace Libwebauthn

open Ctap2UserVerifiableRequest Platform

variable {σ T : Type}

/-! ## §1. What a request says about authentication. -/

structure AuthFields where
  pinAuthParam : Option Bytes
  pinAuthProto : Option Nat
  clientDataHash : Bytes
  /-- `options.uv = true`. -/
  uv : Bool
  deriving Repr, DecidableEq

/-- The two ways in which a user verification changes a request. -/
class AuthenticatedRequest (R : Type) [Ctap2UserVerifiableRequest R] where
  authFields : R → AuthFields
  authFields_ensureUvSet : ∀ r : R, authFields (ensureUvSet r) = { authFields r with uv := true }
  authFields_calculateAndSetUvAuth : ∀ {crypto : Crypto} {r r' : R}
    {protocol : Ctap2PinUvAuthProtocol} {token : Bytes},
    calculateAndSetUvAuth crypto r protocol token = .ok r' →
      ∃ param, protocol.authenticate crypto token (authFields r).clientDataHash = .ok param
        ∧ authFields r' = { authFields r with
            pinAuthParam := some param
            pinAuthProto := some protocol.toNat
            uv := false }

open AuthenticatedRequest

instance : AuthenticatedRequest Ctap2MakeCredentialRequest where
  authFields r :=
    { pinAuthParam := r.pinAuthParam
      pinAuthProto := r.pinAuthProto
      clientDataHash := r.hash
      uv := r.options.bind (·.deprecatedRequireUserVerification) == some true }
  authFields_ensureUvSet _ := rfl
  authFields_calculateAndSetUvAuth {crypto r r' protocol token} h := by
    rcases hparam : protocol.authenticate crypto token r.hash with e | param
    · simp [calculateAndSetUvAuth, hparam, bind, Except.bind] at h
    · simp only [calculateAndSetUvAuth, hparam, bind, Except.bind, pure, Except.pure,
        Except.ok.injEq] at h
      refine ⟨param, rfl, ?_⟩
      subst h
      cases r.options <;> rfl

instance : AuthenticatedRequest Ctap2GetAssertionRequest where
  authFields r :=
    { pinAuthParam := r.pinAuthParam
      pinAuthProto := r.pinAuthProto
      clientDataHash := r.clientDataHash
      uv := r.options.elim false (·.requireUserVerification) }
  authFields_ensureUvSet _ := rfl
  authFields_calculateAndSetUvAuth {crypto r r' protocol token} h := by
    rcases hparam : protocol.authenticate crypto token r.clientDataHash with e | param
    · simp [calculateAndSetUvAuth, hparam, bind, Except.bind] at h
    · simp only [calculateAndSetUvAuth, hparam, bind, Except.bind, pure, Except.pure,
        Except.ok.injEq] at h
      refine ⟨param, rfl, ?_⟩
      subst h
      cases r.options <;> rfl

variable {R A : Type} [Ctap2UserVerifiableRequest R] [AuthenticatedRequest R]

/-- The results that come with a token. -/
def UsedPinUvAuthToken.authenticates : UsedPinUvAuthToken → Bool
  | .fromEphemeralStorage => true
  | .fromPersistentStorage _ => true
  | .newlyCalculated _ => true
  | .legacyUV => false
  | .sharedSecretOnly => false
  | .none => false

/-- The parameters sent are those of the attempt: there with a token only,
computed over the client data hash with the token the channel has now, and
not together with `options.uv`. -/
structure Attempt.AuthConforms (crypto : Crypto) (a : Attempt T R A) : Prop where
  param : (authFields a.sent).pinAuthParam.isSome = a.used.authenticates
  proto : (authFields a.sent).pinAuthProto.isSome = a.used.authenticates
  computed : ∀ param, (authFields a.sent).pinAuthParam = some param →
    ∃ protocol token, (a.authData.bind (·.pinUvAuthToken)) = some token
      ∧ Ctap2PinUvAuthProtocol.authenticate crypto protocol token
          (authFields a.sent).clientDataHash = .ok param
      ∧ (authFields a.sent).pinAuthProto = some protocol.toNat
  exclusive : (authFields a.sent).pinAuthParam.isSome = true → (authFields a.sent).uv = false

/-! ## §2. One attempt. -/

/-- An envelope leaves the authentication alone. -/
def Platform.Ceremony.KeepsAuth (ceremony : Ceremony σ T R A) : Prop :=
  ∀ iv authData request sent, ceremony.calculateHmac iv authData request = .ok sent →
    authFields sent = authFields request

theorem Platform.Ceremony.Sealed.authFields_eq {ceremony : Ceremony σ T R A}
    (hkeeps : ceremony.KeepsAuth) {authData : Option AuthTokenData} {request sent : R}
    (h : ceremony.Sealed authData request sent) : authFields sent = authFields request := by
  cases authData with
  | none => exact congrArg authFields h
  | some authData =>
      obtain ⟨iv, -, hiv⟩ := h
      exact hkeeps iv authData request sent hiv

variable {crypto : Crypto} {ceremony : Ceremony σ T R A} [EphemeralTokenRequest R]

/-- The parameters of a turn that ended with a token. -/
theorem Attempted.authConforms_of_authenticates {a : Attempt T R A}
    (h : Attempted crypto ceremony a) (hkeeps : ceremony.KeepsAuth)
    (hused : a.used.authenticates = true) : a.AuthConforms crypto := by
  obtain ⟨houtcome, hsealed⟩ := h
  obtain ⟨entry, used, authData, sent, answer, before, begun, turns⟩ := a
  dsimp only at houtcome hsealed hused
  -- a parameter set from the token of the channel conforms
  have hset : ∀ {verified : R} {protocol : Ctap2PinUvAuthProtocol} {token : Bytes},
      authFields sent = authFields verified →
      (authData.bind (·.pinUvAuthToken)) = some token →
      calculateAndSetUvAuth crypto entry protocol token = .ok verified →
      Attempt.AuthConforms crypto ⟨entry, used, authData, sent, answer, before, begun, turns⟩ := by
    intro verified protocol token hsame htoken hauth
    obtain ⟨param, hparam, hverified⟩ := authFields_calculateAndSetUvAuth hauth
    rw [hverified] at hsame
    refine ⟨?_, ?_, ?_, ?_⟩
    · dsimp only
      rw [hsame, hused]
      rfl
    · dsimp only
      rw [hsame, hused]
      rfl
    · intro param' hparam'
      dsimp only at hparam' ⊢
      rw [hsame] at hparam' ⊢
      obtain rfl := Option.some.inj hparam'
      exact ⟨protocol, token, htoken, hparam, rfl⟩
    · dsimp only
      rw [hsame]
      exact fun _ => rfl
  have hfields := hsealed.authFields_eq hkeeps
  -- a token was used, so it is one of the two cases that set a parameter
  cases houtcome with
  | persistent hwants =>
      rw [EphemeralTokenRequest.wantsPersistentToken] at hwants
      cases hwants
  | skipped => cases hused
  | legacy => cases hused
  | sharedSecret => cases hused
  | ephemeral htoken hauth =>
      obtain ⟨data, rfl, hdata⟩ := getUvAuthToken_eq_some htoken
      exact hset hfields hdata hauth
  | minted _ _ _ hafter hauth =>
      unfold KeepsToken at hafter
      rw [if_neg (by rw [EphemeralTokenRequest.wantsPersistentToken]; decide)] at hafter
      obtain ⟨data, rfl, htoken, _⟩ := hafter
      exact hset hfields htoken hauth

omit [EphemeralTokenRequest R] in
/-- A turn that ended without a token sends the parameters it was entered
with. -/
theorem Attempted.param_of_not_authenticates {a : Attempt T R A}
    (h : Attempted crypto ceremony a) (hkeeps : ceremony.KeepsAuth)
    (hused : a.used.authenticates = false) :
    (authFields a.sent).pinAuthParam = (authFields a.entry).pinAuthParam
      ∧ (authFields a.sent).pinAuthProto = (authFields a.entry).pinAuthProto := by
  obtain ⟨houtcome, hsealed⟩ := h
  obtain ⟨entry, used, authData, sent, answer, before, begun, turns⟩ := a
  dsimp only at houtcome hsealed hused ⊢
  rw [hsealed.authFields_eq hkeeps]
  cases houtcome with
  | persistent => cases hused
  | ephemeral => cases hused
  | minted => cases hused
  | skipped => exact ⟨rfl, rfl⟩
  | sharedSecret => exact ⟨rfl, rfl⟩
  | legacy =>
      rw [authFields_ensureUvSet]
      exact ⟨rfl, rfl⟩

/-- The turns that were retried had a token, and have set the parameters. -/
theorem Retried.authenticates {request next : R} {as : List (Attempt T R A)}
    (h : Retried crypto ceremony request as next) (hkeeps : ceremony.KeepsAuth) :
    (∀ a ∈ as, Attempted crypto ceremony a ∧ a.used.authenticates = true)
      ∧ (as ≠ [] → (authFields next).pinAuthParam.isSome = true)
      ∧ (as = [] → next = request) := by
  induction h with
  | start => exact ⟨by simp, fun hne => absurd rfl hne, fun _ => rfl⟩
  | @retry as a hbefore hattempted hused hanswer ih =>
      have htoken : a.used.authenticates = true := by rw [hused]; rfl
      refine ⟨?_, fun _ => ?_, by simp⟩
      · intro b hmem
        rcases List.mem_append.mp hmem with hmem | hmem
        · exact ih.1 b hmem
        · rw [List.mem_singleton.mp hmem]
          exact ⟨hattempted, htoken⟩
      · rw [(hattempted.authConforms_of_authenticates hkeeps htoken).param]
        exact htoken

/-- The first turn of a loop conforms, with a token or without. -/
theorem Attempted.authConforms_of_first {a : Attempt T R A} (h : Attempted crypto ceremony a)
    (hkeeps : ceremony.KeepsAuth) (hparam : (authFields a.entry).pinAuthParam = none)
    (hproto : (authFields a.entry).pinAuthProto = none) : a.AuthConforms crypto := by
  by_cases htoken : a.used.authenticates = true
  · exact h.authConforms_of_authenticates hkeeps htoken
  rw [Bool.not_eq_true] at htoken
  obtain ⟨hsame, hsame'⟩ := h.param_of_not_authenticates hkeeps htoken
  rw [hparam] at hsame
  rw [hproto] at hsame'
  refine ⟨?_, ?_, ?_, ?_⟩
  · rw [hsame, htoken]
    rfl
  · rw [hsame', htoken]
    rfl
  · intro param hsent
    rw [hsame] at hsent
    cases hsent
  · intro hsent
    rw [hsame] at hsent
    cases hsent

/-- The attempts of a loop whose request came without parameters: they all
conform exactly when those after the first end with a token. -/
theorem Logged.authConforms_iff {request : R} {as : List (Attempt T R A)}
    (h : Logged crypto ceremony request as) (hkeeps : ceremony.KeepsAuth)
    (hparam : (authFields request).pinAuthParam = none)
    (hproto : (authFields request).pinAuthProto = none) :
    (∀ a ∈ as, a.AuthConforms crypto) ↔ ∀ a ∈ as.tail, a.used.authenticates = true := by
  have hall : ∀ {as : List (Attempt T R A)},
      (∀ a ∈ as, Attempted crypto ceremony a ∧ a.used.authenticates = true) →
      ∀ a ∈ as, a.AuthConforms crypto :=
    fun has a hmem => (has a hmem).1.authConforms_of_authenticates hkeeps (has a hmem).2
  cases h with
  -- every attempt before the last one used a token; the last may not have
  | going hbefore =>
      have hused := (hbefore.authenticates hkeeps).1
      exact ⟨fun _ a hmem => (hused a (List.mem_of_mem_tail hmem)).2, fun _ => hall hused⟩
  | @ended as a hbefore hattempted =>
      obtain ⟨hused, hnext, hfirst⟩ := hbefore.authenticates hkeeps
      cases as with
      | nil =>
          have hentry := hfirst rfl
          refine ⟨fun _ b hmem => absurd hmem (by simp), fun _ b hmem => ?_⟩
          rw [List.mem_singleton.mp hmem]
          exact hattempted.authConforms_of_first hkeeps (by rw [hentry, hparam])
            (by rw [hentry, hproto])
      | cons first as =>
          constructor
          · intro hconforms b hmem
            rcases List.mem_append.mp hmem with hmem | hmem
            · exact (hused b (List.mem_cons_of_mem _ hmem)).2
            · rw [List.mem_singleton.mp hmem]
              -- without a token it would have kept the parameter of the attempt before
              by_contra htoken
              rw [Bool.not_eq_true] at htoken
              have hsent := (hconforms a (by simp)).param
              rw [(hattempted.param_of_not_authenticates hkeeps htoken).1, htoken,
                hnext (by simp)] at hsent
              cases hsent
          · intro htokens b hmem
            rcases List.mem_append.mp hmem with hmem | hmem
            · exact hall hused b hmem
            · rw [List.mem_singleton.mp hmem]
              exact hattempted.authConforms_of_authenticates hkeeps (htokens a (by simp))

/-! ## §3. The ceremonies. -/

theorem keepsAuth_makeCredentialCeremony (p : Platform σ T) (op : MakeCredentialRequest) :
    (p.makeCredentialCeremony op).KeepsAuth := by
  intro iv authData request sent h
  unfold makeCredentialCeremony at h
  dsimp only at h
  cases hext : request.extensions with
  | none =>
      rw [hext] at h
      rw [← Except.ok.inj h]
  | some ext =>
      rw [hext] at h
      obtain ⟨ext', -, h⟩ := except_bind_eq_ok_iff.mp h
      rw [← Except.ok.inj h]
      rfl

theorem keepsAuth_getAssertionCeremony (p : Platform σ T) (op : GetAssertionRequest) :
    (p.getAssertionCeremony op).KeepsAuth := by
  intro iv authData request sent h
  unfold getAssertionCeremony at h
  dsimp only at h
  cases hext : request.extensions with
  | none =>
      rw [hext] at h
      rw [← Except.ok.inj h]
  | some ext =>
      rw [hext] at h
      obtain ⟨ext', -, h⟩ := except_bind_eq_ok_iff.mp h
      rw [← Except.ok.inj h]
      rfl

/-- A ceremony opens with a request without parameters. -/
theorem pinAuthParam_of_opensMake {p : Platform σ T} {op : MakeCredentialRequest}
    {info : Ctap2GetInfoResponse} {request : Ctap2MakeCredentialRequest}
    (h : p.OpensMake op info request) :
    request.pinAuthParam = none ∧ request.pinAuthProto = none := by
  obtain ⟨request₀, exclude, hrequest, rfl⟩ := h
  obtain ⟨extensions, -, hrequest⟩ := except_bind_eq_ok_iff.mp hrequest
  rw [← Except.ok.inj hrequest]
  exact ⟨rfl, rfl⟩

theorem pinAuthParam_of_opensGet {p : Platform σ T} {op : GetAssertionRequest}
    {info : Ctap2GetInfoResponse} {request : Ctap2GetAssertionRequest}
    (h : p.OpensGet op info request) :
    request.pinAuthParam = none ∧ request.pinAuthProto = none := by
  obtain ⟨request₀, allow, hrequest, rfl⟩ := h
  unfold Ctap2GetAssertionRequest.fromWebauthnRequest at hrequest
  dsimp only at hrequest
  split at hrequest
  · split at hrequest
    · obtain ⟨ext, -, hrequest⟩ := except_bind_eq_ok_iff.mp hrequest
      rw [← Except.ok.inj hrequest]
      exact ⟨rfl, rfl⟩
    · rw [← Except.ok.inj hrequest]
      exact ⟨rfl, rfl⟩
  · rw [← Except.ok.inj hrequest]
    exact ⟨rfl, rfl⟩

/-- The authentication parameters of every request a ceremony sends are
those of its own turn, in a run of which each turn after the first ends with
a token, and in no other. -/
theorem authParams_conform_iff (p : Platform σ T) (fuel : Nat) (env : σ)
    (authData : Option AuthTokenData) :
    (∀ op : MakeCredentialRequest,
      let made := p.madeAttempts fuel op (World.start env authData)
      (∀ a ∈ made, a.AuthConforms p.crypto) ↔ ∀ a ∈ made.tail, a.used.authenticates = true)
    ∧ ∀ op : GetAssertionRequest,
      let asserted := p.assertedAttempts fuel op (World.start env authData)
      (∀ a ∈ asserted, a.AuthConforms p.crypto)
        ↔ ∀ a ∈ asserted.tail, a.used.authenticates = true := by
  refine ⟨fun op => ?_, fun op => ?_⟩
  · have hran := p.ran_madeAttempts fuel op (World.start env authData) rfl
    dsimp only
    generalize p.madeAttempts fuel op (World.start env authData) = made at hran
    cases hran with
    | stopped => simp
    | looped hopens hlogged =>
        obtain ⟨hparam, hproto⟩ := pinAuthParam_of_opensMake hopens
        exact hlogged.authConforms_iff (keepsAuth_makeCredentialCeremony p op) hparam hproto
  · have hran := p.ran_assertedAttempts fuel op (World.start env authData) rfl
    dsimp only
    generalize p.assertedAttempts fuel op (World.start env authData) = asserted at hran
    cases hran with
    | stopped => simp
    | looped hopens hlogged =>
        obtain ⟨hparam, hproto⟩ := pinAuthParam_of_opensGet hopens
        exact hlogged.authConforms_iff (keepsAuth_getAssertionCeremony p op) hparam hproto

/-- A device with a PIN and the built-in UV of CTAP 2.0. -/
def legacyUvInfo : Ctap2GetInfoResponse :=
  { options := some [("uv", true), ("clientPin", true)], pinAuthProtos := some [1] }

/-- A device that rejects the first request. -/
def rejectingDevice : MockChannel :=
  { getInfo := [legacyUvInfo, legacyUvInfo, legacyUvInfo]
    getAssertion := [.error (.ctap .pinAuthInvalid), .error (.ctap .operationDenied)] }

set_option maxRecDepth 2000 in
/-- The second request goes out with `options.uv`, and with the parameter of
the rejected token. -/
theorem authParams_stale :
    ¬∀ a ∈ (mockPlatform false).assertedAttempts 2 plainGetAssertionOp
        (World.start rejectingDevice (some cachedToken)),
      a.AuthConforms transparentCrypto := by
  intro hconforms
  have hlog : ((mockPlatform false).assertedAttempts 2 plainGetAssertionOp
      (World.start rejectingDevice (some cachedToken))).map
        (fun a => (a.used, (authFields a.sent).pinAuthParam.isSome, (authFields a.sent).uv))
      = [(.fromEphemeralStorage, true, false), (.legacyUV, true, true)] := rfl
  obtain ⟨a, hmem, ha⟩ := List.mem_map.mp (hlog ▸ List.mem_cons_of_mem _ (List.mem_cons_self ..) :
    (UsedPinUvAuthToken.legacyUV, true, true) ∈ _)
  have hexclusive := (hconforms a hmem).exclusive
  simp only [Prod.mk.injEq] at ha
  rw [ha.2.1, ha.2.2] at hexclusive
  exact absurd (hexclusive rfl) (by decide)

end Libwebauthn
