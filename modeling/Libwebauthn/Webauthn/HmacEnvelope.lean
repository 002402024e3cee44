/-
  Libwebauthn.Webauthn.HmacEnvelope — the hmac-secret envelope, and the
  secret that opens the answer (`src/webauthn.rs`,
  `calculate_hmac` and `calculate_hmac_secret_mc` of the request models).

  The answer of the last turn is opened with the channel's data of that turn
  (`makeCredentialFido2_opens`, `getAssertionFido2_opens`).  getAssertion
  makes its envelope anew at every turn, as long as the channel holds a
  usable secret; makeCredential uses its PRF input up, so that a turn
  entered with an envelope sends it unchanged
  (`envelopes_match`, `envelope_stale`).
-/
import Libwebauthn.Webauthn.Runs
import Libwebauthn.Transport.Mock

namespace Libwebauthn

open Ctap2UserVerifiableRequest Platform

variable {σ T : Type}

/-! ## §1. Envelopes. -/

def Ctap2MakeCredentialRequest.envelope (self : Ctap2MakeCredentialRequest) :
    Option CalculatedHMACGetSecretInput :=
  self.extensions.bind (·.hmacSecretMc)

def Ctap2GetAssertionRequest.envelope (self : Ctap2GetAssertionRequest) :
    Option CalculatedHMACGetSecretInput :=
  self.extensions.bind (·.hmacSecret)

/-- Some salts sealed under the data of a channel: key agreement,
encryption, authentication and protocol version are all of that data. -/
def SealedUnder (crypto : Crypto) (authData : Option AuthTokenData)
    (envelope : CalculatedHMACGetSecretInput) : Prop :=
  ∃ data iv input, authData = some data ∧ sealSalts crypto iv data input = .ok (some envelope)

/-- A secret of the right size for its protocol: it encrypts whole blocks. -/
def AuthTokenData.CanSeal (crypto : Crypto) (self : AuthTokenData) : Prop :=
  ∀ iv salts, iv.length = 16 → salts.length % 16 = 0 →
    ∃ saltEnc, self.protocolVersion.encrypt crypto iv self.sharedSecret salts = .ok saltEnc

/-- A user verification leaves alone what its two changes do. -/
theorem UvOutcome.keeps {R β : Type} [Ctap2UserVerifiableRequest R] {crypto : Crypto}
    {requirement : UserVerificationRequirement} {info : Ctap2GetInfoResponse}
    {request request' : R}
    {before after : Option AuthTokenData} {turns : List UvTurn} {used : UsedPinUvAuthToken}
    (h : UvOutcome crypto requirement info request before turns after used request') {f : R → β}
    (hensure : ∀ r, f (ensureUvSet r) = f r)
    (hauth : ∀ {r protocol token r'}, calculateAndSetUvAuth crypto r protocol token = .ok r' →
      f r' = f r) : f request' = f request := by
  cases h with
  | persistent _ hcalc => exact hauth hcalc
  | ephemeral _ hcalc => exact hauth hcalc
  | skipped => rfl
  | legacy => exact hensure request
  | sharedSecret => rfl
  | minted _ _ _ _ hcalc => exact hauth hcalc

theorem Ctap2MakeCredentialRequest.extensions_of_uvOutcome {crypto : Crypto}
    {requirement : UserVerificationRequirement} {info : Ctap2GetInfoResponse}
    {request request' : Ctap2MakeCredentialRequest}
    {before after : Option AuthTokenData} {turns : List UvTurn} {used : UsedPinUvAuthToken}
    (h : UvOutcome crypto requirement info request before turns after used request') :
    request'.extensions = request.extensions := by
  refine h.keeps (fun _ => rfl) fun hcalc => ?_
  obtain ⟨param, -, hcalc⟩ := except_bind_eq_ok_iff.mp hcalc
  rw [← Except.ok.inj hcalc]

theorem Ctap2GetAssertionRequest.extensions_of_uvOutcome {crypto : Crypto}
    {requirement : UserVerificationRequirement} {info : Ctap2GetInfoResponse}
    {request request' : Ctap2GetAssertionRequest}
    {before after : Option AuthTokenData} {turns : List UvTurn} {used : UsedPinUvAuthToken}
    (h : UvOutcome crypto requirement info request before turns after used request') :
    request'.extensions = request.extensions := by
  refine h.keeps (fun _ => rfl) fun hcalc => ?_
  obtain ⟨param, -, hcalc⟩ := except_bind_eq_ok_iff.mp hcalc
  rw [← Except.ok.inj hcalc]

/-! ## §2. makeCredential. -/

/-- A request that is entered without an envelope leaves with none, or with
one under the data it was sealed with. -/
theorem Ctap2MakeCredentialRequest.sealedUnder_of_fresh (p : Platform σ T)
    {op : MakeCredentialRequest} {authData : Option AuthTokenData}
    {request sent : Ctap2MakeCredentialRequest}
    (hsealed : (p.makeCredentialCeremony op).Sealed authData request sent)
    (hfresh : request.envelope = none) {envelope : CalculatedHMACGetSecretInput}
    (hsent : sent.envelope = some envelope) : SealedUnder p.crypto authData envelope := by
  cases authData with
  | none =>
      rw [show sent = request from hsealed, hfresh] at hsent
      cases hsent
  | some data =>
      obtain ⟨iv, hlength, hiv⟩ := hsealed
      unfold makeCredentialCeremony at hiv
      dsimp only at hiv
      cases hext : request.extensions with
      | none =>
          rw [hext] at hiv
          rw [← Except.ok.inj hiv, hfresh] at hsent
          cases hsent
      | some ext =>
          rw [hext] at hiv
          obtain ⟨ext', hcalc, hiv⟩ := except_bind_eq_ok_iff.mp hiv
          -- a fresh request has no envelope, so the one that is sent was just sealed
          have hmc : ext.hmacSecretMc = none := by
            unfold Ctap2MakeCredentialRequest.envelope at hfresh
            rw [hext] at hfresh
            exact hfresh
          have hmc' : ext'.hmacSecretMc = some envelope := by
            rw [← Except.ok.inj hiv] at hsent
            exact hsent
          unfold Ctap2MakeCredentialsRequestExtensions.calculateHmacSecretMc at hcalc
          split at hcalc
          · rw [← Except.ok.inj hcalc, hmc] at hmc'
            cases hmc'
          · obtain ⟨sealed, hseal, hcalc⟩ := except_bind_eq_ok_iff.mp hcalc
            cases sealed with
            | none =>
                rw [← Except.ok.inj hcalc] at hmc'
                rw [show _ = ext.hmacSecretMc from rfl, hmc] at hmc'
                cases hmc'
            | some sealed =>
                rw [← Except.ok.inj hcalc] at hmc'
                obtain rfl := Option.some.inj hmc'
                exact ⟨data, iv, _, rfl, hseal⟩

/-! ## §3. getAssertion. -/

/-- Salts to seal: the PRF input of the extension names some, and they are
whole blocks. -/
def Ctap2GetAssertionRequest.HasSalts (crypto : Crypto)
    (allow : List Ctap2PublicKeyCredentialDescriptor) (self : Ctap2GetAssertionRequest) : Prop :=
  ∃ ext input, self.extensions = some ext ∧ ext.hmacInput crypto allow = .ok (some input)
    ∧ input.salts.length % 16 = 0

/-- The input of an extension is a PRF input, if any. -/
def Ctap2GetAssertionRequest.OnlyPrf (self : Ctap2GetAssertionRequest) : Prop :=
  ∀ ext input, self.extensions = some ext → ext.hmacOrPrf ≠ some (.hmacGetSecret input)

theorem PrfInputValue.salts_length (crypto : Crypto) (value : PrfInputValue) :
    (value.toHmacSecretInput crypto).salts.length % 16 = 0 := by
  unfold PrfInputValue.toHmacSecretInput HMACGetSecretInput.salts
  dsimp only
  rw [List.length_append, crypto.sha256_length]
  cases value.second with
  | none => simp
  | some second => simp [crypto.sha256_length]

theorem Ctap2GetAssertionRequestExtensions.hmacInput_length {crypto : Crypto}
    {allow : List Ctap2PublicKeyCredentialDescriptor}
    {ext : Ctap2GetAssertionRequestExtensions} {input : HMACGetSecretInput}
    (hprf : ∀ input, ext.hmacOrPrf ≠ some (.hmacGetSecret input))
    (h : ext.hmacInput crypto allow = .ok (some input)) : input.salts.length % 16 = 0 := by
  unfold hmacInput at h
  split at h
  · cases Except.ok.inj h
  next raw hraw => exact absurd hraw (hprf raw)
  · unfold prfToHmacInput at h
    split at h
    · cases h
    · obtain ⟨entry, -, h⟩ := except_bind_eq_ok_iff.mp h
      obtain ⟨value, -, rfl⟩ := Option.map_eq_some_iff.mp (Except.ok.inj h)
      exact value.salts_length crypto

/-- What an envelope calculation does: a new envelope and nothing else, or
nothing at all, which takes a missing secret or missing salts. -/
theorem Ctap2GetAssertionRequest.sealed_cases (p : Platform σ T) {op : GetAssertionRequest}
    {authData : Option AuthTokenData} {request sent : Ctap2GetAssertionRequest}
    (hsealed : (p.getAssertionCeremony op).Sealed authData request sent) :
    (sent = request ∧ ∀ data, authData = some data → data.CanSeal p.crypto →
        ¬request.HasSalts p.crypto op.allow)
      ∨ ∃ data iv ext input envelope, authData = some data ∧ request.extensions = some ext
          ∧ iv.length = 16 ∧ ext.hmacInput p.crypto op.allow = .ok (some input)
          ∧ sealSalts p.crypto iv data input = .ok (some envelope)
          ∧ sent =
            { request with extensions := some { ext with hmacSecret := some envelope } } := by
  cases authData with
  | none => exact Or.inl ⟨hsealed, fun _ h => absurd h (by simp)⟩
  | some data =>
      obtain ⟨iv, hlength, hiv⟩ := hsealed
      unfold getAssertionCeremony at hiv
      dsimp only at hiv
      -- no extensions, no salts
      cases hext : request.extensions with
      | none =>
          rw [hext] at hiv
          refine Or.inl ⟨(Except.ok.inj hiv).symm, ?_⟩
          rintro _ - - ⟨ext, input, hsome, -⟩
          rw [hext] at hsome
          cases hsome
      | some ext =>
          rw [hext] at hiv
          obtain ⟨ext', hcalc, hiv⟩ := except_bind_eq_ok_iff.mp hiv
          have hsame : ({ request with extensions := some ext } : Ctap2GetAssertionRequest)
              = request := by
            rw [← hext]
          unfold Ctap2GetAssertionRequestExtensions.calculateHmac at hcalc
          obtain ⟨input, hinput, hcalc⟩ := except_bind_eq_ok_iff.mp hcalc
          -- salts of the request, sealed unless the channel's cipher refuses them
          cases input with
          | none =>
              rw [← Except.ok.inj hiv, ← Except.ok.inj hcalc]
              refine Or.inl ⟨hsame, ?_⟩
              rintro _ - - ⟨ext₂, input₂, hext₂, hinput₂, -⟩
              rw [hext] at hext₂
              obtain rfl := Option.some.inj hext₂
              rw [hinput] at hinput₂
              cases Except.ok.inj hinput₂
          | some input =>
              obtain ⟨sealed, hseal, hcalc⟩ := except_bind_eq_ok_iff.mp hcalc
              cases sealed with
              | some envelope =>
                  rw [← Except.ok.inj hiv, ← Except.ok.inj hcalc]
                  exact Or.inr ⟨data, iv, ext, input, envelope, rfl, rfl, hlength,
                    hinput, hseal, rfl⟩
              | none =>
                  rw [← Except.ok.inj hiv, ← Except.ok.inj hcalc]
                  refine Or.inl ⟨hsame, ?_⟩
                  -- a channel that can seal would not have refused whole blocks
                  rintro data₂ hdata₂ hcan ⟨ext₂, input₂, hext₂, hinput₂, hblocks⟩
                  rw [hext] at hext₂
                  obtain rfl := Option.some.inj hdata₂
                  obtain rfl := Option.some.inj hext₂
                  rw [hinput] at hinput₂
                  obtain rfl := Option.some.inj (Except.ok.inj hinput₂)
                  obtain ⟨saltEnc, hsaltEnc⟩ := hcan iv _ hlength hblocks
                  unfold sealSalts at hseal
                  rw [hsaltEnc] at hseal
                  obtain ⟨saltAuth, -, hseal⟩ := except_bind_eq_ok_iff.mp hseal
                  cases Except.ok.inj hseal

/-- What the requests of a getAssertion loop have in common: an envelope
stands for salts that the extension still has. -/
structure Ctap2GetAssertionRequest.Resealable (crypto : Crypto)
    (allow : List Ctap2PublicKeyCredentialDescriptor) (request : Ctap2GetAssertionRequest) :
    Prop where
  onlyPrf : request.OnlyPrf
  hasSalts : request.envelope ≠ none → request.HasSalts crypto allow

/-- Nothing but the extensions matters. -/
theorem Ctap2GetAssertionRequest.Resealable.of_extensions {crypto : Crypto}
    {allow : List Ctap2PublicKeyCredentialDescriptor}
    {request request' : Ctap2GetAssertionRequest} (h : request.Resealable crypto allow)
    (hext : request'.extensions = request.extensions) : request'.Resealable crypto allow := by
  refine ⟨fun ext input hsome => h.onlyPrf ext input (hext ▸ hsome), fun hne => ?_⟩
  unfold envelope at hne
  rw [hext] at hne
  obtain ⟨ext, input, hsome, hinput⟩ := h.hasSalts hne
  exact ⟨ext, input, hext.trans hsome, hinput⟩

theorem Attempted.resealable {p : Platform σ T} {op : GetAssertionRequest}
    {a : Attempt T Ctap2GetAssertionRequest Ctap2GetAssertionResponse}
    (h : Attempted p.crypto (p.getAssertionCeremony op) a)
    (hentry : a.entry.Resealable p.crypto op.allow) : a.sent.Resealable p.crypto op.allow := by
  obtain ⟨houtcome, hsealed⟩ := h
  have hverified := hentry.of_extensions
    (Ctap2GetAssertionRequest.extensions_of_uvOutcome houtcome)
  rcases Ctap2GetAssertionRequest.sealed_cases p hsealed with
    ⟨hsame, -⟩ | ⟨data, iv, ext, input, envelope, -, hext, -, hinput, -, hsent⟩
  · rw [hsame]
    exact hverified
  · rw [hsent]
    have honly := fun input => hverified.onlyPrf ext input hext
    refine ⟨?_, fun _ => ⟨_, input, rfl, hinput,
      Ctap2GetAssertionRequestExtensions.hmacInput_length honly hinput⟩⟩
    intro ext' input' hsome
    obtain rfl := Option.some.inj hsome
    exact honly input'

/-- A turn of getAssertion: its envelope is under the channel's data, when it
is entered without one or the channel can seal. -/
theorem Attempted.sealedUnder {p : Platform σ T} {op : GetAssertionRequest}
    {a : Attempt T Ctap2GetAssertionRequest Ctap2GetAssertionResponse}
    (h : Attempted p.crypto (p.getAssertionCeremony op) a)
    (hentry : a.entry.Resealable p.crypto op.allow)
    (hfresh : a.entry.envelope = none
      ∨ ∃ data, a.authData = some data ∧ data.CanSeal p.crypto)
    {envelope : CalculatedHMACGetSecretInput} (hsent : a.sent.envelope = some envelope) :
    SealedUnder p.crypto a.authData envelope := by
  obtain ⟨houtcome, hsealed⟩ := h
  have hext := Ctap2GetAssertionRequest.extensions_of_uvOutcome houtcome
  rcases Ctap2GetAssertionRequest.sealed_cases p hsealed with
    ⟨hsame, hcannot⟩ | ⟨data, iv, ext, input, envelope', hdata, hext', -, hinput, hseal, hsent'⟩
  -- nothing was sealed here, so the envelope is the one the request came with
  · have hold : a.entry.envelope = some envelope := by
      rw [← hsent, hsame]
      unfold Ctap2GetAssertionRequest.envelope
      rw [hext]
    rcases hfresh with hnone | ⟨data, hdata, hcan⟩
    · rw [hnone] at hold
      cases hold
    · have hsalts := hentry.hasSalts (by rw [hold]; exact Option.some_ne_none _)
      refine absurd ?_ (hcannot data hdata hcan)
      obtain ⟨ext, input, hsome, hinput⟩ := hsalts
      exact ⟨ext, input, hext.trans hsome, hinput⟩
  · rw [hsent'] at hsent
    obtain rfl := Option.some.inj hsent
    exact ⟨data, iv, input, hdata, hseal⟩

/-- Extensions as they come from the operation: nothing sealed, no raw input. -/
def Ctap2GetAssertionRequestExtensions.Fresh (self : Ctap2GetAssertionRequestExtensions) : Prop :=
  self.hmacSecret = none ∧ ∀ input, self.hmacOrPrf ≠ some (.hmacGetSecret input)

theorem GetAssertionRequestExtensions.fresh_toCtap2 (self : GetAssertionRequestExtensions) :
    self.toCtap2.Fresh := by
  refine ⟨rfl, fun input h => ?_⟩
  unfold toCtap2 at h
  cases hprf : self.prf <;> simp [hprf] at h

theorem Ctap2GetAssertionRequestExtensions.Fresh.convertPrfToNative {crypto : Crypto}
    {allow : List Ctap2PublicKeyCredentialDescriptor}
    {ext ext' : Ctap2GetAssertionRequestExtensions} (h : ext.Fresh)
    (hconvert : ext.convertPrfToNative crypto allow = .ok ext') : ext'.Fresh := by
  unfold Ctap2GetAssertionRequestExtensions.convertPrfToNative at hconvert
  split at hconvert
  · split at hconvert
    · cases hconvert
    · obtain ⟨entries, -, hconvert⟩ := except_bind_eq_ok_iff.mp hconvert
      rw [← Except.ok.inj hconvert]
      exact ⟨h.1, fun input hsome => by cases hsome⟩
  · rw [← Except.ok.inj hconvert]
    exact h

/-- What a request is made of: the operation, with or without its large
blob, and maybe the device's own PRF extension in place of the PRF input. -/
theorem Ctap2GetAssertionRequest.fromWebauthnRequest_ok {crypto : Crypto}
    {op : GetAssertionRequest} {info : Ctap2GetInfoResponse} {request : Ctap2GetAssertionRequest}
    (h : fromWebauthnRequest crypto op info = .ok request) :
    ∃ op' : GetAssertionRequest, op'.extensions.bind (·.prf) = op.extensions.bind (·.prf)
      ∧ (request = op'.toCtap2 crypto
        ∨ ∃ ext ext', (op'.toCtap2 crypto).extensions = some ext
          ∧ ext.convertPrfToNative crypto (op'.toCtap2 crypto).allow = .ok ext'
          ∧ request = { op'.toCtap2 crypto with extensions := some ext' }) := by
  unfold fromWebauthnRequest at h
  dsimp only at h
  refine ⟨if !info.optionEnabled "largeBlobs" then
      { op with extensions := op.extensions.map fun ext => { ext with largeBlob := none } }
    else op, ?_, ?_⟩
  · split
    · cases op.extensions <;> rfl
    · rfl
  · split at h
    · split at h
      next ext hext =>
        obtain ⟨ext', hconvert, h⟩ := except_bind_eq_ok_iff.mp h
        exact Or.inr ⟨ext, ext', hext, hconvert, (Except.ok.inj h).symm⟩
      · exact Or.inl (Except.ok.inj h).symm
    · exact Or.inl (Except.ok.inj h).symm

/-- A ceremony opens with a request that has nothing sealed yet. -/
theorem Ctap2GetAssertionRequest.fresh_of_opens {p : Platform σ T} {op : GetAssertionRequest}
    {info : Ctap2GetInfoResponse} {request : Ctap2GetAssertionRequest}
    (h : p.OpensGet op info request) : ∀ ext, request.extensions = some ext → ext.Fresh := by
  obtain ⟨request₀, allow, hrequest, rfl⟩ := h
  have hop : ∀ (op : GetAssertionRequest) ext, (op.toCtap2 p.crypto).extensions = some ext →
      ext.Fresh := by
    intro op ext hsome
    obtain ⟨ext₀, -, rfl⟩ := Option.map_eq_some_iff.mp hsome
    exact ext₀.fresh_toCtap2
  obtain ⟨op', -, rfl | ⟨ext, ext', hext, hconvert, rfl⟩⟩ := fromWebauthnRequest_ok hrequest
  · exact hop op'
  · intro ext'' hsome
    obtain rfl := Option.some.inj hsome
    exact (hop op' ext hext).convertPrfToNative hconvert

theorem Ctap2GetAssertionRequest.resealable_of_opens {p : Platform σ T}
    {op : GetAssertionRequest} {info : Ctap2GetInfoResponse}
    {request : Ctap2GetAssertionRequest} (h : p.OpensGet op info request) :
    request.envelope = none ∧ request.Resealable p.crypto op.allow := by
  have hfresh := fresh_of_opens h
  have hnone : request.envelope = none := by
    unfold envelope
    cases hext : request.extensions with
    | none => rfl
    | some ext => exact (hfresh ext hext).1
  exact ⟨hnone, fun ext input hsome => (hfresh ext hsome).2 input, fun hne => absurd hnone hne⟩

theorem Ctap2MakeCredentialRequest.envelope_of_opens {p : Platform σ T}
    {op : MakeCredentialRequest} {info : Ctap2GetInfoResponse}
    {request : Ctap2MakeCredentialRequest} (h : p.OpensMake op info request) :
    request.envelope = none := by
  obtain ⟨request₀, exclude, hrequest, rfl⟩ := h
  obtain ⟨extensions, hextensions, hrequest⟩ := except_bind_eq_ok_iff.mp hrequest
  rw [← Except.ok.inj hrequest]
  unfold envelope
  dsimp only
  cases extensions with
  | none => rfl
  | some ext =>
      unfold requestExtensions at hextensions
      split at hextensions
      · obtain ⟨ext', hext', hextensions⟩ := except_bind_eq_ok_iff.mp hextensions
        obtain rfl := Option.some.inj (Except.ok.inj hextensions)
        obtain ⟨_, -, hext'⟩ := except_bind_eq_ok_iff.mp hext'
        obtain ⟨largeBlobKey, -, hext'⟩ := except_bind_eq_ok_iff.mp hext'
        rw [← Except.ok.inj hext']
        rfl
      · cases Except.ok.inj hextensions

/-! ## §4. Runs. -/

/-- The envelopes of a run are sealed under the channel's data at their turn,
and the answer is opened with the data of the last turn.  In makeCredential,
no turn after the first may be entered with an envelope; in getAssertion,
one that is must find a channel that can seal. -/
theorem envelopes_match (p : Platform σ T) (fuel : Nat) (env : σ)
    (authData : Option AuthTokenData) :
    (∀ op : MakeCredentialRequest,
      let made := p.madeAttempts fuel op (World.start env authData)
      (∀ a ∈ made.tail, a.entry.envelope = none) →
        (∀ a ∈ made, ∀ envelope, a.sent.envelope = some envelope →
          SealedUnder p.crypto a.authData envelope)
        ∧ ∀ out, (p.makeCredentialFido2 fuel op (World.start env authData)).1 = .ok out →
          ∃ a response info, made.getLast? = some a ∧ a.answer = .ok response
            ∧ out = response.intoMakeCredentialOutput p.crypto op (some info) a.authData)
    ∧ ∀ op : GetAssertionRequest,
      let asserted := p.assertedAttempts fuel op (World.start env authData)
      (∀ a ∈ asserted.tail, a.entry.envelope = none
          ∨ ∃ data, a.authData = some data ∧ data.CanSeal p.crypto) →
        (∀ a ∈ asserted, ∀ envelope, a.sent.envelope = some envelope →
          SealedUnder p.crypto a.authData envelope)
        ∧ ∀ out, (p.getAssertionFido2 fuel op (World.start env authData)).1 = .ok out →
          ∃ a response rest outputs, asserted.getLast? = some a ∧ a.answer = .ok response
            ∧ out = attachLargeBlobs ((response :: rest).map fun r =>
                r.intoAssertionOutput p.crypto op a.authData) outputs := by
  refine ⟨fun op hfresh => ⟨?_, fun out hok => ?_⟩, fun op hfresh => ⟨?_, fun out hok => ?_⟩⟩
  · have hran := p.ran_madeAttempts fuel op (World.start env authData) rfl
    intro a hmem envelope hsent
    obtain ⟨houtcome, hsealed⟩ := hran.attempted a hmem
    refine Ctap2MakeCredentialRequest.sealedUnder_of_fresh p hsealed ?_ hsent
    -- a first request has none of an earlier secret, and the later ones are fresh
    have hentry : a.entry.envelope = none := by
      rcases hran.entry_first a hmem with ⟨info, hopens⟩ | htail
      · exact Ctap2MakeCredentialRequest.envelope_of_opens hopens
      · exact hfresh a htail
    unfold Ctap2MakeCredentialRequest.envelope at hentry ⊢
    rw [Ctap2MakeCredentialRequest.extensions_of_uvOutcome houtcome]
    exact hentry
  · obtain ⟨info, request, response, as, a, hresponded, hout⟩ :=
      p.makeCredentialFido2_ok fuel op (World.start env authData) rfl hok
    exact ⟨a, response, info, hresponded.getLast?_madeAttempts, hresponded.answer, hout⟩
  · have hran := p.ran_assertedAttempts fuel op (World.start env authData) rfl
    intro a hmem envelope hsent
    refine (hran.attempted a hmem).sealedUnder ?_ ?_ hsent
    · exact hran.invariant (fun info request hopens =>
        (Ctap2GetAssertionRequest.resealable_of_opens hopens).2)
        (fun a hattempted => hattempted.resealable) a hmem
    · rcases hran.entry_first a hmem with ⟨info, hopens⟩ | htail
      · exact Or.inl (Ctap2GetAssertionRequest.resealable_of_opens hopens).1
      · exact hfresh a htail
  · obtain ⟨info, request, response, rest, as, a, hasserted⟩ :=
      p.getAssertionFido2_ok fuel op (World.start env authData) rfl hok
    exact ⟨a, response, rest, hasserted.out.choose, hasserted.getLast?_assertedAttempts,
      hasserted.answer, hasserted.out.choose_spec⟩

/-- A device with built-in UV that has the hmac-secret extensions. -/
def hmacSecretInfo : Ctap2GetInfoResponse :=
  { builtInUvInfo with extensions := some ["hmac-secret", "hmac-secret-mc"] }

def prfMakeCredentialOp : MakeCredentialRequest :=
  { plainMakeCredentialOp with
    extensions := some
      { appidExclude := none
        credProps := none
        credProtect := none
        credBlob := none
        largeBlob := none
        minPinLength := none
        hmacCreateSecret := none
        prf := some ⟨some ⟨[1], none⟩⟩ } }

def prfGetAssertionOp : GetAssertionRequest :=
  { plainGetAssertionOp with
    extensions := some ⟨false, some ⟨some ⟨[1], none⟩, []⟩, none, none⟩ }

/-- A device that makes a credential at once. -/
def makingDevice : MockChannel :=
  { getInfo := [hmacSecretInfo, hmacSecretInfo]
    makeCredential := [.ok plainMakeCredentialResponse] }

/-- A device that rejects the cached token, and hands out a new one. -/
def renewingDevice : MockChannel :=
  { getInfo := [hmacSecretInfo, hmacSecretInfo, hmacSecretInfo]
    clientPin := [.ok keyAgreementAnswer,
      .ok { pinUvAuthToken := some (List.replicate 32 9) }]
    makeCredential := [.error (.ctap .pinAuthInvalid), .ok plainMakeCredentialResponse]
    getAssertion := [.error (.ctap .pinAuthInvalid), .ok (plainGetAssertionResponse none)] }

theorem AuthTokenData.canSeal_transparent {data : AuthTokenData}
    (hprotocol : data.protocolVersion = .one) (hlength : data.sharedSecret.length = 32) :
    data.CanSeal transparentCrypto := by
  intro iv salts _ _
  refine ⟨salts, ?_⟩
  have hencrypt : transparentCrypto.aes256CbcEncrypt data.sharedSecret (List.replicate 16 0) salts
      = some salts := if_pos ⟨hlength, rfl⟩
  rw [hprotocol]
  unfold Ctap2PinUvAuthProtocol.encrypt
  dsimp only
  rw [hencrypt]

set_option maxRecDepth 2000 in
theorem envelopes_match_renewed :
    (∀ a ∈ (mockPlatform false).madeAttempts 3 prfMakeCredentialOp
        (World.start makingDevice (some cachedToken)),
      ∀ envelope, a.sent.envelope = some envelope →
        SealedUnder (mockPlatform false).crypto a.authData envelope)
    ∧ ∀ a ∈ (mockPlatform false).assertedAttempts 3 prfGetAssertionOp
        (World.start renewingDevice (some cachedToken)),
      ∀ envelope, a.sent.envelope = some envelope →
        SealedUnder (mockPlatform false).crypto a.authData envelope := by
  have hmade : ((mockPlatform false).madeAttempts 3 prfMakeCredentialOp
      (World.start makingDevice (some cachedToken))).tail = [] := rfl
  -- the second attempt has a shared secret again, and it can seal
  have hasserted : ((mockPlatform false).assertedAttempts 3 prfGetAssertionOp
      (World.start renewingDevice (some cachedToken))).tail.map (fun a =>
        a.authData.map fun data => (data.protocolVersion, data.sharedSecret.length))
      = [some (.one, 32)] := by decide +kernel
  have hmaking := (envelopes_match (mockPlatform false) 3 makingDevice (some cachedToken)).1
    prfMakeCredentialOp
  have hrenewing := (envelopes_match (mockPlatform false) 3 renewingDevice (some cachedToken)).2
    prfGetAssertionOp
  refine ⟨(hmaking ?_).1, (hrenewing ?_).1⟩
  · rw [hmade]
    intro a hmem
    cases hmem
  · intro a hmem
    have ha := List.mem_map_of_mem (f := fun a => a.authData.map fun data =>
      (data.protocolVersion, data.sharedSecret.length)) hmem
    rw [hasserted] at ha
    obtain ⟨data, hdata, hfields⟩ := Option.map_eq_some_iff.mp (List.mem_singleton.mp ha)
    obtain ⟨hprotocol, hlength⟩ := Prod.mk.inj hfields
    exact Or.inr ⟨data, hdata, AuthTokenData.canSeal_transparent hprotocol hlength⟩

theorem sealSalts_publicKey {crypto : Crypto} {iv : Bytes} {data : AuthTokenData}
    {input : HMACGetSecretInput} {envelope : CalculatedHMACGetSecretInput}
    (h : sealSalts crypto iv data input = .ok (some envelope)) :
    envelope.publicKey = data.keyAgreement := by
  unfold sealSalts at h
  split at h
  · cases Except.ok.inj h
  · obtain ⟨saltAuth, -, h⟩ := except_bind_eq_ok_iff.mp h
    rw [← Option.some.inj (Except.ok.inj h)]

set_option maxRecDepth 2000 in
/-- After a rejected token, makeCredential sends the envelope of the secret
that is gone. -/
theorem envelope_stale :
    ¬∀ a ∈ (mockPlatform false).madeAttempts 3 prfMakeCredentialOp
        (World.start renewingDevice (some cachedToken)),
      ∀ envelope, a.sent.envelope = some envelope →
        SealedUnder transparentCrypto a.authData envelope := by
  intro hmatch
  -- the second attempt sends the envelope sealed under the secret of the first
  have hlog : ((mockPlatform false).madeAttempts 3 prfMakeCredentialOp
      (World.start renewingDevice (some cachedToken))).map (fun a =>
        (a.sent.envelope.map (·.publicKey), a.authData.map (·.keyAgreement)))
      = [(some cachedToken.keyAgreement, some cachedToken.keyAgreement),
        (some cachedToken.keyAgreement,
          some (.ecdhEsHkdf256Key (List.replicate 32 0) (List.replicate 32 0)))] := by
    decide +kernel
  have hlogged : (some cachedToken.keyAgreement,
      some (PublicKey.ecdhEsHkdf256Key (List.replicate 32 0) (List.replicate 32 0)))
        ∈ ((mockPlatform false).madeAttempts 3 prfMakeCredentialOp
          (World.start renewingDevice (some cachedToken))).map (fun a =>
            (a.sent.envelope.map (·.publicKey), a.authData.map (·.keyAgreement))) := by
    rw [hlog]
    exact List.mem_cons_of_mem _ (List.mem_cons_self ..)
  obtain ⟨a, hmem, ha⟩ := List.mem_map.mp hlogged
  obtain ⟨hsent, hdata⟩ := Prod.mk.inj ha
  obtain ⟨envelope, henvelope, hkey⟩ := Option.map_eq_some_iff.mp hsent
  obtain ⟨data, iv, input, hauthData, hseal⟩ := hmatch a hmem envelope henvelope
  rw [hauthData, Option.map_some] at hdata
  rw [sealSalts_publicKey hseal, Option.some.inj hdata] at hkey
  exact absurd hkey (by decide)

end Libwebauthn
