/-
  Libwebauthn.Webauthn.Verifiable — assertions that a relying party verifies.

  A device signs the authenticator data of an assertion together with the hash
  of the client data that it was sent.  The relying party is given the
  authenticator data, the client data and the signature as the members of a
  JSON model (`Assertion::to_idl_model` of `src/ops/webauthn/get_assertion.rs`)
  and hashes the client data itself.
-/
import Libwebauthn.Ops.ResponseJson
import Libwebauthn.Webauthn.Announced
import Libwebauthn.Webauthn.Restricted

namespace Libwebauthn

open Platform

variable {σ T : Type}

/-! ## §1. Signatures. -/

section

variable (verifies : (message signature : Bytes) → Prop)

/-- The signature of a response is over its authenticator data, as they came,
and this hash. -/
def Ctap2GetAssertionResponse.SignedFor (self : Ctap2GetAssertionResponse) (hash : Bytes) :
    Prop :=
  ∃ data, self.authenticatorData.raw = some data ∧ verifies (data ++ hash) self.signature

/-- A device that signs.  `remembers hash env` says that its further assertions
are for `hash`, which is that of the last request for an assertion. -/
structure Platform.Signs (p : Platform σ T) (remembers : (hash : Bytes) → σ → Prop) : Prop where
  getAssertion : ∀ {request env response env'},
    p.getAssertion request env = (.ok response, env') →
    response.SignedFor verifies request.clientDataHash ∧ remembers request.clientDataHash env'
  getNextAssertion : ∀ {hash env response env'}, remembers hash env →
    p.getNextAssertion env = (.ok response, env') →
    response.SignedFor verifies hash ∧ remembers hash env'

/-- An assertion with the authenticator data and the signature of a response. -/
def Assertion.SignedFor (self : Assertion) (hash : Bytes) : Prop :=
  ∃ data, self.authenticatorData.raw = some data ∧ verifies (data ++ hash) self.signature

/-- What a relying party checks of an assertion: the bytes that the members
are the text of verify, with the hash of the client data. -/
def AuthenticationResponseJSON.Verified (crypto : Crypto) (json : AuthenticationResponseJSON) :
    Prop :=
  ∃ authenticatorData clientDataJson signature,
    json.response.authenticatorData = crypto.base64UrlEncode authenticatorData
      ∧ json.response.clientDataJson = crypto.base64UrlEncode clientDataJson
      ∧ json.response.signature = crypto.base64UrlEncode signature
      ∧ verifies (authenticatorData ++ crypto.sha256 clientDataJson) signature

end

variable {p : Platform σ T} {verifies : (message signature : Bytes) → Prop}
  {remembers : (hash : Bytes) → σ → Prop}

/-! ## §2. The further assertions. -/

/-- A command that returned: the device's answer, and its state after it. -/
theorem command_eq_ok_iff {α : Type} {answer : σ → Except (WebAuthnError T) α × σ}
    {exchange : Except (WebAuthnError T) α → Exchange T} {w w' : World σ T} {a : α} :
    (Ctap.command answer exchange : Ctap σ T α) w = (.ok a, w')
      ↔ answer w.env = (.ok a, w'.env)
        ∧ w' = { w with env := w'.env, wire := w.wire ++ [exchange (.ok a)] } := by
  unfold Ctap.command
  rcases answer w.env with ⟨outcome, env⟩
  cases outcome with
  | error e =>
      refine ⟨fun h => ?_, fun h => ?_⟩
      · cases (Prod.mk.inj h).1
      · cases (Prod.mk.inj h.1).1
  | ok b =>
      constructor
      · intro h
        obtain ⟨hvalue, rfl⟩ := Prod.mk.inj h
        obtain rfl := Outcome.ok.inj hvalue
        exact ⟨rfl, rfl⟩
      · rintro ⟨hanswer, hworld⟩
        obtain ⟨hvalue, henv⟩ := Prod.mk.inj hanswer
        obtain rfl := Except.ok.inj hvalue
        rw [hworld, henv]

theorem validateRpIdHash_world {op : GetAssertionRequest} {response : Ctap2GetAssertionResponse}
    {w w' : World σ T} {u : Unit} (h : p.validateRpIdHash op response w = (.ok u, w')) :
    w = w' := by
  unfold validateRpIdHash at h
  split at h
  · cases (Prod.mk.inj h).1
  · exact (Prod.mk.inj h).2

theorem nextAssertions_signed (hsigns : p.Signs verifies remembers) {op : GetAssertionRequest}
    {hash : Bytes} {n : Nat} {w w' : World σ T} {rest : List Ctap2GetAssertionResponse}
    (hremembers : remembers hash w.env) (hrun : p.nextAssertions op n w = (.ok rest, w')) :
    ∀ response ∈ rest, response.SignedFor verifies hash := by
  -- by induction on the number of assertions; the device keeps the hash in mind
  induction n generalizing w w' rest with
  | zero =>
      obtain ⟨hrest, -⟩ := Prod.mk.inj hrun
      obtain rfl := Outcome.ok.inj hrest
      intro response hmem
      cases hmem
  | succ n ih =>
      unfold nextAssertions at hrun
      obtain ⟨next, w₁, hnext, hrun⟩ := Proc.bind_eq_ok_iff.mp hrun
      obtain ⟨_, w₂, hvalidate, hrun⟩ := Proc.bind_eq_ok_iff.mp hrun
      obtain ⟨rest', w₃, hrest, hrun⟩ := Proc.bind_eq_ok_iff.mp hrun
      obtain ⟨hvalue, -⟩ := Prod.mk.inj hrun
      obtain rfl := Outcome.ok.inj hvalue
      obtain ⟨hsigned, hremembers'⟩ :=
        hsigns.getNextAssertion hremembers (command_eq_ok_iff.mp hnext).1
      obtain rfl := validateRpIdHash_world hvalidate
      intro response hmem
      rcases List.mem_cons.mp hmem with rfl | hmem
      · exact hsigned
      · exact ih hremembers' hrest response hmem

/-! ## §3. The accepted response. -/

/-- A turn that has a response: it answers the attempt logged last, and nothing
is done on the device after it. -/
def AnswersLast (p : Platform σ T) :
    Ctap2GetAssertionRequest ⊕ Ctap2GetAssertionResponse → World σ T → Prop
  | .inl _, _ => True
  | .inr response, w => ∃ a env, w.session.log.asserted.getLast? = some a
      ∧ p.getAssertion a.sent env = (.ok response, w.env)

/-- Only an answer that is one goes on as a response. -/
theorem handleErrors_some {A : Type} (used : UsedPinUvAuthToken)
    (answer : Except (WebAuthnError T) A) (P : World σ T → Prop) :
    Proc.Triple P (p.handleErrors used answer)
      (fun handled w => ∀ response, handled = some response → answer = .ok response ∧ P w)
      (fun _ => True) := by
  unfold handleErrors
  split
  · exact Proc.Triple.pure fun w hw response hsome => ⟨congrArg _ (Option.some.inj hsome), hw⟩
  · exact Proc.Triple.bind _ (Proc.Triple.trivial _ _) fun _ =>
      Proc.Triple.pure fun _ _ _ hsome => by cases hsome
  · exact Proc.Triple.bind _ (Proc.Triple.trivial _ _) fun _ =>
      Proc.Triple.pure fun _ _ _ hsome => by cases hsome
  · exact Proc.Triple.bind _ (Proc.Triple.trivial _ _) fun _ =>
      Proc.Triple.bind _ (Proc.Triple.trivial _ _) fun _ => Proc.Triple.throw fun _ _ => trivial
  · exact Proc.Triple.throw fun _ _ => trivial

theorem attemptTurn_answers (op : GetAssertionRequest) (fuel : Nat)
    (entry : Ctap2GetAssertionRequest) :
    Proc.Triple (fun _ => True) (p.attemptTurn (p.getAssertionCeremony op) fuel entry)
      (AnswersLast p) (fun _ => True) := by
  refine Proc.Triple.bind _ (Proc.Triple.trivial _ _) fun start => ?_
  refine Proc.Triple.bind _ (Proc.Triple.trivial _ _) fun verified => ?_
  refine Proc.Triple.bind _ (Proc.Triple.trivial _ _) fun reached => ?_
  refine Proc.Triple.bind _ (Proc.Triple.trivial _ _) fun authData => ?_
  refine Proc.Triple.bind _ (Proc.Triple.trivial _ _) fun sent => ?_
  refine Proc.Triple.bind _ (Proc.Triple.trivial _ _) fun _ => ?_
  refine Proc.Triple.bind (fun answer w => ∃ env, p.getAssertion sent env = (answer, w.env)) ?_
    fun answer => ?_
  · intro w _
    rw [show Proc.attempt ((p.getAssertionCeremony op).send sent) w = _ from
      Ctap.attempt_command (p.getAssertion sent) (.getAssertion sent) w]
    exact ⟨w.env, rfl⟩
  refine Proc.Triple.bind (fun _ w => (∃ env, p.getAssertion sent env = (answer, w.env))
      ∧ ∃ a, w.session.log.asserted.getLast? = some a ∧ a.sent = sent) ?_ fun _ => ?_
  · refine Proc.Triple.modify fun w hw =>
      ⟨hw, ⟨entry, verified.1, authData, sent, answer, p.verification start reached⟩, ?_, rfl⟩
    show (_ ++ [_]).getLast? = _
    rw [List.getLast?_concat]
  -- the response goes on as it is
  refine Proc.Triple.bind _ (handleErrors_some verified.1 answer _) fun handled => ?_
  cases handled with
  | none => exact Proc.Triple.pure fun _ _ => trivial
  | some response =>
      refine Proc.Triple.pure fun w hw => ?_
      obtain ⟨rfl, ⟨env, hanswer⟩, a, hlast, rfl⟩ := hw response rfl
      exact ⟨a, env, hlast, hanswer⟩

theorem retryLoop_answers (op : GetAssertionRequest) (fuel : Nat)
    (request : Ctap2GetAssertionRequest) :
    Proc.Triple (fun _ => True) (p.retryLoop (p.getAssertionCeremony op) fuel request)
      (fun response => AnswersLast p (.inr response)) (fun _ => True) := by
  refine Proc.Triple.loop (fun _ _ => True) (fun entry => ?_) (fun _ _ _ => trivial) fuel request
  refine (attemptTurn_answers op fuel entry).post fun next w hw => ?_
  cases next with
  | inl entry' => exact trivial
  | inr response => exact hw

theorem exists_of_mem_forall₂ {α β : Type} {R : α → β → Prop} {as : List α} {bs : List β}
    (h : List.Forall₂ R as bs) {b : β} (hmem : b ∈ bs) : ∃ a, a ∈ as ∧ R a b := by
  induction h with
  | nil => cases hmem
  | cons hR _ ih =>
      rcases List.mem_cons.mp hmem with rfl | hmem
      · exact ⟨_, List.mem_cons_self, hR⟩
      · obtain ⟨a, ha, hR⟩ := ih hmem
        exact ⟨a, List.mem_cons_of_mem _ ha, hR⟩

/-- The client data hash of a request is that of the operation. -/
theorem clientDataHash_fromWebauthnRequest {crypto : Crypto} {op : GetAssertionRequest}
    {info : Ctap2GetInfoResponse} {request : Ctap2GetAssertionRequest}
    (h : Ctap2GetAssertionRequest.fromWebauthnRequest crypto op info = .ok request) :
    request.clientDataHash = op.clientDataHash crypto := by
  have hop : ∀ b : Bool, ∀ op' : GetAssertionRequest, op' = (if b then
      { op with extensions := op.extensions.map fun ext => { ext with largeBlob := none } }
      else op) → op'.clientDataHash crypto = op.clientDataHash crypto := by
    intro b op' hop'
    rw [hop']
    cases b <;> rfl
  unfold Ctap2GetAssertionRequest.fromWebauthnRequest at h
  dsimp only at h
  split at h
  · split at h
    · obtain ⟨ext', -, h⟩ := except_bind_eq_ok_iff.mp h
      rw [← Except.ok.inj h]
      exact hop _ _ rfl
    · rw [← Except.ok.inj h]
      exact hop _ _ rfl
  · rw [← Except.ok.inj h]
    exact hop _ _ rfl

/-! ## §4. Runs. -/

/-- **What a run gives back** was signed for the client data of the operation. -/
theorem getAssertionFido2_signed (hsigns : p.Signs verifies remembers) {fuel : Nat}
    {op : GetAssertionRequest} {w w' : World σ T} (hlog : w.session.log = {})
    {out : List Assertion} (hrun : p.getAssertionFido2 fuel op w = (.ok out, w')) :
    ∀ assertion ∈ out, assertion.SignedFor verifies (op.clientDataHash p.crypto) := by
  rw [getAssertionFido2_eq] at hrun
  obtain ⟨⟨info, request⟩, w₁, hopened, hrun⟩ := Proc.bind_eq_ok_iff.mp hrun
  obtain ⟨response, w₂, hlooped, hfinished⟩ := Proc.bind_eq_ok_iff.mp hrun
  have hlog₁ : w₁.session.log = {} := by
    have hkept := (p.dialogue_openAssertion op).keeps_session w
    rw [hopened] at hkept
    rw [hkept, hlog]
  -- the request that was answered has the hash that the loop was entered with
  obtain ⟨request₀, allow, -, -, hrequest, -, -, rfl⟩ := p.openAssertion_ok hopened
  obtain ⟨as, a, hresponded⟩ := (p.retryLoop_spec (p.lawful_getAssertionCeremony op) fuel _ {}).ok
    hlog₁ hlooped
  have hhash : a.sent.clientDataHash = op.clientDataHash p.crypto := by
    have hkeeps : ∀ a, Attempted p.crypto (p.getAssertionCeremony op) a →
        a.sent.clientDataHash = a.entry.clientDataHash :=
      fun a ha => ha.keeps_get fun _ _ _ _ _ => rfl
    have hop := clientDataHash_fromWebauthnRequest hrequest
    have hstart : ({ request₀ with allow := allow } : Ctap2GetAssertionRequest).clientDataHash
        = op.clientDataHash p.crypto := hop
    have hentry := (hresponded.retried.invariant
      (I := fun r => r.clientDataHash = op.clientDataHash p.crypto) hstart
      fun a ha hentry => (hkeeps a ha).trans hentry).2
    exact (hkeeps a hresponded.attempted).trans hentry
  obtain ⟨a', env, hlast, hanswer⟩ := (retryLoop_answers op fuel _).ok trivial hlooped
  rw [hresponded.log] at hlast
  obtain rfl : a = a' := by
    rw [show ((p.getAssertionCeremony op).log (as ++ [a]) {}).asserted = as ++ [a] from
      List.nil_append _, List.getLast?_concat] at hlast
    exact Option.some.inj hlast
  obtain ⟨hsigned, hremembers⟩ := hsigns.getAssertion hanswer
  rw [hhash] at hsigned hremembers
  -- and the further assertions are for it too
  unfold finishAssertion at hfinished
  obtain ⟨_, w₃, hvalidate, hfinished⟩ := Proc.bind_eq_ok_iff.mp hfinished
  obtain ⟨rest, w₄, hrest, hfinished⟩ := Proc.bind_eq_ok_iff.mp hfinished
  obtain ⟨_, w₅, -, hfinished⟩ := Proc.bind_eq_ok_iff.mp hfinished
  obtain ⟨outputs, w₆, -, hfinished⟩ := Proc.bind_eq_ok_iff.mp hfinished
  obtain ⟨authData, w₇, -, hfinished⟩ := Proc.bind_eq_ok_iff.mp hfinished
  obtain ⟨hout, -⟩ := Prod.mk.inj hfinished
  obtain rfl := Outcome.ok.inj hout
  have hresponses : ∀ r ∈ response :: rest,
      r.SignedFor verifies (op.clientDataHash p.crypto) := by
    intro r hmem
    rcases List.mem_cons.mp hmem with rfl | hmem
    · exact hsigned
    · exact nextAssertions_signed hsigns (validateRpIdHash_world hvalidate ▸ hremembers)
        hrest r hmem
  -- neither the conversion nor the large blobs touch what was signed
  intro assertion hmem
  obtain ⟨assertion₀, hmem₀, hblob⟩ :=
    exists_of_mem_forall₂ (withLargeBlob_attachLargeBlobs _ outputs) hmem
  obtain ⟨r, hr, rfl⟩ := List.mem_map.mp hmem₀
  cases hblob with
  | absent => exact hresponses r hr
  | attached entry => exact hresponses r hr

/-- **What a relying party checks**: for a device that signs, every assertion
that a run gives back verifies as the JSON model that is made of it. -/
theorem assertions_verified (hsigns : p.Signs verifies remembers) {fuel : Nat}
    {op : GetAssertionRequest} {w w' : World σ T} (hlog : w.session.log = {})
    {out : List Assertion} (hrun : p.getAssertionFido2 fuel op w = (.ok out, w'))
    (toVec : Option Ctap2GetAssertionResponseExtensions → Option Bytes)
    (transport : Option Transport) :
    ∀ assertion ∈ out, ∃ json,
      StampedAssertion.toIdlModel p.crypto toVec ⟨assertion, transport⟩ op = .ok json
        ∧ json.Verified verifies p.crypto := by
  intro assertion hmem
  obtain ⟨data, hraw, hverifies⟩ := getAssertionFido2_signed hsigns hlog hrun assertion hmem
  have hreceived : assertion.authenticatorData.toResponseBytes toVec = .ok data := by
    unfold AuthenticatorData.toResponseBytes
    rw [hraw]
  unfold StampedAssertion.toIdlModel
  rw [hreceived]
  exact ⟨_, rfl, data, _, _, rfl, rfl, rfl, hverifies⟩

/-! ### Two discoverable credentials, each with a signature. -/

/-- A signature that is the message. -/
def echoes (message signature : Bytes) : Prop := signature = message

def signedResponse (credential : UInt8) (hash : Bytes) : Ctap2GetAssertionResponse :=
  { plainGetAssertionResponse (some (listedCredential credential)) with
    authenticatorData := { plainAuthenticatorData with raw := some [credential] }
    signature := credential :: hash }

/-- A device that signs for two credentials: the answer for the second one
waits until it is asked for. -/
def signingPlatform : Platform MockChannel Empty :=
  { enumeratingPlatform with
    getAssertion := fun request s =>
      (.ok { signedResponse 1 request.clientDataHash with credentialsCount := some 2 },
        { s with getAssertion := [.ok (signedResponse 2 request.clientDataHash)] }) }

/-- The answers that wait are for this hash. -/
def waitsFor (hash : Bytes) (s : MockChannel) : Prop :=
  s.getAssertion = [] ∨ s.getAssertion = [.ok (signedResponse 2 hash)]

theorem signs_signingPlatform : signingPlatform.Signs echoes waitsFor where
  getAssertion := by
    intro request env response env' h
    obtain ⟨hresponse, rfl⟩ := Prod.mk.inj h
    obtain rfl := Except.ok.inj hresponse
    exact ⟨⟨[1], rfl, rfl⟩, Or.inr rfl⟩
  getNextAssertion := by
    intro hash env response env' hwaits h
    obtain ⟨hresponse, rfl⟩ := Prod.mk.inj h
    rcases hwaits with hwaits | hwaits
    · rw [hwaits] at hresponse
      cases hresponse
    · rw [hwaits] at hresponse
      obtain rfl := Except.ok.inj hresponse
      refine ⟨⟨[2], rfl, rfl⟩, Or.inl ?_⟩
      show (popAnswer env.getAssertion).2 = []
      rw [hwaits]
      rfl

set_option maxRecDepth 8000 in
theorem assertions_verified_two :
    ∃ out w', signingPlatform.getAssertionFido2 3 discoverOp (.start (twoAccounts none) none)
        = (.ok out, w')
      ∧ out.length = 2
      ∧ ∀ assertion ∈ out, ∃ json,
        StampedAssertion.toIdlModel transparentCrypto (fun _ => none) ⟨assertion, some .usb⟩
            discoverOp = .ok json
          ∧ json.Verified echoes transparentCrypto := by
  have hrun : ∃ out w', signingPlatform.getAssertionFido2 3 discoverOp
      (.start (twoAccounts none) none) = (.ok out, w') ∧ out.length = 2 := ⟨_, _, rfl, rfl⟩
  obtain ⟨out, w', hrun, hlength⟩ := hrun
  exact ⟨out, w', hrun, hlength,
    assertions_verified signs_signingPlatform rfl hrun (fun _ => none) (some .usb)⟩

end Libwebauthn
