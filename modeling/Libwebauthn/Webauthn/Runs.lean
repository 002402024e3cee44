/-
  Libwebauthn.Webauthn.Runs — whole runs of the ceremonies
  (`make_credential_fido2` and `get_assertion_fido2` of `src/webauthn.rs`).

  A ceremony opens its retry loop with the request of the operation, up to
  the list of credentials (`Opens`).  `makeCredentialFido2_spec` and
  `getAssertionFido2_spec` say what is in the log however a run ends, and
  what the result of a run that returned is made of.
-/
import Libwebauthn.Webauthn.Attempts

namespace Libwebauthn

variable {σ T : Type}

namespace Platform

variable (p : Platform σ T)

/-! ## §1. Before the loop. -/

/-- A silent request for a single credential, or the dummy request. -/
def Probe : Exchange T → Prop
  | .getAssertion request _ =>
      ∃ credential clientDataHash rp, request = preflightRequest credential clientDataHash rp
  | .makeCredential request _ => request = .dummy
  | _ => False

/-- A probe sends probes: the request has the one credential, and asks for no
user presence. -/
theorem dialogue_preflightOne (credential : Ctap2PublicKeyCredentialDescriptor)
    (clientDataHash : Bytes) (rp : String) :
    Ctap.Dialogue Probe (p.preflightOne credential clientDataHash rp) := by
  refine Ctap.Dialogue.bind (Ctap.Dialogue.attempt (.command _ _ fun _ => ⟨_, _, _, rfl⟩))
    fun answer => ?_
  split
  · exact Ctap.Dialogue.pure _
  · exact Ctap.Dialogue.pure _
  · exact Ctap.Dialogue.throw _

theorem dialogue_preflightCredential (credential : Ctap2PublicKeyCredentialDescriptor)
    (clientDataHash : Bytes) (rp : String) (appidExclude : Option String) :
    Ctap.Dialogue Probe
      (p.preflightCredential credential clientDataHash rp appidExclude) := by
  refine Ctap.Dialogue.bind (p.dialogue_preflightOne _ _ _) fun found => ?_
  split
  · exact Ctap.Dialogue.pure _
  · cases appidExclude with
    | some appid => exact p.dialogue_preflightOne _ _ _
    | none => exact Ctap.Dialogue.pure _

/-- One probe for each credential, under one or both relying party IDs. -/
theorem dialogue_ctap2PreflightWithAppid
    (credentials : List Ctap2PublicKeyCredentialDescriptor) (clientDataHash : Bytes)
    (rp : String) (appidExclude : Option String) :
    Ctap.Dialogue Probe
      (p.ctap2PreflightWithAppid credentials clientDataHash rp appidExclude) := by
  induction credentials with
  | nil => exact Ctap.Dialogue.pure _
  | cons credential credentials ih =>
      refine Ctap.Dialogue.bind (p.dialogue_preflightCredential _ _ _ _) fun found => ?_
      exact Ctap.Dialogue.bind ih fun _ => Ctap.Dialogue.pure _

/-- Before the loop, a registration sends only probes of its exclude list. -/
theorem dialogue_excludeList (op : MakeCredentialRequest) (info : Ctap2GetInfoResponse)
    (exclude : Option (List Ctap2PublicKeyCredentialDescriptor)) :
    Ctap.Dialogue Probe (p.excludeList op info exclude) := by
  unfold excludeList
  split
  · exact Ctap.Dialogue.pure _
  · split
    · exact Ctap.Dialogue.bind (p.dialogue_ctap2PreflightWithAppid _ _ _ _)
        fun _ => Ctap.Dialogue.pure _
    · exact Ctap.Dialogue.pure _

/-- Before the loop, an assertion sends only probes of its allow list. -/
theorem dialogue_allowList (op : GetAssertionRequest) (info : Ctap2GetInfoResponse)
    (allow : List Ctap2PublicKeyCredentialDescriptor) :
    Ctap.Dialogue Probe (p.allowList op info allow) := by
  unfold allowList
  dsimp only
  split
  · refine Ctap.Dialogue.bind (p.dialogue_ctap2PreflightWithAppid _ _ _ _)
      fun filteredAllowList => ?_
    split
    · refine Ctap.Dialogue.bind (Ctap.Dialogue.tell _) fun _ => ?_
      exact Ctap.Dialogue.bind (Ctap.Dialogue.attempt (.command _ _ fun _ => rfl))
        fun _ => Ctap.Dialogue.throw _
    · exact Ctap.Dialogue.pure _
  · split
    · exact Ctap.Dialogue.throw _
    · exact Ctap.Dialogue.pure _

/-! ## §2. After the loop. -/

/-- The check of the answer sends nothing. -/
theorem dialogue_validateRpIdHash (op : GetAssertionRequest)
    (resp : Ctap2GetAssertionResponse) {S : Exchange T → Prop} :
    Ctap.Dialogue S (p.validateRpIdHash op resp) := by
  unfold validateRpIdHash
  split
  · exact Ctap.Dialogue.throw _
  · exact Ctap.Dialogue.pure _

/-- A request for the next assertion. -/
def Further : Exchange T → Prop
  | .getNextAssertion _ => True
  | _ => False

/-- The further assertions are fetched by getNextAssertion commands and by
nothing else. -/
theorem dialogue_nextAssertions (op : GetAssertionRequest) :
    ∀ n, Ctap.Dialogue Further (p.nextAssertions op n) := by
  intro n
  induction n with
  | zero => exact Ctap.Dialogue.pure _
  | succ n ih =>
      refine Ctap.Dialogue.bind (Ctap.Dialogue.command _ _ fun _ => trivial) fun next => ?_
      refine Ctap.Dialogue.bind (p.dialogue_validateRpIdHash _ _) fun _ => ?_
      exact Ctap.Dialogue.bind ih fun _ => Ctap.Dialogue.pure _

theorem dialogue_writeOrDeleteForFirst (resp : Ctap2GetAssertionResponse)
    (authData : Option AuthTokenData) (maxFragment : Nat) (op : WriteOrDelete) :
    Ctap.Dialogue Exchange.Auxiliary (p.writeOrDeleteForFirst resp authData maxFragment op) := by
  unfold writeOrDeleteForFirst
  split
  · exact Ctap.Dialogue.pure _
  · refine Ctap.Dialogue.bind (Ctap.Dialogue.attempt ?_) fun _ => Ctap.Dialogue.pure _
    cases op with
    | write payload => exact p.dialogue_writeAuthenticatorLargeBlob _ _ _ _
    | delete => exact p.dialogue_deleteAuthenticatorLargeBlob _ _ _

/-- Behind the answer there are large blob commands at most. -/
theorem dialogue_largeBlobOutputs (op : GetAssertionRequest) (info : Ctap2GetInfoResponse)
    (responses : List Ctap2GetAssertionResponse) :
    Ctap.Dialogue Exchange.Auxiliary (p.largeBlobOutputs op info responses) := by
  have hwrite : ∀ action, Ctap.Dialogue Exchange.Auxiliary
      (p.writeLargeBlob (maxFragmentLength info.maxMsgSize) responses action) := by
    intro action
    refine Ctap.Dialogue.bind Ctap.Dialogue.getAuthData fun authData => ?_
    cases responses with
    | nil => exact Ctap.Dialogue.pure _
    | cons resp rest =>
        exact Ctap.Dialogue.bind (p.dialogue_writeOrDeleteForFirst _ _ _ _)
          fun _ => Ctap.Dialogue.pure _
  unfold largeBlobOutputs
  split
  · refine Ctap.Dialogue.bind ?_ fun _ => Ctap.Dialogue.pure _
    unfold fetchEntriesFor
    split
    · exact Ctap.Dialogue.bind (Ctap.Dialogue.attempt (p.dialogue_fetchLargeBlobEntries _))
        fun _ => Ctap.Dialogue.pure _
    · exact Ctap.Dialogue.pure _
  · exact hwrite _
  · exact hwrite _
  · exact Ctap.Dialogue.pure _

/-! ## §3. Runs. -/

/-- The log of a registration grows by its attempts, in order. -/
theorem lawful_makeCredentialCeremony (op : MakeCredentialRequest) :
    (p.makeCredentialCeremony op).Lawful where
  log_append as bs l := by
    show CeremonyLog.mk _ _ _ = CeremonyLog.mk _ _ _
    rw [← List.append_assoc]
    rfl
  log_nil l := by
    show CeremonyLog.mk _ _ _ = l
    rw [List.append_nil]
  send request :=
    (Ctap.Dialogue.command (S := fun _ => True) _ _ fun _ => trivial).keeps_session

/-- The log of an assertion grows by its attempts, in order. -/
theorem lawful_getAssertionCeremony (op : GetAssertionRequest) :
    (p.getAssertionCeremony op).Lawful where
  log_append as bs l := by
    show CeremonyLog.mk _ _ _ = CeremonyLog.mk _ _ _
    rw [← List.append_assoc]
    rfl
  log_nil l := by
    show CeremonyLog.mk _ _ _ = l
    rw [List.append_nil]
  send request :=
    (Ctap.Dialogue.command (S := fun _ => True) _ _ fun _ => trivial).keeps_session

/-- The request of the operation, with another list of credentials. -/
def OpensMake (op : MakeCredentialRequest) (info : Ctap2GetInfoResponse)
    (request : Ctap2MakeCredentialRequest) : Prop :=
  ∃ request₀ exclude,
    (Ctap2MakeCredentialRequest.fromWebauthnRequest p.crypto op info :
      Except (WebAuthnError T) Ctap2MakeCredentialRequest) = .ok request₀
    ∧ request = { request₀ with exclude := exclude }

def OpensGet (op : GetAssertionRequest) (info : Ctap2GetInfoResponse)
    (request : Ctap2GetAssertionRequest) : Prop :=
  ∃ request₀ allow,
    Ctap2GetAssertionRequest.fromWebauthnRequest p.crypto op info = .ok request₀
    ∧ request = { request₀ with allow := allow }

/-- The attempts of a run: none when it stops before its loop. -/
inductive Ran {R A : Type} [Ctap2UserVerifiableRequest R] (ceremony : Ceremony σ T R A)
    (opens : Ctap2GetInfoResponse → R → Prop) : List (Attempt T R A) → Prop where
  | stopped : Ran ceremony opens []
  | looped {info : Ctap2GetInfoResponse} {request : R} {as : List (Attempt T R A)}
      (hopens : opens info request) (hlogged : Logged p.crypto ceremony request as) :
      Ran ceremony opens as

namespace Ran

variable {p} {R A : Type} [Ctap2UserVerifiableRequest R] {ceremony : Ceremony σ T R A}
  {opens : Ctap2GetInfoResponse → R → Prop} {as : List (Attempt T R A)}

/-- Each attempt of a run is one turn of the loop. -/
theorem attempted (h : p.Ran ceremony opens as) : ∀ a ∈ as, Attempted p.crypto ceremony a := by
  cases h with
  | stopped => intro a hmem; cases hmem
  | looped _ hlogged => exact hlogged.attempted

/-- The first attempt goes in with the request the run was opened with. -/
theorem entry_first (h : p.Ran ceremony opens as) :
    ∀ a ∈ as, (∃ info, opens info a.entry) ∨ a ∈ as.tail := by
  cases h with
  | stopped => intro a hmem; cases hmem
  | @looped info request _ hopens hlogged =>
      intro a hmem
      refine (hlogged.entry_first a hmem).imp (fun hentry => ?_) id
      exact ⟨info, hentry ▸ hopens⟩

/-- **The loop rule**: what holds of the opened request and is kept by each
turn holds of every request that goes in. -/
theorem invariant (h : p.Ran ceremony opens as) {I : R → Prop}
    (hstart : ∀ info request, opens info request → I request)
    (hstep : ∀ a, Attempted p.crypto ceremony a → I a.entry → I a.sent) :
    ∀ a ∈ as, I a.entry := by
  cases h with
  | stopped => intro a hmem; cases hmem
  | looped hopens hlogged => exact hlogged.invariant (hstart _ _ hopens) hstep

end Ran

/-- A run of makeCredential, however it ends, and the result of one that
returned. -/
theorem makeCredentialFido2_spec (fuel : Nat) (op : MakeCredentialRequest)
    (l : CeremonyLog T) :
    Proc.Triple (fun w => w.session.log = l) (p.makeCredentialFido2 fuel op)
      (fun out w => ∃ info request response as a, p.OpensMake op info request
        ∧ p.Responded (p.makeCredentialCeremony op) request l response w as a
        ∧ out = response.intoMakeCredentialOutput p.crypto op (some info) a.authData)
      (fun w => ∃ as, p.Ran (p.makeCredentialCeremony op) (p.OpensMake op) as
        ∧ w.session.log = (p.makeCredentialCeremony op).log as l) := by
  have hlawful := p.lawful_makeCredentialCeremony op
  -- the steps before the loop leave the log as it was
  have hframe : ∀ {α : Type} {m : Ctap σ T α} {S : Exchange T → Prop}, Ctap.Dialogue S m →
      Proc.Triple (fun w => w.session.log = l) m (fun _ w => w.session.log = l)
        (fun w => ∃ as, p.Ran (p.makeCredentialCeremony op) (p.OpensMake op) as
          ∧ w.session.log = (p.makeCredentialCeremony op).log as l) :=
    fun hdialogue => (hdialogue.keeps_session.triple fun s => s.log = l).conseq (fun _ => id)
      (fun _ _ => id)
      fun w hw => ⟨[], .stopped, by rw [hlawful.log_nil, hw]⟩
  refine Proc.Triple.bind _ (hframe p.dialogue_ctap2GetInfo) fun info => ?_
  refine Proc.Triple.bind (fun request₀ w => (Ctap2MakeCredentialRequest.fromWebauthnRequest
      p.crypto op info : Except (WebAuthnError T) Ctap2MakeCredentialRequest) = .ok request₀
      ∧ w.session.log = l)
    (Proc.Triple.ofExcept (fun request₀ hrequest w hw => ⟨hrequest, hw⟩)
      fun w hw => ⟨[], .stopped, by rw [hlawful.log_nil, hw]⟩) fun request₀ => ?_
  refine Proc.Triple.of_fact fun hrequest => ?_
  refine Proc.Triple.bind _ (hframe (p.dialogue_excludeList _ _ _)) fun exclude => ?_
  dsimp only
  refine Proc.Triple.bind _ (hframe (S := Probe) (Ctap.Dialogue.liftPlatform _)) fun _ => ?_
  have hopens : p.OpensMake op info { request₀ with exclude := exclude } :=
    ⟨request₀, exclude, hrequest, rfl⟩
  refine Proc.Triple.bind _ ((p.retryLoop_spec hlawful fuel _ l).conseq (fun _ => id)
    (fun _ _ => id) fun w hw => let ⟨as, hlogged, hlog⟩ := hw
      ⟨as, .looped hopens hlogged, hlog⟩) fun response => ?_
  rintro w ⟨as, a, hresponded⟩
  refine ⟨info, _, response, as, a, hopens, hresponded, ?_⟩
  rw [← hresponded.authData]

/-- What a run of getAssertion that returned is made of: the attempts `as`
that were retried, the last one `a`, and the further responses. -/
structure Asserted (op : GetAssertionRequest) (l : CeremonyLog T) (out : List Assertion)
    (w : World σ T) (info : Ctap2GetInfoResponse) (request : Ctap2GetAssertionRequest)
    (response : Ctap2GetAssertionResponse) (rest : List Ctap2GetAssertionResponse)
    (as : List (Attempt T Ctap2GetAssertionRequest Ctap2GetAssertionResponse))
    (a : Attempt T Ctap2GetAssertionRequest Ctap2GetAssertionResponse) : Prop where
  opens : p.OpensGet op info request
  retried : Retried p.crypto (p.getAssertionCeremony op) request as a.entry
  attempted : Attempted p.crypto (p.getAssertionCeremony op) a
  answer : a.answer = .ok response
  asserted : w.session.log.asserted = l.asserted ++ (as ++ [a])
  responses : w.session.log.responses = l.responses ++ (response :: rest)
  authData : w.session.authData = a.authData
  out : ∃ outputs, out = attachLargeBlobs
    ((response :: rest).map fun r => r.intoAssertionOutput p.crypto op a.authData) outputs

/-- From the accepted response on, only the responses are added to the log. -/
theorem finishAssertion_spec (op : GetAssertionRequest) (info : Ctap2GetInfoResponse)
    (response : Ctap2GetAssertionResponse) (authData : Option AuthTokenData)
    (l : CeremonyLog T) :
    Proc.Triple (fun w => w.session.authData = authData ∧ w.session.log = l)
      (p.finishAssertion op info response)
      (fun out w => w.session.authData = authData ∧ w.session.log.asserted = l.asserted
        ∧ ∃ rest outputs, w.session.log.responses = l.responses ++ (response :: rest)
          ∧ out = attachLargeBlobs ((response :: rest).map fun r =>
              r.intoAssertionOutput p.crypto op authData) outputs)
      (fun w => w.session.log.asserted = l.asserted) := by
  -- none of the commands touches the session but the one that logs the responses
  have hframe : ∀ {α : Type} {m : Ctap σ T α} {S : Exchange T → Prop} (l' : CeremonyLog T),
      l'.asserted = l.asserted → Ctap.Dialogue S m →
      Proc.Triple (fun w => w.session.authData = authData ∧ w.session.log = l') m
        (fun _ w => w.session.authData = authData ∧ w.session.log = l')
        (fun w => w.session.log.asserted = l.asserted) :=
    fun l' hasserted hdialogue =>
      (hdialogue.keeps_session.triple fun s => s.authData = authData ∧ s.log = l').conseq
        (fun _ => id) (fun _ _ => id) fun w hw => by rw [hw.2, hasserted]
  refine Proc.Triple.bind _ (hframe (S := Further) l rfl (p.dialogue_validateRpIdHash _ _))
    fun _ => ?_
  refine Proc.Triple.bind _ (hframe l rfl (p.dialogue_nextAssertions _ _)) fun rest => ?_
  dsimp only
  refine Proc.Triple.bind (fun _ w => w.session.authData = authData
      ∧ w.session.log = { l with responses := l.responses ++ (response :: rest) })
    (Proc.Triple.modify fun w hw => ⟨hw.1, by rw [← hw.2]⟩) fun _ => ?_
  refine Proc.Triple.bind _ (hframe _ rfl (p.dialogue_largeBlobOutputs _ _ _))
    fun outputs => ?_
  rintro w ⟨rfl, hlog⟩
  exact ⟨rfl, by rw [hlog], rest, outputs, by rw [hlog], rfl⟩

/-- What a run leaves behind, however it ends: with assertions from its last
attempt, or with an error behind some attempts. -/
theorem getAssertionFido2_spec (fuel : Nat) (op : GetAssertionRequest) (l : CeremonyLog T) :
    Proc.Triple (fun w => w.session.log = l) (p.getAssertionFido2 fuel op)
      (fun out w => ∃ info request response rest as a,
        p.Asserted op l out w info request response rest as a)
      (fun w => ∃ as, p.Ran (p.getAssertionCeremony op) (p.OpensGet op) as
        ∧ w.session.log.asserted = l.asserted ++ as) := by
  have hlawful := p.lawful_getAssertionCeremony op
  -- up to the loop nothing is asserted
  have hstopped : ∀ w : World σ T, w.session.log = l →
      ∃ as, p.Ran (p.getAssertionCeremony op) (p.OpensGet op) as
        ∧ w.session.log.asserted = l.asserted ++ as :=
    fun w hw => ⟨[], .stopped, by rw [hw, List.append_nil]⟩
  have hframe : ∀ {α : Type} {m : Ctap σ T α} {S : Exchange T → Prop}, Ctap.Dialogue S m →
      Proc.Triple (fun w => w.session.log = l) m (fun _ w => w.session.log = l)
        (fun w => ∃ as, p.Ran (p.getAssertionCeremony op) (p.OpensGet op) as
          ∧ w.session.log.asserted = l.asserted ++ as) :=
    fun hdialogue => (hdialogue.keeps_session.triple fun s => s.log = l).conseq (fun _ => id)
      (fun _ _ => id)
      hstopped
  unfold getAssertionFido2
  split
  · exact Proc.Triple.throw hstopped
  refine Proc.Triple.bind _ (hframe p.dialogue_ctap2GetInfo) fun info => ?_
  refine Proc.Triple.bind _ ((returns_liftPlatform _ _).and_error
    (hframe (S := Probe) (Ctap.Dialogue.liftPlatform _))) fun request₀ => ?_
  refine Proc.Triple.of_fact fun hrequest => ?_
  refine Proc.Triple.bind _ (hframe (p.dialogue_allowList _ _ _)) fun allow => ?_
  dsimp only
  refine Proc.Triple.bind _ (hframe (S := Probe) (Ctap.Dialogue.liftPlatform _)) fun _ => ?_
  -- from here on the attempts of the loop are what the run has asserted
  have hopens : p.OpensGet op info { request₀ with allow := allow } :=
    ⟨request₀, allow, hrequest, rfl⟩
  refine Proc.Triple.bind _ ((p.retryLoop_spec hlawful fuel _ l).conseq (fun _ => id)
    (fun _ _ => id) fun w hw => let ⟨as, hlogged, hlog⟩ := hw
      ⟨as, .looped hopens hlogged, by rw [hlog]; rfl⟩) fun response => ?_
  rintro w ⟨as, a, hresponded⟩
  refine ((p.finishAssertion_spec op info response a.authData _).conseq (fun _ => id)
    ?_ ?_) w ⟨hresponded.authData, hresponded.log⟩
  · rintro out w' ⟨hauthData, hasserted, rest, outputs, hresponses, hout⟩
    exact ⟨info, _, response, rest, as, a, hopens, hresponded.retried, hresponded.attempted,
      hresponded.answer, hasserted, hresponses, hauthData, outputs, hout⟩
  · intro w' hasserted
    exact ⟨as ++ [a], .looped hopens (.ended hresponded.retried hresponded.attempted), hasserted⟩

/-! ## §4. The attempts of a run. -/

/-- The attempts of a run of makeCredential, however it ends. -/
def madeAttempts (fuel : Nat) (op : MakeCredentialRequest) (w : World σ T) :
    List (Attempt T Ctap2MakeCredentialRequest Ctap2MakeCredentialResponse) :=
  (p.makeCredentialFido2 fuel op w).2.session.log.made

/-- The attempts of a run of getAssertion, however it ends. -/
def assertedAttempts (fuel : Nat) (op : GetAssertionRequest) (w : World σ T) :
    List (Attempt T Ctap2GetAssertionRequest Ctap2GetAssertionResponse) :=
  (p.getAssertionFido2 fuel op w).2.session.log.asserted

/-- The attempts that the log counts are a run of the registration loop. -/
theorem ran_madeAttempts (fuel : Nat) (op : MakeCredentialRequest) (w : World σ T)
    (hw : w.session.log = {}) :
    p.Ran (p.makeCredentialCeremony op) (p.OpensMake op) (p.madeAttempts fuel op w) := by
  have hstate := ((p.makeCredentialFido2_spec fuel op {}).conseq (fun _ => id)
    (fun out w' hw' => ?_) fun _ => id).state hw
  · obtain ⟨as, hran, hlog⟩ := hstate
    unfold madeAttempts
    rw [hlog]
    exact hran
  · obtain ⟨info, request, response, as, a, hopens, hresponded, -⟩ := hw'
    exact ⟨as ++ [a], .looped hopens (.ended hresponded.retried hresponded.attempted),
      hresponded.log⟩

/-- The attempts that the log counts are a run of the assertion loop. -/
theorem ran_assertedAttempts (fuel : Nat) (op : GetAssertionRequest) (w : World σ T)
    (hw : w.session.log = {}) :
    p.Ran (p.getAssertionCeremony op) (p.OpensGet op) (p.assertedAttempts fuel op w) := by
  have hstate := ((p.getAssertionFido2_spec fuel op {}).conseq (fun _ => id)
    (fun out w' hw' => ?_) fun _ => id).state hw
  · obtain ⟨as, hran, hasserted⟩ := hstate
    unfold assertedAttempts
    rw [hasserted]
    exact hran
  · obtain ⟨info, request, response, rest, as, a, hasserted⟩ := hw'
    exact ⟨as ++ [a], .looped hasserted.opens (.ended hasserted.retried hasserted.attempted),
      hasserted.asserted⟩

/-- A run that returned, by its parts. -/
theorem makeCredentialFido2_ok (fuel : Nat) (op : MakeCredentialRequest) (w : World σ T)
    (hw : w.session.log = {}) {out : MakeCredentialResponse}
    (hok : (p.makeCredentialFido2 fuel op w).1 = .ok out) :
    ∃ info request response as a,
      p.Responded (p.makeCredentialCeremony op) request {} response
          (p.makeCredentialFido2 fuel op w).2 as a
        ∧ out = response.intoMakeCredentialOutput p.crypto op (some info) a.authData := by
  obtain ⟨info, request, response, as, a, -, hresponded, hout⟩ :=
    (p.makeCredentialFido2_spec fuel op {}).ok hw (Prod.ext hok rfl)
  exact ⟨info, request, response, as, a, hresponded, hout⟩

/-- The assertions that are returned come from the last answer and the further
ones. -/
theorem getAssertionFido2_ok (fuel : Nat) (op : GetAssertionRequest) (w : World σ T)
    (hw : w.session.log = {}) {out : List Assertion}
    (hok : (p.getAssertionFido2 fuel op w).1 = .ok out) :
    ∃ info request response rest as a, p.Asserted op {} out (p.getAssertionFido2 fuel op w).2
      info request response rest as a :=
  (p.getAssertionFido2_spec fuel op {}).ok hw (Prod.ext hok rfl)

variable {p}

/-- The attempt that got the response is the last one. -/
theorem Responded.getLast?_madeAttempts {fuel : Nat} {op : MakeCredentialRequest}
    {w : World σ T} {request : Ctap2MakeCredentialRequest}
    {response : Ctap2MakeCredentialResponse}
    {as : List (Attempt T Ctap2MakeCredentialRequest Ctap2MakeCredentialResponse)}
    {a : Attempt T Ctap2MakeCredentialRequest Ctap2MakeCredentialResponse}
    (h : p.Responded (p.makeCredentialCeremony op) request {} response
      (p.makeCredentialFido2 fuel op w).2 as a) :
    (p.madeAttempts fuel op w).getLast? = some a := by
  unfold madeAttempts
  rw [h.log]
  show ([] ++ (as ++ [a])).getLast? = some a
  rw [List.nil_append, List.getLast?_concat]

theorem Asserted.getLast?_assertedAttempts {fuel : Nat} {op : GetAssertionRequest}
    {w : World σ T} {out : List Assertion} {info : Ctap2GetInfoResponse}
    {request : Ctap2GetAssertionRequest} {response : Ctap2GetAssertionResponse}
    {rest : List Ctap2GetAssertionResponse}
    {as : List (Attempt T Ctap2GetAssertionRequest Ctap2GetAssertionResponse)}
    {a : Attempt T Ctap2GetAssertionRequest Ctap2GetAssertionResponse}
    (h : p.Asserted op {} out (p.getAssertionFido2 fuel op w).2 info request response rest as a) :
    (p.assertedAttempts fuel op w).getLast? = some a := by
  unfold assertedAttempts
  rw [h.asserted]
  show ([] ++ (as ++ [a])).getLast? = some a
  rw [List.nil_append, List.getLast?_concat]

end Platform

end Libwebauthn
