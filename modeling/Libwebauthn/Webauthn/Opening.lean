/-
  Libwebauthn.Webauthn.Opening — the ceremonies up to their retry loop, and
  the wire of a whole run.

  A ceremony is an opening, its loop, and what is made of the response.  The
  opening ends with the getInfo answer and the request the loop starts from.
  `Accounts` says that every command on the wire is auxiliary, a probe, a
  further assertion, or the request of a logged attempt.
-/
import Libwebauthn.Webauthn.Runs

namespace Libwebauthn

variable {σ T : Type}

namespace Platform

variable (p : Platform σ T)

/-! ## §1. Openings. -/

def openMake (op : MakeCredentialRequest) :
    Ctap σ T (Ctap2GetInfoResponse × Ctap2MakeCredentialRequest) := do
  let info ← p.ctap2GetInfo
  let request ← Proc.ofExcept (Ctap2MakeCredentialRequest.fromWebauthnRequest p.crypto op info)
  let exclude ← p.excludeList op info request.exclude
  let request := { request with exclude := exclude }
  Ctap.liftPlatform (enforceMakeCredentialLimits request info)
  pure (info, request)

def finishMake (op : MakeCredentialRequest) (info : Ctap2GetInfoResponse)
    (response : Ctap2MakeCredentialResponse) : Ctap σ T MakeCredentialResponse := do
  let authData ← Ctap.getAuthData
  pure (response.intoMakeCredentialOutput p.crypto op (some info) authData)

/-- The operation in its three parts: it opens, it retries, it finishes. -/
theorem makeCredentialFido2_eq (fuel : Nat) (op : MakeCredentialRequest) :
    p.makeCredentialFido2 fuel op = (do
      let opened ← p.openMake op
      let response ← p.retryLoop (p.makeCredentialCeremony op) fuel opened.2
      p.finishMake op opened.1 response) := by
  simp only [makeCredentialFido2, openMake, finishMake, bind_assoc, pure_bind]

def openAssertion (op : GetAssertionRequest) :
    Ctap σ T (Ctap2GetInfoResponse × Ctap2GetAssertionRequest) :=
  if writesManyCredentials op then Proc.throw (.platform .notSupported)
  else do
    let info ← p.ctap2GetInfo
    let request ← Ctap.liftPlatform
      (Ctap2GetAssertionRequest.fromWebauthnRequest p.crypto op info)
    let allow ← p.allowList op info request.allow
    let request := { request with allow := allow }
    Ctap.liftPlatform (enforceGetAssertionLimits request info)
    pure (info, request)

/-- The operation in its three parts: it opens, it retries, it finishes. -/
theorem getAssertionFido2_eq (fuel : Nat) (op : GetAssertionRequest) :
    p.getAssertionFido2 fuel op = (do
      let opened ← p.openAssertion op
      let response ← p.retryLoop (p.getAssertionCeremony op) fuel opened.2
      p.finishAssertion op opened.1 response) := by
  unfold getAssertionFido2 openAssertion
  split
  · rfl
  · simp only [bind_assoc, pure_bind]

/-! ## §2. What an opening comes to. -/

/-- A pure step of the platform returns without a change of the world. -/
theorem liftPlatform_eq_ok_iff {α : Type} {r : Except PlatformError α} {w w' : World σ T}
    {a : α} : (Ctap.liftPlatform r : Ctap σ T α) w = (.ok a, w') ↔ r = .ok a ∧ w = w' := by
  unfold Ctap.liftPlatform
  rw [Proc.ofExcept_eq_ok_iff]
  cases r with
  | ok b => simp [Libwebauthn.liftPlatform, Except.mapError]
  | error e => simp [Libwebauthn.liftPlatform, Except.mapError]

/-- The request of an opened makeCredential: that of the operation under the
getInfo answer, with the list that is left, and within the limits. -/
theorem openMake_ok {op : MakeCredentialRequest} {w w' : World σ T}
    {info : Ctap2GetInfoResponse} {request : Ctap2MakeCredentialRequest}
    (h : p.openMake op w = (.ok (info, request), w')) :
    ∃ request₀ exclude w₁, p.ctap2GetInfo w = (.ok info, w₁) ∧
      (Ctap2MakeCredentialRequest.fromWebauthnRequest p.crypto op info :
        Except (WebAuthnError T) Ctap2MakeCredentialRequest) = .ok request₀ ∧
      p.excludeList op info request₀.exclude w₁ = (.ok exclude, w') ∧
      enforceMakeCredentialLimits request info = .ok () ∧
      request = { request₀ with exclude := exclude } := by
  obtain ⟨info', w₁, hinfo, h⟩ := Proc.bind_eq_ok_iff.mp h
  obtain ⟨request₀, w₂, hconvert, h⟩ := Proc.bind_eq_ok_iff.mp h
  obtain ⟨hrequest, rfl⟩ := Proc.ofExcept_eq_ok_iff.mp hconvert
  obtain ⟨exclude, w₃, hexclude, h⟩ := Proc.bind_eq_ok_iff.mp h
  obtain ⟨_, w₄, hensure, h⟩ := Proc.bind_eq_ok_iff.mp h
  obtain ⟨hlimits, rfl⟩ := liftPlatform_eq_ok_iff.mp hensure
  obtain ⟨hpair, rfl⟩ := Prod.mk.inj h
  obtain ⟨rfl, rfl⟩ := Prod.mk.inj (Outcome.ok.inj hpair)
  exact ⟨request₀, exclude, w₁, hinfo, hrequest, hexclude, hlimits, rfl⟩

/-- What an opening that returned went through: getInfo, the request, the
probes and the limits, in this order. -/
theorem openAssertion_ok {op : GetAssertionRequest} {w w' : World σ T}
    {info : Ctap2GetInfoResponse} {request : Ctap2GetAssertionRequest}
    (h : p.openAssertion op w = (.ok (info, request), w')) :
    ∃ request₀ allow w₁, p.ctap2GetInfo w = (.ok info, w₁) ∧
      Ctap2GetAssertionRequest.fromWebauthnRequest p.crypto op info = .ok request₀ ∧
      p.allowList op info request₀.allow w₁ = (.ok allow, w') ∧
      enforceGetAssertionLimits request info = .ok () ∧
      request = { request₀ with allow := allow } := by
  unfold openAssertion at h
  split at h
  · cases h
  obtain ⟨info', w₁, hinfo, h⟩ := Proc.bind_eq_ok_iff.mp h
  obtain ⟨request₀, w₂, hconvert, h⟩ := Proc.bind_eq_ok_iff.mp h
  obtain ⟨hrequest, rfl⟩ := liftPlatform_eq_ok_iff.mp hconvert
  obtain ⟨allow, w₃, hallow, h⟩ := Proc.bind_eq_ok_iff.mp h
  obtain ⟨_, w₄, hensure, h⟩ := Proc.bind_eq_ok_iff.mp h
  obtain ⟨hlimits, rfl⟩ := liftPlatform_eq_ok_iff.mp hensure
  obtain ⟨hpair, rfl⟩ := Prod.mk.inj h
  obtain ⟨rfl, rfl⟩ := Prod.mk.inj (Outcome.ok.inj hpair)
  exact ⟨request₀, allow, w₁, hinfo, hrequest, hallow, hlimits, rfl⟩

/-- The commands of an opening. -/
def Preliminary (x : Exchange T) : Prop := x.Auxiliary ∨ Probe x

/-- Whatever is sent before the loop is preliminary: getInfo and probes. -/
theorem dialogue_openMake (op : MakeCredentialRequest) :
    Ctap.Dialogue Preliminary (p.openMake op) := by
  refine Ctap.Dialogue.bind (p.dialogue_ctap2GetInfo.mono fun _ => Or.inl) fun info => ?_
  refine Ctap.Dialogue.bind (Ctap.Dialogue.ofExcept _) fun request => ?_
  refine Ctap.Dialogue.bind ((p.dialogue_excludeList _ _ _).mono fun _ => Or.inr) fun exclude => ?_
  exact Ctap.Dialogue.bind (Ctap.Dialogue.liftPlatform _) fun _ => Ctap.Dialogue.pure _

theorem dialogue_openAssertion (op : GetAssertionRequest) :
    Ctap.Dialogue Preliminary (p.openAssertion op) := by
  unfold openAssertion
  split
  · exact Ctap.Dialogue.throw _
  refine Ctap.Dialogue.bind (p.dialogue_ctap2GetInfo.mono fun _ => Or.inl) fun info => ?_
  refine Ctap.Dialogue.bind (Ctap.Dialogue.liftPlatform _) fun request => ?_
  refine Ctap.Dialogue.bind ((p.dialogue_allowList _ _ _).mono fun _ => Or.inr) fun allow => ?_
  exact Ctap.Dialogue.bind (Ctap.Dialogue.liftPlatform _) fun _ => Ctap.Dialogue.pure _

/-! ## §3. The wire of a run. -/

/-- A command that a ceremony has sent for itself is that of an attempt; any
other is auxiliary, a probe, or for a further assertion. -/
def Accounted (l : CeremonyLog T) : Exchange T → Prop
  | .makeCredential request answer =>
      Probe (.makeCredential request answer) ∨ ∃ a ∈ l.made, a.sent = request ∧ a.answer = answer
  | .getAssertion request answer =>
      Probe (.getAssertion request answer) ∨
        ∃ a ∈ l.asserted, a.sent = request ∧ a.answer = answer
  | _ => True

/-- A longer log accounts for no fewer exchanges. -/
theorem Accounted.mono {l l' : CeremonyLog T} {x : Exchange T} (h : Accounted l x)
    (hmade : l.made <+: l'.made) (hasserted : l.asserted <+: l'.asserted) : Accounted l' x := by
  cases x with
  | makeCredential request answer =>
      exact h.imp id fun ⟨a, hmem, ha⟩ => ⟨a, hmade.subset hmem, ha⟩
  | getAssertion request answer =>
      exact h.imp id fun ⟨a, hmem, ha⟩ => ⟨a, hasserted.subset hmem, ha⟩
  | getInfo answer => trivial
  | clientPin request answer => trivial
  | getNextAssertion answer => trivial
  | largeBlobs request answer => trivial

/-- Exchanges before the loop need no entry of the log. -/
theorem accounted_of_preliminary {x : Exchange T} (l : CeremonyLog T) (h : Preliminary x) :
    Accounted l x := by
  cases x with
  | makeCredential request answer => exact Or.inl (h.resolve_left id)
  | getAssertion request answer => exact Or.inl (h.resolve_left id)
  | getInfo answer => trivial
  | clientPin request answer => trivial
  | getNextAssertion answer => trivial
  | largeBlobs request answer => trivial

/-- The log grows by attempts that the device has answered, and accounts for
what is added to the wire. -/
structure Accounts (w w' : World σ T) : Prop where
  made : w.session.log.made <+: w'.session.log.made
  asserted : w.session.log.asserted <+: w'.session.log.asserted
  madeAnswered : ∀ a ∈ w'.session.log.made, a ∈ w.session.log.made
    ∨ ∃ env, (p.makeCredential a.sent env).1 = a.answer
  assertedAnswered : ∀ a ∈ w'.session.log.asserted, a ∈ w.session.log.asserted
    ∨ ∃ env, (p.getAssertion a.sent env).1 = a.answer
  wire : ∃ sent, w'.wire = w.wire ++ sent ∧ ∀ x ∈ sent, Accounted w'.session.log x

instance : IsPreorder (World σ T) p.Accounts where
  refl _ := ⟨List.prefix_refl _, List.prefix_refl _, fun _ => Or.inl, fun _ => Or.inl, [],
    (List.append_nil _).symm, by simp⟩
  trans _ _ _ h h' := by
    obtain ⟨sent, hsent, hS⟩ := h.wire
    obtain ⟨sent', hsent', hS'⟩ := h'.wire
    refine ⟨h.made.trans h'.made, h.asserted.trans h'.asserted, fun a hmem => ?_,
      fun a hmem => ?_, sent ++ sent', ?_, fun x hx => ?_⟩
    · exact (h'.madeAnswered a hmem).elim (h.madeAnswered a) Or.inr
    · exact (h'.assertedAnswered a hmem).elim (h.assertedAnswered a) Or.inr
    · rw [hsent', hsent, List.append_assoc]
    · rcases List.mem_append.mp hx with hleft | hright
      · exact (hS x hleft).mono h'.made h'.asserted
      · exact hS' x hright

theorem accounts_of_log {w w' : World σ T} {sent : List (Exchange T)}
    (hlog : w'.session.log = w.session.log) (hwire : w'.wire = w.wire ++ sent)
    (hsent : ∀ x ∈ sent, Accounted w'.session.log x) : p.Accounts w w' where
  made := by rw [hlog]
  asserted := by rw [hlog]
  madeAnswered a hmem := Or.inl (by rw [← hlog]; exact hmem)
  assertedAnswered a hmem := Or.inl (by rw [← hlog]; exact hmem)
  wire := ⟨sent, hwire, hsent⟩

/-- A part that keeps to exchanges which need no entry accounts for what it
sends. -/
theorem accounts_of_dialogue {ε α : Type} {S : Exchange T → Prop} {m : Proc (World σ T) ε α}
    (h : Ctap.Dialogue S m) (hS : ∀ l x, S x → Accounted l x) :
    Proc.Advances p.Accounts m := by
  refine h.sends.mono fun w w' hsent => ?_
  obtain ⟨sent, hwire, hx⟩ := hsent.wire
  exact p.accounts_of_log (by rw [hsent.session]) hwire fun x hmem => hS _ x (hx x hmem)

theorem accounts_of_preliminary {ε α : Type} {m : Proc (World σ T) ε α}
    (h : Ctap.Dialogue Preliminary m) : Proc.Advances p.Accounts m :=
  p.accounts_of_dialogue h fun l _ => accounted_of_preliminary l

theorem accounts_of_auxiliary {ε α : Type} {m : Proc (World σ T) ε α}
    (h : Ctap.Dialogue Exchange.Auxiliary m) : Proc.Advances p.Accounts m :=
  p.accounts_of_dialogue h fun l _ hx => accounted_of_preliminary l (Or.inl hx)

/-- A part that sends nothing has nothing to account for. -/
theorem accounts_of_beside {ε α : Type} {m : Proc (World σ T) ε α} (h : StaysBeside m) :
    Proc.Advances p.Accounts m := by
  refine h.mono fun w w' hbeside => ?_
  obtain ⟨sent, hwire, hx⟩ := hbeside.wire
  exact p.accounts_of_log hbeside.log hwire
    fun x hmem => accounted_of_preliminary _ (Or.inl (hx x hmem))

section

variable {R A : Type} [Ctap2UserVerifiableRequest R]

/-- A ceremony that logs what it sends. -/
def LogsSent (ceremony : Ceremony σ T R A) : Prop :=
  ∀ entry used authData request verification,
    Proc.Advances p.Accounts (do
      let answer ← Proc.attempt (ceremony.send request)
      Ctap.modifyLog (ceremony.log [⟨entry, used, authData, request, answer, verification⟩])
      pure answer : Ctap σ T (Except (WebAuthnError T) A))

variable {ceremony : Ceremony σ T R A}

omit [Ctap2UserVerifiableRequest R] in
/-- A command that is sent and logged is accounted for, whatever comes behind
it. -/
theorem LogsSent.bind {p : Platform σ T} (h : p.LogsSent ceremony) (entry : R)
    (used : UsedPinUvAuthToken) (authData : Option AuthTokenData) (request : R)
    (verification : Verification) {α : Type}
    {k : Except (WebAuthnError T) A → Ctap σ T α} (hk : ∀ a, Proc.Advances p.Accounts (k a)) :
    Proc.Advances p.Accounts (do
      let answer ← Proc.attempt (ceremony.send request)
      Ctap.modifyLog (ceremony.log [⟨entry, used, authData, request, answer, verification⟩])
      k answer) := by
  have hregroup := (h entry used authData request verification).bind hk
  simpa only [bind_assoc, pure_bind] using hregroup

theorem beside_handleErrors (uvAuthUsed : UsedPinUvAuthToken)
    (answer : Except (WebAuthnError T) A) : StaysBeside (p.handleErrors uvAuthUsed answer) := by
  unfold handleErrors
  split
  · exact Proc.Advances.pure _
  · exact Proc.Advances.bind (beside_modifySession fun _ => rfl) fun _ => Proc.Advances.pure _
  · exact Proc.Advances.bind (beside_of_dialogue (p.dialogue_evictPersistentToken _))
      fun _ => Proc.Advances.pure _
  · apply beside_of_dialogue
    refine Ctap.Dialogue.bind (dialogue_softly (p.dialogue_ctap2ClientPin _) _) fun _ => ?_
    exact Ctap.Dialogue.bind (Ctap.Dialogue.tell _) fun _ => Ctap.Dialogue.throw _
  · exact Proc.Advances.throw _

/-- A turn logs the request that it sends. -/
theorem accounts_attemptTurn (hlogs : p.LogsSent ceremony) (fuel : Nat) (entry : R) :
    Proc.Advances p.Accounts (p.attemptTurn ceremony fuel entry) := by
  refine Proc.Advances.bind Proc.Advances.get fun start => ?_
  refine Proc.Advances.bind (p.accounts_of_beside (p.beside_userVerification _ _ _))
    fun result => ?_
  obtain ⟨used, verified⟩ := result
  refine Proc.Advances.bind Proc.Advances.get fun reached => ?_
  refine Proc.Advances.bind (p.accounts_of_auxiliary Ctap.Dialogue.getAuthData) fun authData => ?_
  refine Proc.Advances.bind (p.accounts_of_auxiliary (p.dialogue_applyHmac _ _)) fun sent => ?_
  refine Proc.Advances.bind (p.accounts_of_auxiliary (p.dialogue_promptForTouch _)) fun _ => ?_
  -- the command and its attempt in the log are one step
  refine hlogs.bind entry used authData sent _ fun answer => ?_
  refine Proc.Advances.bind (p.accounts_of_beside (p.beside_handleErrors _ _)) fun handled => ?_
  cases handled with
  | none => exact Proc.Advances.pure _
  | some response => exact Proc.Advances.pure _

/-- By induction on the turns, all that the loop sends is in the log. -/
theorem accounts_retryLoop (hlogs : p.LogsSent ceremony) (fuel : Nat) (request : R) :
    Proc.Advances p.Accounts (p.retryLoop ceremony fuel request) :=
  Proc.Advances.loop (fun _ => p.accounts_attemptTurn hlogs fuel _) fuel request

end

theorem logsSent_makeCredentialCeremony (op : MakeCredentialRequest) :
    p.LogsSent (p.makeCredentialCeremony op) := by
  intro entry used authData request verification
  refine Proc.Advances.bind_returned fun w => ⟨_, _, Ctap.attempt_command
    (p.makeCredential request) (.makeCredential request) w, ?_⟩
  refine ⟨List.prefix_append _ _, List.prefix_refl _, fun a hmem => ?_, fun _ => Or.inl, _, rfl,
    fun x hx => ?_⟩
  · refine (List.mem_append.mp hmem).imp id fun hnew => ⟨w.env, ?_⟩
    rw [List.mem_singleton.mp hnew]
  · rw [List.mem_singleton.mp hx]
    exact Or.inr ⟨_, List.mem_append_right _ (List.mem_singleton.mpr rfl), rfl, rfl⟩

theorem logsSent_getAssertionCeremony (op : GetAssertionRequest) :
    p.LogsSent (p.getAssertionCeremony op) := by
  intro entry used authData request verification
  refine Proc.Advances.bind_returned fun w => ⟨_, _, Ctap.attempt_command
    (p.getAssertion request) (.getAssertion request) w, ?_⟩
  refine ⟨List.prefix_refl _, List.prefix_append _ _, fun _ => Or.inl, fun a hmem => ?_, _, rfl,
    fun x hx => ?_⟩
  · refine (List.mem_append.mp hmem).imp id fun hnew => ⟨w.env, ?_⟩
    rw [List.mem_singleton.mp hnew]
  · rw [List.mem_singleton.mp hx]
    exact Or.inr ⟨_, List.mem_append_right _ (List.mem_singleton.mpr rfl), rfl, rfl⟩

theorem accounts_finishAssertion (op : GetAssertionRequest) (info : Ctap2GetInfoResponse)
    (response : Ctap2GetAssertionResponse) :
    Proc.Advances p.Accounts (p.finishAssertion op info response) := by
  refine Proc.Advances.bind (p.accounts_of_auxiliary (p.dialogue_validateRpIdHash _ _)) fun _ => ?_
  refine Proc.Advances.bind (p.accounts_of_dialogue (p.dialogue_nextAssertions _ _) ?_)
    fun rest => ?_
  · intro l x hx
    cases x with
    | getNextAssertion answer => trivial
    | _ => exact hx.elim
  refine Proc.Advances.bind (fun _ => ⟨List.prefix_refl _, List.prefix_refl _, fun _ => Or.inl,
    fun _ => Or.inl, [], (List.append_nil _).symm, by simp⟩) fun _ => ?_
  refine Proc.Advances.bind (p.accounts_of_auxiliary (p.dialogue_largeBlobOutputs _ _ _))
    fun outputs => ?_
  exact Proc.Advances.bind (p.accounts_of_auxiliary Ctap.Dialogue.getAuthData)
    fun _ => Proc.Advances.pure _

/-- A whole run accounts for its wire, however it ends. -/
theorem accounts_makeCredentialFido2 (fuel : Nat) (op : MakeCredentialRequest) :
    Proc.Advances p.Accounts (p.makeCredentialFido2 fuel op) := by
  rw [makeCredentialFido2_eq]
  refine Proc.Advances.bind (p.accounts_of_preliminary (p.dialogue_openMake op)) fun opened => ?_
  refine Proc.Advances.bind (p.accounts_retryLoop (p.logsSent_makeCredentialCeremony op) _ _)
    fun response => ?_
  exact Proc.Advances.bind (p.accounts_of_auxiliary Ctap.Dialogue.getAuthData)
    fun _ => Proc.Advances.pure _

/-- **Every exchange** of an assertion is in the log, or is one that the log
leaves out. -/
theorem accounts_getAssertionFido2 (fuel : Nat) (op : GetAssertionRequest) :
    Proc.Advances p.Accounts (p.getAssertionFido2 fuel op) := by
  rw [getAssertionFido2_eq]
  refine Proc.Advances.bind (p.accounts_of_preliminary (p.dialogue_openAssertion op))
    fun opened => ?_
  refine Proc.Advances.bind (p.accounts_retryLoop (p.logsSent_getAssertionCeremony op) _ _)
    fun response => ?_
  exact p.accounts_finishAssertion op _ _

/-- The wire of a run of getAssertion that starts with nothing on it. -/
theorem accounted_getAssertionFido2 (fuel : Nat) (op : GetAssertionRequest) (env : σ)
    (authData : Option AuthTokenData) :
    ∀ x ∈ (p.getAssertionFido2 fuel op (.start env authData)).2.wire,
      Accounted (p.getAssertionFido2 fuel op (.start env authData)).2.session.log x := by
  obtain ⟨sent, hwire, hsent⟩ := (p.accounts_getAssertionFido2 fuel op (.start env authData)).wire
  intro x hx
  rw [hwire] at hx
  exact hsent x hx

/-- The device has answered every attempt of a run. -/
theorem answered_madeAttempts (fuel : Nat) (op : MakeCredentialRequest) {w : World σ T}
    (hlog : w.session.log = {}) :
    ∀ a ∈ p.madeAttempts fuel op w, ∃ env, (p.makeCredential a.sent env).1 = a.answer := by
  intro a hmem
  refine ((p.accounts_makeCredentialFido2 fuel op w).madeAnswered a hmem).resolve_left ?_
  rw [hlog]
  exact List.not_mem_nil

/-- The answers in the log are the ones the device gave. -/
theorem answered_assertedAttempts (fuel : Nat) (op : GetAssertionRequest) {w : World σ T}
    (hlog : w.session.log = {}) :
    ∀ a ∈ p.assertedAttempts fuel op w, ∃ env, (p.getAssertion a.sent env).1 = a.answer := by
  intro a hmem
  refine ((p.accounts_getAssertionFido2 fuel op w).assertedAnswered a hmem).resolve_left ?_
  rw [hlog]
  exact List.not_mem_nil

/-! ## §4. The attempts of a run. -/

/-- Without an opening there are no attempts. -/
theorem assertedAttempts_stopped (fuel : Nat) {op : GetAssertionRequest} {w : World σ T}
    (hlog : w.session.log = {}) (hstopped : ∀ opened, (p.openAssertion op w).1 ≠ .ok opened) :
    p.assertedAttempts fuel op w = [] := by
  unfold assertedAttempts
  rw [getAssertionFido2_eq, (Proc.bind_of_not_ok hstopped).1,
    (p.dialogue_openAssertion op).keeps_session w, hlog]

/-- A registration that stops before its loop attempts nothing. -/
theorem madeAttempts_stopped (fuel : Nat) {op : MakeCredentialRequest} {w : World σ T}
    (hlog : w.session.log = {}) (hstopped : ∀ opened, (p.openMake op w).1 ≠ .ok opened) :
    p.madeAttempts fuel op w = [] := by
  unfold madeAttempts
  rw [makeCredentialFido2_eq, (Proc.bind_of_not_ok hstopped).1,
    (p.dialogue_openMake op).keeps_session w, hlog]

/-- Once a ceremony is opened, its attempts start from the request it was
opened with. -/
theorem assertedAttempts_opened (fuel : Nat) {op : GetAssertionRequest} {w w' : World σ T}
    {info : Ctap2GetInfoResponse} {request : Ctap2GetAssertionRequest}
    (hlog : w.session.log = {}) (hopened : p.openAssertion op w = (.ok (info, request), w')) :
    Logged p.crypto (p.getAssertionCeremony op) request (p.assertedAttempts fuel op w) := by
  -- the opening logs nothing, so all the attempts are the loop's
  have hlog' : w'.session.log = {} := by
    have hkept := (p.dialogue_openAssertion op).keeps_session w
    rw [hopened] at hkept
    rw [hkept, hlog]
  have hrun : Proc.Triple (fun w => w.session.log = {}) (do
      let response ← p.retryLoop (p.getAssertionCeremony op) fuel request
      p.finishAssertion op info response)
      (fun _ w => Logged p.crypto (p.getAssertionCeremony op) request w.session.log.asserted)
      (fun w => Logged p.crypto (p.getAssertionCeremony op) request w.session.log.asserted) := by
    refine Proc.Triple.bind _ ((p.retryLoop_spec (p.lawful_getAssertionCeremony op) fuel request
      {}).conseq (fun _ => id) (fun _ _ => id) ?_) fun response => ?_
    · intro w hw
      obtain ⟨as, hlogged, hlog⟩ := hw
      rw [hlog]
      exact hlogged
    · intro w hw
      obtain ⟨as, a, hresponded⟩ := hw
      have hlogged : Logged p.crypto (p.getAssertionCeremony op) request (as ++ [a]) :=
        .ended hresponded.retried hresponded.attempted
      refine ((p.finishAssertion_spec op info response a.authData _).conseq (fun _ => id)
        ?_ ?_) w ⟨hresponded.authData, hresponded.log⟩
      · intro out w' hw'
        rw [hw'.2.1]
        exact hlogged
      · intro w' hasserted
        rw [hasserted]
        exact hlogged
  unfold assertedAttempts
  rw [getAssertionFido2_eq, Proc.bind_of_ok hopened]
  exact hrun.state hlog'

/-- Past the opening, the attempts are those of the loop on the opened request. -/
theorem madeAttempts_opened (fuel : Nat) {op : MakeCredentialRequest} {w w' : World σ T}
    {info : Ctap2GetInfoResponse} {request : Ctap2MakeCredentialRequest}
    (hlog : w.session.log = {}) (hopened : p.openMake op w = (.ok (info, request), w')) :
    Logged p.crypto (p.makeCredentialCeremony op) request (p.madeAttempts fuel op w) := by
  -- the opening sends commands but logs no attempt
  have hlog' : w'.session.log = {} := by
    have hkept := (p.dialogue_openMake op).keeps_session w
    rw [hopened] at hkept
    rw [hkept, hlog]
  have hrun : Proc.Triple (fun w => w.session.log = {}) (do
      let response ← p.retryLoop (p.makeCredentialCeremony op) fuel request
      p.finishMake op info response)
      (fun _ w => Logged p.crypto (p.makeCredentialCeremony op) request w.session.log.made)
      (fun w => Logged p.crypto (p.makeCredentialCeremony op) request w.session.log.made) := by
    refine Proc.Triple.bind _ ((p.retryLoop_spec (p.lawful_makeCredentialCeremony op) fuel request
      {}).conseq (fun _ => id) (fun _ _ => id) ?_) fun response => ?_
    · intro w hw
      obtain ⟨as, hlogged, hlog⟩ := hw
      rw [hlog]
      exact hlogged
    · intro w hw
      obtain ⟨as, a, hresponded⟩ := hw
      show Logged _ _ _ w.session.log.made
      rw [hresponded.log]
      exact .ended hresponded.retried hresponded.attempted
  unfold madeAttempts
  rw [makeCredentialFido2_eq, Proc.bind_of_ok hopened]
  exact hrun.state hlog'

end Platform

end Libwebauthn
