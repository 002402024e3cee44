/-
  Libwebauthn.Webauthn.Attempts — what the turns of a retry loop are
  (`handle_errors!` and its loops in `src/webauthn.rs`).

  `Attempted` says what one turn comes to: a user verification that ended in
  some outcome, an hmac envelope under the channel's data, a request sent.
  `Retried` chains the turns: only a rejected cached token leads to another
  one, which starts from the request as it was sent.

    • `attemptTurn_spec` — one turn;
    • `retryLoop_spec` — every state a loop can stop in.
-/
import Libwebauthn.Webauthn.UvOutcome
import Libwebauthn.Webauthn.Ceremony

namespace Libwebauthn

open Ctap2UserVerifiableRequest

variable {σ T R A : Type} [Ctap2UserVerifiableRequest R]

/-! ## §1. A user verification does not write to the log of the ceremonies. -/

namespace Platform

variable (p : Platform σ T)

/-- `m` does not write to the log. -/
abbrev KeepsLog {ε α : Type} (m : Proc (World σ T) ε α) : Prop :=
  Proc.Keeps (fun w : World σ T => w.session.log) m

/-- The same log, and only auxiliary commands on the wire. -/
structure Beside (w w' : World σ T) : Prop where
  log : w'.session.log = w.session.log
  wire : ∃ sent, w'.wire = w.wire ++ sent ∧ ∀ x ∈ sent, x.Auxiliary

instance : IsPreorder (World σ T) Beside where
  refl _ := ⟨rfl, [], (List.append_nil _).symm, by simp⟩
  trans _ _ _ h h' := by
    obtain ⟨sent, hsent, hS⟩ := h.wire
    obtain ⟨sent', hsent', hS'⟩ := h'.wire
    refine ⟨h'.log.trans h.log, sent ++ sent', ?_, fun x hx => ?_⟩
    · rw [hsent', hsent, List.append_assoc]
    · exact (List.mem_append.mp hx).elim (hS x) (hS' x)

/-- `m` stays beside the ceremonies. -/
abbrev StaysBeside {ε α : Type} (m : Proc (World σ T) ε α) : Prop := Proc.Advances Beside m

/-- What stays beside the log keeps it. -/
theorem StaysBeside.keepsLog {ε α : Type} {m : Proc (World σ T) ε α} (h : StaysBeside m) :
    KeepsLog m :=
  fun w => (h w).log

/-- Auxiliary exchanges are not counted in the log. -/
theorem beside_of_dialogue {ε α : Type} {m : Proc (World σ T) ε α}
    (h : Ctap.Dialogue Exchange.Auxiliary m) : StaysBeside m :=
  h.sends.mono fun _ _ hsent => ⟨by rw [hsent.session], hsent.wire⟩

theorem keepsLog_of_dialogue {ε α : Type} {m : Proc (World σ T) ε α} {S : Exchange T → Prop}
    (h : Ctap.Dialogue S m) : KeepsLog m :=
  h.keeps_session.map Session.log

/-- The session may change where it is not the log. -/
theorem beside_modifySession {f : Session T → Session T} (h : ∀ s, (f s).log = s.log) :
    StaysBeside (Ctap.modifySession f : Ctap σ T Unit) :=
  fun _ => ⟨h _, [], (List.append_nil _).symm, by simp⟩

theorem beside_storeAuthData (data : AuthTokenData) :
    StaysBeside (Ctap.storeAuthData data : Ctap σ T Unit) :=
  beside_modifySession fun _ => rfl

/-- A turn of the verification loop stays beside the log. -/
theorem beside_uvTurn (fuel : Nat) (plan : UvPlan) (state : UvState R) :
    StaysBeside (p.uvTurn fuel plan state) := by
  refine Proc.Advances.bind (beside_modifySession fun _ => rfl) fun _ => ?_
  split
  · exact Proc.Advances.throw _
  · dsimp only
    split
    · exact Proc.Advances.pure _
    · exact beside_of_dialogue (p.dialogue_carryOut _ _ _ _)
  · exact beside_of_dialogue (p.dialogue_carryOut _ _ _ _)

theorem beside_storeToken (state : UvState R) (uvProto : PinUvAuthProtocol)
    (sharedSecret : Bytes) (publicKey : PublicKey)
    (uvOperation : Ctap2UserVerificationOperation) (token : Bytes) :
    StaysBeside (p.storeToken state uvProto sharedSecret publicKey uvOperation token) := by
  unfold storeToken
  split
  · split
    · exact Proc.Advances.bind (beside_of_dialogue
        (Ctap.Dialogue.attempt (p.concludes_storeMintedToken _ _ _).dialogue))
        fun _ => Proc.Advances.pure _
    · exact Proc.Advances.pure _
  · exact beside_storeAuthData _

theorem beside_packageResult (state : UvState R) (exit : UvExit) :
    StaysBeside (p.packageResult state exit) := by
  cases exit with
  | legacyUv => exact Proc.Advances.pure _
  | negotiated uvProto sharedSecret publicKey uvOperation tokenResponse =>
      unfold packageResult
      dsimp only
      split
      · refine Proc.Advances.bind (beside_of_dialogue (p.concludes_decryptToken _ _ _).dialogue)
          fun token => ?_
        refine Proc.Advances.bind (p.beside_storeToken _ _ _ _ _ _) fun _ => ?_
        exact Proc.Advances.bind (beside_of_dialogue (Ctap.Dialogue.liftPlatform _))
          fun _ => Proc.Advances.pure _
      · exact Proc.Advances.bind (beside_storeAuthData _) fun _ => Proc.Advances.pure _

/-- And so does the whole loop. -/
theorem beside_userVerificationHelper (fuel : Nat) (info : Ctap2GetInfoResponse)
    (requirement : UserVerificationRequirement) (request : R) :
    StaysBeside (p.userVerificationHelper fuel info requirement request) := by
  refine Proc.Advances.bind (beside_of_dialogue (p.dialogue_ensureUvProtected _ _ _)) fun info => ?_
  split
  · exact Proc.Advances.pure _
  · refine Proc.Advances.bind (Proc.Advances.loop (fun _ => p.beside_uvTurn _ _ _) _ _)
      fun result => ?_
    exact p.beside_packageResult _ _

/-- A user verification sends auxiliary commands only, however it ends. -/
theorem beside_userVerification (fuel : Nat) (requirement : UserVerificationRequirement)
    (request : R) : StaysBeside (p.userVerification fuel requirement request) := by
  refine Proc.Advances.bind (beside_of_dialogue p.dialogue_ctap2GetInfo) fun info => ?_
  refine Proc.Advances.bind (beside_of_dialogue (p.dialogue_reusablePersistentToken _ _))
    fun record => ?_
  cases record with
  | some record =>
      exact Proc.Advances.bind (beside_of_dialogue (Ctap.Dialogue.liftPlatform _))
        fun _ => Proc.Advances.pure _
  | none =>
      refine Proc.Advances.bind (beside_of_dialogue (p.dialogue_reusableEphemeralToken _ _))
        fun token => ?_
      cases token with
      | some token =>
          exact Proc.Advances.bind (beside_of_dialogue (Ctap.Dialogue.liftPlatform _))
            fun _ => Proc.Advances.pure _
      | none => exact p.beside_userVerificationHelper _ _ _ _

/-- A verification, with a cached token or a new one, logs no attempt. -/
theorem keepsLog_userVerification (fuel : Nat) (requirement : UserVerificationRequirement)
    (request : R) : KeepsLog (p.userVerification fuel requirement request) :=
  (p.beside_userVerification fuel requirement request).keepsLog

/-! ## §2. Attempts, and chains of them. -/

/-- The request as it is sent, with the envelope under the channel's data. -/
def Ceremony.Sealed (ceremony : Ceremony σ T R A) (authData : Option AuthTokenData)
    (request sent : R) : Prop :=
  match authData with
  | none => sent = request
  | some authData => ∃ iv, iv.length = 16 ∧ ceremony.calculateHmac iv authData request = .ok sent

/-- A ceremony that logs lists of attempts in order, and sends commands. -/
structure Ceremony.Lawful (ceremony : Ceremony σ T R A) : Prop where
  log_append : ∀ as bs l, ceremony.log (as ++ bs) l = ceremony.log bs (ceremony.log as l)
  log_nil : ∀ l, ceremony.log [] l = l
  send : ∀ request, Proc.Keeps World.session (ceremony.send request)

end Platform

open Platform

/-- A turn: its user verification ended in some outcome, and what it left
was sent with an envelope under the channel's data. -/
inductive Attempted (crypto : Crypto) (ceremony : Ceremony σ T R A) (a : Attempt T R A) :
    Prop where
  | intro {info : Ctap2GetInfoResponse} {verified : R}
      (houtcome : UvOutcome crypto ceremony.requirement info a.entry a.verification.before
        a.verification.turns a.authData a.used verified)
      (hsealed : ceremony.Sealed a.authData verified a.sent)
      (hinfo : a.verification.info = some info)

/-- Turns that each led to another one: a cached token was rejected. -/
inductive Retried (crypto : Crypto) (ceremony : Ceremony σ T R A) (request : R) :
    List (Attempt T R A) → R → Prop where
  | start : Retried crypto ceremony request [] request
  | retry {as : List (Attempt T R A)} {a : Attempt T R A}
      (hbefore : Retried crypto ceremony request as a.entry)
      (hattempted : Attempted crypto ceremony a) (hused : a.used = .fromEphemeralStorage)
      (hanswer : a.answer = .error (.ctap .pinAuthInvalid)) :
      Retried crypto ceremony request (as ++ [a]) a.sent

/-- The turns of a loop, the last of which may have ended it. -/
inductive Logged (crypto : Crypto) (ceremony : Ceremony σ T R A) (request : R) :
    List (Attempt T R A) → Prop where
  | going {as : List (Attempt T R A)} {next : R}
      (hbefore : Retried crypto ceremony request as next) : Logged crypto ceremony request as
  | ended {as : List (Attempt T R A)} {a : Attempt T R A}
      (hbefore : Retried crypto ceremony request as a.entry)
      (hattempted : Attempted crypto ceremony a) : Logged crypto ceremony request (as ++ [a])

/-- Each turn that was retried was an attempt. -/
theorem Retried.attempted {crypto : Crypto} {ceremony : Ceremony σ T R A} {request next : R}
    {as : List (Attempt T R A)} (h : Retried crypto ceremony request as next) :
    ∀ a ∈ as, Attempted crypto ceremony a := by
  induction h with
  | start => intro a hmem; cases hmem
  | retry _ hattempted _ _ ih =>
      intro a hmem
      rcases List.mem_append.mp hmem with hmem | hmem
      · exact ih a hmem
      · rw [List.mem_singleton.mp hmem]
        exact hattempted

/-- Each entry of the log was an attempt. -/
theorem Logged.attempted {crypto : Crypto} {ceremony : Ceremony σ T R A} {request : R}
    {as : List (Attempt T R A)} (h : Logged crypto ceremony request as) :
    ∀ a ∈ as, Attempted crypto ceremony a := by
  cases h with
  | going hbefore => exact hbefore.attempted
  | ended hbefore hattempted =>
      intro a hmem
      rcases List.mem_append.mp hmem with hmem | hmem
      · exact hbefore.attempted a hmem
      · rw [List.mem_singleton.mp hmem]
        exact hattempted

/-- What every turn passes on, every turn is entered with. -/
theorem Retried.invariant {crypto : Crypto} {ceremony : Ceremony σ T R A} {request next : R}
    {as : List (Attempt T R A)} (h : Retried crypto ceremony request as next) {I : R → Prop}
    (hstart : I request) (hstep : ∀ a, Attempted crypto ceremony a → I a.entry → I a.sent) :
    (∀ a ∈ as, I a.entry) ∧ I next := by
  induction h with
  | start => exact ⟨by simp, hstart⟩
  | @retry as a hbefore hattempted hused hanswer ih =>
      refine ⟨?_, hstep a hattempted ih.2⟩
      intro b hmem
      rcases List.mem_append.mp hmem with hmem | hmem
      · exact ih.1 b hmem
      · rw [List.mem_singleton.mp hmem]
        exact ih.2

/-- By induction along the log: what the turns keep holds of each request that
goes in. -/
theorem Logged.invariant {crypto : Crypto} {ceremony : Ceremony σ T R A} {request : R}
    {as : List (Attempt T R A)} (h : Logged crypto ceremony request as) {I : R → Prop}
    (hstart : I request) (hstep : ∀ a, Attempted crypto ceremony a → I a.entry → I a.sent) :
    ∀ a ∈ as, I a.entry := by
  cases h with
  | going hbefore => exact (hbefore.invariant hstart hstep).1
  | ended hbefore hattempted =>
      obtain ⟨hentries, hlast⟩ := hbefore.invariant hstart hstep
      intro b hmem
      rcases List.mem_append.mp hmem with hmem | hmem
      · exact hentries b hmem
      · rw [List.mem_singleton.mp hmem]
        exact hlast

/-- The first turn is entered with the request of the loop. -/
theorem Retried.entry_first {crypto : Crypto} {ceremony : Ceremony σ T R A} {request next : R}
    {as : List (Attempt T R A)} (h : Retried crypto ceremony request as next) :
    (as = [] → next = request) ∧ ∀ a ∈ as, a.entry = request ∨ a ∈ as.tail := by
  induction h with
  | start => exact ⟨fun _ => rfl, by simp⟩
  | @retry as a hbefore hattempted hused hanswer ih =>
      refine ⟨fun hnil => absurd hnil (by simp), fun b hmem => ?_⟩
      cases as with
      | nil =>
          rw [List.mem_singleton.mp hmem]
          exact Or.inl (ih.1 rfl)
      | cons first as =>
          rcases List.mem_append.mp hmem with hmem | hmem
          · exact (ih.2 b hmem).imp id fun h => List.mem_append_left _ h
          · exact Or.inr (List.mem_append_right _ hmem)

/-- The first entry goes in with the request the loop was given. -/
theorem Logged.entry_first {crypto : Crypto} {ceremony : Ceremony σ T R A} {request : R}
    {as : List (Attempt T R A)} (h : Logged crypto ceremony request as) :
    ∀ a ∈ as, a.entry = request ∨ a ∈ as.tail := by
  cases h with
  | going hbefore => exact hbefore.entry_first.2
  | @ended as a hbefore hattempted =>
      intro b hmem
      cases as with
      | nil =>
          rw [List.mem_singleton.mp hmem]
          exact Or.inl (hbefore.entry_first.1 rfl)
      | cons first as =>
          rcases List.mem_append.mp hmem with hmem | hmem
          · exact (hbefore.entry_first.2 b hmem).imp id fun h => List.mem_append_left _ h
          · exact Or.inr (List.mem_append_right _ hmem)

namespace Platform

variable (p : Platform σ T) {ceremony : Ceremony σ T R A}

omit [Ctap2UserVerifiableRequest R] in
theorem dialogue_applyHmac (authData : Option AuthTokenData) (request : R) :
    Ctap.Dialogue Exchange.Auxiliary (p.applyHmac ceremony authData request) := by
  cases authData with
  | none => exact Ctap.Dialogue.pure _
  | some authData =>
      exact Ctap.Dialogue.bind (Ctap.Dialogue.ask _) fun _ => Ctap.Dialogue.liftPlatform _

omit [Ctap2UserVerifiableRequest R] in
/-- What is sent is the request with its envelope sealed, and nothing else
changed. -/
theorem applyHmac_spec (authData : Option AuthTokenData) (request : R) :
    Returns (fun _ => True) (p.applyHmac ceremony authData request)
      fun sent _ => ceremony.Sealed authData request sent := by
  cases authData with
  | none => exact Proc.Triple.pure fun _ _ => rfl
  | some authData =>
      refine Proc.Triple.bind (fun iv _ => iv.length = 16) (fun w _ => p.random_length 16 _)
        fun iv => ?_
      exact (returns_liftPlatform _ _).post fun sent w hw => ⟨iv, hw.2, hw.1⟩

theorem dialogue_promptForTouch (uvAuthUsed : UsedPinUvAuthToken) :
    Ctap.Dialogue Exchange.Auxiliary (p.promptForTouch uvAuthUsed) := by
  unfold promptForTouch
  split
  · exact Ctap.Dialogue.pure _
  · exact Ctap.Dialogue.tell _

theorem dialogue_evictPersistentToken (id : PersistentTokenRecordId) :
    Ctap.Dialogue Exchange.Auxiliary (p.evictPersistentToken id) := by
  unfold evictPersistentToken
  split
  · exact Ctap.Dialogue.tell _
  · exact Ctap.Dialogue.pure _

/-- What `handle_errors!` makes of an answer. -/
def Handled (uvAuthUsed : UsedPinUvAuthToken) (answer : Except (WebAuthnError T) A)
    (authData : Option AuthTokenData) (handled : Option A) (w : World σ T) : Prop :=
  match handled with
  | some response => answer = .ok response ∧ w.session.authData = authData
  | none => answer = .error (.ctap .pinAuthInvalid)
      ∧ (uvAuthUsed = .fromEphemeralStorage ∨ ∃ id, uvAuthUsed = .fromPersistentStorage id)

/-- The handling of an answer logs nothing. -/
theorem keepsLog_handleErrors (uvAuthUsed : UsedPinUvAuthToken)
    (answer : Except (WebAuthnError T) A) : KeepsLog (p.handleErrors uvAuthUsed answer) := by
  unfold handleErrors
  split
  · exact Proc.Keeps.pure _
  · exact Proc.Keeps.bind (fun _ => rfl) fun _ => Proc.Keeps.pure _
  · exact Proc.Keeps.bind (keepsLog_of_dialogue (p.dialogue_evictPersistentToken _))
      fun _ => Proc.Keeps.pure _
  · apply keepsLog_of_dialogue
    refine Ctap.Dialogue.bind (dialogue_softly (p.dialogue_ctap2ClientPin _) _) fun _ => ?_
    exact Ctap.Dialogue.bind (Ctap.Dialogue.tell _) fun _ => Ctap.Dialogue.throw _
  · exact Proc.Keeps.throw _

/-- What becomes of the cached token, answer by answer. -/
theorem handleErrors_spec (uvAuthUsed : UsedPinUvAuthToken)
    (answer : Except (WebAuthnError T) A) (authData : Option AuthTokenData) :
    Returns (fun w => w.session.authData = authData) (p.handleErrors uvAuthUsed answer)
      (Handled uvAuthUsed answer authData) := by
  unfold handleErrors
  split
  · exact Proc.Triple.pure fun w hw => ⟨rfl, hw⟩
  · exact Proc.Triple.bind _ (Proc.Triple.trivial _ _) fun _ =>
      Proc.Triple.pure fun w _ => ⟨rfl, Or.inl rfl⟩
  next id =>
    exact Proc.Triple.bind _ (Proc.Triple.trivial _ _) fun _ =>
      Proc.Triple.pure fun w _ => ⟨rfl, Or.inr ⟨id, rfl⟩⟩
  · exact Proc.Triple.bind _ (Proc.Triple.trivial _ _) fun _ =>
      Proc.Triple.bind _ (Proc.Triple.trivial _ _) fun _ =>
        Proc.Triple.throw fun _ _ => trivial
  · exact Proc.Triple.throw fun _ _ => trivial

/-! ## §3. One turn. -/

/-- How a turn leads on: to the next one from the request as it was sent, or
out of the loop with the response. -/
def LeadsOn (a : Attempt T R A) (w : World σ T) : R ⊕ A → Prop
  | .inl next => a.used = .fromEphemeralStorage
      ∧ a.answer = .error (.ctap .pinAuthInvalid) ∧ next = a.sent
  | .inr response => a.answer = .ok response ∧ w.session.authData = a.authData

variable [EphemeralTokenRequest R]

/-- The verification of a turn from the world `start`: an outcome of what it
went by, with the log as it was. -/
theorem userVerification_logged (fuel : Nat) (requirement : UserVerificationRequirement)
    (request : R) (l : CeremonyLog T) (start : World σ T) :
    Proc.Triple (fun w => w = start ∧ w.session.log = l)
      (p.userVerification fuel requirement request)
      (fun result w => (∃ info, UvOutcome p.crypto requirement info request
          (p.verification start w).before (p.verification start w).turns w.session.authData
          result.1 result.2 ∧ (p.verification start w).info = some info) ∧ w.session.log = l)
      (fun w => w.session.log = l) := by
  refine ((p.keepsLog_userVerification fuel requirement request).frame
    (p.userVerification_spec fuel requirement request start) fun l' => l' = l).post ?_
  rintro result w ⟨⟨info, turns, authData, hanswer, hsession, houtcome⟩, hlog⟩
  have hprepare : p.prepareRequest info request = request := by
    unfold prepareRequest
    rw [EphemeralTokenRequest.handleLegacyPreview,
      EphemeralTokenRequest.setPersistentTokenUse]
  rw [hprepare] at houtcome
  refine ⟨⟨info, ?_, ?_⟩, hlog⟩
  · unfold verification
    rw [hsession, List.drop_left]
    exact houtcome
  · unfold verification
    rw [hanswer]
    rfl

/-- One turn logs one attempt, unless it stops before it has sent anything. -/
theorem attemptTurn_spec (hlawful : ceremony.Lawful) (fuel : Nat) (entry : R)
    (l : CeremonyLog T) :
    Proc.Triple (fun w => w.session.log = l) (p.attemptTurn ceremony fuel entry)
      (fun next w => ∃ a, Attempted p.crypto ceremony a ∧ a.entry = entry
        ∧ w.session.log = ceremony.log [a] l ∧ LeadsOn a w next)
      (fun w => w.session.log = l ∨ ∃ a, Attempted p.crypto ceremony a ∧ a.entry = entry
        ∧ w.session.log = ceremony.log [a] l) := by
  refine Proc.Triple.bind (fun start w => w = start ∧ w.session.log = l)
    (fun w hw => ⟨rfl, hw⟩) fun start => ?_
  refine Proc.Triple.bind _ ((p.userVerification_logged fuel ceremony.requirement entry l
    start).conseq (fun _ => id) (fun _ _ => id) fun _ => Or.inl) fun result => ?_
  obtain ⟨used, verified⟩ := result
  refine Proc.Triple.bind (fun reached w => (∃ info, UvOutcome p.crypto ceremony.requirement
      info entry (p.verification start reached).before (p.verification start reached).turns
      w.session.authData used verified ∧ (p.verification start reached).info = some info)
      ∧ w.session.log = l) (fun w hw => hw) fun reached => ?_
  refine Proc.Triple.bind (fun authData w => (∃ info, UvOutcome p.crypto ceremony.requirement
      info entry (p.verification start reached).before (p.verification start reached).turns
      authData used verified ∧ (p.verification start reached).info = some info)
      ∧ w.session.log = l ∧ w.session.authData = authData)
    (fun w hw => ⟨hw.1, hw.2, rfl⟩) fun authData => ?_
  refine Proc.Triple.of_fact fun houtcome => ?_
  obtain ⟨info, houtcome, hinfo⟩ := houtcome
  have hframe : ∀ {α : Type} {m : Ctap σ T α} {Q : α → Prop}, Proc.Keeps World.session m →
      Returns (fun _ => True) m (fun x _ => Q x) →
      Proc.Triple (fun w => w.session.log = l ∧ w.session.authData = authData) m
        (fun x w => Q x ∧ w.session.log = l ∧ w.session.authData = authData)
        (fun w => w.session.log = l ∨ ∃ a, Attempted p.crypto ceremony a ∧ a.entry = entry
          ∧ w.session.log = ceremony.log [a] l) :=
    fun hkeeps hreturns =>
      (hkeeps.frame hreturns fun s => s.log = l ∧ s.authData = authData).conseq
        (fun _ hw => ⟨trivial, hw⟩) (fun _ _ => id) fun _ hw => Or.inl hw.1
  refine Proc.Triple.bind _ (hframe (p.dialogue_applyHmac authData verified).keeps_session
    (p.applyHmac_spec authData verified)) fun sent => ?_
  refine Proc.Triple.of_fact fun hsealed => ?_
  refine Proc.Triple.bind _ (hframe (p.dialogue_promptForTouch used).keeps_session
    (Proc.Triple.trivial _ _)) fun _ => Proc.Triple.of_fact fun _ => ?_
  refine Proc.Triple.bind _ (hframe (Proc.Keeps.attempt (hlawful.send sent))
    (Proc.Triple.trivial _ _)) fun answer => Proc.Triple.of_fact fun _ => ?_
  -- from here on the attempt is in the log
  let a : Attempt T R A :=
    ⟨entry, used, authData, sent, answer, p.verification start reached⟩
  have hattempted : Attempted p.crypto ceremony a := .intro houtcome hsealed hinfo
  refine Proc.Triple.bind (fun _ w => w.session.authData = authData
      ∧ w.session.log = ceremony.log [a] l)
    (Proc.Triple.modify fun w hw => ⟨hw.2, by rw [← hw.1]⟩) fun _ => ?_
  refine Proc.Triple.bind _ (((p.keepsLog_handleErrors used answer).frame
    (p.handleErrors_spec used answer authData) fun l' =>
      l' = ceremony.log [a] l).conseq (fun _ => id)
    (fun _ _ => id) fun w hw => Or.inr ⟨_, hattempted, rfl, hw⟩) fun handled => ?_
  cases handled with
  | some response =>
      exact Proc.Triple.pure fun w hw => ⟨_, hattempted, rfl, hw.2, hw.1⟩
  | none =>
      refine Proc.Triple.pure fun w hw => ⟨_, hattempted, rfl, hw.2, ?_, hw.1.1, rfl⟩
      rcases hw.1.2 with hephemeral | ⟨id, hpersistent⟩
      · exact hephemeral
      · -- a persistent token is never used for these requests
        exact absurd hpersistent
          (houtcome.ne_persistent (EphemeralTokenRequest.wantsPersistentToken _) id)

/-! ## §4. The loop. -/

/-- A loop that returned: its turns led on to each other, and the last one
got the response, which the channel's data is still there for. -/
structure Responded (ceremony : Ceremony σ T R A) (request : R) (l : CeremonyLog T)
    (response : A) (w : World σ T) (as : List (Attempt T R A)) (a : Attempt T R A) : Prop where
  retried : Retried p.crypto ceremony request as a.entry
  attempted : Attempted p.crypto ceremony a
  answer : a.answer = .ok response
  log : w.session.log = ceremony.log (as ++ [a]) l
  authData : w.session.authData = a.authData

/-- **The loop**: what it leaves in the log, whether it responds or stops. -/
theorem retryLoop_spec (hlawful : ceremony.Lawful) (fuel : Nat) (request : R)
    (l : CeremonyLog T) :
    Proc.Triple (fun w => w.session.log = l) (p.retryLoop ceremony fuel request)
      (fun response w => ∃ as a, p.Responded ceremony request l response w as a)
      (fun w => ∃ as, Logged p.crypto ceremony request as
        ∧ w.session.log = ceremony.log as l) := by
  refine (Proc.Triple.loop
    (fun next w => ∃ as, Retried p.crypto ceremony request as next
      ∧ w.session.log = ceremony.log as l) ?_ ?_ fuel request).pre
    fun w hw => ⟨[], .start, by rw [hlawful.log_nil, hw]⟩
  · intro entry w hw
    obtain ⟨as, hretried, hlog⟩ := hw
    -- the invariant: the log has the attempts so far, and they lead to this request
    have happend : ∀ a : Attempt T R A,
        ceremony.log [a] (ceremony.log as l) = ceremony.log (as ++ [a]) l :=
      fun a => (hlawful.log_append as [a] l).symm
    refine (p.attemptTurn_spec hlawful fuel entry (ceremony.log as l)).conseq (fun _ => id)
      ?_ ?_ w hlog
    · rintro next w' ⟨a, hattempted, rfl, hlog', hleads⟩
      rw [happend] at hlog'
      cases next with
      | inl next =>
          obtain ⟨hused, hanswer, rfl⟩ := hleads
          exact ⟨_, .retry hretried hattempted hused hanswer, hlog'⟩
      | inr response => exact ⟨as, a, hretried, hattempted, hleads.1, hlog', hleads.2⟩
    · rintro w' (hlog' | ⟨a, hattempted, rfl, hlog'⟩)
      · exact ⟨as, .going hretried, hlog'⟩
      · rw [happend] at hlog'
        exact ⟨_, .ended hretried hattempted, hlog'⟩
  · exact fun next w hw => let ⟨as, hretried, hlog⟩ := hw; ⟨as, .going hretried, hlog⟩

end Platform

end Libwebauthn
