/-
  Libwebauthn.Webauthn.Lockstep — user verification does not look at what it
  is for.

  Two requests may differ in members that no hook of user verification reads
  (`SameVerification`).  From worlds that differ in their logs only
  (`World.Abreast`) they are verified alike, and the two retry loops stay in
  step for as long as the device answers both in the same way.

    • `Ctap.Dialogue.abreast` — a dialogue does not look at the logs;
    • `abreast_userVerification` — two requests, one verification;
    • `abreast_retryLoop` — two retry loops.
-/
import Libwebauthn.Lib.Lockstep
import Libwebauthn.Webauthn.Runs

namespace Libwebauthn

open Proc Ctap2UserVerifiableRequest

variable {σ T R : Type}

/-! ## §1. Worlds and requests. -/

/-- Worlds a run cannot tell apart, in which the device has given the same
answers to the requests that make credentials. -/
structure World.Abreast (w w' : World σ T) : Prop where
  env : w.env = w'.env
  authData : w.session.authData = w'.session.authData
  made : w.session.log.made.map (·.answer) = w'.session.log.made.map (·.answer)

theorem World.Abreast.trans {w w' w'' : World σ T} (h : w.Abreast w') (h' : w'.Abreast w'') :
    w.Abreast w'' :=
  ⟨h.env.trans h'.env, h.authData.trans h'.authData, h.made.trans h'.made⟩

/-- Requests that user verification cannot tell apart, and stay so under it. -/
structure SameVerification [Ctap2UserVerifiableRequest R] (E : R → R → Prop) : Prop where
  permissions : ∀ {r r' : R}, E r r' → permissions r = permissions r'
  permissionsRpid : ∀ {r r' : R}, E r r' → permissionsRpid r = permissionsRpid r'
  canUseUv : ∀ {r r' : R}, E r r' → canUseUv r = canUseUv r'
  needsSharedSecret : ∀ {r r' : R}, E r r' → needsSharedSecret r = needsSharedSecret r'
  needsPinUvAuthToken : ∀ {r r' : R}, E r r' → needsPinUvAuthToken r = needsPinUvAuthToken r'
  ensureUvSet : ∀ {r r' : R}, E r r' → E (ensureUvSet r) (ensureUvSet r')
  calculateAndSetUvAuth : ∀ {r r' : R} crypto protocol token, E r r' →
    ExceptRel E (calculateAndSetUvAuth crypto r protocol token)
      (calculateAndSetUvAuth crypto r' protocol token)

/-- A result with the request it goes with. -/
def BesideRequest {α : Type} (E : R → R → Prop) (x x' : α × R) : Prop :=
  x.1 = x'.1 ∧ E x.2 x'.2

/-! ## §2. Procedures that do not look at the logs. -/

namespace Ctap

variable {ε α : Type}

/-- `m` does not look at the logs. -/
abbrev Blind (m : Proc (World σ T) ε α) : Prop := Proc.Local World.Abreast m

/-- A change of the session is blind when it does not look at the log. -/
theorem blind_modifySession {f : Session T → Session T}
    (hauthData : ∀ s s', s.authData = s'.authData → (f s).authData = (f s').authData)
    (hlog : ∀ s, (f s).log = s.log) : Blind (modifySession f : Ctap σ T Unit) := by
  refine Local.modify fun w w' h => ⟨h.env, hauthData _ _ h.authData, ?_⟩
  show (f w.session).log.made.map (·.answer) = (f w'.session).log.made.map (·.answer)
  rw [hlog, hlog]
  exact h.made

theorem blind_storeAuthData (authData : AuthTokenData) :
    Blind (storeAuthData authData : Ctap σ T Unit) :=
  blind_modifySession (fun _ _ _ => rfl) fun _ => rfl

theorem blind_clearUvAuthTokenStore : Blind (clearUvAuthTokenStore : Ctap σ T Unit) :=
  blind_modifySession (fun _ _ _ => rfl) fun _ => rfl

theorem blind_getAuthData : Blind (getAuthData : Ctap σ T (Option AuthTokenData)) :=
  fun _ _ h => .ok ⟨h.authData, h⟩

theorem blind_ask (answer : σ → α × σ) : Blind (ask answer : Ctap σ T α) := by
  intro w w' h
  unfold ask
  rw [h.env]
  exact .ok ⟨rfl, rfl, h.authData, h.made⟩

theorem blind_tell (effect : σ → σ) : Blind (tell effect : Ctap σ T Unit) :=
  Local.modify fun _ _ h => ⟨congrArg effect h.env, h.authData, h.made⟩

/-- A command is blind: the device answers the same in the same state. -/
theorem blind_command (answer : σ → Except (WebAuthnError T) α × σ)
    (exchange : Except (WebAuthnError T) α → Exchange T) :
    Blind (command answer exchange : Ctap σ T α) := by
  intro w w' h
  unfold command
  rw [h.env]
  rcases answer w'.env with ⟨result, env⟩
  cases result with
  | ok a => exact .ok ⟨rfl, rfl, h.authData, h.made⟩
  | error e => exact .error ⟨rfl, h.authData, h.made⟩

/-- Two commands that the device fails alike, or answers as `Q` says. -/
theorem lockstep_command {α' : Type} {Q : α → α' → Prop}
    {answer : σ → Except (WebAuthnError T) α × σ} {answer' : σ → Except (WebAuthnError T) α' × σ}
    {exchange : Except (WebAuthnError T) α → Exchange T}
    {exchange' : Except (WebAuthnError T) α' → Exchange T}
    (h : ∀ s, Tried Eq (fun a _ a' _ => Q a a') (answer s).1 (answer s).2 (answer' s).1
      (answer' s).2) :
    Lockstep World.Abreast (fun a _ a' _ => Q a a') (command answer exchange)
      (command answer' exchange') := by
  intro w w' hw
  unfold command
  have hanswer := h w'.env
  rw [hw.env]
  generalize answer w'.env = x, answer' w'.env = x' at hanswer ⊢
  obtain ⟨result, env⟩ := x
  obtain ⟨result', env'⟩ := x'
  dsimp only at hanswer ⊢
  cases hanswer with
  | ok h => exact .ok h
  | error e henv => exact .error ⟨henv, hw.authData, hw.made⟩

/-- A dialogue does not look at the logs. -/
theorem Dialogue.abreast {S : Exchange T → Prop} {m : Proc (World σ T) ε α}
    (h : Dialogue S m) : Blind m := by
  induction h with
  | pure a => exact Local.pure a
  | throw e => exact Local.throw e
  | bind _ _ hm hk => exact Local.bind hm hk
  | attempt _ hm => exact Local.attempt hm
  | mapError _ hm => exact Local.mapError hm
  | loop _ fuel b hbody => exact Local.loop hbody fuel b
  | ask answer => exact blind_ask answer
  | tell effect => exact blind_tell effect
  | command answer exchange _ => exact blind_command answer exchange
  | getAuthData => exact blind_getAuthData

/-- Related results lead to related runs. -/
theorem lockstep_liftPlatform {α' : Type} {Q : α → α' → Prop} {r : Except PlatformError α}
    {r' : Except PlatformError α'} (h : ExceptRel Q r r') :
    Lockstep World.Abreast (With World.Abreast Q) (liftPlatform r : Ctap σ T α)
      (liftPlatform r' : Ctap σ T α') := by
  cases h with
  | ok h => exact Lockstep.pure fun _ _ hs => ⟨h, hs⟩
  | error e => exact Lockstep.throw _

end Ctap

/-! ## §3. A turn of user verification. -/

namespace Platform

variable (p : Platform σ T) [Ctap2UserVerifiableRequest R] {E : R → R → Prop}

/-- States of the loop that differ in their request. -/
structure SameTurn (E : R → R → Prop) (state state' : UvState R) : Prop where
  info : state.info = state'.info
  request : E state.request state'.request
  uvBlocked : state.uvBlocked = state'.uvBlocked

/-- What two turns come to. -/
inductive SameNext (E : R → R → Prop) :
    UvState R ⊕ (UvState R × UvExit) → UvState R ⊕ (UvState R × UvExit) → Prop where
  | again {state state' : UvState R} (h : SameTurn E state state') :
      SameNext E (.inl state) (.inl state')
  | left {state state' : UvState R} (exit : UvExit) (h : SameTurn E state state') :
      SameNext E (.inr (state, exit)) (.inr (state', exit))

/-- Turns that go alike. -/
abbrev TurnsAlike (E : R → R → Prop)
    (m m' : Ctap σ T (UvState R ⊕ (UvState R × UvExit))) : Prop :=
  Lockstep World.Abreast (With World.Abreast (SameNext E)) m m'

/-- The token request is made of nothing in which the two requests differ. -/
theorem tokenRequest_same (hE : SameVerification E) {r r' : R} (h : E r r')
    (uvOperation : Ctap2UserVerificationOperation) (version : Ctap2PinUvAuthProtocol)
    (sharedSecret : Bytes) (publicKey : PublicKey) (pin : Option Bytes) :
    p.tokenRequest r uvOperation version sharedSecret publicKey pin
      = p.tokenRequest r' uvOperation version sharedSecret publicKey pin := by
  unfold tokenRequest
  rw [hE.permissions h, hE.permissionsRpid h]

omit [Ctap2UserVerifiableRequest R] in
/-- An answer to both is taken the same way. -/
theorem alike_tokenAnswer {state state' : UvState R} (h : SameTurn E state state')
    (uvProto : PinUvAuthProtocol) (sharedSecret : Bytes) (publicKey : PublicKey)
    (uvOperation : Ctap2UserVerificationOperation)
    (answer : Except (WebAuthnError T) Ctap2ClientPinResponse) :
    TurnsAlike E (p.tokenAnswer state uvProto sharedSecret publicKey uvOperation answer)
      (p.tokenAnswer state' uvProto sharedSecret publicKey uvOperation answer) := by
  have hblocked : SameNext E (.inl { state with uvBlocked := true })
      (.inl { state' with uvBlocked := true }) := .again ⟨h.info, h.request, rfl⟩
  unfold tokenAnswer
  split
  · exact Lockstep.pure fun _ _ hs => ⟨.left _ h, hs⟩
  · exact Lockstep.pure fun _ _ hs => ⟨hblocked, hs⟩
  · refine (dialogue_softly (p.dialogue_ctap2ClientPin _) _).abreast.before fun attemptsLeft => ?_
    refine (Ctap.blind_tell _).before fun _ => ?_
    split
    · exact Lockstep.pure fun _ _ hs => ⟨hblocked, hs⟩
    · exact Lockstep.throw _
  · exact Lockstep.throw _

/-- So the two negotiate the same token. -/
theorem alike_negotiate (hE : SameVerification E) (plan : UvPlan) {state state' : UvState R}
    (h : SameTurn E state state') (uvProto : PinUvAuthProtocol)
    (uvOperation : Ctap2UserVerificationOperation) :
    TurnsAlike E (p.negotiate plan state uvProto uvOperation)
      (p.negotiate plan state' uvProto uvOperation) := by
  unfold negotiate
  rw [h.info, h.uvBlocked]
  refine (p.dialogue_pinFor _ _ _ _ _).abreast.before fun pin => ?_
  refine (p.dialogue_obtainSharedSecret _).abreast.before fun shared => ?_
  obtain ⟨publicKey, sharedSecret⟩ := shared
  dsimp only
  rw [p.tokenRequest_same hE h.request]
  refine (p.concludes_tokenRequest (S := Exchange.Auxiliary) _ _ _ _ _ _).dialogue.abreast.before
    fun request => ?_
  cases request with
  | none => exact Lockstep.pure fun _ _ hs => ⟨.left _ h, hs⟩
  | some request =>
      refine (Ctap.Dialogue.attempt (p.dialogue_ctap2ClientPin _)).abreast.before fun answer => ?_
      exact p.alike_tokenAnswer h _ _ _ _ answer

/-- Whichever operation is chosen, it is carried out for both. -/
theorem alike_carryOut (hE : SameVerification E) (fuel : Nat) (plan : UvPlan)
    {state state' : UvState R} (h : SameTurn E state state')
    (uvOperation : Ctap2UserVerificationOperation) :
    TurnsAlike E (p.carryOut fuel plan state uvOperation)
      (p.carryOut fuel plan state' uvOperation) := by
  unfold carryOut
  rw [h.info, h.uvBlocked, hE.permissions h.request]
  refine (Ctap.Dialogue.liftPlatform (S := Exchange.Auxiliary) _).abreast.before
    fun uvOperation => ?_
  split
  · refine (p.dialogue_tryToSetPin _ _ _).abreast.before fun _ => ?_
    refine p.dialogue_ctap2GetInfo.abreast.before fun info => ?_
    exact Lockstep.pure fun _ _ hs => ⟨.again ⟨rfl, h.request, rfl⟩, hs⟩
  · refine (p.concludes_selectUvProto (S := Exchange.Auxiliary) _).dialogue.abreast.before
      fun uvProto => ?_
    cases uvProto with
    | none => exact Lockstep.throw _
    | some uvProto => exact p.alike_negotiate hE plan h uvProto uvOperation

/-- **Turn by turn** the two verifications do the same. -/
theorem alike_uvTurn (hE : SameVerification E) (fuel : Nat) (plan : UvPlan)
    {state state' : UvState R} (h : SameTurn E state state') :
    TurnsAlike E (p.uvTurn fuel plan state) (p.uvTurn fuel plan state') := by
  unfold uvTurn
  rw [h.info, h.uvBlocked]
  refine Local.before (Ctap.blind_modifySession ?_ ?_) fun _ => ?_
  · exact fun _ _ => id
  · exact fun _ => rfl
  have hset : SameTurn E { state with request := ensureUvSet state.request }
      { state' with request := ensureUvSet state'.request } :=
    ⟨h.info, hE.ensureUvSet h.request, h.uvBlocked⟩
  rw [h.info, h.uvBlocked] at hset
  split
  · exact Lockstep.throw _
  · dsimp only
    split
    · exact Lockstep.pure fun _ _ hs => ⟨.left _ hset, hs⟩
    · exact p.alike_carryOut hE fuel plan hset _
  · have hdowngrade : ∀ uvOperation, plan.downgrade state.request state.info uvOperation
        = plan.downgrade state'.request state'.info uvOperation := by
      intro uvOperation
      unfold UvPlan.downgrade
      rw [hE.needsPinUvAuthToken h.request, h.info]
    rw [← h.info, hdowngrade, h.info]
    exact p.alike_carryOut hE fuel plan h _

/-! ## §4. The result of user verification. -/

variable [EphemeralTokenRequest R]

theorem blind_storeToken {state state' : UvState R} (hE : SameVerification E)
    (h : SameTurn E state state') (uvProto : PinUvAuthProtocol) (sharedSecret : Bytes)
    (publicKey : PublicKey) (uvOperation : Ctap2UserVerificationOperation)
    (uvAuthToken : Bytes) :
    Lockstep World.Abreast (With World.Abreast Eq)
      (p.storeToken state uvProto sharedSecret publicKey uvOperation uvAuthToken)
      (p.storeToken state' uvProto sharedSecret publicKey uvOperation uvAuthToken) := by
  unfold storeToken
  rw [EphemeralTokenRequest.wantsPersistentToken, EphemeralTokenRequest.wantsPersistentToken,
    hE.permissions h.request, hE.permissionsRpid h.request]
  exact Ctap.blind_storeAuthData _

/-- And so they end. -/
theorem alike_packageResult (hE : SameVerification E) {state state' : UvState R}
    (h : SameTurn E state state') (exit : UvExit) :
    Lockstep World.Abreast (With World.Abreast (BesideRequest E)) (p.packageResult state exit)
      (p.packageResult state' exit) := by
  cases exit with
  | legacyUv => exact Lockstep.pure fun _ _ hs => ⟨⟨rfl, h.request⟩, hs⟩
  | negotiated uvProto sharedSecret publicKey uvOperation tokenResponse =>
      unfold packageResult
      dsimp only
      split
      · refine (p.concludes_decryptToken (S := Exchange.Auxiliary) _ _ _).dialogue.abreast.before
          fun uvAuthToken => ?_
        refine Lockstep.bind (p.blind_storeToken hE h _ _ _ _ _) fun _ _ _ => ?_
        refine Lockstep.bind (Ctap.lockstep_liftPlatform
          (hE.calculateAndSetUvAuth p.crypto uvProto.version uvAuthToken h.request))
          fun request request' hrequest => ?_
        exact Lockstep.pure fun _ _ hs => ⟨⟨rfl, hrequest⟩, hs⟩
      · refine (Ctap.blind_storeAuthData _).before fun _ => ?_
        exact Lockstep.pure fun _ _ hs => ⟨⟨rfl, h.request⟩, hs⟩

/-- The whole verification, by induction on its turns. -/
theorem alike_userVerificationHelper (hE : SameVerification E) (fuel : Nat)
    (info : Ctap2GetInfoResponse) (requirement : UserVerificationRequirement) {r r' : R}
    (h : E r r') :
    Lockstep World.Abreast (With World.Abreast (BesideRequest E))
      (p.userVerificationHelper fuel info requirement r)
      (p.userVerificationHelper fuel info requirement r') := by
  unfold userVerificationHelper
  rw [hE.needsSharedSecret h, hE.canUseUv h]
  dsimp only
  refine (p.dialogue_ensureUvProtected _ _ _).abreast.before fun info => ?_
  split
  · exact Lockstep.pure fun _ _ hs => ⟨⟨rfl, h⟩, hs⟩
  · refine Lockstep.bind (P := fun x x' => SameTurn E x.1 x'.1 ∧ x.2 = x'.2)
      (Lockstep.loop (Q := SameTurn E) (fun state state' hstate w w' hw => ?_) fuel _ _
        ⟨rfl, h, rfl⟩) fun x x' hx => ?_
    · refine (p.alike_uvTurn hE fuel _ hstate w w' hw).mono fun next t next' t' hnext => ?_
      obtain ⟨hnext, ht⟩ := hnext
      cases hnext with
      | again h => exact .on h ht
      | left exit h => exact .left ⟨⟨h, rfl⟩, ht⟩
    · obtain ⟨state, exit⟩ := x
      obtain ⟨state', exit'⟩ := x'
      obtain ⟨hstate, hexit⟩ := hx
      obtain rfl : exit = exit' := hexit
      exact p.alike_packageResult hE hstate exit

/-- **Two requests, one verification.** -/
theorem abreast_userVerification (hE : SameVerification E) (fuel : Nat)
    (requirement : UserVerificationRequirement) {r r' : R} (h : E r r') :
    Lockstep World.Abreast (With World.Abreast (BesideRequest E))
      (p.userVerification fuel requirement r) (p.userVerification fuel requirement r') := by
  -- nothing of this is for ceremonies: no preview, no persistent token
  have hprepare : ∀ (info : Ctap2GetInfoResponse) (r : R), p.prepareRequest info r = r := by
    intro info r
    unfold prepareRequest
    rw [EphemeralTokenRequest.handleLegacyPreview, EphemeralTokenRequest.setPersistentTokenUse]
  have hpersistent : ∀ (info : Ctap2GetInfoResponse) (r : R),
      p.reusablePersistentToken info r = pure none := by
    intro info r
    unfold reusablePersistentToken
    rw [EphemeralTokenRequest.wantsPersistentToken]
    rfl
  unfold userVerification
  refine p.dialogue_ctap2GetInfo.abreast.before fun info => ?_
  dsimp only
  rw [hprepare, hprepare, hpersistent, hpersistent, pure_bind, pure_bind]
  have hephemeral : p.reusableEphemeralToken info r = p.reusableEphemeralToken info r' := by
    unfold reusableEphemeralToken
    rw [hE.permissions h, hE.permissionsRpid h]
  rw [hephemeral]
  refine (p.dialogue_reusableEphemeralToken (S := Exchange.Auxiliary) _ _).abreast.before
    fun token => ?_
  cases token with
  | none => exact p.alike_userVerificationHelper hE fuel info requirement h
  | some token =>
      obtain ⟨uvProto, uvAuthToken⟩ := token
      refine Lockstep.bind (Ctap.lockstep_liftPlatform
        (hE.calculateAndSetUvAuth p.crypto uvProto uvAuthToken h)) fun r r' hr => ?_
      exact Lockstep.pure fun _ _ hs => ⟨⟨rfl, hr⟩, hs⟩

/-! ## §5. The retry loop. -/

variable {A : Type} {ceremony : Ceremony σ T R A}

/-- Ceremonies whose requests differ as `E` says: their envelopes are the
same, the device fails them alike or answers both as `Q` says, and the log
they keep is of the answers. -/
structure InStep (E : R → R → Prop) (Q : A → A → Prop) (ceremony : Ceremony σ T R A) :
    Prop where
  verification : SameVerification E
  calculateHmac : ∀ {r r' : R} iv authData, E r r' →
    ExceptRel E (ceremony.calculateHmac iv authData r) (ceremony.calculateHmac iv authData r')
  send : ∀ {r r' : R}, E r r' →
    Lockstep World.Abreast (fun a _ a' _ => Q a a') (ceremony.send r) (ceremony.send r')
  log : ∀ {a a' : Attempt T R A} {l l' : CeremonyLog T}, a.answer = a'.answer →
    l.made.map (·.answer) = l'.made.map (·.answer) →
    (ceremony.log [a] l).made.map (·.answer) = (ceremony.log [a'] l').made.map (·.answer)

omit [EphemeralTokenRequest R] in
/-- The envelope is sealed in both or in neither. -/
theorem alike_applyHmac {Q : A → A → Prop} (h : InStep E Q ceremony)
    (authData : Option AuthTokenData) {r r' : R} (hr : E r r') :
    Lockstep World.Abreast (With World.Abreast E) (p.applyHmac ceremony authData r)
      (p.applyHmac ceremony authData r') := by
  cases authData with
  | none => exact Lockstep.pure fun _ _ hs => ⟨hr, hs⟩
  | some authData =>
      refine Local.before (Ctap.blind_ask _) fun iv => ?_
      exact Ctap.lockstep_liftPlatform (h.calculateHmac iv authData hr)

/-- An error is handled without a look at the logs, and is no response. -/
theorem alike_handleErrors (uvAuthUsed : UsedPinUvAuthToken) (e : WebAuthnError T) :
    Lockstep World.Abreast (With World.Abreast fun x x' => x = none ∧ x' = none)
      (p.handleErrors uvAuthUsed (.error e) : Ctap σ T (Option A))
      (p.handleErrors uvAuthUsed (.error e) : Ctap σ T (Option A)) := by
  unfold handleErrors
  split
  next h => cases h
  · refine Ctap.blind_clearUvAuthTokenStore.before fun _ => ?_
    exact Lockstep.pure fun _ _ hs => ⟨⟨rfl, rfl⟩, hs⟩
  · refine (p.dialogue_evictPersistentToken _).abreast.before fun _ => ?_
    exact Lockstep.pure fun _ _ hs => ⟨⟨rfl, rfl⟩, hs⟩
  · refine (dialogue_softly (p.dialogue_ctap2ClientPin _) _).abreast.before fun _ => ?_
    exact (Ctap.blind_tell _).before fun _ => Lockstep.throw _
  · exact Lockstep.throw _

/-- **An attempt** with related requests: the same exchanges, and related
answers. -/
theorem alike_attemptTurn {Q : A → A → Prop} (h : InStep E Q ceremony) (fuel : Nat) {r r' : R}
    (hr : E r r') :
    Lockstep World.Abreast (Together World.Abreast E fun a _ a' _ => Q a a')
      (p.attemptTurn ceremony fuel r) (p.attemptTurn ceremony fuel r') := by
  refine Lockstep.bind Lockstep.get fun start start' _ => ?_
  refine Lockstep.bind (p.abreast_userVerification h.verification fuel _ hr) fun x x' hx => ?_
  obtain ⟨used, verified⟩ := x
  obtain ⟨used', verified'⟩ := x'
  obtain ⟨hused, hverified⟩ := hx
  obtain rfl : used = used' := hused
  refine Lockstep.bind Lockstep.get fun reached reached' _ => ?_
  refine Ctap.blind_getAuthData.before fun authData => ?_
  refine Lockstep.bind (p.alike_applyHmac h authData hverified) fun sent sent' hsent => ?_
  refine (p.dialogue_promptForTouch used).abreast.before fun _ => ?_
  intro w w' hw
  refine ((h.send hsent).attempt w w' hw).bind fun answer w answer' w' hanswer => ?_
  cases hanswer with
  | ok hresponse => exact .ok (.left hresponse)
  | error e hw =>
      -- the next turn starts abreast, with the same answer in both logs
      refine Alike.bind (R := With World.Abreast fun _ _ => True) ?_ fun _ w _ w' hw => ?_
      · exact .ok ⟨trivial, hw.env, hw.authData, h.log rfl hw.made⟩
      · refine (p.alike_handleErrors used e w w' hw.2).bind fun x w x' w' hx => ?_
        obtain ⟨⟨rfl, rfl⟩, hw⟩ := hx
        exact .ok (.on hsent hw)

/-- **Two retry loops in step.** -/
theorem abreast_retryLoop {Q : A → A → Prop} (h : InStep E Q ceremony) (fuel : Nat) {r r' : R}
    (hr : E r r') :
    Lockstep World.Abreast (fun a _ a' _ => Q a a') (p.retryLoop ceremony fuel r)
      (p.retryLoop ceremony fuel r') :=
  Lockstep.loop (fun _ _ hb => p.alike_attemptTurn h fuel hb) fuel r r' hr

end Platform

end Libwebauthn
