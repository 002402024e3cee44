/-
  Libwebauthn.Webauthn.TokenCache — what a user verification leaves on the
  channel, and which token a later one finds there
  (`src/webauthn/pin_uv_auth_token.rs`, `src/transport/channel.rs`).

  `Minted` ties auth data to the exchange its token came from.  However a
  verification ends, `userVerification_leaves` says, the channel has the
  auth data it had, or else data without a token, or data just minted for
  the request that was verified.
-/
import Libwebauthn.Webauthn.UvOutcome

namespace Libwebauthn

open Ctap2UserVerifiableRequest

variable {σ T R : Type} [Ctap2UserVerifiableRequest R]

/-! ## §1. Where a token comes from. -/

/-- The ways to ask for a token for `request`.  The old command takes no
permissions: it is for whatever the request needs. -/
inductive TokenRequestFor (request : R) (version : Ctap2PinUvAuthProtocol) :
    Ctap2ClientPinRequest → Prop where
  | pinToken {publicKey : PublicKey} {pinHashEnc : Bytes} :
      TokenRequestFor request version (.newGetPinToken version publicKey pinHashEnc)
  | pinTokenWithPerm {publicKey : PublicKey} {pinHashEnc : Bytes} :
      TokenRequestFor request version (.newGetPinTokenWithPerm version publicKey pinHashEnc
        (permissions request) (permissionsRpid request))
  | uvTokenWithPerm {publicKey : PublicKey} :
      TokenRequestFor request version (.newGetUvTokenWithPerm version publicKey
        (permissions request) (permissionsRpid request))

/-- The last thing on the wire is the answer to a request of a token for
`request`, sent after `sent`. -/
def Answered (sent : List (Exchange T)) (request : R) (version : Ctap2PinUvAuthProtocol)
    (response : Ctap2ClientPinResponse) (wire : List (Exchange T)) : Prop :=
  ∃ between tokenRequest, TokenRequestFor request version tokenRequest
    ∧ wire = sent ++ between ++ [.clientPin tokenRequest (.ok response)]

/-- Auth data with the token of the last answer on the wire, which was asked
for on behalf of `request`. -/
structure Minted (crypto : Crypto) (sent : List (Exchange T)) (request : R)
    (data : AuthTokenData) (token : Bytes) (wire : List (Exchange T)) : Prop where
  ephemeral : wantsPersistentToken request = false
  permission : data.permission
    = some ⟨data.protocolVersion, permissions request, permissionsRpid request⟩
  holds : data.pinUvAuthToken = some token
  answered : ∃ response encrypted, Answered sent request data.protocolVersion response wire
    ∧ response.pinUvAuthToken = some encrypted
    ∧ data.protocolVersion.decrypt crypto data.sharedSecret encrypted = .ok token

/-- What there is on the channel once `request` has been verified. -/
def CacheLeft (crypto : Crypto) (sent : List (Exchange T)) (request : R)
    (before : Option AuthTokenData) (w : World σ T) : Prop :=
  w.session.authData = before ∨ ∃ data, w.session.authData = some data
    ∧ (data.pinUvAuthToken = none
      ∨ ∃ token, Minted crypto sent request data token w.wire)

/-! ## §2. The exchange of a token. -/

/-- The last exchange of a turn that left the loop with a token. -/
def ExitAnswered (sent : List (Exchange T)) :
    UvState R ⊕ (UvState R × UvExit) → World σ T → Prop
  | .inr (state, .negotiated uvProto _ _ _ (some response)), w =>
      Answered sent state.request uvProto.version response w.wire
  | _, w => sent <+: w.wire

namespace Platform

variable (p : Platform σ T)

/-- What is on the wire stays there. -/
theorem sends_of_dialogue {α : Type} {m : Ctap σ T α} (h : Ctap.Dialogue Exchange.Auxiliary m)
    (sent : List (Exchange T)) :
    Returns (fun w => sent <+: w.wire) m fun _ w => sent <+: w.wire :=
  (h.quiet.triple fun _ _ hlater hsent => hsent.trans hlater.wire).conseq (fun _ => id)
    (fun _ _ => id) fun _ _ => trivial

/-- Nor does a dialogue touch the auth data. -/
theorem leaves_of_dialogue {α : Type} {m : Ctap σ T α} (h : Ctap.Dialogue Exchange.Auxiliary m)
    (crypto : Crypto) (sent : List (Exchange T)) (request : R) (before : Option AuthTokenData) :
    Proc.Triple (fun w => sent <+: w.wire ∧ w.session.authData = before) m
      (fun _ w => sent <+: w.wire ∧ w.session.authData = before)
      (CacheLeft crypto sent request before) :=
  (h.quiet.triple fun _ w' hlater hw =>
    ⟨hw.1.trans hlater.wire, by rw [hlater.session, hw.2]⟩).conseq
    (fun _ => id) (fun _ _ => id) fun _ hw => Or.inl hw.2

/-- Two facts about the runs that return. -/
theorem returns_and {α : Type} {m : Ctap σ T α} {P : World σ T → Prop}
    {Q Q' : α → World σ T → Prop} (h : Returns P m Q) (h' : Returns P m Q') :
    Returns P m fun a w => Q a w ∧ Q' a w :=
  (h.and h').conseq (fun _ hw => ⟨hw, hw⟩) (fun _ _ => id) fun _ _ => trivial

theorem tokenRequest_for (request : R) (uvOperation : Ctap2UserVerificationOperation)
    (version : Ctap2PinUvAuthProtocol) (sharedSecret : Bytes) (publicKey : PublicKey)
    (pin : Option Bytes) (P : World σ T → Prop) :
    Returns P
      (p.tokenRequest request uvOperation version sharedSecret publicKey pin)
      fun tokenRequest _ => ∀ r ∈ tokenRequest, TokenRequestFor request version r := by
  have hnone : Returns P
      (pure none : Ctap σ T (Option Ctap2ClientPinRequest))
      fun tokenRequest _ => ∀ r ∈ tokenRequest, TokenRequestFor request version r :=
    Proc.Triple.pure fun _ _ r hr => absurd hr (by simp)
  have hsome : ∀ r, TokenRequestFor request version r → Returns (fun _ => True)
      (pure (some r) : Ctap σ T (Option Ctap2ClientPinRequest))
      fun tokenRequest _ => ∀ r ∈ tokenRequest, TokenRequestFor request version r :=
    fun r hr => Proc.Triple.pure fun _ _ r' hr' => Option.mem_some.mp hr' ▸ hr
  cases uvOperation with
  | legacyUv => exact hnone
  | onlyForSharedSecret => exact hnone
  | getPinToken =>
      exact Proc.Triple.bind _ (Proc.Triple.trivial _ _) fun _ => hsome _ .pinToken
  | getPinUvAuthTokenUsingPinWithPermissions =>
      exact Proc.Triple.bind _ (Proc.Triple.trivial _ _) fun _ => hsome _ .pinTokenWithPerm
  | getPinUvAuthTokenUsingUvWithPermissions =>
      exact Proc.Triple.bind _ (Proc.Triple.trivial _ _) fun _ => hsome _ .uvTokenWithPerm

/-- A command and its answer are the last exchange there is. -/
theorem attempt_ctap2ClientPin_sends (request : Ctap2ClientPinRequest) (sent : List (Exchange T)) :
    Returns (fun w => sent <+: w.wire)
      (Proc.attempt (p.ctap2ClientPin request) :
        Ctap σ T (Except (WebAuthnError T) Ctap2ClientPinResponse))
      fun answer w => ∃ between, w.wire = sent ++ between ++ [.clientPin request answer] := by
  rintro w ⟨between, hwire⟩
  unfold Proc.attempt ctap2ClientPin Ctap.command
  rcases p.clientPin request w.env with ⟨answer, env⟩
  cases answer with
  | ok response => exact ⟨between, by rw [hwire]⟩
  | error e => exact ⟨between, by rw [hwire]⟩

/-- Nothing is sent once the token is there. -/
theorem tokenAnswer_answered {state : UvState R} {uvProto : PinUvAuthProtocol}
    {request : Ctap2ClientPinRequest}
    (hrequest : TokenRequestFor state.request uvProto.version request) (sharedSecret : Bytes)
    (publicKey : PublicKey) (uvOperation : Ctap2UserVerificationOperation)
    (answer : Except (WebAuthnError T) Ctap2ClientPinResponse) (sent : List (Exchange T)) :
    Returns (fun w => ∃ between, w.wire = sent ++ between ++ [.clientPin request answer])
      (p.tokenAnswer state uvProto sharedSecret publicKey uvOperation answer)
      (ExitAnswered sent) := by
  have hsent : ∀ w : World σ T,
      (∃ between, w.wire = sent ++ between ++ [.clientPin request answer]) →
        sent <+: w.wire := by
    rintro w ⟨between, hwire⟩
    exact ⟨between ++ [.clientPin request answer], by rw [hwire, List.append_assoc]⟩
  unfold tokenAnswer
  -- an answer ends the turn with it; of the errors only UV ones go on
  split
  · refine Proc.Triple.pure ?_
    rintro w ⟨between, hwire⟩
    exact ⟨between, request, hrequest, hwire⟩
  · exact Proc.Triple.pure hsent
  · refine Proc.Triple.pre (P := fun w => sent <+: w.wire) ?_ hsent
    refine Proc.Triple.bind _
      (sends_of_dialogue (dialogue_softly (p.dialogue_ctap2ClientPin _) _) sent)
      fun attemptsLeft => ?_
    refine Proc.Triple.bind _ (sends_of_dialogue (Ctap.Dialogue.tell _) sent) fun _ => ?_
    split
    · exact Proc.Triple.pure fun _ hw => hw
    · exact Proc.Triple.throw fun _ _ => trivial
  · exact Proc.Triple.throw fun _ _ => trivial

theorem negotiate_answered (plan : UvPlan) (state : UvState R) (uvProto : PinUvAuthProtocol)
    (uvOperation : Ctap2UserVerificationOperation) (sent : List (Exchange T)) :
    Returns (fun w => sent <+: w.wire) (p.negotiate plan state uvProto uvOperation)
      (ExitAnswered sent) := by
  refine Proc.Triple.bind _ (sends_of_dialogue (p.dialogue_pinFor _ _ _ _ _) sent) fun pin => ?_
  refine Proc.Triple.bind _ (sends_of_dialogue (p.dialogue_obtainSharedSecret _) sent)
    fun keys => ?_
  refine Proc.Triple.bind _ (returns_and
    (sends_of_dialogue (p.concludes_tokenRequest _ uvOperation _ _ _ _).dialogue sent)
    (p.tokenRequest_for state.request uvOperation uvProto.version keys.2 keys.1 pin _))
    fun tokenRequest => ?_
  cases tokenRequest with
  | none => exact Proc.Triple.pure fun w hw => hw.1
  | some tokenRequest =>
      refine Proc.Triple.pre (P := fun w => TokenRequestFor state.request uvProto.version
        tokenRequest ∧ sent <+: w.wire) ?_ fun w hw => ⟨hw.2 _ rfl, hw.1⟩
      refine Proc.Triple.of_fact fun hfor => ?_
      refine Proc.Triple.bind _ (p.attempt_ctap2ClientPin_sends tokenRequest sent) fun answer => ?_
      exact p.tokenAnswer_answered hfor _ _ _ answer sent

theorem carryOut_answered (fuel : Nat) (plan : UvPlan) (state : UvState R)
    (uvOperation : Ctap2UserVerificationOperation) (sent : List (Exchange T)) :
    Returns (fun w => sent <+: w.wire) (p.carryOut fuel plan state uvOperation)
      (ExitAnswered sent) := by
  refine Proc.Triple.bind _ (sends_of_dialogue (Ctap.Dialogue.liftPlatform _) sent)
    fun uvOperation => ?_
  split
  · refine Proc.Triple.bind _ (sends_of_dialogue (p.dialogue_tryToSetPin _ _ _) sent) fun _ => ?_
    refine Proc.Triple.bind _ (sends_of_dialogue p.dialogue_ctap2GetInfo sent) fun info => ?_
    exact Proc.Triple.pure fun _ hw => hw
  · refine Proc.Triple.bind _ (sends_of_dialogue (p.concludes_selectUvProto _).dialogue sent)
      fun uvProto => ?_
    cases uvProto with
    | none => exact Proc.Triple.throw fun _ _ => trivial
    | some uvProto => exact p.negotiate_answered plan state uvProto uvOperation sent

theorem uvTurn_answered (fuel : Nat) (plan : UvPlan) (state : UvState R)
    (sent : List (Exchange T)) :
    Returns (fun w => sent <+: w.wire) (p.uvTurn fuel plan state) (ExitAnswered sent) := by
  refine Proc.Triple.bind (fun _ w => sent <+: w.wire) (Proc.Triple.modify fun _ hw => hw)
    fun _ => ?_
  split
  · exact Proc.Triple.throw fun _ _ => trivial
  · dsimp only
    split
    · exact Proc.Triple.pure fun _ hw => hw
    · exact p.carryOut_answered _ _ _ _ _
  · exact p.carryOut_answered _ _ _ _ _

/-- The token the loop is left with is the last thing on the wire. -/
theorem uvLoop_answered (turnFuel : Nat) (plan : UvPlan) (fuel : Nat) (state : UvState R)
    (sent : List (Exchange T)) :
    Returns (fun w => sent <+: w.wire) (Proc.loop (p.uvTurn turnFuel plan) fuel state)
      fun result => ExitAnswered sent (.inr result) := by
  refine Proc.Triple.loop (fun _ (w : World σ T) => sent <+: w.wire) (fun state => ?_)
    (fun _ _ _ => trivial) fuel state
  refine (p.uvTurn_answered turnFuel plan state sent).post fun next w hw => ?_
  cases next with
  | inl state' => exact hw
  | inr result => exact hw

/-! ## §3. Packaging. -/

/-- The loop and its turns leave the auth data alone. -/
theorem keeps_authData_uvLoop (turnFuel : Nat) (plan : UvPlan) (fuel : Nat)
    (state : UvState R) :
    Proc.Keeps (fun w : World σ T => w.session.authData)
      (Proc.loop (p.uvTurn turnFuel plan) fuel state) := by
  refine Proc.Keeps.loop (fun state => ?_) fuel state
  have hcarry : ∀ (state : UvState R) uvOperation,
      Proc.Keeps (fun w : World σ T => w.session.authData)
        (p.carryOut turnFuel plan state uvOperation) :=
    fun state uvOperation => (p.dialogue_carryOut _ _ _ _).keeps_session.map Session.authData
  refine Proc.Keeps.bind (fun _ => rfl) fun _ => ?_
  split
  · exact Proc.Keeps.throw _
  · dsimp only
    split
    · exact Proc.Keeps.pure _
    · exact hcarry _ _
  · exact hcarry _ _

omit [Ctap2UserVerifiableRequest R] in
/-- A token is decrypted without a step of the world. -/
theorem decryptToken_spec (uvProto : PinUvAuthProtocol) (sharedSecret : Bytes)
    (tokenResponse : Option Ctap2ClientPinResponse) (P : World σ T → Prop) :
    Proc.Triple P (p.decryptToken uvProto sharedSecret tokenResponse)
      (fun token w => P w ∧ ∃ response encrypted, tokenResponse = some response
        ∧ response.pinUvAuthToken = some encrypted
        ∧ uvProto.version.decrypt p.crypto sharedSecret encrypted = .ok token) P := by
  unfold decryptToken
  rcases tokenResponse with _ | response
  · exact Proc.Triple.throw fun _ hw => hw
  rcases hencrypted : response.pinUvAuthToken with _ | encrypted
  · rw [show (some response).bind (·.pinUvAuthToken) = none from hencrypted]
    exact Proc.Triple.throw fun _ hw => hw
  · rw [show (some response).bind (·.pinUvAuthToken) = some encrypted from hencrypted]
    dsimp only
    refine Proc.Triple.bind _ (triple_liftPlatform _ P) fun token =>
      Proc.Triple.of_fact fun hdecrypt => ?_
    split
    · exact Proc.Triple.pure fun w hw => ⟨hw, response, encrypted, rfl, hencrypted, hdecrypt⟩
    · exact Proc.Triple.throw fun _ hw => hw

theorem storeToken_leaves {state : UvState R} {uvProto : PinUvAuthProtocol}
    {sharedSecret token : Bytes} {response : Ctap2ClientPinResponse} {encrypted : Bytes}
    (hencrypted : response.pinUvAuthToken = some encrypted)
    (hdecrypt : uvProto.version.decrypt p.crypto sharedSecret encrypted = .ok token)
    (publicKey : PublicKey) (uvOperation : Ctap2UserVerificationOperation)
    (sent : List (Exchange T)) (before : Option AuthTokenData) :
    Proc.Triple (fun w => w.session.authData = before
        ∧ Answered sent state.request uvProto.version response w.wire)
      (p.storeToken state uvProto sharedSecret publicKey uvOperation token)
      (fun _ => CacheLeft p.crypto sent state.request before)
      (CacheLeft p.crypto sent state.request before) := by
  unfold storeToken
  split
  · have hkept : ∀ w : World σ T, w.session.authData = before →
        CacheLeft p.crypto sent state.request before w := fun _ => Or.inl
    split
    -- storing the minted token may fail, and the session is kept either way
    · have hkeeps := (p.concludes_storeMintedToken (S := Exchange.Auxiliary) state.info token
        uvProto.version).dialogue.keeps_session
      refine Proc.Triple.bind (fun _ w => w.session.authData = before) ?_ fun _ =>
        Proc.Triple.pure hkept
      exact ((Proc.Keeps.attempt hkeeps).triple fun s => s.authData = before).conseq
        (fun _ hw => hw.1) (fun _ _ => id) hkept
    · exact Proc.Triple.pure fun w hw => hkept w hw.1
  next hwants =>
    refine Proc.Triple.modify fun w hw => Or.inr ⟨_, rfl, Or.inr ⟨token, ?_⟩⟩
    exact ⟨by simpa using hwants, rfl, rfl, response, encrypted, hw.2, hencrypted, hdecrypt⟩

/-- The result of the loop is packaged into data without a token, or into
what was minted for the request. -/
theorem packageResult_leaves {state : UvState R} {exit : UvExit} {request : R}
    (hrequest : ∀ {uvProto sharedSecret publicKey uvOperation tokenResponse},
      exit = .negotiated uvProto sharedSecret publicKey uvOperation tokenResponse →
        uvOperation.mintsToken = true → state.request = request)
    (sent : List (Exchange T)) (before : Option AuthTokenData) :
    Proc.Triple (fun w => w.session.authData = before ∧ ExitAnswered sent (.inr (state, exit)) w)
      (p.packageResult state exit) (fun _ => CacheLeft p.crypto sent request before)
      (CacheLeft p.crypto sent request before) := by
  cases exit with
  | legacyUv => exact Proc.Triple.pure fun w hw => Or.inl hw.1
  | negotiated uvProto sharedSecret publicKey uvOperation tokenResponse =>
      unfold packageResult
      dsimp only
      split
      next hmints =>
        obtain rfl := hrequest rfl hmints
        refine Proc.Triple.bind _ ((p.decryptToken_spec uvProto sharedSecret tokenResponse _).conseq
          (fun _ => id) (fun _ _ => id) fun _ hw => Or.inl hw.1) fun token => ?_
        refine Proc.Triple.bind _ ?_ fun _ => Proc.Triple.bind _
          (Proc.Triple.ofExcept (fun _ _ w hw => hw) fun _ hw => hw) fun _ =>
            Proc.Triple.pure fun _ hw => hw
        rintro w ⟨hw, response, encrypted, rfl, hencrypted, hdecrypt⟩
        exact p.storeToken_leaves hencrypted hdecrypt publicKey uvOperation sent before w hw
      next =>
        -- no token is minted: the cache holds the shared secret alone
        refine Proc.Triple.bind (fun _ => CacheLeft p.crypto sent request before)
          (Proc.Triple.modify fun w hw => Or.inr ⟨_, rfl, Or.inl rfl⟩) fun _ => ?_
        exact Proc.Triple.pure fun _ hw => hw

/-! ## §4. The whole verification. -/

/-- The loop with all that is known of it. -/
theorem uvLoop_leaves (turnFuel : Nat) (plan : UvPlan) (fuel : Nat) (state : UvState R)
    (sent : List (Exchange T)) (before : Option AuthTokenData) :
    Proc.Triple (fun w => sent <+: w.wire ∧ w.session.authData = before)
      (Proc.loop (p.uvTurn turnFuel plan) fuel state)
      (fun result w => (ExitAnswered sent (.inr result) w ∧ ∃ last : UvState R,
          last.request = state.request ∧ TurnResult p.crypto plan last (.inr result))
        ∧ w.session.authData = before)
      (fun w => w.session.authData = before) := by
  refine (p.keeps_authData_uvLoop turnFuel plan fuel state).frame (returns_and
    (p.uvLoop_answered turnFuel plan fuel state sent) ?_) fun authData => authData = before
  refine Proc.Triple.named World.session fun s => ?_
  refine (p.uvLoop_spec fuel plan state.request s turnFuel state rfl).conseq
    (fun w hw => hw.1) (fun result w hw => ?_) fun _ _ => trivial
  obtain ⟨turns, last, -, -, hlast, hresult⟩ := hw
  exact ⟨last, hlast, hresult⟩

theorem userVerificationHelper_leaves (fuel : Nat) (info : Ctap2GetInfoResponse)
    (requirement : UserVerificationRequirement) (request : R) (sent : List (Exchange T))
    (before : Option AuthTokenData) :
    Proc.Triple (fun w => sent <+: w.wire ∧ w.session.authData = before)
      (p.userVerificationHelper fuel info requirement request)
      (fun _ => CacheLeft p.crypto sent request before)
      (CacheLeft p.crypto sent request before) := by
  refine Proc.Triple.bind _ (leaves_of_dialogue (p.dialogue_ensureUvProtected _ _ _) _ _ _ _)
    fun info' => ?_
  split
  · exact Proc.Triple.pure fun w hw => Or.inl hw.2
  · refine Proc.Triple.bind _ ((p.uvLoop_leaves fuel _ fuel _ sent before).conseq (fun _ => id)
      (fun _ _ => id) fun _ => Or.inl) fun result => ?_
    rintro w ⟨⟨hanswered, last, hlast, hresult⟩, hbefore⟩
    refine p.packageResult_leaves (fun hexit hmints => ?_) sent before w ⟨hbefore, hanswered⟩
    obtain ⟨state, exit⟩ := result
    obtain rfl := hexit
    cases hresult with
    | legacyShared => cases hmints
    | shared => cases hmints
    | minted _ _ hrequest => exact hrequest.trans hlast

/-- The auth data after a verification of `request` in `w`: that of `w`, or
what was left for the request as the hooks prepared it. -/
def VerificationLeaves (request : R) (w w' : World σ T) : Prop :=
  w'.session.authData = w.session.authData
    ∨ ∃ info, (p.getInfo w.env).1 = .ok info
      ∧ CacheLeft p.crypto (w.wire ++ [.getInfo (.ok info)]) (p.prepareRequest info request)
        w.session.authData w'

/-- **What a verification leaves**, however it ends. -/
theorem userVerification_leaves (fuel : Nat) (requirement : UserVerificationRequirement)
    (request : R) (w : World σ T) :
    p.VerificationLeaves request w (p.userVerification fuel requirement request w).2 := by
  have hleaves : Proc.Triple (fun w' => w' = w) (p.userVerification fuel requirement request)
      (fun _ => p.VerificationLeaves request w) (p.VerificationLeaves request w) := by
    refine Proc.Triple.bind _ ((p.ctap2GetInfo_spec w).conseq (fun _ => id) (fun _ _ => id)
      fun w' hw => Or.inl (congrArg Session.authData hw)) fun info => ?_
    refine Proc.Triple.pre (P := fun w' => (p.getInfo w.env).1 = .ok info
      ∧ (w.wire ++ [.getInfo (.ok info)] <+: w'.wire
        ∧ w'.session.authData = w.session.authData)) ?_ fun w' hw =>
      ⟨hw.2.2.1, hw.2.2.2 ▸ List.prefix_refl _, congrArg Session.authData hw.1⟩
    refine Proc.Triple.of_fact fun hinfo => ?_
    refine Proc.Triple.conseq (Q := fun _ => CacheLeft p.crypto _ (p.prepareRequest info request)
      w.session.authData) (E := CacheLeft p.crypto _ (p.prepareRequest info request)
      w.session.authData) ?_ (fun _ => id) (fun _ w' hw => Or.inr ⟨info, hinfo, hw⟩)
      fun w' hw => Or.inr ⟨info, hinfo, hw⟩
    refine Proc.Triple.bind _ (leaves_of_dialogue (p.dialogue_reusablePersistentToken _ _) _ _ _ _)
      fun record => ?_
    -- only the negotiation touches the cache
    cases record with
    | some record =>
        exact Proc.Triple.bind _ (leaves_of_dialogue (Ctap.Dialogue.liftPlatform _) _ _ _ _)
          fun _ => Proc.Triple.pure fun _ hw => Or.inl hw.2
    | none =>
        refine Proc.Triple.bind _
          (leaves_of_dialogue (p.dialogue_reusableEphemeralToken _ _) _ _ _ _)
          fun token => ?_
        cases token with
        | some token =>
            exact Proc.Triple.bind _ (leaves_of_dialogue (Ctap.Dialogue.liftPlatform _) _ _ _ _)
              fun _ => Proc.Triple.pure fun _ hw => Or.inl hw.2
        | none => exact p.userVerificationHelper_leaves fuel info requirement _ _ _
  exact hleaves.state rfl

/-! ## §5. Finding a token. -/

end Platform

/-- Whether the token used was one that had been kept. -/
def UsedPinUvAuthToken.isCached : UsedPinUvAuthToken → Bool
  | .fromEphemeralStorage | .fromPersistentStorage _ => true
  | _ => false

/-- A verification of `request` in `w` that used a token kept before: the
channel's own, or that of a record which recognizes the device. -/
inductive CachedUse (p : Platform σ T) (w : World σ T) (request : R) :
    UsedPinUvAuthToken → R → Prop where
  | ephemeral {info : Ctap2GetInfoResponse} {version : Ctap2PinUvAuthProtocol} {token : Bytes}
      {request' : R} (hinfo : (p.getInfo w.env).1 = .ok info)
      (htoken : getUvAuthToken w.session.authData ⟨version,
        permissions (p.prepareRequest info request),
        permissionsRpid (p.prepareRequest info request)⟩ = some token)
      (hauth : calculateAndSetUvAuth p.crypto (p.prepareRequest info request) version token
        = .ok request') :
      CachedUse p w request .fromEphemeralStorage request'
  | persistent {info : Ctap2GetInfoResponse} {encIdentifier : Bytes}
      {id : PersistentTokenRecordId} {record : PersistentTokenRecord} {request' : R}
      (hinfo : (p.getInfo w.env).1 = .ok info)
      (henc : info.encIdentifier = some encIdentifier)
      (hlisted : (id, record) ∈ (p.storeList (p.getInfo w.env).2).1)
      (hrecognizes : record.recognizes p.crypto encIdentifier = true)
      (hauth : calculateAndSetUvAuth p.crypto (p.prepareRequest info request)
        record.pinUvAuthProtocol record.persistentToken = .ok request') :
      CachedUse p w request (.fromPersistentStorage id) request'

namespace Platform

variable (p : Platform σ T)

theorem packageResult_not_cached (state : UvState R) (exit : UvExit) (P : World σ T → Prop) :
    Returns P (p.packageResult state exit) fun result _ => result.1.isCached = false := by
  cases exit with
  | legacyUv => exact Proc.Triple.pure fun _ _ => rfl
  | negotiated uvProto sharedSecret publicKey uvOperation tokenResponse =>
      unfold packageResult
      dsimp only
      split
      · refine Proc.Triple.bind _ (Proc.Triple.trivial _ _) fun token => ?_
        refine Proc.Triple.bind _ (Proc.Triple.trivial _ _) fun _ => ?_
        refine Proc.Triple.bind _ (Proc.Triple.trivial _ _) fun request => ?_
        exact Proc.Triple.pure fun _ _ => rfl
      · refine Proc.Triple.bind _ (Proc.Triple.trivial _ _) fun _ => ?_
        refine Proc.Triple.pure fun _ _ => ?_
        split <;> rfl

theorem userVerificationHelper_not_cached (fuel : Nat) (info : Ctap2GetInfoResponse)
    (requirement : UserVerificationRequirement) (request : R) (P : World σ T → Prop) :
    Returns P (p.userVerificationHelper fuel info requirement request)
      fun result _ => result.1.isCached = false := by
  refine Proc.Triple.bind _ (Proc.Triple.trivial _ _) fun info' => ?_
  split
  · exact Proc.Triple.pure fun _ _ => rfl
  · refine Proc.Triple.bind _ (Proc.Triple.trivial _ _) fun result => ?_
    exact p.packageResult_not_cached _ _ _

omit [Ctap2UserVerifiableRequest R] in
/-- A recognized record is listed, and recognizes the identifier. -/
theorem recognizeAuthenticator_spec (info : Ctap2GetInfoResponse) (env : σ) :
    Returns (fun w => w.env = env) (p.recognizeAuthenticator info)
      fun found _ => ∀ entry ∈ found, entry ∈ (p.storeList env).1
        ∧ ∃ encIdentifier, info.encIdentifier = some encIdentifier
          ∧ entry.2.recognizes p.crypto encIdentifier = true := by
  unfold recognizeAuthenticator
  rcases info.encIdentifier with _ | encIdentifier
  · exact Proc.Triple.pure fun _ _ entry hentry => absurd hentry (by simp)
  · refine Proc.Triple.bind (fun records _ => records = (p.storeList env).1)
      (fun w hw => congrArg (fun env => (p.storeList env).1) hw) fun records => ?_
    refine Proc.Triple.pure fun w hrecords entry hentry => ?_
    obtain rfl := hrecords
    have hrecognizes := List.find?_some (p := fun entry : PersistentTokenRecordId
      × PersistentTokenRecord => entry.2.recognizes p.crypto encIdentifier) hentry
    exact ⟨List.mem_of_find?_eq_some hentry, encIdentifier, rfl, hrecognizes⟩

/-- **Which token is used**, when it is not a new one. -/
theorem userVerification_cached (fuel : Nat) (requirement : UserVerificationRequirement)
    (request : R) (w : World σ T) :
    Returns (fun w' => w' = w) (p.userVerification fuel requirement request)
      fun result _ => result.1.isCached = true → CachedUse p w request result.1 result.2 := by
  refine Proc.Triple.bind _ ((p.ctap2GetInfo_spec w).conseq (fun _ => id) (fun _ _ => id)
    fun _ _ => trivial) fun info => ?_
  refine Proc.Triple.pre (P := fun w' => (p.getInfo w.env).1 = .ok info
    ∧ (w'.session = w.session ∧ w'.env = (p.getInfo w.env).2)) ?_ fun w' hw =>
    ⟨hw.2.2.1, hw.1, hw.2.1⟩
  refine Proc.Triple.of_fact fun hinfo => ?_
  -- a persistent token is one that recognises the device by its identifier
  have hrecognized : Returns (fun w' => w'.session = w.session ∧ w'.env = (p.getInfo w.env).2)
      (p.reusablePersistentToken info (p.prepareRequest info request))
      fun found _ => ∀ entry ∈ found, entry ∈ (p.storeList (p.getInfo w.env).2).1
        ∧ ∃ encIdentifier, info.encIdentifier = some encIdentifier
          ∧ entry.2.recognizes p.crypto encIdentifier = true := by
    unfold reusablePersistentToken
    split
    · exact (p.recognizeAuthenticator_spec info _).pre fun _ hw => hw.2
    · exact Proc.Triple.pure fun _ _ entry hentry => absurd hentry (by simp)
  refine Proc.Triple.bind _ (returns_and hrecognized ((returns_of_dialogue
    (p.dialogue_reusablePersistentToken info _) w.session).pre fun _ hw => hw.1)) fun record => ?_
  -- the persistent token, then the one of the channel, then no cached token at all
  cases record with
  | some record =>
      refine Proc.Triple.of_fact fun hrecord => ?_
      obtain ⟨hlisted, encIdentifier, henc, hrecognizes⟩ := hrecord record rfl
      refine Proc.Triple.bind _ (returns_liftPlatform _ _) fun request' => ?_
      exact Proc.Triple.of_fact fun hauth => Proc.Triple.pure fun _ _ _ =>
        .persistent hinfo henc hlisted hrecognizes hauth
  | none =>
      refine Proc.Triple.pre (P := fun w' => w'.session = w.session) ?_ fun _ hw => hw.2
      refine Proc.Triple.bind _ (p.reusableEphemeralToken_spec info _ w.session) fun token => ?_
      refine Proc.Triple.of_fact fun htoken => ?_
      cases token with
      | some token =>
          refine Proc.Triple.bind _ (returns_liftPlatform _ _) fun request' => ?_
          exact Proc.Triple.of_fact fun hauth => Proc.Triple.pure fun _ _ _ =>
            .ephemeral hinfo (htoken.1 _ _ rfl).2 hauth
      | none =>
          exact (p.userVerificationHelper_not_cached fuel info requirement _ _).post
            fun result _ hnot hcached => absurd hcached (by rw [hnot]; decide)

end Platform

end Libwebauthn
