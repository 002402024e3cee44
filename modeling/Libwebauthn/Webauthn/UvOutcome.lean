/-
  Libwebauthn.Webauthn.UvOutcome — all that a user verification can end in.

  `UvOutcome` lists the ways `userVerification` returns: which token the
  request was authenticated with, what the channel keeps afterwards, and
  which turns the loop took.  `userVerification_spec` says that there are no
  others; it is put together from one lemma for each part of a turn
  (`negotiate_spec`, `carryOut_spec`, `uvTurn_spec`), the loop
  (`uvLoop_spec`) and the packaging of its result (`packageResult_spec`).
-/
import Libwebauthn.Webauthn.UserVerification

namespace Libwebauthn

open Ctap2UserVerifiableRequest

variable {σ T R : Type} [Ctap2UserVerifiableRequest R]

/-! ## §1. Outcomes. -/

/-- The operation the device offers at a turn. -/
def UvTurn.operation (turn : UvTurn) : Option Ctap2UserVerificationOperation :=
  turn.info.uvOperation turn.blocked

/-- The operation a turn settles on: a token is not asked for where only the
shared secret is needed. -/
def UvTurn.settled (turn : UvTurn) (plan : UvPlan) (request : R) :
    Option Ctap2UserVerificationOperation :=
  turn.operation.map fun uvOperation =>
    if uvOperation = .legacyUv then .legacyUv
    else plan.downgrade request turn.info uvOperation

/-- What the helper decides for a request, before its loop. -/
def helperPlan (requirement : UserVerificationRequirement) (info : Ctap2GetInfoResponse)
    (request : R) : UvPlan :=
  ⟨requirement, needsSharedSecret request info, info.canEstablishSharedSecret,
    !canUseUv request info⟩

/-- The loop agrees on a shared secret even for the `uv` option. -/
def UvPlan.agrees (plan : UvPlan) : Bool :=
  plan.needsSharedSecret && plan.canEstablishSharedSecret

/-- The protocol that a getInfo selects. -/
def Ctap2GetInfoResponse.uvProto (self : Ctap2GetInfoResponse) :
    Option Ctap2PinUvAuthProtocol :=
  supportedUvProto (self.pinAuthProtos.getD [])

/-- The protocol under which a cached token serves a request. -/
def cachedProtocol (info : Ctap2GetInfoResponse) (request : R)
    (authData : Option AuthTokenData) : Option Ctap2PinUvAuthProtocol :=
  info.uvProto.filter fun protocol =>
    (getUvAuthToken authData ⟨protocol, permissions request, permissionsRpid request⟩).isSome

/-- Keys that were agreed on under the protocol a getInfo selects, with a
private key that was drawn for it. -/
structure Agreed (crypto : Crypto) (info : Ctap2GetInfoResponse) (uvProto : PinUvAuthProtocol)
    (publicKey : PublicKey) (sharedSecret : Bytes) : Prop where
  selected : info.uvProto = some uvProto.version
  drawn : uvProto.privateKey.length = 32
  encapsulated : ∃ peer, uvProto.encapsulate crypto peer = .ok (publicKey, sharedSecret)

/-- Data of a channel with such keys. -/
def AuthTokenData.AgreedUnder (crypto : Crypto) (info : Ctap2GetInfoResponse)
    (self : AuthTokenData) : Prop :=
  ∃ privateKey, Agreed crypto info ⟨self.protocolVersion, privateKey⟩ self.keyAgreement
    self.sharedSecret

/-- A turn whose operation asks for a token. -/
def UvTurn.MintsToken (turn : UvTurn) : Prop :=
  ∃ uvOperation, turn.operation = some uvOperation ∧ uvOperation.mintsToken = true

/-- Where a minted token is kept: a persistent one not on the channel. -/
def KeepsToken (request : R) (before : Option AuthTokenData)
    (protocol : Ctap2PinUvAuthProtocol) (token : Bytes) (after : Option AuthTokenData) : Prop :=
  if wantsPersistentToken request then after = before
  else ∃ data, after = some data ∧ data.pinUvAuthToken = some token
    ∧ data.protocolVersion = protocol

/-- Unless the token is persistent, it is kept with the keys of the turn. -/
def KeepsKeys (crypto : Crypto) (info : Ctap2GetInfoResponse) (request : R)
    (after : Option AuthTokenData) : Prop :=
  wantsPersistentToken request = false →
    ∃ data, after = some data ∧ data.AgreedUnder crypto info

/-- The ways a user verification of `request` returns that begins with the
answer `info`: the turns of its loop, the auth data the channel has
afterwards, the result and the request it leaves. -/
inductive UvOutcome (crypto : Crypto) (requirement : UserVerificationRequirement)
    (info : Ctap2GetInfoResponse) (request : R) (before : Option AuthTokenData) :
    List UvTurn → Option AuthTokenData → UsedPinUvAuthToken → R → Prop where
  | persistent {id : PersistentTokenRecordId} {record : PersistentTokenRecord} {request' : R}
      (hwants : wantsPersistentToken request = true)
      (hauth : calculateAndSetUvAuth crypto request record.pinUvAuthProtocol
        record.persistentToken = .ok request') :
      UvOutcome crypto requirement info request before [] before (.fromPersistentStorage id)
        request'
  | ephemeral {protocol : Ctap2PinUvAuthProtocol} {token : Bytes} {request' : R}
      (htoken : getUvAuthToken before
        ⟨protocol, permissions request, permissionsRpid request⟩ = some token)
      (hauth : calculateAndSetUvAuth crypto request protocol token = .ok request')
      (hselected : info.uvProto = some protocol) :
      UvOutcome crypto requirement info request before [] before .fromEphemeralStorage request'
  | skipped (hrequirement : requirement ≠ .required)
      (huncached : cachedProtocol info request before = none) :
      UvOutcome crypto requirement info request before [] before .none request
  | legacy {turns : List UvTurn} {last : UvTurn} {after : Option AuthTokenData}
      (hturns : ∀ turn ∈ turns, turn.MintsToken) (hlast : last.operation = some .legacyUv)
      (hafter : after = before ∨ ∃ data, after = some data ∧ data.pinUvAuthToken = none)
      (huncached : cachedProtocol info request before = none)
      (hkeys : if (helperPlan requirement info request).agrees
        then ∃ data, after = some data ∧ data.AgreedUnder crypto last.info
        else after = before) :
      UvOutcome crypto requirement info request before (turns ++ [last]) after .legacyUV
        (ensureUvSet request)
  | sharedSecret {turns : List UvTurn} {last : UvTurn}
      {uvOperation : Ctap2UserVerificationOperation} {data : AuthTokenData}
      (hturns : ∀ turn ∈ turns, turn.MintsToken) (hlast : last.operation = some uvOperation)
      (hwhy : uvOperation = .onlyForSharedSecret ∨ requirement = .discouraged)
      (hdata : data.pinUvAuthToken = none)
      (huncached : cachedProtocol info request before = none)
      (hsettled : last.settled (helperPlan requirement info request) request
        = some .onlyForSharedSecret)
      (hkeys : data.AgreedUnder crypto last.info) :
      UvOutcome crypto requirement info request before (turns ++ [last]) (some data)
        .sharedSecretOnly request
  | minted {turns : List UvTurn} {last : UvTurn}
      {uvOperation : Ctap2UserVerificationOperation} {protocol : Ctap2PinUvAuthProtocol}
      {token : Bytes} {after : Option AuthTokenData} {request' : R}
      (hturns : ∀ turn ∈ turns, turn.MintsToken) (hlast : last.MintsToken)
      (hmints : uvOperation.mintsToken = true)
      (hafter : KeepsToken request before protocol token after)
      (hauth : calculateAndSetUvAuth crypto request protocol token = .ok request')
      (huncached : cachedProtocol info request before = none)
      (hsettled : ∃ settled, last.settled (helperPlan requirement info request) request
        = some settled ∧ settled.mintsToken = true)
      (hselected : last.info.uvProto = some protocol)
      (hkeys : KeepsKeys crypto last.info request after) :
      UvOutcome crypto requirement info request before (turns ++ [last]) after
        (.newlyCalculated uvOperation) request'

/-- A persistent token is not used for a request that takes none. -/
theorem UvOutcome.ne_persistent {crypto : Crypto} {requirement : UserVerificationRequirement}
    {info : Ctap2GetInfoResponse} {request request' : R} {before after : Option AuthTokenData}
    {turns : List UvTurn} {used : UsedPinUvAuthToken}
    (h : UvOutcome crypto requirement info request before turns after used request')
    (hwants : wantsPersistentToken request = false) (id : PersistentTokenRecordId) :
    used ≠ .fromPersistentStorage id := by
  cases h with
  | persistent hpersistent =>
      rw [hwants] at hpersistent
      cases hpersistent
  | _ => exact fun h => by cases h

/-! ## §2. One turn. -/

/-- What the loop logs of a turn. -/
abbrev UvState.turn (state : UvState R) (plan : UvPlan) : UvTurn :=
  ⟨state.info, state.uvBlocked || plan.skipUv⟩

/-- What one turn of the loop comes to. -/
inductive TurnResult (crypto : Crypto) (plan : UvPlan) (state : UvState R) :
    UvState R ⊕ (UvState R × UvExit) → Prop where
  | again {state' : UvState R} (hmints : (state.turn plan).MintsToken)
      (hrequest : state'.request = state.request) : TurnResult crypto plan state (.inl state')
  | legacy {state' : UvState R} (hop : (state.turn plan).operation = some .legacyUv)
      (hrequest : state'.request = ensureUvSet state.request) (halone : plan.agrees = false) :
      TurnResult crypto plan state (.inr (state', .legacyUv))
  | legacyShared {state' : UvState R} {uvProto sharedSecret publicKey tokenResponse}
      (hop : (state.turn plan).operation = some .legacyUv)
      (hrequest : state'.request = ensureUvSet state.request) (hagrees : plan.agrees = true)
      (hkeys : Agreed crypto state.info uvProto publicKey sharedSecret) :
      TurnResult crypto plan state
        (.inr (state', .negotiated uvProto sharedSecret publicKey .legacyUv tokenResponse))
  | shared {state' : UvState R} {uvProto sharedSecret publicKey tokenResponse uvOperation}
      (hop : (state.turn plan).operation = some uvOperation)
      (hwhy : uvOperation = .onlyForSharedSecret ∨ plan.requirement = .discouraged)
      (hrequest : state'.request = state.request)
      (hsettled : (state.turn plan).settled plan state.request = some .onlyForSharedSecret)
      (hkeys : Agreed crypto state.info uvProto publicKey sharedSecret) :
      TurnResult crypto plan state
        (.inr (state', .negotiated uvProto sharedSecret publicKey .onlyForSharedSecret
          tokenResponse))
  | minted {state' : UvState R} {uvProto sharedSecret publicKey tokenResponse uvOperation}
      (hmints : (state.turn plan).MintsToken)
      (hop : uvOperation.mintsToken = true) (hrequest : state'.request = state.request)
      (hsettled : ∃ settled, (state.turn plan).settled plan state.request = some settled
        ∧ settled.mintsToken = true)
      (hkeys : Agreed crypto state.info uvProto publicKey sharedSecret) :
      TurnResult crypto plan state
        (.inr (state', .negotiated uvProto sharedSecret publicKey uvOperation tokenResponse))

/-- What a turn comes to once it settled on `chosen`: another turn only for
a token, and otherwise the chosen operation, or another one that mints. -/
inductive Carried (crypto : Crypto) (state : UvState R)
    (chosen : Ctap2UserVerificationOperation) : UvState R ⊕ (UvState R × UvExit) → Prop where
  | again {state' : UvState R} (hmints : chosen.mintsToken = true)
      (hrequest : state'.request = state.request) : Carried crypto state chosen (.inl state')
  | left {state' : UvState R} {uvProto sharedSecret publicKey uvOperation tokenResponse}
      (hop : uvOperation = chosen
        ∨ (chosen.mintsToken = true ∧ uvOperation.mintsToken = true))
      (hrequest : state'.request = state.request)
      (hkeys : Agreed crypto state.info uvProto publicKey sharedSecret) :
      Carried crypto state chosen
        (.inr (state', .negotiated uvProto sharedSecret publicKey uvOperation tokenResponse))

/-- Routing away from clientPIN only exchanges one token for another. -/
theorem enforceNoMcGaWithClientPin_ok {info : Ctap2GetInfoResponse}
    {uvOperation uvOperation' : Ctap2UserVerificationOperation}
    {permissions : Ctap2AuthTokenPermissionRole} {uvUnavailable : Bool}
    (h : enforceNoMcGaWithClientPin info uvOperation permissions uvUnavailable
      = .ok uvOperation') :
    uvOperation' = uvOperation
      ∨ (uvOperation.mintsToken = true ∧ uvOperation'.mintsToken = true) := by
  unfold enforceNoMcGaWithClientPin at h
  dsimp only at h
  split at h
  · exact Or.inl (Except.ok.inj h).symm
  next hpin =>
    have hmints : uvOperation.mintsToken = true := by
      cases uvOperation <;> first | rfl | exact absurd rfl hpin
    split at h
    · exact Or.inr ⟨hmints, by rw [← Except.ok.inj h]; rfl⟩
    · cases h

namespace Platform

variable (p : Platform σ T)

/-- A triple that says nothing of runs that did not return. -/
abbrev Returns (P : World σ T → Prop) {α : Type} (m : Ctap σ T α)
    (Q : α → World σ T → Prop) : Prop :=
  Proc.Triple P m Q fun _ => True

/-- A dialogue returns with the session it had. -/
theorem returns_of_dialogue {α : Type} {m : Ctap σ T α} (h : Ctap.Dialogue Exchange.Auxiliary m)
    (s : Session T) : Returns (fun w => w.session = s) m fun _ w => w.session = s :=
  (h.keeps_session.triple fun s' => s' = s).conseq (fun _ => id) (fun _ _ => id)
    (fun _ _ => trivial)

/-- Asking for a PIN sends queries at most. -/
theorem queries_pinFor (plan : UvPlan) (info : Ctap2GetInfoResponse)
    (version : Ctap2PinUvAuthProtocol) (uvOperation : Ctap2UserVerificationOperation)
    (uvBlocked : Bool) :
    Ctap.Concludes Exchange.Query (p.pinFor plan info version uvOperation uvBlocked) := by
  unfold pinFor
  split
  · exact Ctap.Concludes.bind (p.queries_obtainPin _ _ _) fun _ => Ctap.Concludes.pure _
  · exact Ctap.Concludes.pure _

theorem dialogue_pinFor (plan : UvPlan) (info : Ctap2GetInfoResponse)
    (version : Ctap2PinUvAuthProtocol) (uvOperation : Ctap2UserVerificationOperation)
    (uvBlocked : Bool) :
    Ctap.Dialogue Exchange.Auxiliary (p.pinFor plan info version uvOperation uvBlocked) :=
  (p.queries_pinFor _ _ _ _ _).dialogue.mono fun _ => Exchange.Query.auxiliary

theorem concludes_pinHashEnc {S : Exchange T → Prop} (version : Ctap2PinUvAuthProtocol)
    (sharedSecret : Bytes) (pin : Option Bytes) :
    Ctap.Concludes S (p.pinHashEnc version sharedSecret pin) := by
  cases pin with
  | none => exact Ctap.Concludes.throw _
  | some pin => exact p.concludes_encrypt _ _ _

/-- Making a token request sends nothing. -/
theorem concludes_tokenRequest {S : Exchange T → Prop} (request : R)
    (uvOperation : Ctap2UserVerificationOperation) (version : Ctap2PinUvAuthProtocol)
    (sharedSecret : Bytes) (publicKey : PublicKey) (pin : Option Bytes) :
    Ctap.Concludes S
      (p.tokenRequest request uvOperation version sharedSecret publicKey pin) := by
  cases uvOperation with
  | legacyUv => exact Ctap.Concludes.pure _
  | onlyForSharedSecret => exact Ctap.Concludes.pure _
  | getPinToken =>
      exact Ctap.Concludes.bind (p.concludes_pinHashEnc _ _ _) fun _ => Ctap.Concludes.pure _
  | getPinUvAuthTokenUsingPinWithPermissions =>
      exact Ctap.Concludes.bind (p.concludes_pinHashEnc _ _ _) fun _ => Ctap.Concludes.pure _
  | getPinUvAuthTokenUsingUvWithPermissions =>
      exact Ctap.Concludes.bind (Ctap.Concludes.tell _) fun _ => Ctap.Concludes.pure _

omit [Ctap2UserVerifiableRequest R] in
theorem queries_tokenAnswer (state : UvState R) (uvProto : PinUvAuthProtocol)
    (sharedSecret : Bytes) (publicKey : PublicKey)
    (uvOperation : Ctap2UserVerificationOperation)
    (answer : Except (WebAuthnError T) Ctap2ClientPinResponse) :
    Ctap.Concludes Exchange.Query
      (p.tokenAnswer state uvProto sharedSecret publicKey uvOperation answer) := by
  unfold tokenAnswer
  split
  · exact Ctap.Concludes.pure _
  · exact Ctap.Concludes.pure _
  · refine Ctap.Concludes.bind (concludes_softly (p.queries_ctap2ClientPin .uvRetries) _)
      fun _ => ?_
    refine Ctap.Concludes.bind (Ctap.Concludes.tell _) fun _ => ?_
    split
    · exact Ctap.Concludes.pure _
    · exact Ctap.Concludes.throw _
  · exact Ctap.Concludes.throw _

omit [Ctap2UserVerifiableRequest R] in
/-- What follows the answer is auxiliary. -/
theorem dialogue_tokenAnswer (state : UvState R) (uvProto : PinUvAuthProtocol)
    (sharedSecret : Bytes) (publicKey : PublicKey)
    (uvOperation : Ctap2UserVerificationOperation)
    (answer : Except (WebAuthnError T) Ctap2ClientPinResponse) :
    Ctap.Dialogue Exchange.Auxiliary
      (p.tokenAnswer state uvProto sharedSecret publicKey uvOperation answer) :=
  (p.queries_tokenAnswer _ _ _ _ _ _).dialogue.mono fun _ => Exchange.Query.auxiliary

/-- A negotiation is auxiliary, its token request included. -/
theorem dialogue_negotiate (plan : UvPlan) (state : UvState R) (uvProto : PinUvAuthProtocol)
    (uvOperation : Ctap2UserVerificationOperation) :
    Ctap.Dialogue Exchange.Auxiliary (p.negotiate plan state uvProto uvOperation) := by
  refine Ctap.Dialogue.bind (p.dialogue_pinFor _ _ _ _ _) fun _ => ?_
  refine Ctap.Dialogue.bind (p.dialogue_obtainSharedSecret _) fun _ => ?_
  refine Ctap.Dialogue.bind (p.concludes_tokenRequest _ _ _ _ _ _).dialogue fun request => ?_
  cases request with
  | none => exact Ctap.Dialogue.pure _
  | some request =>
      refine Ctap.Dialogue.bind (Ctap.Dialogue.attempt (p.dialogue_ctap2ClientPin _))
        fun answer => ?_
      exact p.dialogue_tokenAnswer _ _ _ _ _ answer

/-- A turn that settled on an operation: everything but its own log entry. -/
theorem dialogue_carryOut (fuel : Nat) (plan : UvPlan) (state : UvState R)
    (uvOperation : Ctap2UserVerificationOperation) :
    Ctap.Dialogue Exchange.Auxiliary (p.carryOut fuel plan state uvOperation) := by
  refine Ctap.Dialogue.bind (Ctap.Dialogue.liftPlatform _) fun uvOperation => ?_
  split
  · refine Ctap.Dialogue.bind (p.dialogue_tryToSetPin _ _ _) fun _ => ?_
    exact Ctap.Dialogue.bind p.dialogue_ctap2GetInfo fun _ => Ctap.Dialogue.pure _
  · refine Ctap.Dialogue.bind (p.concludes_selectUvProto _).dialogue fun uvProto => ?_
    cases uvProto with
    | none => exact Ctap.Dialogue.throw _
    | some uvProto => exact p.dialogue_negotiate _ _ _ _

/-- So is the protection of a device without PIN. -/
theorem dialogue_ensureUvProtected (fuel : Nat) (requirement : UserVerificationRequirement)
    (info : Ctap2GetInfoResponse) :
    Ctap.Dialogue Exchange.Auxiliary (p.ensureUvProtected fuel requirement info) := by
  unfold ensureUvProtected
  split
  · refine Ctap.Dialogue.bind (p.dialogue_tryToSetPin _ _ _) fun _ => ?_
    refine Ctap.Dialogue.bind p.dialogue_ctap2GetInfo fun _ => ?_
    split
    · exact Ctap.Dialogue.throw _
    · exact Ctap.Dialogue.pure _
  · exact Ctap.Dialogue.pure _

theorem dialogue_reusableEphemeralToken {S : Exchange T → Prop} (info : Ctap2GetInfoResponse)
    (request : R) : Ctap.Dialogue S (p.reusableEphemeralToken info request) := by
  refine Ctap.Dialogue.bind (p.concludes_selectUvProto _).dialogue fun uvProto => ?_
  cases uvProto with
  | none => exact Ctap.Dialogue.pure _
  | some uvProto => exact Ctap.Dialogue.bind Ctap.Dialogue.getAuthData fun _ => Ctap.Dialogue.pure _

/-- A pure step returns its result and leaves what held. -/
theorem triple_liftPlatform {α : Type} (r : Except PlatformError α) (P : World σ T → Prop) :
    Proc.Triple P (Ctap.liftPlatform r) (fun a w => r = .ok a ∧ P w) P := by
  cases r with
  | ok a => exact Proc.Triple.pure fun w hw => ⟨rfl, hw⟩
  | error e => exact Proc.Triple.throw fun _ hw => hw

theorem returns_liftPlatform {α : Type} (r : Except PlatformError α) (P : World σ T → Prop) :
    Returns P (Ctap.liftPlatform r) fun a w => r = .ok a ∧ P w :=
  (triple_liftPlatform r P).conseq (fun _ => id) (fun _ _ => id) fun _ _ => trivial

/-- The getInfo a verification opens with. -/
theorem ctap2GetInfo_spec (w : World σ T) :
    Proc.Triple (fun w' => w' = w) p.ctap2GetInfo
      (fun info w' => w'.session = w.session ∧ w'.env = (p.getInfo w.env).2
        ∧ (p.getInfo w.env).1 = .ok info ∧ w'.wire = w.wire ++ [.getInfo (.ok info)])
      (fun w' => w'.session = w.session) := by
  rintro w' rfl
  unfold ctap2GetInfo Ctap.command
  rcases p.getInfo w'.env with ⟨answer, env⟩
  dsimp only
  cases answer with
  | ok info => exact ⟨rfl, rfl, rfl, rfl⟩
  | error e => rfl

/-- A shared secret that is handed on was agreed on with the device. -/
theorem obtainSharedSecret_spec (uvProto : PinUvAuthProtocol) (s : Session T) :
    Returns (fun w => w.session = s) (p.obtainSharedSecret uvProto)
      fun keys w => (∃ peer, uvProto.encapsulate p.crypto peer = .ok keys)
        ∧ w.session = s := by
  refine Proc.Triple.bind _ (returns_of_dialogue (p.dialogue_ctap2ClientPin _) s)
    fun response => ?_
  split
  · exact Proc.Triple.throw fun _ _ => trivial
  next peer _ =>
    exact (returns_liftPlatform _ _).post fun keys w hw => ⟨⟨peer, hw.1⟩, hw.2⟩

/-- The protocol object is of the version that the getInfo selects, and has a
private key of its own. -/
theorem selectUvProto_spec (info : Ctap2GetInfoResponse) (s : Session T) :
    Returns (fun w => w.session = s) (p.selectUvProto info)
      fun uvProto w => (uvProto.map (·.version) = info.uvProto
          ∧ ∀ drawn, uvProto = some drawn → drawn.privateKey.length = 32)
        ∧ w.session = s := by
  unfold selectUvProto Ctap2GetInfoResponse.uvProto
  cases supportedUvProto (info.pinAuthProtos.getD []) with
  | none => exact Proc.Triple.pure fun w hw => ⟨⟨rfl, fun _ h => by cases h⟩, hw⟩
  | some version =>
      refine Proc.Triple.bind (fun uvProto w => (uvProto.version = version
          ∧ uvProto.privateKey.length = 32) ∧ w.session = s) ?_ fun uvProto => ?_
      · refine Proc.Triple.bind (fun privateKey w => privateKey.length = 32 ∧ w.session = s)
          (fun w hw => ⟨p.random_length 32 _, hw⟩) fun privateKey => ?_
        exact Proc.Triple.pure fun w hw => ⟨⟨rfl, hw.1⟩, hw.2⟩
      · refine Proc.Triple.pure fun w hw => ⟨⟨congrArg some hw.1.1, fun drawn h => ?_⟩, hw.2⟩
        rw [← Option.some.inj h]
        exact hw.1.2

/-- A token is asked for by the operations that mint one. -/
theorem tokenRequest_spec (request : R) (uvOperation : Ctap2UserVerificationOperation)
    (version : Ctap2PinUvAuthProtocol) (sharedSecret : Bytes) (publicKey : PublicKey)
    (pin : Option Bytes) (s : Session T) :
    Returns (fun w => w.session = s)
      (p.tokenRequest request uvOperation version sharedSecret publicKey pin)
      fun req w => w.session = s ∧ (req.isSome = true → uvOperation.mintsToken = true) := by
  -- a request is built only under an operation that mints a token
  have hsome : ∀ req : Ctap2ClientPinRequest, uvOperation.mintsToken = true →
      Returns (fun w => w.session = s) (pure (some req) : Ctap σ T (Option Ctap2ClientPinRequest))
        fun req w => w.session = s ∧ (req.isSome = true → uvOperation.mintsToken = true) :=
    fun _ hmints => Proc.Triple.pure fun w hw => ⟨hw, fun _ => hmints⟩
  have hnone : Returns (fun w => w.session = s)
      (pure none : Ctap σ T (Option Ctap2ClientPinRequest))
      fun req w => w.session = s ∧ (req.isSome = true → uvOperation.mintsToken = true) :=
    Proc.Triple.pure fun w hw => ⟨hw, fun h => absurd h (by simp)⟩
  cases uvOperation with
  | legacyUv => exact hnone
  | onlyForSharedSecret => exact hnone
  | getPinToken =>
      refine Proc.Triple.bind _ (returns_of_dialogue (p.concludes_pinHashEnc _ _ _).dialogue s) ?_
      exact fun _ => hsome _ rfl
  | getPinUvAuthTokenUsingPinWithPermissions =>
      refine Proc.Triple.bind _ (returns_of_dialogue (p.concludes_pinHashEnc _ _ _).dialogue s) ?_
      exact fun _ => hsome _ rfl
  | getPinUvAuthTokenUsingUvWithPermissions =>
      refine Proc.Triple.bind _ (returns_of_dialogue (Ctap.Dialogue.tell _) s) ?_
      exact fun _ => hsome _ rfl

omit [Ctap2UserVerifiableRequest R] in
/-- A token that is returned was decrypted under the key that was agreed. -/
theorem tokenAnswer_spec (state : UvState R) (uvProto : PinUvAuthProtocol) (sharedSecret : Bytes)
    (publicKey : PublicKey) {uvOperation : Ctap2UserVerificationOperation}
    (hmints : uvOperation.mintsToken = true)
    (hkeys : Agreed p.crypto state.info uvProto publicKey sharedSecret)
    (answer : Except (WebAuthnError T) Ctap2ClientPinResponse) (s : Session T) :
    Returns (fun w => w.session = s)
      (p.tokenAnswer state uvProto sharedSecret publicKey uvOperation answer)
      fun next w => w.session = s ∧ Carried p.crypto state uvOperation next := by
  unfold tokenAnswer
  split
  · exact Proc.Triple.pure fun w hw => ⟨hw, .left (Or.inl rfl) rfl hkeys⟩
  · exact Proc.Triple.pure fun w hw => ⟨hw, .again hmints rfl⟩
  · refine Proc.Triple.bind _ (returns_of_dialogue
      (dialogue_softly (p.dialogue_ctap2ClientPin _) _) s) fun attemptsLeft => ?_
    refine Proc.Triple.bind _ (returns_of_dialogue (Ctap.Dialogue.tell _) s) fun _ => ?_
    split
    · exact Proc.Triple.pure fun w hw => ⟨hw, .again hmints rfl⟩
    · exact Proc.Triple.throw fun _ _ => trivial
  · exact Proc.Triple.throw fun _ _ => trivial

/-- **What a negotiation yields**: keys that were agreed, and a token of the
operation that was asked for. -/
theorem negotiate_spec (plan : UvPlan) (state : UvState R) (uvProto : PinUvAuthProtocol)
    (hselected : state.info.uvProto = some uvProto.version)
    (hdrawn : uvProto.privateKey.length = 32)
    (uvOperation : Ctap2UserVerificationOperation) (s : Session T) :
    Returns (fun w => w.session = s) (p.negotiate plan state uvProto uvOperation)
      fun next w => w.session = s ∧ Carried p.crypto state uvOperation next := by
  refine Proc.Triple.bind _ (returns_of_dialogue (p.dialogue_pinFor _ _ _ _ _) s)
    fun pin => ?_
  refine Proc.Triple.bind _ (p.obtainSharedSecret_spec uvProto s) fun keys => ?_
  refine Proc.Triple.of_fact fun hpeer => ?_
  have hkeys : Agreed p.crypto state.info uvProto keys.1 keys.2 := ⟨hselected, hdrawn, hpeer⟩
  refine Proc.Triple.bind _ (p.tokenRequest_spec _ _ _ _ _ _ s) fun req => ?_
  cases req with
  | none => exact Proc.Triple.pure fun w hw => ⟨hw.1, .left (Or.inl rfl) rfl hkeys⟩
  | some req =>
      refine Proc.Triple.pre (P := fun w => uvOperation.mintsToken = true ∧ w.session = s) ?_
        fun w hw => ⟨hw.2 rfl, hw.1⟩
      refine Proc.Triple.of_fact fun hmints => ?_
      refine Proc.Triple.bind _ (returns_of_dialogue
        (Ctap.Dialogue.attempt (p.dialogue_ctap2ClientPin _)) s) fun answer => ?_
      exact p.tokenAnswer_spec state uvProto _ _ hmints hkeys answer s

theorem returns_storeAuthData (data : AuthTokenData) (s : Session T) :
    Returns (fun w : World σ T => w.session = s) (Ctap.storeAuthData data)
      fun _ w => w.session = { s with authData := some data } :=
  Proc.Triple.modify fun w hw => by rw [← hw]

/-- Carrying out an operation leaves the session as it was. -/
theorem carryOut_spec (fuel : Nat) (plan : UvPlan) (state : UvState R)
    (chosen : Ctap2UserVerificationOperation) (s : Session T) :
    Returns (fun w => w.session = s) (p.carryOut fuel plan state chosen)
      fun next w => w.session = s ∧ Carried p.crypto state chosen next := by
  refine Proc.Triple.bind _ (returns_liftPlatform _ _) fun uvOperation => ?_
  refine Proc.Triple.of_fact fun henforce => ?_
  have hop := enforceNoMcGaWithClientPin_ok henforce
  split
  next hchange =>
    -- a PIN change comes before a PIN token, and then another turn
    have hmints : chosen.mintsToken = true := by
      rcases hop with heq | hmints
      · rw [← heq]
        cases uvOperation <;> first | rfl | exact absurd hchange.2 (by decide)
      · exact hmints.1
    refine Proc.Triple.bind _ (returns_of_dialogue (p.dialogue_tryToSetPin _ _ _) s)
      fun _ => ?_
    refine Proc.Triple.bind _ (returns_of_dialogue p.dialogue_ctap2GetInfo s)
      fun info => ?_
    exact Proc.Triple.pure fun w hw => ⟨hw, .again hmints rfl⟩
  next =>
    refine Proc.Triple.bind _ (p.selectUvProto_spec _ s) fun uvProto => ?_
    refine Proc.Triple.of_fact fun hselected => ?_
    cases uvProto with
    | none => exact Proc.Triple.throw fun _ _ => trivial
    | some uvProto =>
        refine (p.negotiate_spec plan state uvProto hselected.1.symm (hselected.2 _ rfl) uvOperation
          s).post fun next w hw => ?_
        refine ⟨hw.1, ?_⟩
        cases hw.2 with
        | again hmints hrequest =>
            refine .again ?_ hrequest
            rcases hop with heq | hchosen
            · exact heq ▸ hmints
            · exact hchosen.1
        | left hleft hrequest hkeys =>
            refine .left ?_ hrequest hkeys
            rcases hleft with rfl | hboth
            · exact hop
            · rcases hop with rfl | hchosen
              · exact Or.inr hboth
              · exact Or.inr ⟨hchosen.1, hboth.2⟩

/-- An operation that is not the legacy one, downgraded and carried out. -/
theorem turnResult_of_carried {crypto : Crypto} {plan : UvPlan} {state : UvState R}
    {uvOperation : Ctap2UserVerificationOperation}
    (hop : (state.turn plan).operation = some uvOperation)
    (hlegacy : uvOperation ≠ .legacyUv) {next : UvState R ⊕ (UvState R × UvExit)}
    (hnext : Carried crypto state (plan.downgrade state.request state.info uvOperation) next) :
    TurnResult crypto plan state next := by
  have hmints : ∀ op, op = uvOperation → op.mintsToken = true →
      (state.turn plan).MintsToken :=
    fun op heq hop' => ⟨op, by rw [heq]; exact hop, hop'⟩
  have hsettled : (state.turn plan).settled plan state.request
      = some (plan.downgrade state.request state.info uvOperation) := by
    unfold UvTurn.settled
    rw [hop, Option.map_some, if_neg hlegacy]
  unfold UvPlan.downgrade at hnext hsettled
  split at hnext
  next hdown =>
    rw [if_pos hdown] at hsettled
    -- downgraded to a shared secret only where verification is discouraged
    have hdiscouraged : plan.requirement = .discouraged := by
      simp only [Bool.and_eq_true] at hdown
      revert hdown
      cases plan.requirement <;> simp [UserVerificationRequirement.isDiscouraged]
    cases hnext with
    | again hbad => cases hbad
    | left hleft hrequest hkeys =>
        rcases hleft with rfl | hboth
        · exact .shared hop (Or.inr hdiscouraged) hrequest hsettled hkeys
        · exact absurd hboth.1 (by decide)
  next hdown =>
    rw [if_neg hdown] at hsettled
    cases hnext with
    | again hop' hrequest => exact .again (hmints _ rfl hop') hrequest
    | @left state' uvProto sharedSecret publicKey op tokenResponse hleft hrequest hkeys =>
        rcases hleft with rfl | hboth
        · cases op with
          | legacyUv => exact absurd rfl hlegacy
          | onlyForSharedSecret => exact .shared hop (Or.inl rfl) hrequest hsettled hkeys
          | getPinToken =>
              exact .minted (hmints _ rfl rfl) rfl hrequest ⟨_, hsettled, rfl⟩ hkeys
          | getPinUvAuthTokenUsingUvWithPermissions =>
              exact .minted (hmints _ rfl rfl) rfl hrequest ⟨_, hsettled, rfl⟩ hkeys
          | getPinUvAuthTokenUsingPinWithPermissions =>
              exact .minted (hmints _ rfl rfl) rfl hrequest ⟨_, hsettled, rfl⟩ hkeys
        · exact .minted (hmints _ rfl hboth.1) hboth.2 hrequest ⟨_, hsettled, hboth.1⟩ hkeys

/-- One turn logs itself, and comes to a `TurnResult`. -/
theorem uvTurn_spec (fuel : Nat) (plan : UvPlan) (state : UvState R) (s : Session T) :
    Returns (fun w => w.session = s) (p.uvTurn fuel plan state)
      fun next w => w.session
          = { s with turns := s.turns ++ [⟨state.info, state.uvBlocked || plan.skipUv⟩] }
        ∧ TurnResult p.crypto plan state next := by
  refine Proc.Triple.bind
    (fun _ w => w.session
      = { s with turns := s.turns ++ [⟨state.info, state.uvBlocked || plan.skipUv⟩] })
    (Proc.Triple.modify fun w hw => by rw [← hw]) fun _ => ?_
  rcases hop : state.info.uvOperation (state.uvBlocked || plan.skipUv) with _ | uvOperation
  · exact Proc.Triple.throw fun _ _ => trivial
  -- the legacy option needs no token; what it carries out is for a shared secret
  by_cases hlegacy : uvOperation = .legacyUv
  · subst hlegacy
    dsimp only
    split
    next halone =>
      refine Proc.Triple.pure fun w hw => ⟨hw, .legacy hop rfl ?_⟩
      simpa [UvPlan.agrees, or_iff_not_imp_left] using halone
    next hagrees =>
      refine (p.carryOut_spec fuel plan _ .legacyUv _).post fun next w hw => ⟨hw.1, ?_⟩
      cases hw.2 with
      | again hmints => cases hmints
      | left hleft hrequest hkeys =>
          rcases hleft with rfl | hboth
          · exact .legacyShared hop hrequest (by simpa [UvPlan.agrees] using hagrees) hkeys
          · exact absurd hboth.1 (by decide)
  · have hcarry := p.carryOut_spec fuel plan state
      (plan.downgrade state.request state.info uvOperation)
      { s with turns := s.turns ++ [⟨state.info, state.uvBlocked || plan.skipUv⟩] }
    have hresult : ∀ next,
        Carried p.crypto state (plan.downgrade state.request state.info uvOperation) next
          → TurnResult p.crypto plan state next :=
      fun next => turnResult_of_carried hop hlegacy
    cases uvOperation with
    | legacyUv => exact absurd rfl hlegacy
    | getPinUvAuthTokenUsingUvWithPermissions =>
        exact hcarry.post fun next w hw => ⟨hw.1, hresult next hw.2⟩
    | getPinUvAuthTokenUsingPinWithPermissions =>
        exact hcarry.post fun next w hw => ⟨hw.1, hresult next hw.2⟩
    | getPinToken => exact hcarry.post fun next w hw => ⟨hw.1, hresult next hw.2⟩
    | onlyForSharedSecret => exact hcarry.post fun next w hw => ⟨hw.1, hresult next hw.2⟩

/-! ## §3. The loop. -/

/-- The loop: every turn before the last one asked for a token, and the
request is the same at each of them. -/
theorem uvLoop_spec (fuel : Nat) (plan : UvPlan) (request : R) (s : Session T)
    (turnFuel : Nat) (state : UvState R) (hrequest : state.request = request) :
    Returns (fun w => w.session = s) (Proc.loop (p.uvTurn turnFuel plan) fuel state)
      fun result w => ∃ (turns : List UvTurn) (last : UvState R),
        w.session = { s with turns := s.turns ++ (turns
            ++ [⟨last.info, last.uvBlocked || plan.skipUv⟩]) }
          ∧ (∀ turn ∈ turns, turn.MintsToken) ∧ last.request = request
          ∧ TurnResult p.crypto plan last (.inr result) := by
  -- the invariant: every turn but the last one asked for a token
  refine (Proc.Triple.loop
    (fun state w => state.request = request ∧ ∃ turns : List UvTurn,
      w.session = { s with turns := s.turns ++ turns } ∧ ∀ turn ∈ turns, turn.MintsToken)
    ?body (fun _ _ _ => trivial) fuel state).pre fun w hw =>
      ⟨hrequest, [], by rw [hw, List.append_nil], by simp⟩
  case body =>
    intro state
    refine Proc.Triple.of_fact fun hstate => ?_
    rintro w ⟨turns, hsession, hturns⟩
    have hturn := p.uvTurn_spec turnFuel plan state w.session w rfl
    rcases hrun : p.uvTurn turnFuel plan state w with ⟨outcome, w'⟩
    rw [hrun] at hturn
    cases outcome with
    | error e => trivial
    | running => trivial
    | ok next =>
        obtain ⟨hsession', hresult⟩ := hturn
        have hlog : w'.session = { s with turns := s.turns ++ (turns
            ++ [⟨state.info, state.uvBlocked || plan.skipUv⟩]) } := by
          rw [hsession', hsession, ← List.append_assoc]
        cases next with
        | inr exit => exact ⟨turns, state, hlog, hturns, hstate, hresult⟩
        | inl state' =>
            cases hresult with
            | again hmints hsame =>
                refine ⟨hsame.trans hstate, _, hlog, ?_⟩
                intro turn hmem
                rcases List.mem_append.mp hmem with hmem | hmem
                · exact hturns turn hmem
                · exact List.mem_singleton.mp hmem ▸ hmints

/-! ## §4. The result. -/

/-- The session with its auth data replaced, and some turns added. -/
abbrev after (s : Session T) (turns : List UvTurn) (authData : Option AuthTokenData) :
    Session T :=
  { s with turns := s.turns ++ turns, authData := authData }

/-- A token that is handed on, or else the run does not return. -/
theorem concludes_decryptToken {S : Exchange T → Prop} (uvProto : PinUvAuthProtocol)
    (sharedSecret : Bytes)
    (tokenResponse : Option Ctap2ClientPinResponse) :
    Ctap.Concludes S (p.decryptToken uvProto sharedSecret tokenResponse) := by
  unfold decryptToken
  split
  · exact Ctap.Concludes.throw _
  · refine Ctap.Concludes.bind (Ctap.Concludes.liftPlatform _) fun token => ?_
    split
    · exact Ctap.Concludes.pure _
    · exact Ctap.Concludes.throw _

/-- A minted token is stored with its keys and its permissions. -/
theorem storeToken_spec (state : UvState R) {info : Ctap2GetInfoResponse}
    {uvProto : PinUvAuthProtocol} {sharedSecret : Bytes} {publicKey : PublicKey}
    (hkeys : Agreed p.crypto info uvProto publicKey sharedSecret)
    (uvOperation : Ctap2UserVerificationOperation) (token : Bytes) (s : Session T) :
    Returns (fun w => w.session = s)
      (p.storeToken state uvProto sharedSecret publicKey uvOperation token)
      fun _ w => ∃ authData, w.session = { s with authData := authData }
        ∧ KeepsToken state.request s.authData uvProto.version token authData
        ∧ KeepsKeys p.crypto info state.request authData := by
  unfold storeToken KeepsToken KeepsKeys
  split
  next hwants =>
    have hkeeps : ∀ w : World σ T, w.session = s → ∃ authData,
        w.session = { s with authData := authData } ∧ authData = s.authData
          ∧ (wantsPersistentToken state.request = false →
            ∃ data, authData = some data ∧ data.AgreedUnder p.crypto info) :=
      fun w hw => ⟨s.authData, hw, rfl, fun h => absurd hwants (by rw [h]; decide)⟩
    split
    · refine Proc.Triple.bind _ (returns_of_dialogue
        (Ctap.Dialogue.attempt (p.concludes_storeMintedToken _ _ _).dialogue) s) fun _ => ?_
      exact Proc.Triple.pure hkeeps
    · exact Proc.Triple.pure hkeeps
  · refine Proc.Triple.modify fun w hw => ⟨_, by rw [← hw], ⟨_, rfl, rfl, rfl⟩, fun _ => ?_⟩
    exact ⟨_, rfl, uvProto.privateKey, hkeys⟩

/-- The last turn and the packaging give one of the outcomes. -/
theorem packageResult_spec {requirement : UserVerificationRequirement}
    {info : Ctap2GetInfoResponse} {last state : UvState R} {exit : UvExit}
    {turns : List UvTurn} (s : Session T) (skipUv : Bool)
    (huncached : cachedProtocol info last.request s.authData = none)
    (hturns : ∀ turn ∈ turns, turn.MintsToken)
    (hresult : TurnResult p.crypto
      { helperPlan requirement info last.request with skipUv := skipUv } last
      (.inr (state, exit))) :
    Returns (fun w => w.session = { s with turns := s.turns ++ (turns
        ++ [⟨last.info, last.uvBlocked || skipUv⟩]) })
      (p.packageResult state exit)
      fun result w => ∃ newTurns authData, w.session = after s newTurns authData
        ∧ UvOutcome p.crypto requirement info last.request s.authData newTurns authData
          result.1 result.2 := by
  -- whether built-in UV is skipped matters for the turns only
  cases hresult with
  | legacy hop hrequest halone =>
      refine Proc.Triple.pure fun w hw => ⟨_, s.authData, hw, ?_⟩
      rw [hrequest]
      refine .legacy hturns hop (Or.inl rfl) huncached ?_
      rw [show (helperPlan requirement info last.request).agrees = false from halone]
      rfl
  | @legacyShared _ uvProto sharedSecret publicKey _ hop hrequest hagrees hkeys =>
      refine Proc.Triple.bind _ (returns_storeAuthData _ _) fun _ => ?_
      refine Proc.Triple.pure fun w hw => ⟨_, _, hw, ?_⟩
      rw [hrequest]
      refine .legacy hturns hop (Or.inr ⟨_, rfl, rfl⟩) huncached ?_
      rw [show (helperPlan requirement info last.request).agrees = true from hagrees]
      exact ⟨_, rfl, uvProto.privateKey, hkeys⟩
  | @shared _ uvProto sharedSecret publicKey _ _ hop hwhy hrequest hsettled hkeys =>
      refine Proc.Triple.bind _ (returns_storeAuthData _ _) fun _ => ?_
      refine Proc.Triple.pure fun w hw => ⟨_, _, hw, ?_⟩
      rw [hrequest]
      exact .sharedSecret hturns hop hwhy rfl huncached hsettled ⟨uvProto.privateKey, hkeys⟩
  -- a token of the device: decrypted, kept on the channel, and the parameter made from it
  | @minted _ uvProto sharedSecret publicKey tokenResponse uvOperation hmints hop hrequest
      hsettled hkeys =>
      unfold packageResult
      dsimp only
      rw [if_pos hop]
      refine Proc.Triple.bind _ (returns_of_dialogue (p.concludes_decryptToken _ _ _).dialogue _)
        fun token => ?_
      refine Proc.Triple.bind _ (p.storeToken_spec state hkeys uvOperation token _) fun _ => ?_
      refine Proc.Triple.bind _ (returns_liftPlatform _ _) fun request' => ?_
      refine Proc.Triple.of_fact fun hauth => Proc.Triple.pure ?_
      rintro w ⟨authData, hsession, hkeeps, hkept⟩
      rw [hrequest] at hauth hkeeps hkept
      exact ⟨_, authData, hsession,
        .minted hturns hmints hop hkeeps hauth huncached hsettled hkeys.selected hkept⟩

/-! ## §5. The whole verification. -/

/-- With verification required, the device that comes out is protected. -/
theorem ensureUvProtected_spec (fuel : Nat) (requirement : UserVerificationRequirement)
    (info : Ctap2GetInfoResponse) (s : Session T) :
    Returns (fun w => w.session = s) (p.ensureUvProtected fuel requirement info)
      fun info' w => (requirement = .required → info'.isUvProtected = true)
        ∧ w.session = s := by
  unfold ensureUvProtected
  split
  · refine Proc.Triple.bind _ (returns_of_dialogue (p.dialogue_tryToSetPin _ _ _) s)
      fun _ => ?_
    refine Proc.Triple.bind _ (returns_of_dialogue p.dialogue_ctap2GetInfo s)
      fun info' => ?_
    split
    · exact Proc.Triple.throw fun _ _ => trivial
    next hprotected =>
      exact Proc.Triple.pure fun w hw => ⟨fun _ => by simpa using hprotected, hw⟩
  next hno =>
    refine Proc.Triple.pure fun w hw => ⟨?_, hw⟩
    rintro rfl
    simpa [UserVerificationRequirement.isRequired] using hno

/-- Required verification on a protected device is not skipped. -/
theorem ne_required_of_skips {requirement : UserVerificationRequirement}
    {needsSharedSecret canEstablishSharedSecret devUvProtected devUvProtected₀ : Bool}
    (hskips : skipsVerification requirement needsSharedSecret canEstablishSharedSecret
      devUvProtected (!requirement.isDiscouraged && (requirement.isPreferred || devUvProtected₀))
        = true)
    (hprotected : requirement = .required → devUvProtected = true) :
    requirement ≠ .required := by
  rintro rfl
  rw [hprotected rfl] at hskips
  cases needsSharedSecret <;> simp [skipsVerification, UserVerificationRequirement.isDiscouraged,
    UserVerificationRequirement.isPreferred] at hskips

/-- **A verification without a cached token**, however many turns it takes. -/
theorem userVerificationHelper_spec (fuel : Nat) (info : Ctap2GetInfoResponse)
    (requirement : UserVerificationRequirement) (request : R) (s : Session T)
    (huncached : cachedProtocol info request s.authData = none) :
    Returns (fun w => w.session = s) (p.userVerificationHelper fuel info requirement request)
      fun result w => ∃ turns authData, w.session = after s turns authData
        ∧ UvOutcome p.crypto requirement info request s.authData turns authData
          result.1 result.2 := by
  refine Proc.Triple.bind _ (p.ensureUvProtected_spec fuel requirement info s) fun info' => ?_
  refine Proc.Triple.of_fact fun hprotected => ?_
  split
  next hskips =>
    refine Proc.Triple.pure fun w hw => ⟨[], s.authData, ?_, ?_⟩
    · rw [hw, after, List.append_nil]
    · exact .skipped (ne_required_of_skips hskips hprotected) huncached
  next =>
    refine Proc.Triple.bind _ (p.uvLoop_spec fuel _ request s fuel ⟨info', request, false⟩ rfl)
      fun result => ?_
    rintro w ⟨turns, last, hsession, hturns, hrequest, hresult⟩
    subst hrequest
    exact p.packageResult_spec s _ huncached hturns hresult w hsession

theorem dialogue_reusablePersistentToken {S : Exchange T → Prop} (info : Ctap2GetInfoResponse)
    (request : R) :
    Ctap.Dialogue S (p.reusablePersistentToken info request) := by
  unfold reusablePersistentToken
  split
  · exact (p.concludes_recognizeAuthenticator _).dialogue
  · exact Ctap.Dialogue.pure _

/-- A record is reused only for a request that wants a persistent token. -/
theorem reusablePersistentToken_spec (info : Ctap2GetInfoResponse) (request : R)
    (s : Session T) :
    Returns (fun w => w.session = s) (p.reusablePersistentToken info request)
      fun record w => (record.isSome = true → wantsPersistentToken request = true)
        ∧ w.session = s := by
  unfold reusablePersistentToken
  split
  next hwants =>
    simp only [Bool.and_eq_true] at hwants
    exact (returns_of_dialogue (p.concludes_recognizeAuthenticator _).dialogue s).post
      fun _ w hw => ⟨fun _ => hwants.1.1, hw⟩
  · exact Proc.Triple.pure fun w hw => ⟨fun h => absurd h (by simp), hw⟩

/-- The cached token is reused exactly when it serves the request under the
protocol that is selected. -/
theorem reusableEphemeralToken_spec (info : Ctap2GetInfoResponse) (request : R)
    (s : Session T) :
    Returns (fun w => w.session = s) (p.reusableEphemeralToken info request)
      fun token w => ((∀ protocol bytes, token = some (protocol, bytes) →
            info.uvProto = some protocol
              ∧ getUvAuthToken s.authData
                ⟨protocol, permissions request, permissionsRpid request⟩ = some bytes)
          ∧ (token = none → cachedProtocol info request s.authData = none))
        ∧ w.session = s := by
  refine Proc.Triple.bind _ (p.selectUvProto_spec info s) fun uvProto => ?_
  refine Proc.Triple.of_fact fun hselected => ?_
  cases uvProto with
  | none =>
      refine Proc.Triple.pure fun w hw => ⟨⟨fun _ _ h => absurd h (by simp), fun _ => ?_⟩, hw⟩
      unfold cachedProtocol
      rw [← hselected.1]
      rfl
  | some uvProto =>
      refine Proc.Triple.bind (fun authData w => authData = s.authData ∧ w.session = s)
        (fun w hw => ⟨by rw [← hw], hw⟩) fun authData => ?_
      refine Proc.Triple.of_fact fun hdata => Proc.Triple.pure fun w hw => ⟨?_, hw⟩
      subst hdata
      unfold cachedProtocol
      rw [← hselected.1]
      rcases hstored : getUvAuthToken s.authData
        ⟨uvProto.version, permissions request, permissionsRpid request⟩ with _ | token
      · refine ⟨fun _ _ h => (by cases h), fun _ => ?_⟩
        rw [Option.map_some, Option.filter_some, hstored]
        rfl
      · refine ⟨fun protocol bytes htoken => ?_, fun h => (by cases h)⟩
        obtain ⟨rfl, rfl⟩ := Prod.mk.inj (Option.some.inj htoken)
        exact ⟨rfl, hstored⟩

/-- A user verification that returns ends in one of the outcomes, for the
request as the getInfo hooks left it. -/
theorem userVerification_spec (fuel : Nat) (requirement : UserVerificationRequirement)
    (request : R) (start : World σ T) :
    Returns (fun w => w = start) (p.userVerification fuel requirement request)
      fun result w => ∃ info turns authData, (p.getInfo start.env).1 = .ok info
        ∧ w.session = after start.session turns authData
        ∧ UvOutcome p.crypto requirement info (p.prepareRequest info request)
          start.session.authData turns authData result.1 result.2 := by
  generalize hs : start.session = s
  have hkept : s = after s [] s.authData := by rw [after, List.append_nil]
  refine Proc.Triple.bind _ ((p.ctap2GetInfo_spec start).conseq (fun _ => id) (fun _ _ => id)
    fun _ _ => trivial) fun info => ?_
  refine Proc.Triple.pre (P := fun w => (p.getInfo start.env).1 = .ok info ∧ w.session = s) ?_
    fun w hw => ⟨hw.2.2.1, hw.1.trans hs⟩
  refine Proc.Triple.of_fact fun hanswer => ?_
  refine Proc.Triple.bind _ (p.reusablePersistentToken_spec info _ s) fun record => ?_
  -- a persistent token, a cached one, or a negotiation
  cases record with
  | some record =>
      obtain ⟨id, record⟩ := record
      refine Proc.Triple.of_fact fun hwants => ?_
      refine Proc.Triple.bind _ (returns_liftPlatform _ _) fun request' => ?_
      refine Proc.Triple.of_fact fun hauth => Proc.Triple.pure fun w hw => ?_
      exact ⟨info, [], s.authData, hanswer, hw.trans hkept, .persistent (hwants rfl) hauth⟩
  | none =>
      refine Proc.Triple.pre (P := fun w => w.session = s) ?_ fun w hw => hw.2
      refine Proc.Triple.bind _ (p.reusableEphemeralToken_spec info _ s) fun token => ?_
      refine Proc.Triple.of_fact fun htoken => ?_
      cases token with
      | some token =>
          obtain ⟨protocol, bytes⟩ := token
          obtain ⟨hselected, hcached⟩ := htoken.1 protocol bytes rfl
          refine Proc.Triple.bind _ (returns_liftPlatform _ _) fun request' => ?_
          refine Proc.Triple.of_fact fun hauth => Proc.Triple.pure fun w hw => ?_
          exact ⟨info, [], s.authData, hanswer, hw.trans hkept,
            .ephemeral hcached hauth hselected⟩
      | none =>
          refine (p.userVerificationHelper_spec fuel info requirement _ s (htoken.2 rfl)).post
            fun result w hw => ?_
          obtain ⟨turns, authData, hsession, houtcome⟩ := hw
          exact ⟨info, turns, authData, hanswer, hsession, houtcome⟩

end Platform

end Libwebauthn
