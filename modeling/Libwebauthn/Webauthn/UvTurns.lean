/-
  Libwebauthn.Webauthn.UvTurns — what a turn of the loop in
  `user_verification_helper` puts on the wire
  (`src/webauthn/pin_uv_auth_token.rs`).

  A turn sends one token request at most.  `UvTurnSent` lists the ways it can
  go, with what makes the loop take another turn; `uvTurn_leaves` says that
  there are no others.
-/
import Libwebauthn.Lib.Trace
import Libwebauthn.Webauthn.UvOutcome

namespace Libwebauthn

open Ctap2UserVerifiableRequest

variable {σ T R : Type} [Ctap2UserVerifiableRequest R]

/-! ## §1. The options of the device. -/

namespace Ctap2PinUvAuthProtocolCommand

/-- The token requests that carry a PIN hash. -/
def usesPin : Ctap2PinUvAuthProtocolCommand → Bool
  | .getPinToken => true
  | .getPinUvAuthTokenUsingPinWithPermissions => true
  | _ => false

end Ctap2PinUvAuthProtocolCommand

/-- The token request of an operation. -/
def Ctap2UserVerificationOperation.tokenCommand :
    Ctap2UserVerificationOperation → Option Ctap2PinUvAuthProtocolCommand
  | .getPinUvAuthTokenUsingUvWithPermissions => some .getPinUvAuthTokenUsingUvWithPermissions
  | .getPinUvAuthTokenUsingPinWithPermissions => some .getPinUvAuthTokenUsingPinWithPermissions
  | .getPinToken => some .getPinToken
  | .onlyForSharedSecret => none
  | .legacyUv => none

/-- A token request that the options of `info` allow, for these permissions and
where built-in UV may be out of the question. -/
structure TokenAllowed (permissions : Ctap2AuthTokenPermissionRole)
    (info : Ctap2GetInfoResponse) (uvUnavailable : Bool)
    (command : Ctap2PinUvAuthProtocolCommand) : Prop where
  usingUv : command = .getPinUvAuthTokenUsingUvWithPermissions →
    info.optionEnabled "uv" = true ∧ info.optionEnabled "pinUvAuthToken" = true
      ∧ uvUnavailable = false
  usingPin : command = .getPinUvAuthTokenUsingPinWithPermissions →
    info.optionEnabled "clientPin" = true ∧ info.optionEnabled "pinUvAuthToken" = true
  pinToken : command = .getPinToken →
    info.optionEnabled "clientPin" = true ∧ info.optionEnabled "pinUvAuthToken" = false
  noForcedChange : command.usesPin = true → info.forcePinChange ≠ some true
  noMcGa : command.usesPin = true →
    permissions.intersects { makeCredential := true, getAssertion := true } = true →
      info.optionEnabled "noMcGaPermissionsWithClientPin" = false

/-- An operation that the getInfo offers. -/
structure OperationFits (info : Ctap2GetInfoResponse) (uvUnavailable : Bool)
    (uvOperation : Ctap2UserVerificationOperation) : Prop where
  usingUv : uvOperation = .getPinUvAuthTokenUsingUvWithPermissions →
    info.optionEnabled "uv" = true ∧ info.optionEnabled "pinUvAuthToken" = true
      ∧ uvUnavailable = false
  usingPin : uvOperation = .getPinUvAuthTokenUsingPinWithPermissions →
    info.optionEnabled "clientPin" = true ∧ info.optionEnabled "pinUvAuthToken" = true
  pinToken : uvOperation = .getPinToken →
    info.optionEnabled "clientPin" = true ∧ info.optionEnabled "pinUvAuthToken" = false
  /-- A PIN is for where there is no built-in UV. -/
  noUv : uvOperation.usesPin = true → (info.optionEnabled "uv" && !uvUnavailable) = false

/-- An operation without a token fits any getInfo. -/
theorem OperationFits.of_not_mints {info : Ctap2GetInfoResponse} {uvUnavailable : Bool}
    {uvOperation : Ctap2UserVerificationOperation} (h : uvOperation.mintsToken = false) :
    OperationFits info uvUnavailable uvOperation := by
  constructor <;> intro hop
  · rw [hop] at h
    cases h
  · rw [hop] at h
    cases h
  · rw [hop] at h
    cases h
  · cases uvOperation <;> first | exact absurd h (by decide) | exact absurd hop (by decide)

/-- The operation that getInfo yields is one that getInfo allows. -/
theorem uvOperation_fits {info : Ctap2GetInfoResponse} {uvUnavailable : Bool}
    {uvOperation : Ctap2UserVerificationOperation}
    (h : info.uvOperation uvUnavailable = some uvOperation) :
    OperationFits info uvUnavailable uvOperation := by
  unfold Ctap2GetInfoResponse.uvOperation at h
  split at h
  -- built-in UV is there: with tokens, or as in CTAP 2.0
  next huv =>
    rw [Bool.and_eq_true, Bool.not_eq_true'] at huv
    split at h
    next htoken =>
      obtain rfl := Option.some.inj h
      exact ⟨fun _ => ⟨huv.1, htoken, huv.2⟩, fun hop => (by cases hop),
        fun hop => (by cases hop), fun hpin => (by cases hpin)⟩
    next => exact Option.some.inj h ▸ .of_not_mints rfl
  -- otherwise no operation but the PIN's mints a token
  next hno =>
    have hnoUv : (info.optionEnabled "uv" && !uvUnavailable) = false := by
      rwa [Bool.not_eq_true] at hno
    split at h
    · exact Option.some.inj h ▸ .of_not_mints rfl
    split at h
    · exact Option.some.inj h ▸ .of_not_mints rfl
    split at h
    next htoken =>
      split at h
      next => exact Option.some.inj h ▸ .of_not_mints rfl
      next hpin =>
        rw [Bool.not_eq_true', Bool.not_eq_false] at hpin
        obtain rfl := Option.some.inj h
        exact ⟨fun hop => (by cases hop), fun _ => ⟨hpin, htoken⟩, fun hop => (by cases hop),
          fun _ => hnoUv⟩
    next htoken =>
      split at h
      next hpin =>
        rw [Bool.not_eq_true] at htoken
        obtain rfl := Option.some.inj h
        exact ⟨fun hop => (by cases hop), fun hop => (by cases hop), fun _ => ⟨hpin, htoken⟩,
          fun _ => hnoUv⟩
      next => cases h

/-- Downgraded or not, the operation is one that getInfo allows. -/
theorem OperationFits.downgrade {info : Ctap2GetInfoResponse} {uvUnavailable : Bool}
    {uvOperation : Ctap2UserVerificationOperation}
    (h : OperationFits info uvUnavailable uvOperation) (plan : UvPlan) (request : R) :
    OperationFits info uvUnavailable (plan.downgrade request info uvOperation) := by
  unfold UvPlan.downgrade
  split
  · exact .of_not_mints rfl
  · exact h

/-- An operation that fits is not rerouted: a PIN is not used where there is
built-in UV. -/
theorem enforceNoMcGa_of_fits {info : Ctap2GetInfoResponse} {uvUnavailable : Bool}
    {uvOperation uvOperation' : Ctap2UserVerificationOperation}
    {permissions : Ctap2AuthTokenPermissionRole}
    (hfits : OperationFits info uvUnavailable uvOperation)
    (h : enforceNoMcGaWithClientPin info uvOperation permissions uvUnavailable
      = .ok uvOperation') :
    uvOperation' = uvOperation ∧ (uvOperation.usesPin = true →
      permissions.intersects { makeCredential := true, getAssertion := true } = true →
        info.optionEnabled "noMcGaPermissionsWithClientPin" = false) := by
  unfold enforceNoMcGaWithClientPin at h
  dsimp only at h
  split at h
  next hpass =>
    refine ⟨(Except.ok.inj h).symm, fun hpin hwants => ?_⟩
    rw [hpin, hwants] at hpass
    simpa using hpass
  next hpin =>
    split at h
    next huv =>
      -- the check would fall back on built-in UV, which a PIN operation does not go with
      have hpin : uvOperation.usesPin = true := by
        cases huses : uvOperation.usesPin with
        | true => rfl
        | false =>
            rw [huses] at hpin
            exact absurd rfl hpin
      rw [hfits.noUv hpin] at huv
      cases huv
    next => cases h

/-- The token request of an operation that fits. -/
theorem TokenAllowed.of_fits {permissions : Ctap2AuthTokenPermissionRole}
    {info : Ctap2GetInfoResponse} {uvUnavailable : Bool}
    {uvOperation : Ctap2UserVerificationOperation}
    {command : Ctap2PinUvAuthProtocolCommand}
    (hfits : OperationFits info uvUnavailable uvOperation)
    (hforced : uvOperation.usesPin = true → info.forcePinChange ≠ some true)
    (hnoMcGa : uvOperation.usesPin = true →
      permissions.intersects { makeCredential := true, getAssertion := true } = true →
        info.optionEnabled "noMcGaPermissionsWithClientPin" = false)
    (hcommand : uvOperation.tokenCommand = some command) :
    TokenAllowed permissions info uvUnavailable command := by
  cases uvOperation with
  | legacyUv => cases hcommand
  | onlyForSharedSecret => cases hcommand
  | getPinToken =>
      obtain rfl := Option.some.inj hcommand
      exact ⟨fun h => (by cases h), fun h => (by cases h), fun _ => hfits.pinToken rfl,
        fun _ => hforced rfl, fun _ => hnoMcGa rfl⟩
  | getPinUvAuthTokenUsingPinWithPermissions =>
      obtain rfl := Option.some.inj hcommand
      exact ⟨fun h => (by cases h), fun _ => hfits.usingPin rfl, fun h => (by cases h),
        fun _ => hforced rfl, fun _ => hnoMcGa rfl⟩
  | getPinUvAuthTokenUsingUvWithPermissions =>
      obtain rfl := Option.some.inj hcommand
      exact ⟨fun _ => hfits.usingUv rfl, fun h => (by cases h), fun h => (by cases h),
        fun h => (by cases h), fun h => (by cases h)⟩

/-! ## §2. Events. -/

/-- An event of a user verification. -/
inductive UvEvent (T : Type) where
  | turn (entry : UvTurn)
  | sent (x : Exchange T)

namespace UvEvent

def turn? : UvEvent T → Option UvTurn
  | .turn entry => some entry
  | .sent _ => none

def exchange? : UvEvent T → Option (Exchange T)
  | .turn _ => none
  | .sent x => some x

/-- The commands among the events. -/
def exchanges (events : List (UvEvent T)) : List (Exchange T) := events.filterMap exchange?

/-- The turns among the events. -/
def turns (events : List (UvEvent T)) : List UvTurn := events.filterMap turn?

theorem exchanges_append (xs ys : List (UvEvent T)) :
    exchanges (xs ++ ys) = exchanges xs ++ exchanges ys :=
  List.filterMap_append

theorem turns_append (xs ys : List (UvEvent T)) : turns (xs ++ ys) = turns xs ++ turns ys :=
  List.filterMap_append

/-- Events that are all exchanges are those exchanges. -/
theorem exchanges_sent (sent : List (Exchange T)) : exchanges (sent.map .sent) = sent := by
  unfold exchanges
  rw [List.filterMap_map]
  exact List.filterMap_some

theorem turns_sent (sent : List (Exchange T)) : turns (sent.map .sent) = [] := by
  unfold turns
  rw [List.filterMap_map]
  exact List.filterMap_eq_nil_iff.mpr fun _ _ => rfl

end UvEvent

/-- The commands on the wire, and the turns in the session. -/
def uvRecord (σ T : Type) : Record (World σ T) (UvEvent T) where
  grows w w' events := w'.wire = w.wire ++ UvEvent.exchanges events
    ∧ w'.session.turns = w.session.turns ++ UvEvent.turns events
  refl _ := ⟨(List.append_nil _).symm, (List.append_nil _).symm⟩
  trans h h' := by
    rw [UvEvent.exchanges_append, UvEvent.turns_append, ← List.append_assoc,
      ← List.append_assoc, ← h.1, ← h.2]
    exact h'

/-- Only exchanges, all in `S`. -/
def SentOnly (S : Exchange T → Prop) (events : List (UvEvent T)) : Prop :=
  ∃ sent : List (Exchange T), events = sent.map .sent ∧ ∀ x ∈ sent, S x

namespace SentOnly

variable {S : Exchange T → Prop}

theorem nil : SentOnly S [] := ⟨[], rfl, fun _ h => (by cases h)⟩

/-- Two parts that send send together. -/
theorem append {xs ys : List (UvEvent T)} (hxs : SentOnly S xs) (hys : SentOnly S ys) :
    SentOnly S (xs ++ ys) := by
  obtain ⟨sent, rfl, hsent⟩ := hxs
  obtain ⟨sent', rfl, hsent'⟩ := hys
  refine ⟨sent ++ sent', List.map_append.symm, fun x hx => ?_⟩
  exact (List.mem_append.mp hx).elim (hsent x) (hsent' x)

end SentOnly

/-- What comes before a token request: questions, and PIN changes. -/
def Exchange.Preparatory : Exchange T → Prop
  | .getInfo answer => ∀ info, answer ≠ .ok info
  | .clientPin request _ => request.command.mintsToken = false
  | _ => False

/-- A query prepares a token request and is none. -/
theorem Exchange.Query.preparatory {x : Exchange T} (h : x.Query) : x.Preparatory := by
  cases x with
  | clientPin request answer => cases h <;> rfl
  | _ => exact h.elim

namespace Platform

variable (p : Platform σ T)

/-- A dialogue leaves exchanges in the record, and no turn. -/
theorem recorded_of_dialogue {S : Exchange T → Prop} {ε α : Type} {m : Proc (World σ T) ε α}
    (h : Ctap.Dialogue S m) : Proc.Leaves (uvRecord σ T) m fun _ => SentOnly S := by
  intro w
  obtain ⟨hsession, sent, hwire, hS⟩ := h.sends w
  refine ⟨sent.map .sent, ⟨?_, ?_⟩, sent, rfl, hS⟩
  · rw [UvEvent.exchanges_sent]
    exact hwire
  · rw [UvEvent.turns_sent, List.append_nil, hsession]

theorem recorded_of_concludes {S : Exchange T → Prop} {ε α : Type} {m : Proc (World σ T) ε α}
    (h : Ctap.Concludes S m) :
    Proc.Leaves (uvRecord σ T) m fun outcome events =>
      outcome ≠ .running ∧ SentOnly S events := by
  intro w
  obtain ⟨events, hgrows, hevents⟩ := recorded_of_dialogue h.dialogue w
  exact ⟨events, hgrows, h.ends w, hevents⟩

/-! ## §3. Changing a PIN. -/

/-- The request of a PIN change sets or changes a PIN, and mints nothing. -/
theorem command_changePinRequest {version : Ctap2PinUvAuthProtocol} {publicKey : PublicKey}
    {sharedSecret newPinEnc : Bytes} {currentPin : Option Bytes} {w w' : World σ T}
    {request : Ctap2ClientPinRequest}
    (h : p.changePinRequest version publicKey sharedSecret newPinEnc currentPin w
      = (.ok request, w')) : request.command.mintsToken = false := by
  unfold changePinRequest at h
  split at h
  · obtain ⟨pinHashEnc, w₁, -, h⟩ := Proc.bind_eq_ok_iff.mp h
    obtain ⟨uvAuthParam, w₂, -, h⟩ := Proc.bind_eq_ok_iff.mp h
    rw [← Outcome.ok.inj (Prod.mk.inj h).1]
    rfl
  · obtain ⟨uvAuthParam, w₁, -, h⟩ := Proc.bind_eq_ok_iff.mp h
    rw [← Outcome.ok.inj (Prod.mk.inj h).1]
    rfl

/-- All that a run of `m` sends comes before a token request. -/
abbrev Prepares {ε α : Type} (m : Proc (World σ T) ε α) : Prop :=
  Proc.Leaves (uvRecord σ T) m fun _ => SentOnly Exchange.Preparatory

theorem prepares_of_dialogue {S : Exchange T → Prop} {ε α : Type} {m : Proc (World σ T) ε α}
    (h : Ctap.Dialogue S m) (hS : ∀ x, S x → x.Preparatory) : Prepares m :=
  recorded_of_dialogue (h.mono hS)

/-- Parts that prepare do so one after the other. -/
theorem prepares_bind {ε α β : Type} {m : Proc (World σ T) ε α}
    {k : α → Proc (World σ T) ε β} (hm : Prepares m)
    (hk : ∀ a, (∃ w w', m w = (.ok a, w')) → Prepares (k a)) : Prepares (m >>= k) := by
  have hreturning := hm.returning (Q := fun a => ∃ w w', m w = (.ok a, w'))
    fun w a w' h => ⟨w, w', h⟩
  refine Proc.Leaves.bind hreturning (fun a xs hxs => ?_) (fun _ _ h => h.1) (fun _ h => h.1)
  exact (hk a (hxs.2 a rfl)).mono fun _ _ hys => hxs.1.append hys

theorem prepares_changePinInternal (info : Ctap2GetInfoResponse) (newPin : String) :
    Prepares (p.changePinInternal info newPin) := by
  unfold changePinInternal
  dsimp only
  split
  · exact Proc.Leaves.throw .nil
  split
  · exact Proc.Leaves.throw .nil
  refine prepares_bind (recorded_of_dialogue (p.concludes_recognizeForEviction _).dialogue)
    fun id _ => ?_
  refine prepares_bind (recorded_of_dialogue (p.concludes_selectUvProto _).dialogue)
    fun uvProto _ => ?_
  cases uvProto with
  | none => exact Proc.Leaves.throw .nil
  | some uvProto =>
      refine prepares_bind (prepares_of_dialogue (p.queries_obtainCurrentPin _ _).dialogue
        fun _ => Exchange.Query.preparatory) fun currentPin _ => ?_
      refine prepares_bind (prepares_of_dialogue (p.queries_obtainSharedSecret _).dialogue
        fun _ => Exchange.Query.preparatory) fun keys _ => ?_
      refine prepares_bind (recorded_of_dialogue (p.concludes_encrypt _ _ _).dialogue)
        fun newPinEnc _ => ?_
      refine prepares_bind (recorded_of_dialogue (p.concludes_changePinRequest _ _ _ _ _).dialogue)
        fun request hrequest => ?_
      obtain ⟨w, w', hrequest⟩ := hrequest
      -- the last command sets or changes the PIN, so it asks for no token
      have hcommand := p.command_changePinRequest hrequest
      exact prepares_bind (recorded_of_dialogue (.command _ _ fun _ => hcommand))
        fun _ _ => recorded_of_dialogue (p.concludes_evict _).dialogue

/-- Setting a PIN on the way prepares the turn; it mints no token, however
often the user is asked. -/
theorem prepares_tryToSetPin (fuel : Nat) (info : Ctap2GetInfoResponse)
    (reason : PinNotSetReason) : Prepares (p.tryToSetPin fuel info reason) := by
  unfold tryToSetPin
  split
  · exact Proc.Leaves.pure .nil
  refine Proc.Leaves.loop (fun _ _ => SentOnly Exchange.Preparatory) (fun n reason xs hxs => ?_)
    (fun _ _ h => h) fuel reason [] .nil
  have hturn : Prepares (p.tryToSetPinTurn info reason) := by
    refine prepares_bind (recorded_of_dialogue (.ask _)) fun pin _ => ?_
    cases pin with
    | none => exact Proc.Leaves.throw .nil
    | some pin =>
        refine prepares_bind (Proc.Leaves.attempt (p.prepares_changePinInternal _ _)
          (fun _ _ h => h) (fun _ _ h => h) fun _ h => h) fun result _ => ?_
        split
        all_goals first | exact Proc.Leaves.pure .nil | exact Proc.Leaves.throw .nil
  exact hturn.mono fun outcome ys hys => .of_events outcome (hxs.append hys)

end Platform

/-! ## §4. A token request. -/

/-- The loop takes no further turn. -/
def LastTurn {ε : Type} : Outcome ε (UvState R ⊕ (UvState R × UvExit)) → Prop
  | .ok (.inl _) => False
  | _ => True

/-- What is sent for an operation whose token request, if it has one, is
`command`: a turn follows when the answer is UvBlocked, or UvInvalid with no
retries left. -/
inductive TokenSent (state : UvState R) (command : Option Ctap2PinUvAuthProtocolCommand) :
    Outcome (WebAuthnError T) (UvState R ⊕ (UvState R × UvExit)) → List (Exchange T) → Prop where
  | plain {outcome sent} (hsent : ∀ x ∈ sent, Exchange.Preparatory x)
      (hlast : LastTurn outcome) : TokenSent state command outcome sent
  | asked {outcome before request answer rest} (hbefore : ∀ x ∈ before, Exchange.Preparatory x)
      (hcommand : command = some request.command) (hrest : ∀ x ∈ rest, Exchange.Query x)
      (hlast : LastTurn outcome) :
      TokenSent state command outcome (before ++ .clientPin request answer :: rest)
  | blocked {before request} (hbefore : ∀ x ∈ before, Exchange.Preparatory x)
      (hcommand : command = some request.command) :
      TokenSent state command (.ok (.inl { state with uvBlocked := true }))
        (before ++ [.clientPin request (.error (.ctap .uvBlocked))])
  | exhausted {before request response} (hbefore : ∀ x ∈ before, Exchange.Preparatory x)
      (hcommand : command = some request.command) (hzero : response.uvRetries = some 0) :
      TokenSent state command (.ok (.inl { state with uvBlocked := true }))
        (before ++ [.clientPin request (.error (.ctap .uvInvalid)),
          .clientPin .newGetUvRetries (.ok response)])

omit [Ctap2UserVerifiableRequest R] in
/-- What prepares a token request may stand in front of it. -/
theorem TokenSent.preceded {state : UvState R} {command : Option Ctap2PinUvAuthProtocolCommand}
    {outcome : Outcome (WebAuthnError T) (UvState R ⊕ (UvState R × UvExit))}
    {xs ys : List (Exchange T)} (hxs : ∀ x ∈ xs, Exchange.Preparatory x)
    (h : TokenSent state command outcome ys) : TokenSent state command outcome (xs ++ ys) := by
  have happend : ∀ {zs : List (Exchange T)}, (∀ x ∈ zs, Exchange.Preparatory x) →
      ∀ x ∈ xs ++ zs, Exchange.Preparatory x :=
    fun hzs x hx => (List.mem_append.mp hx).elim (hxs x) (hzs x)
  cases h with
  | plain hsent hlast => exact .plain (happend hsent) hlast
  | asked hbefore hcommand hrest hlast =>
      rw [← List.append_assoc]
      exact .asked (happend hbefore) hcommand hrest hlast
  | blocked hbefore hcommand =>
      rw [← List.append_assoc]
      exact .blocked (happend hbefore) hcommand
  | exhausted hbefore hcommand hzero =>
      rw [← List.append_assoc]
      exact .exhausted (happend hbefore) hcommand hzero

namespace Platform

variable (p : Platform σ T)

/-- What a run leaves for such an operation. -/
abbrev LeavesToken (state : UvState R) (command : Option Ctap2PinUvAuthProtocolCommand)
    (outcome : Outcome (WebAuthnError T) (UvState R ⊕ (UvState R × UvExit)))
    (events : List (UvEvent T)) : Prop :=
  ∃ sent : List (Exchange T), events = sent.map .sent ∧ TokenSent state command outcome sent

/-- The token request has the command of the operation that was chosen. -/
theorem command_tokenRequest {request : R} {uvOperation : Ctap2UserVerificationOperation}
    {version : Ctap2PinUvAuthProtocol} {sharedSecret : Bytes} {publicKey : PublicKey}
    {pin : Option Bytes} {w w' : World σ T} {tokenRequest : Option Ctap2ClientPinRequest}
    (h : p.tokenRequest request uvOperation version sharedSecret publicKey pin w
      = (.ok tokenRequest, w')) :
    tokenRequest.map (·.command) = uvOperation.tokenCommand := by
  cases uvOperation with
  | legacyUv =>
      rw [← Outcome.ok.inj (Prod.mk.inj h).1]
      rfl
  | onlyForSharedSecret =>
      rw [← Outcome.ok.inj (Prod.mk.inj h).1]
      rfl
  | getPinToken =>
      obtain ⟨pinHashEnc, w₁, -, h⟩ := Proc.bind_eq_ok_iff.mp h
      rw [← Outcome.ok.inj (Prod.mk.inj h).1]
      rfl
  | getPinUvAuthTokenUsingPinWithPermissions =>
      obtain ⟨pinHashEnc, w₁, -, h⟩ := Proc.bind_eq_ok_iff.mp h
      rw [← Outcome.ok.inj (Prod.mk.inj h).1]
      rfl
  | getPinUvAuthTokenUsingUvWithPermissions =>
      obtain ⟨_, w₁, -, h⟩ := Proc.bind_eq_ok_iff.mp h
      rw [← Outcome.ok.inj (Prod.mk.inj h).1]
      rfl

omit [Ctap2UserVerifiableRequest R] in
/-- Something that prepares, and then the rest. -/
theorem leavesToken_bind {α : Type} {m : Ctap σ T α}
    {k : α → Ctap σ T (UvState R ⊕ (UvState R × UvExit))} {state : UvState R}
    {command : Option Ctap2PinUvAuthProtocolCommand} (hm : Prepares m)
    (hk : ∀ a, (∃ w w', m w = (.ok a, w')) →
      Proc.Leaves (uvRecord σ T) (k a) (LeavesToken state command)) :
    Proc.Leaves (uvRecord σ T) (m >>= k) (LeavesToken state command) := by
  have hreturning := hm.returning (Q := fun a => ∃ w w', m w = (.ok a, w'))
    fun w a w' h => ⟨w, w', h⟩
  refine Proc.Leaves.bind hreturning (fun a xs hxs => ?_)
    (fun e xs hxs => ?_) fun xs hxs => ?_
  · refine (hk a (hxs.2 a rfl)).mono fun outcome ys hys => ?_
    obtain ⟨sent, rfl, hsent⟩ := hxs.1
    obtain ⟨sent', rfl, hsent'⟩ := hys
    exact ⟨sent ++ sent', List.map_append.symm, hsent'.preceded hsent⟩
  · obtain ⟨sent, rfl, hsent⟩ := hxs.1
    exact ⟨sent, rfl, .plain hsent trivial⟩
  · obtain ⟨sent, rfl, hsent⟩ := hxs.1
    exact ⟨sent, rfl, .plain hsent trivial⟩

theorem leaves_tell (effect : σ → σ) :
    Proc.Leaves (uvRecord σ T) (Ctap.tell effect : Ctap σ T Unit)
      fun outcome events => outcome = .ok () ∧ events = [] :=
  fun _ => ⟨[], ⟨(List.append_nil _).symm, (List.append_nil _).symm⟩, rfl, rfl⟩

/-- A command that is tried is one exchange, whatever comes of it. -/
theorem leaves_attempt_ctap2ClientPin (request : Ctap2ClientPinRequest) :
    Proc.Leaves (uvRecord σ T)
      (Proc.attempt (p.ctap2ClientPin request) : Ctap σ T (Except (WebAuthnError T) _))
      fun outcome events => ∃ answer, outcome = .ok answer
        ∧ events = [.sent (.clientPin request answer)] := by
  intro w
  refine ⟨[.sent (.clientPin request (p.clientPin request w.env).1)], ?_,
    (p.clientPin request w.env).1, ?_, rfl⟩
  · unfold ctap2ClientPin
    rw [Ctap.attempt_command]
    exact ⟨rfl, (List.append_nil _).symm⟩
  · unfold ctap2ClientPin
    rw [Ctap.attempt_command]

theorem leaves_getUvRetries :
    Proc.Leaves (uvRecord σ T) (softly (p.ctap2ClientPin .newGetUvRetries) (·.uvRetries))
      fun outcome events => ∃ answer : Except (WebAuthnError T) Ctap2ClientPinResponse,
        outcome = .ok (answer.toOption.bind (·.uvRetries))
          ∧ events = [.sent (.clientPin .newGetUvRetries answer)] := by
  refine Proc.Leaves.bind (p.leaves_attempt_ctap2ClientPin _) ?_
    (fun _ _ h => (by obtain ⟨_, h, -⟩ := h; cases h))
    (fun _ h => (by obtain ⟨_, h, -⟩ := h; cases h))
  rintro answer xs ⟨answer', hanswer, rfl⟩
  obtain rfl := Outcome.ok.inj hanswer
  cases answer with
  | ok response => exact Proc.Leaves.pure ⟨.ok response, rfl, rfl⟩
  | error e => exact Proc.Leaves.pure ⟨.error e, rfl, rfl⟩

omit [Ctap2UserVerifiableRequest R] in
/-- A token request and what its answer leads to. -/
theorem ask_leaves (state : UvState R) (uvProto : PinUvAuthProtocol) (sharedSecret : Bytes)
    (publicKey : PublicKey) (uvOperation : Ctap2UserVerificationOperation)
    {command : Option Ctap2PinUvAuthProtocolCommand} {request : Ctap2ClientPinRequest}
    (hcommand : command = some request.command) :
    Proc.Leaves (uvRecord σ T)
      (do
        let answer ← Proc.attempt (p.ctap2ClientPin request)
        p.tokenAnswer state uvProto sharedSecret publicKey uvOperation answer)
      (LeavesToken state command) := by
  have hnil : ∀ x ∈ ([] : List (Exchange T)), x.Preparatory := fun _ h => (by cases h)
  have hnone : ∀ x ∈ ([] : List (Exchange T)), x.Query := fun _ h => (by cases h)
  refine Proc.Leaves.bind (p.leaves_attempt_ctap2ClientPin _) ?_
    (fun _ _ h => (by obtain ⟨_, h, -⟩ := h; cases h))
    (fun _ h => (by obtain ⟨_, h, -⟩ := h; cases h))
  rintro answer xs ⟨answer', hanswer, rfl⟩
  obtain rfl := Outcome.ok.inj hanswer
  have hasked : ∀ {outcome}, LastTurn outcome → Proc.afterwards (LeavesToken state command)
      [.sent (.clientPin request answer)] outcome [] :=
    fun hlast => ⟨[_], rfl, .asked hnil hcommand hnone hlast⟩
  unfold tokenAnswer
  split
  · exact Proc.Leaves.pure (hasked trivial)
  · exact Proc.Leaves.pure ⟨_, rfl, .blocked hnil hcommand⟩
  · refine Proc.Leaves.bind p.leaves_getUvRetries ?_
      (fun _ _ h => (by obtain ⟨_, h, -⟩ := h; cases h))
      (fun _ h => (by obtain ⟨_, h, -⟩ := h; cases h))
    rintro attemptsLeft ys ⟨retries, hretries, rfl⟩
    obtain rfl := Outcome.ok.inj hretries
    have hended : ∀ {outcome}, LastTurn outcome → LeavesToken state command outcome
        [.sent (.clientPin request (.error (.ctap .uvInvalid))),
          .sent (.clientPin .newGetUvRetries retries)] :=
      fun hlast => ⟨[_, _], rfl, .asked hnil hcommand
        (fun x hx => List.mem_singleton.mp hx ▸ Ctap2ClientPinRequest.IsQuery.uvRetries) hlast⟩
    refine Proc.Leaves.bind (leaves_tell _) ?_ (fun _ _ h => (by cases h.1))
      (fun _ h => (by cases h.1))
    rintro _ zs ⟨-, rfl⟩
    split
    next hzero =>
      -- the counter is read from an answer that succeeded
      cases retries with
      | ok response => exact Proc.Leaves.pure ⟨[_, _], rfl, .exhausted hnil hcommand hzero⟩
      | error e => cases hzero
    next => exact Proc.Leaves.throw (hended trivial)
  · exact Proc.Leaves.throw (hasked trivial)

/-- **One negotiation** sends what prepares the token request, that request at
most once, and only queries behind it. -/
theorem negotiate_leaves (plan : UvPlan) (state : UvState R) (uvProto : PinUvAuthProtocol)
    (uvOperation : Ctap2UserVerificationOperation) :
    Proc.Leaves (uvRecord σ T) (p.negotiate plan state uvProto uvOperation)
      (LeavesToken state uvOperation.tokenCommand) := by
  refine leavesToken_bind (prepares_of_dialogue (p.queries_pinFor _ _ _ _ _).dialogue
    fun _ => Exchange.Query.preparatory) fun pin _ => ?_
  refine leavesToken_bind (prepares_of_dialogue (p.queries_obtainSharedSecret _).dialogue
    fun _ => Exchange.Query.preparatory) fun keys _ => ?_
  refine leavesToken_bind (recorded_of_dialogue (p.concludes_tokenRequest _ _ _ _ _ _).dialogue)
    fun tokenRequest hrequest => ?_
  obtain ⟨w, w', hrequest⟩ := hrequest
  have hcommand := p.command_tokenRequest hrequest
  cases tokenRequest with
  | none => exact Proc.Leaves.pure ⟨[], rfl, .plain (fun _ h => (by cases h)) trivial⟩
  | some request => exact p.ask_leaves _ _ _ _ _ hcommand.symm

end Platform

/-! ## §5. A turn. -/

/-- A turn of a PIN operation on a device that demands a PIN change: such a
turn drives one. -/
def UvTurn.forcesPinChange (turn : UvTurn) : Bool :=
  turn.info.forcePinChange == some true && turn.operation.any (·.usesPin)

omit [Ctap2UserVerifiableRequest R] in
/-- Without a token request, the state does not matter. -/
theorem TokenSent.of_none {state state' : UvState R}
    {outcome : Outcome (WebAuthnError T) (UvState R ⊕ (UvState R × UvExit))}
    {sent : List (Exchange T)} (h : TokenSent state none outcome sent) :
    TokenSent state' none outcome sent := by
  cases h with
  | plain hsent hlast => exact .plain hsent hlast
  | asked _ hcommand => cases hcommand
  | blocked _ hcommand => cases hcommand
  | exhausted _ hcommand => cases hcommand

/-- What a turn sends: a PIN change and getInfo again, when `changes` says so of
the new getInfo; or a token request that is `allowed`, if any. -/
inductive UvTurnSent (state : UvState R) (changes : Ctap2GetInfoResponse → Prop)
    (allowed : Ctap2PinUvAuthProtocolCommand → Prop) :
    Outcome (WebAuthnError T) (UvState R ⊕ (UvState R × UvExit)) → List (Exchange T) → Prop where
  | changed {before info} (hchanges : changes info)
      (hbefore : ∀ x ∈ before, Exchange.Preparatory x) :
      UvTurnSent state changes allowed (.ok (.inl { state with info := info }))
        (before ++ [.getInfo (.ok info)])
  | negotiated {command outcome sent} (hallowed : ∀ c, command = some c → allowed c)
      (hsent : TokenSent state command outcome sent) :
      UvTurnSent state changes allowed outcome sent

namespace UvTurnSent

variable {state state' : UvState R} {changes changes' : Ctap2GetInfoResponse → Prop}
  {allowed allowed' : Ctap2PinUvAuthProtocolCommand → Prop}
  {outcome : Outcome (WebAuthnError T) (UvState R ⊕ (UvState R × UvExit))}
  {sent : List (Exchange T)}

omit [Ctap2UserVerifiableRequest R] in
/-- A turn stays one under weaker conditions. -/
theorem mono (h : UvTurnSent state changes allowed outcome sent)
    (hchanges : ∀ info, changes info → changes' info) (hallowed : ∀ c, allowed c → allowed' c) :
    UvTurnSent state changes' allowed' outcome sent := by
  cases h with
  | changed h hbefore => exact .changed (hchanges _ h) hbefore
  | negotiated h hsent => exact .negotiated (fun c hc => hallowed c (h c hc)) hsent

omit [Ctap2UserVerifiableRequest R] in
/-- Without either, the state does not matter. -/
theorem of_idle (h : UvTurnSent state changes allowed outcome sent)
    (hchanges : ∀ info, ¬ changes info) (hallowed : ∀ c, ¬ allowed c) :
    UvTurnSent state' changes' allowed' outcome sent := by
  cases h with
  | changed h _ => exact absurd h (hchanges _)
  | @negotiated command _ _ h hsent =>
      cases command with
      | some c => exact absurd (h c rfl) (hallowed c)
      | none => exact .negotiated (fun _ hc => (by cases hc)) (hsent.of_none)

omit [Ctap2UserVerifiableRequest R] in
/-- Nothing that matters, at the last turn. -/
theorem plain (hsent : ∀ x ∈ sent, Exchange.Preparatory x) (hlast : LastTurn outcome) :
    UvTurnSent state changes allowed outcome sent :=
  have hnone : ∀ c, (none : Option Ctap2PinUvAuthProtocolCommand) = some c → allowed c :=
    fun _ hc => (by cases hc)
  .negotiated hnone (.plain hsent hlast)

end UvTurnSent

/-- Each of the token commands mints a token. -/
theorem Ctap2UserVerificationOperation.mints_tokenCommand
    {uvOperation : Ctap2UserVerificationOperation} {command : Ctap2PinUvAuthProtocolCommand}
    (h : uvOperation.tokenCommand = some command) : command.mintsToken = true := by
  cases uvOperation with
  | legacyUv => cases h
  | onlyForSharedSecret => cases h
  | getPinToken => exact Option.some.inj h ▸ rfl
  | getPinUvAuthTokenUsingPinWithPermissions => exact Option.some.inj h ▸ rfl
  | getPinUvAuthTokenUsingUvWithPermissions => exact Option.some.inj h ▸ rfl

namespace Platform

variable (p : Platform σ T)

theorem leaves_liftPlatform {α : Type} (r : Except PlatformError α) :
    Proc.Leaves (uvRecord σ T) (Ctap.liftPlatform r : Ctap σ T α)
      fun outcome events => events = [] ∧ outcome ≠ .running ∧
        ∀ a, outcome = .ok a → r = .ok a := by
  cases r with
  | ok a =>
      exact Proc.Leaves.pure ⟨rfl, fun h => (by cases h), fun b hb => (by cases hb; rfl)⟩
  | error e => exact Proc.Leaves.throw ⟨rfl, fun h => (by cases h), fun b hb => (by cases hb)⟩

/-- A getInfo that the device answers in some state. -/
def Reports (info : Ctap2GetInfoResponse) : Prop := ∃ s, (p.getInfo s).1 = .ok info

/-- A getInfo is one exchange, and reports what the device answered. -/
theorem leaves_ctap2GetInfo :
    Proc.Leaves (uvRecord σ T) p.ctap2GetInfo fun outcome events =>
      (∃ info, (outcome = .ok info ∧ p.Reports info) ∧ events = [.sent (.getInfo (.ok info))])
        ∨ ∃ e, outcome = .error e ∧ events = [.sent (.getInfo (.error e))] := by
  intro w
  refine ⟨[.sent (.getInfo (p.getInfo w.env).1)], ?_, ?_⟩
  · unfold ctap2GetInfo Ctap.command
    rcases p.getInfo w.env with ⟨answer, env⟩
    cases answer <;> exact ⟨rfl, (List.append_nil _).symm⟩
  · unfold ctap2GetInfo Ctap.command
    rcases hanswer : p.getInfo w.env with ⟨answer, env⟩
    cases answer with
    | ok info => exact Or.inl ⟨info, ⟨rfl, w.env, by rw [hanswer]⟩, rfl⟩
    | error e => exact Or.inr ⟨e, rfl, rfl⟩

/-- What a turn leaves once it settled on an operation. -/
theorem carryOut_leaves (fuel : Nat) (plan : UvPlan) (state : UvState R)
    {uvOperation : Ctap2UserVerificationOperation}
    (hfits : OperationFits state.info (state.uvBlocked || plan.skipUv) uvOperation) :
    Proc.Leaves (uvRecord σ T) (p.carryOut fuel plan state uvOperation)
      fun outcome events => ∃ sent : List (Exchange T), events = sent.map .sent
        ∧ UvTurnSent state
          (fun info => (state.info.forcePinChange = some true ∧ uvOperation.usesPin = true)
            ∧ p.Reports info)
          (fun c => uvOperation.tokenCommand = some c ∧ TokenAllowed (permissions state.request)
            state.info (state.uvBlocked || plan.skipUv) c) outcome sent := by
  have hnil : ∀ x ∈ ([] : List (Exchange T)), x.Preparatory := fun _ h => (by cases h)
  refine Proc.Leaves.bind (leaves_liftPlatform _) ?_ ?_ (fun _ h => absurd rfl h.2.1)
  · rintro uvOperation' xs ⟨rfl, -, henforce⟩
    obtain ⟨hsame, hnoMcGa⟩ := enforceNoMcGa_of_fits hfits (henforce _ rfl)
    obtain rfl := hsame.symm
    split
    -- the device forces a change of its PIN before it takes the PIN: no token command yet
    next hforced =>
      refine Proc.Leaves.bind (p.prepares_tryToSetPin _ _ _) ?_ ?_ ?_
      · rintro _ xs ⟨before, rfl, hbefore⟩
        refine Proc.Leaves.bind p.leaves_ctap2GetInfo ?_ ?_ ?_
        · rintro info ys (⟨info', ⟨hinfo, hreports⟩, rfl⟩ | ⟨e, he, -⟩)
          · obtain rfl := Outcome.ok.inj hinfo
            refine Proc.Leaves.pure ⟨before ++ [.getInfo (.ok info)], ?_,
              .changed ⟨hforced, hreports⟩ hbefore⟩
            rw [List.map_append]
            rfl
          · cases he
        · rintro e ys (⟨info, ⟨hinfo, -⟩, -⟩ | ⟨e', -, rfl⟩)
          · cases hinfo
          · refine ⟨before ++ [.getInfo (.error e')], (by rw [List.map_append]; rfl),
              .plain ?_ trivial⟩
            intro x hx
            rcases List.mem_append.mp hx with hx | hx
            · exact hbefore x hx
            · rw [List.mem_singleton.mp hx]
              exact fun info h => (by cases h)
        · rintro ys (⟨info, ⟨hinfo, -⟩, -⟩ | ⟨e, he, -⟩)
          · cases hinfo
          · cases he
      · rintro e xs ⟨before, rfl, hbefore⟩
        exact ⟨before, rfl, .plain hbefore trivial⟩
      · rintro xs ⟨before, rfl, hbefore⟩
        exact ⟨before, rfl, .plain hbefore trivial⟩
    next hforced =>
      -- nothing is forced: what the operation asks for is what may be asked for
      have hallowed : ∀ c, uvOperation.tokenCommand = some c →
          uvOperation.tokenCommand = some c ∧ TokenAllowed (permissions state.request)
            state.info (state.uvBlocked || plan.skipUv) c :=
        fun c hc => ⟨hc, .of_fits hfits (fun hpin hforce => hforced ⟨hforce, hpin⟩) hnoMcGa hc⟩
      refine Proc.Leaves.bind (prepares_of_dialogue (S := Exchange.Preparatory)
        (p.concludes_selectUvProto _).dialogue fun _ => id) ?_ ?_ ?_
      · rintro uvProto xs ⟨before, rfl, hbefore⟩
        cases uvProto with
        | none => exact Proc.Leaves.throw ⟨before, List.append_nil _, .plain hbefore trivial⟩
        | some uvProto =>
            refine (p.negotiate_leaves plan state uvProto uvOperation).mono ?_
            rintro outcome ys ⟨sent, rfl, hsent⟩
            exact ⟨before ++ sent, List.map_append.symm,
              .negotiated hallowed (hsent.preceded hbefore)⟩
      · rintro e xs ⟨before, rfl, hbefore⟩
        exact ⟨before, rfl, .plain hbefore trivial⟩
      · rintro xs ⟨before, rfl, hbefore⟩
        exact ⟨before, rfl, .plain hbefore trivial⟩
  · rintro e xs ⟨rfl, -, -⟩
    exact ⟨[], rfl, .plain hnil trivial⟩

/-- One turn logs itself, and sends what a turn sends. -/
def LeavesTurn (plan : UvPlan) (state : UvState R)
    (outcome : Outcome (WebAuthnError T) (UvState R ⊕ (UvState R × UvExit)))
    (events : List (UvEvent T)) : Prop :=
  ∃ sent : List (Exchange T),
    events = .turn ⟨state.info, state.uvBlocked || plan.skipUv⟩ :: sent.map .sent
      ∧ UvTurnSent state
        (fun info => UvTurn.forcesPinChange ⟨state.info, state.uvBlocked || plan.skipUv⟩ = true
          ∧ p.Reports info)
        (fun c => c.mintsToken = true ∧ TokenAllowed (permissions state.request) state.info
          (state.uvBlocked || plan.skipUv) c) outcome sent

/-- **What one turn leaves in the record**, however it ends. -/
theorem uvTurn_leaves (fuel : Nat) (plan : UvPlan) (state : UvState R) :
    Proc.Leaves (uvRecord σ T) (p.uvTurn fuel plan state) (p.LeavesTurn plan state) := by
  have hlog : Proc.Leaves (uvRecord σ T)
      (Ctap.modifySession fun s =>
        { s with turns := s.turns ++ [⟨state.info, state.uvBlocked || plan.skipUv⟩] } :
        Ctap σ T Unit) fun outcome events => outcome = .ok ()
          ∧ events = [.turn ⟨state.info, state.uvBlocked || plan.skipUv⟩] :=
    fun w => ⟨_, ⟨(List.append_nil _).symm, rfl⟩, rfl, rfl⟩
  refine Proc.Leaves.bind hlog ?_ (fun _ _ h => (by cases h.1)) (fun _ h => (by cases h.1))
  rintro _ xs ⟨-, rfl⟩
  rcases hop : state.info.uvOperation (state.uvBlocked || plan.skipUv) with _ | uvOperation
  · exact Proc.Leaves.throw ⟨[], rfl, .plain (fun _ h => (by cases h)) trivial⟩
  have hfits := uvOperation_fits hop
  by_cases hlegacy : uvOperation = .legacyUv
  · subst hlegacy
    dsimp only
    split
    · exact Proc.Leaves.pure ⟨[], rfl, .plain (fun _ h => (by cases h)) trivial⟩
    · -- the request is another one now, but no token is asked for it
      refine (p.carryOut_leaves fuel plan _ (.of_not_mints rfl)).mono ?_
      rintro outcome ys ⟨sent, rfl, hsent⟩
      exact ⟨sent, rfl, hsent.of_idle (fun _ h => (by cases h.1.2)) (fun c h => (by cases h.1))⟩
  · have hcarry := p.carryOut_leaves fuel plan state
      (hfits.downgrade plan state.request)
    have hforces : state.info.forcePinChange = some true
        ∧ (plan.downgrade state.request state.info uvOperation).usesPin = true →
          UvTurn.forcesPinChange ⟨state.info, state.uvBlocked || plan.skipUv⟩ = true := by
      rintro ⟨hforced, hpin⟩
      have hsame : plan.downgrade state.request state.info uvOperation = uvOperation := by
        unfold UvPlan.downgrade at hpin ⊢
        split at hpin
        · cases hpin
        · rename_i hstays
          exact if_neg hstays
      rw [hsame] at hpin
      unfold UvTurn.forcesPinChange UvTurn.operation
      rw [hop, hforced, Option.any_some, hpin]
      rfl
    have hresult : Proc.Leaves (uvRecord σ T)
        (p.carryOut fuel plan state (plan.downgrade state.request state.info uvOperation))
        (Proc.afterwards (p.LeavesTurn plan state)
          [.turn ⟨state.info, state.uvBlocked || plan.skipUv⟩]) := by
      refine hcarry.mono ?_
      rintro outcome events ⟨sent, rfl, hsent⟩
      exact ⟨sent, rfl, hsent.mono (fun _ h => ⟨hforces h.1, h.2⟩) fun c hc =>
        ⟨Ctap2UserVerificationOperation.mints_tokenCommand hc.1, hc.2⟩⟩
    cases uvOperation with
    | legacyUv => exact absurd rfl hlegacy
    | getPinUvAuthTokenUsingUvWithPermissions => exact hresult
    | getPinUvAuthTokenUsingPinWithPermissions => exact hresult
    | getPinToken => exact hresult
    | onlyForSharedSecret => exact hresult

end Platform

/-! ## §6. Around the loop. -/

/-- What is sent to let the user set a PIN, before the loop: the getInfo that
is gone on with is the one given, or the one read in its place. -/
inductive EnsureSent (reports : Ctap2GetInfoResponse → Prop) (info : Ctap2GetInfoResponse) :
    Outcome (WebAuthnError T) Ctap2GetInfoResponse → List (Exchange T) → Prop where
  | kept {outcome sent} (hsent : ∀ x ∈ sent, Exchange.Preparatory x)
      (hinfo : ∀ info', outcome = .ok info' → info' = info) :
      EnsureSent reports info outcome sent
  | reread {outcome before newInfo} (hbefore : ∀ x ∈ before, Exchange.Preparatory x)
      (hprotected : info.isUvProtected = false) (hreports : reports newInfo)
      (hinfo : ∀ info', outcome = .ok info' → info' = newInfo) :
      EnsureSent reports info outcome (before ++ [.getInfo (.ok newInfo)])

namespace Platform

variable (p : Platform σ T)

/-- The protection before the first turn may set a PIN, and sends no token
request. -/
theorem ensureUvProtected_leaves (fuel : Nat) (requirement : UserVerificationRequirement)
    (info : Ctap2GetInfoResponse) :
    Proc.Leaves (uvRecord σ T) (p.ensureUvProtected fuel requirement info)
      fun outcome events => ∃ sent : List (Exchange T), events = sent.map .sent
        ∧ EnsureSent p.Reports info outcome sent := by
  unfold ensureUvProtected
  split
  -- no protection yet: a PIN is set, and getInfo read again
  next hunprotected =>
    rw [Bool.and_eq_true, Bool.not_eq_true'] at hunprotected
    refine Proc.Leaves.bind (p.prepares_tryToSetPin _ _ _) ?_ ?_ ?_
    · rintro _ xs ⟨before, rfl, hbefore⟩
      refine Proc.Leaves.bind p.leaves_ctap2GetInfo ?_ ?_ ?_
      · rintro info' ys (⟨newInfo, ⟨hnewInfo, hreports⟩, rfl⟩ | ⟨e, he, -⟩)
        · obtain rfl := Outcome.ok.inj hnewInfo
          have hevents : before.map UvEvent.sent ++ ([.sent (.getInfo (.ok info'))] ++ [])
              = (before ++ [Exchange.getInfo (.ok info')]).map .sent := by
            rw [List.map_append]
            rfl
          split
          · refine Proc.Leaves.throw ⟨_, hevents, .reread hbefore hunprotected.2 hreports ?_⟩
            exact fun _ h => (by cases h)
          · refine Proc.Leaves.pure ⟨_, hevents, .reread hbefore hunprotected.2 hreports ?_⟩
            exact fun _ h => (Outcome.ok.inj h).symm
        · cases he
      · rintro e ys (⟨newInfo, ⟨hnewInfo, -⟩, -⟩ | ⟨e', -, rfl⟩)
        · cases hnewInfo
        · refine ⟨before ++ [.getInfo (.error e')], (by rw [List.map_append]; rfl),
            .kept ?_ fun _ h => (by cases h)⟩
          intro x hx
          rcases List.mem_append.mp hx with hx | hx
          · exact hbefore x hx
          · rw [List.mem_singleton.mp hx]
            exact fun info h => (by cases h)
      · rintro ys (⟨newInfo, ⟨hnewInfo, -⟩, -⟩ | ⟨e, he, -⟩)
        · cases hnewInfo
        · cases he
    · rintro e xs ⟨before, rfl, hbefore⟩
      exact ⟨before, rfl, .kept hbefore fun _ h => (by cases h)⟩
    · rintro xs ⟨before, rfl, hbefore⟩
      exact ⟨before, rfl, .kept hbefore fun _ h => (by cases h)⟩
  next =>
    exact Proc.Leaves.pure ⟨[], rfl, .kept (fun _ h => (by cases h))
      fun _ h => (Outcome.ok.inj h).symm⟩

/-- A run that ends, with nothing sent and no turn logged. -/
abbrev Silent {α : Type} (m : Ctap σ T α) : Prop :=
  Proc.Leaves (uvRecord σ T) m fun outcome events => outcome ≠ .running ∧ events = []

theorem silent_of_concludes {α : Type} {m : Ctap σ T α} (h : Ctap.Concludes (fun _ => False) m) :
    Silent m := by
  refine (recorded_of_concludes h).mono ?_
  rintro outcome events ⟨hends, sent, rfl, hsent⟩
  exact ⟨hends, by rw [List.eq_nil_iff_forall_not_mem.mpr hsent, List.map_nil]⟩

theorem silent_bind {α β : Type} {m : Ctap σ T α} {k : α → Ctap σ T β} (hm : Silent m)
    (hk : ∀ a, Silent (k a)) : Silent (m >>= k) := by
  refine Proc.Leaves.bind hm (fun a xs hxs => ?_) ?_ (fun _ h => absurd rfl h.1)
  · obtain ⟨-, rfl⟩ := hxs
    exact hk a
  · exact fun e xs hxs => ⟨fun h => (by cases h), hxs.2⟩

theorem silent_storeAuthData (authData : AuthTokenData) :
    Silent (Ctap.storeAuthData authData : Ctap σ T Unit) :=
  fun _ => ⟨[], ⟨(List.append_nil _).symm, (List.append_nil _).symm⟩, fun h => (by cases h), rfl⟩

/-- The result is packaged without an exchange. -/
theorem silent_packageResult (state : UvState R) (exit : UvExit) :
    Silent (p.packageResult state exit) := by
  cases exit with
  | legacyUv => exact silent_of_concludes (.pure _)
  | negotiated uvProto sharedSecret publicKey uvOperation tokenResponse =>
      unfold packageResult
      dsimp only
      split
      · refine silent_bind (silent_of_concludes (p.concludes_decryptToken _ _ _)) fun token => ?_
        refine silent_bind ?_ fun _ => silent_bind (silent_of_concludes (.liftPlatform _))
          fun _ => silent_of_concludes (.pure _)
        unfold storeToken
        split
        · split
          · exact silent_of_concludes (.bind (.attempt (p.concludes_storeMintedToken _ _ _))
              fun _ => .pure _)
          · exact silent_of_concludes (.pure _)
        · exact silent_storeAuthData _
      · exact silent_bind (silent_storeAuthData _) fun _ => silent_of_concludes (.pure _)

end Platform

end Libwebauthn
