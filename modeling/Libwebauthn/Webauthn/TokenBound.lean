/-
  Libwebauthn.Webauthn.TokenBound — how long a user verification takes
  (`user_verification_helper` and `try_to_set_pin` of
  `src/webauthn/pin_uv_auth_token.rs`).

  Three things make the loop take another turn: built-in UV that got blocked, a
  PIN request answered in the same way, and a forced PIN change.  The first can
  happen once.
-/
import Libwebauthn.Webauthn.PinAgreement
import Libwebauthn.Webauthn.TokenRequests

namespace Libwebauthn

open Ctap2UserVerifiableRequest

variable {σ T R : Type} [Ctap2UserVerifiableRequest R]

/-! ## §1. A user whose PINs are accepted. -/

/-- The errors after which the user is asked for another PIN. -/
def AsksAgain (e : WebAuthnError T) : Prop :=
  e = .platform .pinTooShort ∨ e = .platform .pinTooLong ∨ e = .ctap .pinPolicyViolation

namespace Platform

variable (p : Platform σ T)

/-- Whatever PIN the user chooses, changing to it does not end in one of these
errors, by the given getInfo or one that the device reports. -/
def AcceptsPins (info : Ctap2GetInfoResponse) : Prop :=
  ∀ reason (w : World σ T) pin info', (p.pinNotSet reason w.env).1 = some pin →
    info' = info ∨ p.Reports info' →
      ∀ e, (p.changePinInternal info' pin { w with env := (p.pinNotSet reason w.env).2 }).1
        = .error e → ¬ AsksAgain e

theorem ends_tryToSetPinTurn (info : Ctap2GetInfoResponse) (reason : PinNotSetReason) :
    Proc.Ends (p.tryToSetPinTurn info reason) := by
  have hconcludes : Ctap.Concludes Exchange.Auxiliary (p.tryToSetPinTurn info reason) := by
    refine Ctap.Concludes.bind (.ask _) fun pin => ?_
    cases pin with
    | none => exact .throw _
    | some pin =>
        refine Ctap.Concludes.bind (.attempt (p.concludes_changePinInternal info pin))
          fun result => ?_
        split
        all_goals first | exact Ctap.Concludes.pure _ | exact Ctap.Concludes.throw _
  exact hconcludes.ends

variable {p}

/-- Such a user is not asked again. -/
theorem tryToSetPinTurn_ne_inl {info info' : Ctap2GetInfoResponse} (haccepts : p.AcceptsPins info)
    (hinfo : info' = info ∨ p.Reports info') {reason reason' : PinNotSetReason}
    {w w' : World σ T} (h : p.tryToSetPinTurn info' reason w = (.ok (.inl reason'), w')) :
    False := by
  obtain ⟨pin?, w₁, hask, h⟩ := Proc.bind_eq_ok_iff.mp h
  obtain ⟨hpin, rfl⟩ := Prod.mk.inj hask
  cases pin? with
  | none => cases h
  | some pin =>
      have hnot := haccepts reason w pin info' (Outcome.ok.inj hpin) hinfo
      obtain ⟨result, w₂, hattempt, h⟩ := Proc.bind_eq_ok_iff.mp h
      unfold Proc.attempt at hattempt
      rcases hrun : p.changePinInternal info' pin { w with env := (p.pinNotSet reason w.env).2 }
        with ⟨outcome, w₃⟩
      rw [hrun] at hattempt hnot
      cases outcome with
      | ok _ =>
          obtain rfl := Outcome.ok.inj (Prod.mk.inj hattempt).1
          cases h
      | running => cases hattempt
      | error e =>
          obtain rfl := Outcome.ok.inj (Prod.mk.inj hattempt).1
          refine hnot e rfl ?_
          -- any other error ends the turn
          unfold AsksAgain
          cases e with
          | ctap code => cases code <;> first | exact Or.inr (Or.inr rfl) | cases h
          | platform err =>
              cases err <;>
                first | exact Or.inl rfl | exact Or.inr (Or.inl rfl) | cases h
          | transport err => cases h

/-- Where a PIN can be set, one attempt at it is enough. -/
theorem ends_tryToSetPin {info info' : Ctap2GetInfoResponse} (haccepts : p.AcceptsPins info)
    (hinfo : info' = info ∨ p.Reports info') {fuel : Nat} (hfuel : 0 < fuel)
    (reason : PinNotSetReason) : Proc.Ends (p.tryToSetPin fuel info' reason) := by
  unfold tryToSetPin
  split
  · exact Proc.Ends.pure _
  · exact Proc.Ends.loop (fun _ => 0) (fun reason => p.ends_tryToSetPinTurn info' reason)
      (fun _ _ _ _ h => (tryToSetPinTurn_ne_inl haccepts hinfo h).elim) fuel reason hfuel

/-- No part of a turn but a PIN change can go on for ever. -/
theorem ends_negotiate (plan : UvPlan) (state : UvState R) (uvProto : PinUvAuthProtocol)
    (uvOperation : Ctap2UserVerificationOperation) :
    Proc.Ends (p.negotiate plan state uvProto uvOperation) := by
  refine Proc.Ends.bind (p.queries_pinFor _ _ _ _ _).ends fun pin => ?_
  refine Proc.Ends.bind (p.queries_obtainSharedSecret _).ends fun keys => ?_
  have hrequest := p.concludes_tokenRequest (S := Exchange.Query) state.request uvOperation
    uvProto.version keys.2 keys.1 pin
  refine Proc.Ends.bind hrequest.ends fun tokenRequest => ?_
  cases tokenRequest with
  | none => exact Proc.Ends.pure _
  | some tokenRequest =>
      exact Proc.Ends.bind (.attempt (Ctap.ends_command _ _)) fun answer =>
        (p.queries_tokenAnswer _ _ _ _ _ answer).ends

/-- So each turn comes to an end. -/
theorem ends_uvTurn {info : Ctap2GetInfoResponse} (haccepts : p.AcceptsPins info) {fuel : Nat}
    (hfuel : 0 < fuel) (plan : UvPlan) {state : UvState R}
    (hinfo : state.info = info ∨ p.Reports state.info) :
    Proc.Ends (p.uvTurn fuel plan state) := by
  have hcarry : ∀ (state : UvState R) uvOperation, (state.info = info ∨ p.Reports state.info) →
      Proc.Ends (p.carryOut fuel plan state uvOperation) := by
    intro state uvOperation hinfo
    refine Proc.Ends.bind (Ctap.ends_liftPlatform _) fun uvOperation => ?_
    split
    · refine Proc.Ends.bind (ends_tryToSetPin haccepts hinfo hfuel _) fun _ => ?_
      exact Proc.Ends.bind (Ctap.ends_command _ _) fun _ => Proc.Ends.pure _
    · have hselect := p.concludes_selectUvProto (S := Exchange.Query) state.info
      refine Proc.Ends.bind hselect.ends fun uvProto => ?_
      cases uvProto with
      | none => exact Proc.Ends.throw _
      | some uvProto => exact ends_negotiate _ _ _ _
  refine Proc.Ends.bind (fun _ h => (by cases h)) fun _ => ?_
  split
  · exact Proc.Ends.throw _
  · dsimp only
    split
    · exact Proc.Ends.pure _
    · exact hcarry _ _ hinfo
  · exact hcarry _ _ hinfo

/-- And the protection before the first turn does. -/
theorem ends_ensureUvProtected {info : Ctap2GetInfoResponse} (haccepts : p.AcceptsPins info)
    {fuel : Nat} (hfuel : 0 < fuel) (requirement : UserVerificationRequirement) :
    Proc.Ends (p.ensureUvProtected fuel requirement info) := by
  unfold ensureUvProtected
  split
  · refine Proc.Ends.bind (ends_tryToSetPin haccepts (Or.inl rfl) hfuel _) fun _ => ?_
    refine Proc.Ends.bind (Ctap.ends_command _ _) fun info => ?_
    split
    · exact Proc.Ends.throw _
    · exact Proc.Ends.pure _
  · exact Proc.Ends.pure _

end Platform

/-! ## §2. What a turn spends. -/

/-- Asks for a token. -/
def Exchange.asksToken : Exchange T → Bool
  | .clientPin req _ => req.command.mintsToken
  | _ => false

/-- Lets pass the answers after which the loop gets on: a changed PIN need not
be changed again, and a PIN is not answered like built-in UV. -/
def settlesMonitor : Monitor UvView (Exchange T) where
  next := UvView.next
  allows view
    | .getInfo (.ok info) => view.info.isUvProtected = true →
        view.info.forcePinChange = some true → info.forcePinChange ≠ some true
    | .clientPin req answer =>
        (req.command.usesPin = true → answer ≠ .error (.ctap .uvBlocked))
          ∧ (req.command = .getUvRetries → UvView.noRetriesLeft answer = true →
            ∀ command, view.invalid = some command → command.usesPin = false)
    | _ => True

/-- The token requests still to come: one less once built-in UV is blocked. -/
def UvState.tokensLeft (state : UvState R) : Nat := if state.uvBlocked then 1 else 2

/-- The forced PIN changes still to come. -/
def UvState.changesLeft (state : UvState R) : Nat :=
  if state.info.forcePinChange = some true then 1 else 0

omit [Ctap2UserVerifiableRequest R] in
theorem UvState.tokensLeft_pos (state : UvState R) : 0 < state.tokensLeft := by
  unfold tokensLeft
  split <;> omega

/-- What prepares a token request asks for no token. -/
theorem countP_preparatory {sent : List (Exchange T)} (h : ∀ x ∈ sent, x.Preparatory) :
    sent.countP Exchange.asksToken = 0 := by
  refine List.countP_eq_zero.mpr fun x hx => ?_
  have hprepares := h x hx
  cases x with
  | clientPin req answer =>
      show ¬ req.command.mintsToken = true
      rw [show req.command.mintsToken = false from hprepares]
      decide
  | _ => exact Bool.false_ne_true

/-- A token request counts once, and what prepares it does not. -/
theorem countP_asked {before rest : List (Exchange T)} {request : Ctap2ClientPinRequest}
    {answer : Except (WebAuthnError T) Ctap2ClientPinResponse}
    (hbefore : ∀ x ∈ before, x.Preparatory) (hmints : request.command.mintsToken = true)
    (hrest : ∀ x ∈ rest, x.Query) :
    (before ++ .clientPin request answer :: rest).countP Exchange.asksToken = 1 := by
  have hasks : Exchange.asksToken (.clientPin request answer) = true := hmints
  rw [List.countP_append, countP_preparatory hbefore, List.countP_cons_of_pos hasks,
    countP_preparatory fun x hx => (hrest x hx).preparatory]

/-- A token request without a PIN is for built-in UV, and no turn for a PIN. -/
theorem TokenAllowed.builtInUv {permissions : Ctap2AuthTokenPermissionRole}
    {info : Ctap2GetInfoResponse} {uvUnavailable : Bool}
    {command : Ctap2PinUvAuthProtocolCommand}
    (h : TokenAllowed permissions info uvUnavailable command)
    (hmints : command.mintsToken = true) (hpin : command.usesPin = false) :
    uvUnavailable = false ∧ UvTurn.forcesPinChange ⟨info, uvUnavailable⟩ = false := by
  have hcommand : command = .getPinUvAuthTokenUsingUvWithPermissions := by
    cases command <;> first | rfl | exact absurd hmints (by decide) | exact absurd hpin (by decide)
  obtain ⟨huv, -, havailable⟩ := h.usingUv hcommand
  refine ⟨havailable, Bool.eq_false_iff.mpr fun hforces => ?_⟩
  unfold UvTurn.forcesPinChange at hforces
  rw [Bool.and_eq_true, Option.any_eq_true] at hforces
  obtain ⟨-, uvOperation, hop, hpin⟩ := hforces
  have hnoUv := (uvOperation_fits hop).noUv hpin
  rw [huv, havailable] at hnoUv
  cases hnoUv

/-- What a turn spends of what the state has left. -/
structure TurnSpends (turn : UvTurn) (state : UvState R)
    (outcome : Outcome (WebAuthnError T) (UvState R ⊕ (UvState R × UvExit)))
    (sent : List (Exchange T)) : Prop where
  tokens : sent.countP Exchange.asksToken ≤ state.tokensLeft
  changes : turn.forcesPinChange.toNat ≤ state.changesLeft
  next : ∀ state', outcome = .ok (.inl state') →
    sent.countP Exchange.asksToken + state'.tokensLeft ≤ state.tokensLeft
      ∧ turn.forcesPinChange.toNat + state'.changesLeft ≤ state.changesLeft
      ∧ state'.changesLeft + state'.tokensLeft < state.changesLeft + state.tokensLeft

omit [Ctap2UserVerifiableRequest R] in
theorem forcesPinChange_le_changesLeft (state : UvState R) (uvUnavailable : Bool) :
    (UvTurn.forcesPinChange ⟨state.info, uvUnavailable⟩).toNat ≤ state.changesLeft := by
  unfold UvState.changesLeft UvTurn.forcesPinChange
  split
  · exact Bool.toNat_le _
  next hforced =>
    rw [beq_eq_false_iff_ne.mpr hforced, Bool.false_and]
    exact Nat.le_refl 0

omit [Ctap2UserVerifiableRequest R] in
/-- A turn that asked for built-in UV, and found it blocked. -/
theorem TurnSpends.of_blocked {state : UvState R} {uvUnavailable : Bool}
    {sent : List (Exchange T)} (hcount : sent.countP Exchange.asksToken = 1)
    (hforces : UvTurn.forcesPinChange ⟨state.info, uvUnavailable⟩ = false)
    (hblocked : state.uvBlocked = false) :
    TurnSpends ⟨state.info, uvUnavailable⟩ state
      (.ok (.inl { state with uvBlocked := true }) :
        Outcome (WebAuthnError T) (UvState R ⊕ (UvState R × UvExit))) sent := by
  have hleft : state.tokensLeft = 2 := by
    unfold UvState.tokensLeft
    rw [hblocked]
    rfl
  refine ⟨by omega, forcesPinChange_le_changesLeft _ _, fun state' heq => ?_⟩
  obtain rfl := Sum.inl.inj (Outcome.ok.inj heq)
  have hleft' : UvState.tokensLeft { state with uvBlocked := true } = 1 := rfl
  have hchanges : UvState.changesLeft { state with uvBlocked := true } = state.changesLeft := rfl
  rw [hcount, hleft, hleft', hchanges, hforces]
  refine ⟨Nat.le_refl _, ?_, by omega⟩
  show 0 + _ ≤ _
  omega

/-- **Each turn that goes on spends**: a token request or a PIN change, of
which there are so many left. -/
theorem UvTurnSent.spends {state : UvState R} {uvUnavailable skipUv : Bool}
    (hunavailable : uvUnavailable = (state.uvBlocked || skipUv))
    {changes : Ctap2GetInfoResponse → Prop}
    {outcome : Outcome (WebAuthnError T) (UvState R ⊕ (UvState R × UvExit))}
    {sent : List (Exchange T)}
    (h : UvTurnSent state
      (fun info => UvTurn.forcesPinChange ⟨state.info, uvUnavailable⟩ = true ∧ changes info)
      (fun c => c.mintsToken = true
        ∧ TokenAllowed (permissions state.request) state.info uvUnavailable c) outcome sent)
    (hsettles : settlesMonitor.Accepts state.view sent) :
    TurnSpends ⟨state.info, uvUnavailable⟩ state outcome sent := by
  have hpos := state.tokensLeft_pos
  have hview : ∀ {before : List (Exchange T)}, (∀ x ∈ before, x.Preparatory) →
      settlesMonitor.after state.view before = state.view :=
    fun hbefore => UvView.after_preparatory rfl hbefore
  cases h with
  -- the PIN was changed first: no token was asked for, and the change is used up
  | @changed before info hchanges hbefore =>
      have hforces := hchanges.1
      have hforced : state.info.forcePinChange = some true := by
        unfold UvTurn.forcesPinChange at hforces
        exact eq_of_beq (Bool.and_eq_true _ _ ▸ hforces).1
      have hcount : (before ++ [Exchange.getInfo (.ok info)]).countP Exchange.asksToken = 0 := by
        rw [List.countP_append, countP_preparatory hbefore]
        rfl
      have hleft : state.changesLeft = 1 := if_pos hforced
      obtain ⟨-, hgetInfo, -⟩ := Monitor.accepts_append.mp hsettles
      rw [hview hbefore] at hgetInfo
      have hleft' : UvState.changesLeft { state with info := info } = 0 :=
        if_neg (hgetInfo (isUvProtected_of_forces hforces) hforced)
      refine ⟨by omega, forcesPinChange_le_changesLeft _ _, fun state' heq => ?_⟩
      obtain rfl := Sum.inl.inj (Outcome.ok.inj heq)
      have hsame : UvState.tokensLeft { state with info := info } = state.tokensLeft := rfl
      rw [hcount, hsame, hleft, hleft', hforces]
      refine ⟨by omega, Nat.le_refl _, by omega⟩
  -- a negotiation: at most one token command, and a turn that goes on only when UV is
  -- blocked
  | negotiated hallowed hsent =>
      cases hsent with
      | plain hsent hlast =>
          refine ⟨?_, forcesPinChange_le_changesLeft _ _, fun state' heq => ?_⟩
          · rw [countP_preparatory hsent]
            omega
          · rw [heq] at hlast
            exact hlast.elim
      | asked hbefore hcommand hrest hlast =>
          refine ⟨?_, forcesPinChange_le_changesLeft _ _, fun state' heq => ?_⟩
          · rw [countP_asked hbefore (hallowed _ hcommand).1 hrest]
            exact hpos
          · rw [heq] at hlast
            exact hlast.elim
      | @blocked before request hbefore hcommand =>
          obtain ⟨hmints, hallowed⟩ := hallowed _ hcommand
          obtain ⟨-, hanswer, -⟩ := Monitor.accepts_append.mp hsettles
          rw [hview hbefore] at hanswer
          -- the device settles a PIN command, so what was blocked is the built-in UV
          have hpin : request.command.usesPin = false := by
            cases huses : request.command.usesPin with
            | false => rfl
            | true => exact absurd rfl (hanswer.1 huses)
          obtain ⟨havailable, hforces⟩ := hallowed.builtInUv hmints hpin
          rw [hunavailable, Bool.or_eq_false_iff] at havailable
          exact .of_blocked (countP_asked hbefore hmints fun _ hx => (by cases hx)) hforces
            havailable.1
      | @exhausted before request response hbefore hcommand hzero =>
          obtain ⟨hmints, hallowed⟩ := hallowed _ hcommand
          obtain ⟨-, -, hretries, -⟩ := Monitor.accepts_append.mp hsettles
          rw [hview hbefore] at hretries
          have hinvalid : (settlesMonitor.next state.view (.clientPin request
              (.error (.ctap .uvInvalid) : Except (WebAuthnError T) _))).invalid
                = some request.command := by
            show (state.view.nextClientPin request.command
              (.error (.ctap .uvInvalid) : Except (WebAuthnError T) _)).invalid = _
            unfold UvView.nextClientPin
            rw [if_pos hmints]
            rfl
          -- no retries are left for the command that was refused last
          have hpin := hretries.2 rfl (beq_iff_eq.mpr hzero) _ hinvalid
          obtain ⟨havailable, hforces⟩ := hallowed.builtInUv hmints hpin
          rw [hunavailable, Bool.or_eq_false_iff] at havailable
          refine .of_blocked (countP_asked hbefore hmints fun x hx => ?_) hforces havailable.1
          rw [List.mem_singleton.mp hx]
          exact Ctap2ClientPinRequest.IsQuery.uvRetries

/-! ## §3. A whole run. -/

/-- Few token requests and forced changes, and an end. -/
def BoundedSoFar (view : UvView) {α : Type} (outcome : Outcome (WebAuthnError T) α)
    (events : List (UvEvent T)) : Prop :=
  settlesMonitor.Accepts view (UvEvent.exchanges events) →
    outcome ≠ .running ∧ (UvEvent.exchanges events).countP Exchange.asksToken ≤ 2
      ∧ (UvEvent.turns events).countP UvTurn.forcesPinChange ≤ 1

/-- What holds whenever a turn starts, with fuel for `n` turns. -/
structure TurnAffords (p : Platform σ T) (info : Ctap2GetInfoResponse) (view : UvView) (n : Nat)
    (state : UvState R) (events : List (UvEvent T)) : Prop where
  reported : state.info = info ∨ p.Reports state.info
  sameView : view.after (UvEvent.exchanges events) = state.view
  tokens : settlesMonitor.Accepts view (UvEvent.exchanges events) →
    (UvEvent.exchanges events).countP Exchange.asksToken + state.tokensLeft ≤ 2
  changes : settlesMonitor.Accepts view (UvEvent.exchanges events) →
    (UvEvent.turns events).countP UvTurn.forcesPinChange + state.changesLeft ≤ 1
  fuel : settlesMonitor.Accepts view (UvEvent.exchanges events) →
    state.changesLeft + state.tokensLeft ≤ n

omit [Ctap2UserVerifiableRequest R] in
theorem UvTurnSent.reported {state state' : UvState R} {reports : Ctap2GetInfoResponse → Prop}
    {info : Ctap2GetInfoResponse} {forces : Prop}
    {allowed : Ctap2PinUvAuthProtocolCommand → Prop} {sent : List (Exchange T)}
    (h : UvTurnSent state (fun info => forces ∧ reports info) allowed (.ok (.inl state')) sent)
    (hstate : state.info = info ∨ reports state.info) :
    state'.info = info ∨ reports state'.info := by
  cases h with
  | changed hchanges hbefore => exact Or.inr hchanges.2
  | negotiated hallowed hsent =>
      cases hsent with
      | plain _ hlast => exact hlast.elim
      | asked _ _ _ hlast => exact hlast.elim
      | blocked => exact hstate
      | exhausted => exact hstate

namespace Platform

variable (p : Platform σ T)

/-- One turn keeps it so. -/
theorem turn_affords {info : Ctap2GetInfoResponse} (haccepts : p.AcceptsPins info)
    {turnFuel : Nat} (hturnFuel : 0 < turnFuel) (plan : UvPlan) {view : UvView} (n : Nat)
    {state : UvState R} {xs : List (UvEvent T)}
    (haffords : TurnAffords p info view (n + 1) state xs) :
    Proc.Leaves (uvRecord σ T) (p.uvTurn turnFuel plan state)
      (Proc.TurnLeaves (TurnAffords p info view n) (BoundedSoFar view) xs) := by
  have hends := ends_uvTurn haccepts hturnFuel plan haffords.reported
  refine ((p.uvTurn_leaves turnFuel plan state).ending hends).mono ?_
  rintro outcome ys ⟨⟨sent, rfl, hsent⟩, hrunning⟩
  have hexchanges : UvEvent.exchanges
      (xs ++ .turn ⟨state.info, state.uvBlocked || plan.skipUv⟩ :: sent.map .sent)
        = UvEvent.exchanges xs ++ sent := by
    rw [UvEvent.exchanges_append]
    exact congrArg _ (UvEvent.exchanges_sent sent)
  have hturns : UvEvent.turns
      (xs ++ .turn ⟨state.info, state.uvBlocked || plan.skipUv⟩ :: sent.map .sent)
        = UvEvent.turns xs ++ [⟨state.info, state.uvBlocked || plan.skipUv⟩] := by
    rw [UvEvent.turns_append]
    exact congrArg (fun ys => _ ++ _ :: ys) (UvEvent.turns_sent sent)
  have hforced : ∀ turn : UvTurn,
      [turn].countP UvTurn.forcesPinChange = turn.forcesPinChange.toNat := by
    intro turn
    cases hforces : turn.forcesPinChange
    · exact List.countP_cons_of_neg (by rw [hforces]; exact Bool.false_ne_true)
    · exact List.countP_cons_of_pos hforces
  -- what the turn spends comes on top of what was spent before it
  have hspends : settlesMonitor.Accepts view (UvEvent.exchanges xs ++ sent) →
      settlesMonitor.Accepts view (UvEvent.exchanges xs)
        ∧ TurnSpends ⟨state.info, state.uvBlocked || plan.skipUv⟩ state outcome sent := by
    intro hsettles
    obtain ⟨hbefore, hturn⟩ := Monitor.accepts_append.mp hsettles
    have hview : settlesMonitor.after view (UvEvent.exchanges xs) = state.view :=
      haffords.sameView
    rw [hview] at hturn
    exact ⟨hbefore, hsent.spends rfl hturn⟩
  have hbounded : ∀ {α : Type} (last : Outcome (WebAuthnError T) α), last ≠ .running →
      BoundedSoFar view last
        (xs ++ .turn ⟨state.info, state.uvBlocked || plan.skipUv⟩ :: sent.map .sent) := by
    intro α last hlast
    unfold BoundedSoFar
    rw [hexchanges, hturns, List.countP_append, List.countP_append, hforced]
    intro hsettles
    obtain ⟨hbefore, hspends⟩ := hspends hsettles
    have htokens := haffords.tokens hbefore
    have hchanges := haffords.changes hbefore
    have htokens' := hspends.tokens
    have hchanges' := hspends.changes
    exact ⟨hlast, by omega, by omega⟩
  cases outcome with
  | error e => exact hbounded _ fun h => (by cases h)
  | running => exact absurd rfl hrunning
  | ok next =>
      cases next with
      | inr result => exact hbounded _ fun h => (by cases h)
      | inl state' =>
          obtain ⟨hview, -⟩ := hsent.view fun c hc => hc.1
          refine ⟨hsent.reported haffords.reported, ?_, ?_, ?_, ?_⟩
          · rw [hexchanges, UvView.after_append, haffords.sameView, hview]
          · rw [hexchanges, List.countP_append]
            intro hsettles
            obtain ⟨hbefore, hspends⟩ := hspends hsettles
            have htokens := haffords.tokens hbefore
            have hnext := (hspends.next _ rfl).1
            omega
          · rw [hexchanges, hturns, List.countP_append, hforced]
            intro hsettles
            obtain ⟨hbefore, hspends⟩ := hspends hsettles
            have hchanges := haffords.changes hbefore
            have hnext := (hspends.next _ rfl).2.1
            omega
          · rw [hexchanges]
            intro hsettles
            obtain ⟨hbefore, hspends⟩ := hspends hsettles
            have hfuel := haffords.fuel hbefore
            have hnext := (hspends.next _ rfl).2.2
            omega

/-- From where the loop starts to its end. -/
theorem loop_affords {info : Ctap2GetInfoResponse} (haccepts : p.AcceptsPins info)
    {turnFuel : Nat} (hturnFuel : 0 < turnFuel) (plan : UvPlan) {view : UvView} (fuel : Nat)
    (state : UvState R) (xs : List (UvEvent T)) (haffords : TurnAffords p info view fuel state xs) :
    Proc.Leaves (uvRecord σ T) (Proc.loop (p.uvTurn turnFuel plan) fuel state)
      (Proc.afterwards (BoundedSoFar view) xs) := by
  refine Proc.Leaves.loop (TurnAffords p info view)
    (fun n _ _ haffords => p.turn_affords haccepts hturnFuel plan n haffords)
    (fun state xs haffords hsettles => ?_) fuel state xs haffords
  -- a state always has a token request left
  have hfuel := haffords.fuel hsettles
  have hpos := state.tokensLeft_pos
  omega

end Platform

/-- Before the loop, no token is asked for. -/
theorem EnsureSent.countP_asksToken {reports : Ctap2GetInfoResponse → Prop}
    {info : Ctap2GetInfoResponse} {outcome : Outcome (WebAuthnError T) Ctap2GetInfoResponse}
    {sent : List (Exchange T)} (h : EnsureSent reports info outcome sent) :
    sent.countP Exchange.asksToken = 0 := by
  cases h with
  | kept hsent _ => exact countP_preparatory hsent
  | reread hbefore _ _ _ =>
      rw [List.countP_append, countP_preparatory hbefore]
      rfl

theorem EnsureSent.reported {reports : Ctap2GetInfoResponse → Prop}
    {info info' : Ctap2GetInfoResponse} {sent : List (Exchange T)}
    (h : EnsureSent reports info (.ok info') sent) : info' = info ∨ reports info' := by
  cases h with
  | kept _ hinfo => exact Or.inl (hinfo info' rfl)
  | reread _ _ hreports hinfo => exact Or.inr (hinfo info' rfl ▸ hreports)

namespace Platform

variable (p : Platform σ T)

/-- The whole verification, by induction on what is left to spend. -/
theorem userVerificationHelper_bounded {fuel : Nat} (hfuel : 3 ≤ fuel)
    {info : Ctap2GetInfoResponse} (haccepts : p.AcceptsPins info)
    (requirement : UserVerificationRequirement) (request : R) :
    Proc.Leaves (uvRecord σ T) (p.userVerificationHelper fuel info requirement request)
      (BoundedSoFar ⟨info, false, none⟩) := by
  have hpos : 0 < fuel := by omega
  have hensure := (p.ensureUvProtected_leaves fuel requirement info).ending
    (ends_ensureUvProtected haccepts hpos requirement)
  -- before the loop no token is asked for
  have hbounded : ∀ {α : Type} {outcome : Outcome (WebAuthnError T) Ctap2GetInfoResponse}
      {sent : List (Exchange T)} (last : Outcome (WebAuthnError T) α), last ≠ .running →
        EnsureSent p.Reports info outcome sent →
          BoundedSoFar ⟨info, false, none⟩ last (sent.map .sent) := by
    intro α outcome sent last hlast hsent _
    rw [UvEvent.exchanges_sent, UvEvent.turns_sent, hsent.countP_asksToken]
    exact ⟨hlast, Nat.zero_le _, Nat.zero_le _⟩
  refine Proc.Leaves.bind hensure ?_ ?_ (fun _ h => absurd rfl h.2)
  · rintro info' xs ⟨⟨sent, rfl, hsent⟩, -⟩
    split
    · refine Proc.Leaves.pure ?_
      show BoundedSoFar _ _ (_ ++ [])
      rw [List.append_nil]
      exact hbounded _ (fun h => (by cases h)) hsent
    -- the loop starts with two tokens left, and at most one forced change
    · have haffords : TurnAffords p info ⟨info, false, none⟩ fuel ⟨info', request, false⟩
          (sent.map .sent) := by
        have hchanges : UvState.changesLeft (⟨info', request, false⟩ : UvState R) ≤ 1 := by
          unfold UvState.changesLeft
          split <;> omega
        have htokens : UvState.tokensLeft (⟨info', request, false⟩ : UvState R) = 2 := rfl
        refine ⟨hsent.reported, ?_, fun _ => ?_, fun _ => ?_, fun _ => ?_⟩
        · rw [UvEvent.exchanges_sent]
          exact hsent.view
        · rw [UvEvent.exchanges_sent, hsent.countP_asksToken, htokens]
        · rw [UvEvent.turns_sent, List.countP_nil]
          omega
        · omega
      refine Proc.Leaves.bind (p.loop_affords haccepts hpos _ fuel _ _ haffords) ?_ ?_ ?_
      · intro result ys hys
        refine (p.silent_packageResult result.1 result.2).mono fun outcome zs hzs => ?_
        obtain ⟨hrunning, rfl⟩ := hzs
        show BoundedSoFar _ outcome (_ ++ (ys ++ []))
        rw [List.append_nil]
        exact fun hsettles => ⟨hrunning, (hys hsettles).2⟩
      · exact fun e ys hys hsettles => ⟨fun h => (by cases h), (hys hsettles).2⟩
      · exact fun ys hys hsettles => absurd rfl (hys hsettles).1
  · rintro e xs ⟨⟨sent, rfl, hsent⟩, -⟩
    exact hbounded _ (fun h => (by cases h)) hsent

end Platform

/-- A user verification ends, after two token requests and one forced PIN change
at most: where a getInfo read after such a change no longer demands one, a PIN
is not answered UvBlocked, and no retries of built-in UV are missing after a
PIN was answered UvInvalid. -/
theorem tokenAcquisition_bounded (p : Platform σ T) {fuel : Nat} (hfuel : 3 ≤ fuel)
    (info : Ctap2GetInfoResponse) (haccepts : p.AcceptsPins info)
    (requirement : UserVerificationRequirement) (request : R) (w : World σ T)
    {sent : List (Exchange T)} {turns : List UvTurn}
    (hsent : (p.userVerificationHelper fuel info requirement request w).2.wire = w.wire ++ sent)
    (hturns : (p.userVerificationHelper fuel info requirement request w).2.session.turns
      = w.session.turns ++ turns)
    (hclears : ∀ before newInfo rest, sent = before ++ .getInfo (.ok newInfo) :: rest →
      ((⟨info, false, none⟩ : UvView).after before).info.isUvProtected = true →
        ((⟨info, false, none⟩ : UvView).after before).info.forcePinChange = some true →
          newInfo.forcePinChange ≠ some true)
    (hpin : ∀ req answer, Exchange.clientPin req answer ∈ sent → req.command.usesPin = true →
      answer ≠ .error (.ctap .uvBlocked))
    (hretries : ∀ before req answer rest, sent = before ++ .clientPin req answer :: rest →
      req.command = .getUvRetries → UvView.noRetriesLeft answer = true →
        ∀ command, ((⟨info, false, none⟩ : UvView).after before).invalid = some command →
          command.usesPin = false) :
    (p.userVerificationHelper fuel info requirement request w).1 ≠ .running
      ∧ sent.countP Exchange.asksToken ≤ 2 ∧ turns.countP UvTurn.forcesPinChange ≤ 1 := by
  obtain ⟨events, ⟨hwire, hsession⟩, hbounded⟩ :=
    p.userVerificationHelper_bounded hfuel haccepts requirement request w
  obtain rfl := List.append_cancel_left (hsent.symm.trans hwire)
  obtain rfl := List.append_cancel_left (hturns.symm.trans hsession)
  -- the assumptions on the device are what its monitor checks, exchange by exchange
  refine hbounded (Monitor.accepts_iff.mpr fun before x rest heq => ?_)
  cases x with
  | getInfo answer =>
      cases answer with
      | ok newInfo => exact hclears before newInfo rest heq
      | error e => trivial
  | clientPin req answer =>
      refine ⟨hpin req answer ?_, hretries before req answer rest heq⟩
      rw [heq]
      exact List.mem_append_right _ (List.mem_cons_self ..)
  | _ => trivial

/-! ## §4. Devices that repeat themselves. -/

/-- What a device with a PIN says of itself. -/
def repeatedInfo (forcePinChange : Option Bool) : Ctap2GetInfoResponse :=
  { pinInfo with forcePinChange := forcePinChange }

/-- A device that says the same of itself all the time, and answers every token
request in the same way. -/
def repeatingPlatform (forcePinChange : Option Bool)
    (minted : Except (WebAuthnError Empty) Ctap2ClientPinResponse) : Platform Unit Empty :=
  { pinPlatform "1234" with
    getInfo := fun s => (.ok (repeatedInfo forcePinChange), s)
    clientPin := fun request s =>
      if request.command.mintsToken then (minted, s)
      else (pinPlatform "1234").clientPin request s }

theorem acceptsPins_repeating {forcePinChange : Option Bool}
    {minted : Except (WebAuthnError Empty) Ctap2ClientPinResponse}
    (hchanges : ∀ w, ((repeatingPlatform forcePinChange minted).changePinInternal
      (repeatedInfo forcePinChange) "1234" w).1 = .ok ()) :
    (repeatingPlatform forcePinChange minted).AcceptsPins (repeatedInfo forcePinChange) := by
  intro reason w pin info' hpin hinfo e herror
  have hsame : info' = repeatedInfo forcePinChange :=
    hinfo.elim id fun ⟨_, h⟩ => (Except.ok.inj h).symm
  obtain rfl := Option.some.inj hpin
  rw [hsame, hchanges] at herror
  cases herror

/-- Mints a token. -/
def mintingPlatform : Platform Unit Empty :=
  repeatingPlatform none (.ok { pinUvAuthToken := some (List.replicate 32 1) })

/-- Answers a PIN like built-in UV that got blocked. -/
def blockingPlatform : Platform Unit Empty := repeatingPlatform none (.error (.ctap .uvBlocked))

/-- Demands a PIN change after every one. -/
def forcingPlatform : Platform Unit Empty :=
  repeatingPlatform (some true) (.ok { pinUvAuthToken := some (List.replicate 32 1) })

/-- What is sent to `p`, for credential metadata. -/
def repeatedWire (p : Platform Unit Empty) (forcePinChange : Option Bool) :
    List (Exchange Empty) :=
  (p.userVerificationHelper 4 (repeatedInfo forcePinChange) .required metadataRequest
    (.start () none)).2.wire

/-- The turns that takes. -/
def repeatedTurns (p : Platform Unit Empty) (forcePinChange : Option Bool) : List UvTurn :=
  (p.userVerificationHelper 4 (repeatedInfo forcePinChange) .required metadataRequest
    (.start () none)).2.session.turns

/-- Reads nothing again, and is no answer that repeats anything. -/
def Exchange.settled : Exchange Empty → Bool
  | .clientPin req (.ok _) => req.command != .getUvRetries
  | _ => false

theorem settled_of_mem {x : Exchange Empty} (h : x ∈ repeatedWire mintingPlatform none) :
    x.settled = true :=
  List.all_eq_true.mp (by decide +kernel) x h

set_option maxRecDepth 8000 in
theorem tokenAcquisition_bounded_minting :
    (mintingPlatform.userVerificationHelper 4 (repeatedInfo none) .required metadataRequest
        (.start () none)).1 ≠ .running
      ∧ (repeatedWire mintingPlatform none).countP Exchange.asksToken ≤ 2
      ∧ (repeatedTurns mintingPlatform none).countP UvTurn.forcesPinChange ≤ 1 := by
  refine tokenAcquisition_bounded mintingPlatform (by decide) (repeatedInfo none)
    (acceptsPins_repeating fun _ => rfl) .required metadataRequest (.start () none)
    (List.nil_append _).symm (List.nil_append _).symm ?_ ?_ ?_
  · intro before newInfo rest heq
    have hmem : Exchange.getInfo (.ok newInfo) ∈ repeatedWire mintingPlatform none :=
      heq ▸ List.mem_append_right _ (List.mem_cons_self ..)
    cases settled_of_mem hmem
  · rintro req answer hmem - rfl
    cases settled_of_mem hmem
  · intro before req answer rest heq hretries hnone
    have hmem : Exchange.clientPin req answer ∈ repeatedWire mintingPlatform none :=
      heq ▸ List.mem_append_right _ (List.mem_cons_self ..)
    have hsettled := settled_of_mem hmem
    cases answer with
    | error e => cases hsettled
    | ok response =>
        have hother : (req.command != .getUvRetries) = true := hsettled
        rw [hretries] at hother
        cases hother

set_option maxRecDepth 8000 in
/-- A device that always answers so is asked again and again, and the user for
a new PIN. -/
theorem tokenAcquisition_repeats :
    (blockingPlatform.AcceptsPins (repeatedInfo none)
        ∧ 3 ≤ (repeatedWire blockingPlatform none).countP Exchange.asksToken)
      ∧ forcingPlatform.AcceptsPins (repeatedInfo (some true))
        ∧ 2 ≤ (repeatedTurns forcingPlatform (some true)).countP UvTurn.forcesPinChange :=
  ⟨⟨acceptsPins_repeating fun _ => rfl, by decide +kernel⟩,
    acceptsPins_repeating fun _ => rfl, by decide +kernel⟩

end Libwebauthn
