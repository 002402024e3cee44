/-
  Libwebauthn.Webauthn.TokenRequests — the token requests of a user
  verification against the getInfo read last
  (`user_verification_helper` of `src/webauthn/pin_uv_auth_token.rs`).

  `UvView` is what the answers on the wire say: the getInfo read last, and
  whether built-in UV was found blocked.  The state of the loop agrees with
  it at every turn (`UvTurnSent.view`).
-/
import Libwebauthn.Webauthn.Required
import Libwebauthn.Webauthn.UvTurns

namespace Libwebauthn

open Ctap2UserVerifiableRequest

variable {σ T R : Type} [Ctap2UserVerifiableRequest R]

/-! ## §1. What the answers say. -/

/-- The getInfo read last, whether built-in UV was found blocked, and the
token request that was answered UvInvalid, until the retries are known. -/
structure UvView where
  info : Ctap2GetInfoResponse
  uvBlocked : Bool := false
  invalid : Option Ctap2PinUvAuthProtocolCommand := none

namespace UvView

def noRetriesLeft : Except (WebAuthnError T) Ctap2ClientPinResponse → Bool
  | .ok response => response.uvRetries == some 0
  | .error _ => false

def nextToken (view : UvView) (command : Ctap2PinUvAuthProtocolCommand) :
    Except (WebAuthnError T) Ctap2ClientPinResponse → UvView
  | .error (.ctap .uvBlocked) => { view with uvBlocked := true }
  | .error (.ctap .uvInvalid) => { view with invalid := some command }
  | _ => view

def nextClientPin (view : UvView) (command : Ctap2PinUvAuthProtocolCommand)
    (answer : Except (WebAuthnError T) Ctap2ClientPinResponse) : UvView :=
  if command.mintsToken then view.nextToken command answer
  else if command = .getUvRetries then
    { view with
      uvBlocked := view.uvBlocked || (view.invalid.isSome && noRetriesLeft answer)
      invalid := none }
  else view

def next (view : UvView) : Exchange T → UvView
  | .getInfo (.ok info) => { view with info := info }
  | .clientPin request answer => view.nextClientPin request.command answer
  | _ => view

/-- What is known after `sent`. -/
def after (view : UvView) (sent : List (Exchange T)) : UvView := sent.foldl next view

theorem after_append (view : UvView) (xs ys : List (Exchange T)) :
    view.after (xs ++ ys) = (view.after xs).after ys :=
  List.foldl_append

/-- A preparation says nothing. -/
theorem next_preparatory {view : UvView} (hview : view.invalid = none) {x : Exchange T}
    (h : x.Preparatory) : view.next x = view := by
  cases x with
  | getInfo answer =>
      cases answer with
      | ok info => exact absurd rfl (h info)
      | error e => rfl
  | clientPin request answer =>
      show view.nextClientPin request.command answer = view
      unfold nextClientPin
      rw [if_neg (by rw [show request.command.mintsToken = false from h]; decide)]
      split
      · rw [hview, Option.isSome_none, Bool.false_and, Bool.or_false, ← hview]
      · rfl
  | _ => rfl

theorem after_preparatory {view : UvView} (hview : view.invalid = none) {sent : List (Exchange T)}
    (h : ∀ x ∈ sent, x.Preparatory) : view.after sent = view := by
  induction sent with
  | nil => rfl
  | cons x sent ih =>
      show (view.next x).after sent = view
      rw [next_preparatory hview (h x (List.mem_cons_self ..))]
      exact ih fun y hy => h y (List.mem_cons_of_mem _ hy)

end UvView

/-- What the state of the loop knows. -/
def UvState.view (state : UvState R) : UvView := ⟨state.info, state.uvBlocked, none⟩

omit [Ctap2UserVerifiableRequest R] in
/-- What a token request leads to. -/
theorem TokenSent.view {state state' : UvState R}
    {command : Option Ctap2PinUvAuthProtocolCommand} {sent : List (Exchange T)}
    (hmints : ∀ c, command = some c → c.mintsToken = true)
    (h : TokenSent state command (.ok (.inl state')) sent) :
    state.view.after sent = state'.view ∧ state'.request = state.request := by
  cases h with
  | plain hsent hlast => exact hlast.elim
  | asked _ _ _ hlast => exact hlast.elim
  | @blocked before request hbefore hcommand =>
      refine ⟨?_, rfl⟩
      rw [UvView.after_append, UvView.after_preparatory rfl hbefore]
      show state.view.nextClientPin request.command (.error (.ctap .uvBlocked)) = _
      unfold UvView.nextClientPin
      rw [if_pos (hmints _ hcommand)]
      rfl
  | @exhausted before request response hbefore hcommand hzero =>
      refine ⟨?_, rfl⟩
      rw [UvView.after_append, UvView.after_preparatory rfl hbefore]
      show (state.view.nextClientPin request.command (.error (.ctap .uvInvalid))).nextClientPin
        .getUvRetries (.ok response : Except (WebAuthnError T) _) = _
      unfold UvView.nextClientPin
      rw [if_pos (hmints _ hcommand), if_neg (by decide), if_pos rfl]
      show (⟨state.info, state.uvBlocked || (response.uvRetries == some 0), none⟩ : UvView) = _
      rw [hzero, beq_self_eq_true, Bool.or_true]
      rfl

omit [Ctap2UserVerifiableRequest R] in
/-- The next turn starts from what the answers say. -/
theorem UvTurnSent.view {state state' : UvState R} {changes : Ctap2GetInfoResponse → Prop}
    {allowed : Ctap2PinUvAuthProtocolCommand → Prop} {sent : List (Exchange T)}
    (hmints : ∀ c, allowed c → c.mintsToken = true)
    (h : UvTurnSent state changes allowed (.ok (.inl state')) sent) :
    state.view.after sent = state'.view ∧ state'.request = state.request := by
  cases h with
  | changed hchanges hbefore =>
      refine ⟨?_, rfl⟩
      rw [UvView.after_append, UvView.after_preparatory rfl hbefore]
      rfl
  | negotiated hallowed hsent => exact hsent.view fun c hc => hmints c (hallowed c hc)

omit [Ctap2UserVerifiableRequest R] in
/-- The loop starts from what the answers say. -/
theorem EnsureSent.view {reports : Ctap2GetInfoResponse → Prop}
    {info info' : Ctap2GetInfoResponse} {sent : List (Exchange T)}
    (h : EnsureSent reports info (.ok info') sent) :
    (⟨info, false, none⟩ : UvView).after sent = ⟨info', false, none⟩ := by
  cases h with
  | kept hsent hinfo =>
      rw [UvView.after_preparatory rfl hsent, hinfo info' rfl]
  | reread hbefore _ _ hinfo =>
      rw [UvView.after_append, UvView.after_preparatory rfl hbefore, hinfo info' rfl]
      rfl

/-! ## §2. Obeying. -/

/-- Lets pass the token requests that the view allows. -/
def tokenMonitor (request : R) : Monitor UvView (Exchange T) where
  next := UvView.next
  allows view
    | .clientPin req _ => req.command.mintsToken = true →
        TokenAllowed (permissions request) view.info
          (view.uvBlocked || !canUseUv request view.info) req.command
    | _ => True

/-- Lets pass a getInfo that leaves its use of built-in UV to the request, or
is read in place of one without any user verification. -/
def keepsUvMonitor (request : R) : Monitor UvView (Exchange T) where
  next := UvView.next
  allows view
    | .getInfo (.ok info) => view.info.isUvProtected = true →
        canUseUv request view.info = true → canUseUv request info = true
    | _ => True

theorem accepts_preparatory (request : R) {sent : List (Exchange T)}
    (h : ∀ x ∈ sent, x.Preparatory) : ∀ view, (tokenMonitor request).Accepts view sent := by
  induction sent with
  | nil => exact fun _ => trivial
  | cons x sent ih =>
      intro view
      refine ⟨?_, ih (fun y hy => h y (List.mem_cons_of_mem _ hy)) _⟩
      have hx := h x (List.mem_cons_self ..)
      cases x with
      | clientPin req answer =>
          intro hmints
          rw [show req.command.mintsToken = false from hx] at hmints
          cases hmints
      | _ => trivial

/-- A PIN is asked for on a protected device. -/
theorem isUvProtected_of_forces {turn : UvTurn} (h : turn.forcesPinChange = true) :
    turn.info.isUvProtected = true := by
  unfold UvTurn.forcesPinChange at h
  rw [Bool.and_eq_true, Option.any_eq_true] at h
  obtain ⟨-, uvOperation, hop, hpin⟩ := h
  have hfits := uvOperation_fits hop
  have hclientPin : turn.info.optionEnabled "clientPin" = true := by
    cases uvOperation with
    | getPinToken => exact (hfits.pinToken rfl).1
    | getPinUvAuthTokenUsingPinWithPermissions => exact (hfits.usingPin rfl).1
    | _ => cases hpin
  unfold Ctap2GetInfoResponse.isUvProtected
  rw [hclientPin, Bool.or_true, Bool.true_or]

section

variable {state : UvState R} {request : R} {skipUv : Bool} (hrequest : state.request = request)
  (hskip : skipUv = false → canUseUv request state.info = true)
include hrequest hskip

theorem TokenAllowed.of_state {command : Ctap2PinUvAuthProtocolCommand}
    (h : TokenAllowed (permissions state.request) state.info (state.uvBlocked || skipUv) command) :
    TokenAllowed (permissions request) state.info
      (state.uvBlocked || !canUseUv request state.info) command := by
  subst hrequest
  refine ⟨fun hop => ?_, h.usingPin, h.pinToken, h.noForcedChange, h.noMcGa⟩
  obtain ⟨huv, htoken, havailable⟩ := h.usingUv hop
  rw [Bool.or_eq_false_iff] at havailable
  refine ⟨huv, htoken, ?_⟩
  rw [havailable.1, hskip havailable.2]
  rfl

/-- A turn obeys. -/
theorem UvTurnSent.accepted {changes : Ctap2GetInfoResponse → Prop}
    {outcome : Outcome (WebAuthnError T) (UvState R ⊕ (UvState R × UvExit))}
    {sent : List (Exchange T)}
    (h : UvTurnSent state changes (fun c => c.mintsToken = true
      ∧ TokenAllowed (permissions state.request) state.info (state.uvBlocked || skipUv) c)
      outcome sent) : (tokenMonitor request).Accepts state.view sent := by
  -- what is prepared and queried before and after a token command is let pass
  have hasked : ∀ {before : List (Exchange T)} {req : Ctap2ClientPinRequest}
      {answer : Except (WebAuthnError T) Ctap2ClientPinResponse} {rest : List (Exchange T)},
      (∀ x ∈ before, x.Preparatory) → (∀ x ∈ rest, x.Query) →
        TokenAllowed (permissions state.request) state.info (state.uvBlocked || skipUv)
          req.command →
          (tokenMonitor request).Accepts state.view (before ++ .clientPin req answer :: rest) := by
    intro before req answer rest hbefore hrest hallowed
    refine Monitor.accepts_append.mpr ⟨accepts_preparatory request hbefore _, ?_,
      accepts_preparatory request (fun x hx => (hrest x hx).preparatory) _⟩
    have hview : (tokenMonitor request).after state.view before = state.view :=
      UvView.after_preparatory rfl hbefore
    rw [hview]
    exact fun _ => hallowed.of_state hrequest hskip
  have hnone : ∀ x ∈ ([] : List (Exchange T)), x.Query := fun _ hx => (by cases hx)
  cases h with
  | changed hchanges hbefore =>
      exact Monitor.accepts_append.mpr ⟨accepts_preparatory request hbefore _, trivial, trivial⟩
  | negotiated hallowed hsent =>
      cases hsent with
      | plain hsent _ => exact accepts_preparatory request hsent _
      | asked hbefore hcommand hrest _ =>
          exact hasked hbefore hrest (hallowed _ hcommand).2
      | blocked hbefore hcommand => exact hasked hbefore hnone (hallowed _ hcommand).2
      | exhausted hbefore hcommand _ =>
          refine hasked hbefore (fun x hx => ?_) (hallowed _ hcommand).2
          rw [List.mem_singleton.mp hx]
          exact Ctap2ClientPinRequest.IsQuery.uvRetries

end

/-- A getInfo that takes the place of another one leaves built-in UV to the
request. -/
theorem UvTurnSent.keepsUv {request : R} {state state' : UvState R}
    {changes : Ctap2GetInfoResponse → Prop}
    {allowed : Ctap2PinUvAuthProtocolCommand → Prop} {sent : List (Exchange T)}
    (h : UvTurnSent state changes allowed (.ok (.inl state')) sent)
    (hprotected : ∀ info, changes info → state.info.isUvProtected = true)
    (hkeeps : (keepsUvMonitor request).Accepts state.view sent)
    (hcan : canUseUv request state.info = true) : canUseUv request state'.info = true := by
  cases h with
  | changed hchanges hbefore =>
      have hview : (keepsUvMonitor request).after state.view _ = state.view :=
        UvView.after_preparatory rfl hbefore
      obtain ⟨-, hgetInfo, -⟩ := Monitor.accepts_append.mp hkeeps
      rw [hview] at hgetInfo
      exact hgetInfo (hprotected _ hchanges) hcan
  | negotiated hallowed hsent =>
      cases hsent with
      | plain _ hlast => exact hlast.elim
      | asked _ _ _ hlast => exact hlast.elim
      | blocked => exact hcan
      | exhausted => exact hcan

/-- All that is left so far obeys, if every getInfo leaves built-in UV to the
request. -/
def ObeysSoFar (request : R) (view : UvView) (events : List (UvEvent T)) : Prop :=
  (keepsUvMonitor request).Accepts view (UvEvent.exchanges events) →
    (tokenMonitor request).Accepts view (UvEvent.exchanges events)

/-- What holds whenever a turn starts. -/
structure TurnStarts (request : R) (skipUv : Bool) (view : UvView) (state : UvState R)
    (events : List (UvEvent T)) : Prop where
  sameRequest : state.request = request
  obeys : ObeysSoFar request view events
  sameView : view.after (UvEvent.exchanges events) = state.view
  keepsUv : (keepsUvMonitor request).Accepts view (UvEvent.exchanges events) →
    skipUv = false → canUseUv request state.info = true

namespace Platform

variable (p : Platform σ T)

/-- One turn keeps it so. -/
theorem turn_obeys {request : R} {plan : UvPlan} {view : UvView} {state : UvState R}
    {xs : List (UvEvent T)} (hstarts : TurnStarts request plan.skipUv view state xs)
    (fuel : Nat) :
    Proc.Leaves (uvRecord σ T) (p.uvTurn fuel plan state)
      (Proc.TurnLeaves (TurnStarts request plan.skipUv view)
        (fun _ => ObeysSoFar request view) xs) := by
  refine (p.uvTurn_leaves fuel plan state).mono ?_
  rintro outcome ys ⟨sent, rfl, hsent⟩
  have hexchanges : UvEvent.exchanges
      (xs ++ .turn ⟨state.info, state.uvBlocked || plan.skipUv⟩ :: sent.map .sent)
        = UvEvent.exchanges xs ++ sent := by
    rw [UvEvent.exchanges_append]
    exact congrArg _ (UvEvent.exchanges_sent sent)
  -- the turn starts from what the device knows, so it obeys what its state allows
  have hobeys : ObeysSoFar request view
      (xs ++ .turn ⟨state.info, state.uvBlocked || plan.skipUv⟩ :: sent.map .sent) := by
    unfold ObeysSoFar
    rw [hexchanges]
    intro hkeeps
    have hkept := (Monitor.accepts_append.mp hkeeps).1
    refine Monitor.accepts_append.mpr ⟨hstarts.obeys hkept, ?_⟩
    have hview : (tokenMonitor request).after view (UvEvent.exchanges xs) = state.view :=
      hstarts.sameView
    rw [hview]
    exact hsent.accepted hstarts.sameRequest (hstarts.keepsUv hkept)
  cases outcome with
  | error e => exact hobeys
  | running => exact hobeys
  | ok next =>
      cases next with
      | inr result => exact hobeys
      -- another turn: what it starts from is what the device has been told by then
      | inl state' =>
          obtain ⟨hview, hrequest⟩ := hsent.view fun c hc => hc.1
          refine ⟨hrequest.trans hstarts.sameRequest, hobeys, ?_, ?_⟩
          · rw [hexchanges, UvView.after_append, hstarts.sameView, hview]
          · rw [hexchanges]
            intro hkeeps hskip
            obtain ⟨hkept, hturn⟩ := Monitor.accepts_append.mp hkeeps
            have hcan := hstarts.keepsUv hkept hskip
            have hstart : (keepsUvMonitor request).after view (UvEvent.exchanges xs)
                = state.view := hstarts.sameView
            rw [hstart] at hturn
            exact hsent.keepsUv (fun _ h => isUvProtected_of_forces h.1) hturn hcan

theorem loop_obeys (turnFuel : Nat) (plan : UvPlan) {request : R} {view : UvView}
    {state : UvState R} {xs : List (UvEvent T)}
    (hstarts : TurnStarts request plan.skipUv view state xs) (fuel : Nat) :
    Proc.Leaves (uvRecord σ T) (Proc.loop (p.uvTurn turnFuel plan) fuel state)
      (Proc.afterwards (fun _ => ObeysSoFar request view) xs) :=
  Proc.Leaves.loop (fun _ => TurnStarts request plan.skipUv view)
    (fun _ _ _ hstarts => p.turn_obeys hstarts turnFuel) (fun _ _ hstarts => hstarts.obeys)
    fuel state xs hstarts

/-- What is sent before the loop obeys. -/
theorem obeysSoFar_of_ensureSent {request : R} {reports : Ctap2GetInfoResponse → Prop}
    {info : Ctap2GetInfoResponse} {view : UvView}
    {outcome : Outcome (WebAuthnError T) Ctap2GetInfoResponse} {sent : List (Exchange T)}
    (h : EnsureSent reports info outcome sent) : ObeysSoFar request view (sent.map .sent) := by
  unfold ObeysSoFar
  rw [UvEvent.exchanges_sent]
  intro _
  cases h with
  | kept hsent _ => exact accepts_preparatory request hsent _
  | reread hbefore _ _ _ =>
      exact Monitor.accepts_append.mpr ⟨accepts_preparatory request hbefore _, trivial, trivial⟩

theorem userVerificationHelper_obeys (fuel : Nat) (info : Ctap2GetInfoResponse)
    (requirement : UserVerificationRequirement) (request : R) :
    Proc.Leaves (uvRecord σ T) (p.userVerificationHelper fuel info requirement request)
      fun _ => ObeysSoFar request ⟨info, false, none⟩ := by
  refine Proc.Leaves.bind (p.ensureUvProtected_leaves fuel requirement info) ?_ ?_ ?_
  · rintro info' xs ⟨sent, rfl, hsent⟩
    have hobeys : ObeysSoFar request ⟨info, false, none⟩ (sent.map .sent) :=
      obeysSoFar_of_ensureSent hsent
    split
    · refine Proc.Leaves.pure ?_
      show ObeysSoFar request _ (_ ++ [])
      rw [List.append_nil]
      exact hobeys
    -- the loop starts from the getInfo that was read last
    · have hstarts : TurnStarts request (!canUseUv request info') ⟨info, false, none⟩
          ⟨info', request, false⟩ (sent.map .sent) := by
        refine ⟨rfl, hobeys, ?_, fun _ hskip => ?_⟩
        · rw [UvEvent.exchanges_sent]
          exact hsent.view
        · rwa [Bool.not_eq_false'] at hskip
      refine Proc.Leaves.bind (p.loop_obeys fuel _ hstarts fuel) (fun result ys hys => ?_)
        (fun _ _ h => h) (fun _ h => h)
      refine (p.silent_packageResult result.1 result.2).mono fun outcome zs hzs => ?_
      obtain ⟨-, rfl⟩ := hzs
      show ObeysSoFar request _ (_ ++ (ys ++ []))
      rw [List.append_nil]
      exact hys
  · rintro e xs ⟨sent, rfl, hsent⟩
    exact obeysSoFar_of_ensureSent hsent
  · rintro xs ⟨sent, rfl, hsent⟩
    exact obeysSoFar_of_ensureSent hsent

end Platform

/-- Every token request of a run is one that the getInfo read last allows,
where each getInfo that the loop reads after a forced PIN change lets the
request use built-in UV if the one before it did. -/
theorem tokenRequests_obey (p : Platform σ T) (fuel : Nat) (info : Ctap2GetInfoResponse)
    (requirement : UserVerificationRequirement) (request : R) (w : World σ T)
    {sent : List (Exchange T)}
    (hsent : (p.userVerificationHelper fuel info requirement request w).2.wire = w.wire ++ sent)
    (hkeeps : ∀ before newInfo rest, sent = before ++ .getInfo (.ok newInfo) :: rest →
      ((⟨info, false, none⟩ : UvView).after before).info.isUvProtected = true →
        canUseUv request ((⟨info, false, none⟩ : UvView).after before).info = true →
          canUseUv request newInfo = true) :
    ∀ before req answer rest, sent = before ++ .clientPin req answer :: rest →
      req.command.mintsToken = true →
        TokenAllowed (permissions request) ((⟨info, false, none⟩ : UvView).after before).info
          (((⟨info, false, none⟩ : UvView).after before).uvBlocked
            || !canUseUv request ((⟨info, false, none⟩ : UvView).after before).info)
          req.command := by
  obtain ⟨events, ⟨hwire, -⟩, hobeys⟩ := p.userVerificationHelper_obeys fuel info requirement
    request w
  obtain rfl := List.append_cancel_left (hsent.symm.trans hwire)
  intro before req answer rest heq
  -- the monitor accepts the run once every fetched info keeps the verification it offers
  refine Monitor.accepts_iff.mp (hobeys (Monitor.accepts_iff.mpr ?_)) before _ rest heq
  intro before x rest heq
  cases x with
  | getInfo answer =>
      cases answer with
      | ok newInfo => exact hkeeps before newInfo rest heq
      | error e => trivial
  | _ => trivial

/-- What the verifying device is sent. -/
def verifyingWire : List (Exchange Empty) :=
  ((mockPlatform true).userVerificationHelper 3 builtInUvInfo .required plainMakeCredential
    (.start verifyingDevice none)).2.wire

def Exchange.asksUv : Exchange T → Bool
  | .clientPin req _ => req.command == .getPinUvAuthTokenUsingUvWithPermissions
  | _ => false

theorem tokenRequests_obey_verifying :
    ∃ req answer, verifyingWire = verifyingWire.dropLast ++ [.clientPin req answer]
      ∧ TokenAllowed (permissions plainMakeCredential) builtInUvInfo false req.command := by
  have hlast : (verifyingWire.getLast?.any Exchange.asksUv) = true := by decide +kernel
  obtain ⟨x, hx, huv⟩ := (Option.any_eq_true _ _).mp hlast
  cases x with
  | clientPin req answer =>
      have hcommand : req.command = .getPinUvAuthTokenUsingUvWithPermissions := eq_of_beq huv
      have hwire : verifyingWire = verifyingWire.dropLast ++ [.clientPin req answer] :=
        (List.dropLast_append_getLast? _ hx).symm
      have hobeys := tokenRequests_obey (mockPlatform true) 3 builtInUvInfo .required
        plainMakeCredential (.start verifyingDevice none) (List.nil_append verifyingWire).symm
        (fun _ _ _ _ _ _ => rfl) verifyingWire.dropLast req answer [] hwire
        (by rw [hcommand]; rfl)
      have hview : ((⟨builtInUvInfo, false, none⟩ : UvView).after verifyingWire.dropLast).info
            = builtInUvInfo
          ∧ (((⟨builtInUvInfo, false, none⟩ : UvView).after verifyingWire.dropLast).uvBlocked
            || !canUseUv plainMakeCredential builtInUvInfo) = false := by decide +kernel
      rw [hview.1, hview.2] at hobeys
      exact ⟨req, answer, hwire, hobeys⟩
  | _ => cases huv

/-! ## §3. A getInfo that withdraws built-in UV. -/

/-- A device that demands a PIN change, and lets built-in UV enrol. -/
def enrollingInfo : Ctap2GetInfoResponse :=
  { options := some [("clientPin", true), ("pinUvAuthToken", true), ("uvBioEnroll", true)]
    pinAuthProtos := some [1]
    forcePinChange := some true }

/-- It answers so after the change: built-in UV is there, and not for
enrolling. -/
def enrolledInfo : Ctap2GetInfoResponse :=
  { options := some [("uv", true), ("clientPin", true), ("pinUvAuthToken", true)]
    pinAuthProtos := some [1] }

def enrollingDevice : MockChannel :=
  { getInfo := [enrolledInfo]
    clientPin := [.ok { pinRetries := some 8 }, .ok keyAgreementAnswer, .ok {},
      .ok keyAgreementAnswer]
    pins := ["5678", "1234"] }

def enumerateEnrollments : Ctap2BioEnrollmentRequest where
  modality := true
  subcommand := some .enumerateEnrollments
  subcommandParams := none
  protocol := none
  uvAuthParam := none
  getModality := none
  useLegacyPreview := false

/-- What the enrolling device is sent. -/
def enrollingWire : List (Exchange Empty) :=
  ((mockPlatform true).userVerificationHelper 3 enrollingInfo .required enumerateEnrollments
    (.start enrollingDevice none)).2.wire

/-- Built-in UV is asked of the device for a request that the getInfo read last
excludes from it. -/
theorem tokenRequest_disobeys :
    ∃ before req answer, enrollingWire = before ++ [.clientPin req answer]
      ∧ req.command = .getPinUvAuthTokenUsingUvWithPermissions
      ∧ ((⟨enrollingInfo, false, none⟩ : UvView).after before).info = enrolledInfo
      ∧ canUseUv enumerateEnrollments enrolledInfo = false := by
  have hlast : (enrollingWire.getLast?.any Exchange.asksUv) = true := by decide +kernel
  obtain ⟨x, hx, huv⟩ := (Option.any_eq_true _ _).mp hlast
  cases x with
  | clientPin req answer =>
      refine ⟨enrollingWire.dropLast, req, answer, ?_, eq_of_beq huv, ?_, rfl⟩
      · exact (List.dropLast_append_getLast? _ hx).symm
      · decide +kernel
  | _ => cases huv

end Libwebauthn
