/-
  Libwebauthn.Webauthn.Operations — the operations on a channel, and the
  moves they are made of (`src/management/`, `src/pin/mod.rs`).

  What an operation can do to the channel comes down to three moves: a user
  verification, clearing the token store, and anything else, which leaves
  the auth data alone.  A run is a list of moves; `operation_reaches` says
  that every operation is one.

    • `reset`, `changePin` — the operations that end the validity of tokens;
    • `managementLoop` — the loop of credential management, bio enrollment
      and configuration.
-/
import Libwebauthn.Webauthn.Runs

namespace Libwebauthn

open Ctap2UserVerifiableRequest

variable {σ T : Type}

/-! ## §1. Reset, and changing the PIN. -/

/-- A platform with the command that resets the authenticator. -/
structure ManagedPlatform (σ T : Type) extends Platform σ T where
  authenticatorReset : σ → Except (WebAuthnError T) Unit × σ

namespace ManagedPlatform

variable (p : ManagedPlatform σ T)

def ctap2AuthenticatorReset : Ctap σ T Unit := do
  let answer ← Ctap.ask p.authenticatorReset
  Proc.ofExcept answer

/-- A getInfo that fails only means that no record is evicted. -/
def recognizeForReset : Ctap σ T (Option PersistentTokenRecordId) :=
  if p.persistentTokenStore then do
    match ← Proc.attempt p.ctap2GetInfo with
    | .ok info => do
        let recognized ← p.recognizeAuthenticator info
        pure (recognized.map (·.1))
    | .error _ => pure none
  else pure none

/-- Recognized before the reset, while the device identifier can still be
derived. -/
def reset : Ctap σ T Unit := do
  let recordId ← p.recognizeForReset
  p.ctap2AuthenticatorReset
  p.evict recordId

end ManagedPlatform

namespace Platform

variable (p : Platform σ T)

def changePin (newPin : String) : Ctap σ T Unit := do
  let info ← p.ctap2GetInfo
  p.changePinInternal info newPin

/-! ## §2. The loop of the management operations. -/

/-- What the management operations differ in. -/
structure Management (σ T R A : Type) where
  requirement : UserVerificationRequirement
  /-- Made after the verification: there is no updateUserInformation in the
  preview of credential management. -/
  check : R → Except (WebAuthnError T) Unit
  send : R → Ctap σ T A
  /-- Whether `handle_errors!` is given the request. -/
  notesRejection : Bool

section

variable {R A : Type} [Ctap2UserVerifiableRequest R]

/-- The request of the next turn: a rejected persistent token is noted. -/
def Management.retried (management : Management σ T R A) (uvAuthUsed : UsedPinUvAuthToken)
    (request : R) : R :=
  match uvAuthUsed with
  | .fromPersistentStorage _ =>
      if management.notesRejection then notePersistentTokenRejected request else request
  | _ => request

def managementTurn (management : Management σ T R A) (fuel : Nat) (entry : R) :
    Ctap σ T (R ⊕ A) := do
  let (uvAuthUsed, request) ← p.userVerification fuel management.requirement entry
  Proc.ofExcept (management.check request)
  let answer ← Proc.attempt (management.send request)
  match ← p.handleErrors uvAuthUsed answer with
  | none => pure (.inl (management.retried uvAuthUsed request))
  | some response => pure (.inr response)

def managementLoop (management : Management σ T R A) (fuel : Nat) (request : R) : Ctap σ T A :=
  Proc.loop (p.managementTurn management fuel) fuel request

end

end Platform

/-! ## §3. Moves. -/

/-- A move on a channel. -/
inductive ChannelMove (σ T : Type) : Type 1 where
  | userVerification {R : Type} [Ctap2UserVerifiableRequest R] (fuel : Nat)
      (requirement : UserVerificationRequirement) (request : R)
  | clearUvAuthTokenStore
  | reset
  /-- Anything else: commands, PIN changes, questions to the user. -/
  | other (effect : World σ T → World σ T)
      (keeps : ∀ w, (effect w).session.authData = w.session.authData)

/-- The world after a move, however it ended. -/
def ChannelMove.run (p : ManagedPlatform σ T) (w : World σ T) : ChannelMove σ T → World σ T
  | @ChannelMove.userVerification _ _ _ _ fuel requirement request =>
      (p.userVerification fuel requirement request w).2
  | .clearUvAuthTokenStore => (Ctap.clearUvAuthTokenStore w).2
  | .reset => (p.reset w).2
  | .other effect _ => effect w

/-- The world after a list of moves. -/
def channelRun (p : ManagedPlatform σ T) (w : World σ T) (moves : List (ChannelMove σ T)) :
    World σ T :=
  moves.foldl (ChannelMove.run p) w

/-- A world that some moves lead to. -/
def Reaches (p : ManagedPlatform σ T) (w w' : World σ T) : Prop :=
  ∃ moves, channelRun p w moves = w'

instance (p : ManagedPlatform σ T) : IsPreorder (World σ T) (Reaches p) where
  refl _ := ⟨[], rfl⟩
  trans _ _ _ := by
    rintro ⟨moves, rfl⟩ ⟨moves', rfl⟩
    exact ⟨moves ++ moves', List.foldl_append⟩

namespace ManagedPlatform

variable (p : ManagedPlatform σ T)

theorem dialogue_recognizeForReset : Ctap.Dialogue Exchange.Auxiliary p.recognizeForReset := by
  unfold recognizeForReset
  split
  · refine Ctap.Dialogue.bind (Ctap.Dialogue.attempt p.dialogue_ctap2GetInfo) fun info => ?_
    cases info with
    | ok info =>
        exact Ctap.Dialogue.bind (p.concludes_recognizeAuthenticator _).dialogue
          fun _ => Ctap.Dialogue.pure _
    | error e => exact Ctap.Dialogue.pure _
  · exact Ctap.Dialogue.pure _

/-- A reset is beside the ceremonies: it counts no attempt. -/
theorem dialogue_reset : Ctap.Dialogue Exchange.Auxiliary p.reset := by
  refine Ctap.Dialogue.bind p.dialogue_recognizeForReset fun recordId => ?_
  refine Ctap.Dialogue.bind ?_ fun _ => (p.concludes_evict recordId).dialogue
  exact Ctap.Dialogue.bind (Ctap.Dialogue.ask _) fun _ => Ctap.Dialogue.ofExcept _

/-- So is a change of the PIN. -/
theorem dialogue_changePin (newPin : String) :
    Ctap.Dialogue Exchange.Auxiliary (p.changePin newPin) :=
  Ctap.Dialogue.bind p.dialogue_ctap2GetInfo fun _ => p.dialogue_changePinInternal _ _

/-! ## §4. Operations are made of moves. -/

section

variable {ε α : Type}

/-- What leaves the cached token has reached it by no step. -/
theorem reaches_of_keeps {m : Proc (World σ T) ε α}
    (h : Proc.Keeps (fun w : World σ T => w.session.authData) m) :
    Proc.Advances (Reaches p) m :=
  fun _ => ⟨[.other (fun w => (m w).2) h], rfl⟩

/-- A dialogue leaves the session, its token included. -/
theorem reaches_of_dialogue {m : Proc (World σ T) ε α} {S : Exchange T → Prop}
    (h : Ctap.Dialogue S m) :
    Proc.Advances (Reaches p) m :=
  p.reaches_of_keeps (h.keeps_session.map Session.authData)

theorem reaches_liftPlatform (r : Except PlatformError α) :
    Proc.Advances (Reaches p) (Ctap.liftPlatform r : Ctap σ T α) :=
  p.reaches_of_dialogue (S := Exchange.Auxiliary) (Ctap.Dialogue.liftPlatform r)

theorem reaches_getAuthData : Proc.Advances (Reaches p) Ctap.getAuthData :=
  p.reaches_of_dialogue (S := Exchange.Auxiliary) Ctap.Dialogue.getAuthData

end

section

variable {R A : Type} [Ctap2UserVerifiableRequest R]

/-- A verification that returns has minted, or has found what was cached. -/
theorem reaches_userVerification (fuel : Nat) (requirement : UserVerificationRequirement)
    (request : R) :
    Proc.Advances (Reaches p) (p.userVerification fuel requirement request) :=
  fun _ => ⟨[.userVerification fuel requirement request], rfl⟩

/-- An answer may end the cached token, by the steps it is handled with. -/
theorem reaches_handleErrors (uvAuthUsed : UsedPinUvAuthToken)
    (answer : Except (WebAuthnError T) A) :
    Proc.Advances (Reaches p) (p.handleErrors uvAuthUsed answer) := by
  unfold Platform.handleErrors
  split
  · exact Proc.Advances.pure _
  · exact Proc.Advances.bind (fun w => ⟨[.clearUvAuthTokenStore], rfl⟩)
      fun _ => Proc.Advances.pure _
  · exact Proc.Advances.bind (p.reaches_of_dialogue (p.dialogue_evictPersistentToken _))
      fun _ => Proc.Advances.pure _
  · refine p.reaches_of_dialogue (S := Exchange.Auxiliary) ?_
    refine .bind (Platform.dialogue_softly (p.dialogue_ctap2ClientPin _) _) fun _ => ?_
    exact .bind (Ctap.Dialogue.tell _) fun _ => .throw _
  · exact Proc.Advances.throw _

/-- A management command steps as its verifications and its answers do. -/
theorem reaches_managementLoop {management : Platform.Management σ T R A}
    (hsend : ∀ request, Ctap.Quiet (management.send request)) (fuel : Nat) (request : R) :
    Proc.Advances (Reaches p) (p.managementLoop management fuel request) := by
  refine Proc.Advances.loop (fun entry => ?_) fuel request
  refine Proc.Advances.bind (p.reaches_userVerification _ _ _) fun result => ?_
  refine Proc.Advances.bind (Proc.Advances.ofExcept _) fun _ => ?_
  refine Proc.Advances.bind (p.reaches_of_keeps
    ((Proc.Keeps.attempt (hsend _).keeps_session).map Session.authData)) fun answer => ?_
  refine Proc.Advances.bind (p.reaches_handleErrors _ _) fun handled => ?_
  cases handled with
  | none => exact Proc.Advances.pure _
  | some response => exact Proc.Advances.pure _

/-- So does a ceremony, by induction on its turns. -/
theorem reaches_retryLoop {ceremony : Platform.Ceremony σ T R A} (hlawful : ceremony.Lawful)
    (fuel : Nat) (request : R) :
    Proc.Advances (Reaches p) (p.retryLoop ceremony fuel request) := by
  refine Proc.Advances.loop (fun entry => ?_) fuel request
  refine Proc.Advances.bind Proc.Advances.get fun start => ?_
  refine Proc.Advances.bind (p.reaches_userVerification _ _ _) fun result => ?_
  refine Proc.Advances.bind Proc.Advances.get fun reached => ?_
  refine Proc.Advances.bind p.reaches_getAuthData fun authData => ?_
  refine Proc.Advances.bind (p.reaches_of_dialogue (p.dialogue_applyHmac _ _)) fun sent => ?_
  refine Proc.Advances.bind (p.reaches_of_dialogue (p.dialogue_promptForTouch _)) fun _ => ?_
  refine Proc.Advances.bind (p.reaches_of_keeps (Proc.Keeps.attempt
    ((hlawful.send sent).map Session.authData))) fun answer => ?_
  refine Proc.Advances.bind (p.reaches_of_keeps fun _ => rfl) fun _ => ?_
  refine Proc.Advances.bind (p.reaches_handleErrors _ _) fun handled => ?_
  cases handled with
  | none => exact Proc.Advances.pure _
  | some response => exact Proc.Advances.pure _

end

/-- A registration, with its probes before the loop. -/
theorem reaches_makeCredentialFido2 (fuel : Nat) (op : MakeCredentialRequest) :
    Proc.Advances (Reaches p) (p.makeCredentialFido2 fuel op) := by
  refine Proc.Advances.bind (p.reaches_of_dialogue p.dialogue_ctap2GetInfo) fun info => ?_
  refine Proc.Advances.bind (Proc.Advances.ofExcept _) fun request => ?_
  refine Proc.Advances.bind (p.reaches_of_dialogue (p.dialogue_excludeList _ _ _)) fun exclude => ?_
  refine Proc.Advances.bind (p.reaches_liftPlatform _) fun _ => ?_
  refine Proc.Advances.bind (p.reaches_retryLoop (p.lawful_makeCredentialCeremony op) _ _)
    fun response => ?_
  exact Proc.Advances.bind p.reaches_getAuthData
    fun _ => Proc.Advances.pure _

/-- An assertion, with its large blob commands behind the loop. -/
theorem reaches_getAssertionFido2 (fuel : Nat) (op : GetAssertionRequest) :
    Proc.Advances (Reaches p) (p.getAssertionFido2 fuel op) := by
  unfold Platform.getAssertionFido2
  split
  · exact Proc.Advances.throw _
  refine Proc.Advances.bind (p.reaches_of_dialogue p.dialogue_ctap2GetInfo) fun info => ?_
  refine Proc.Advances.bind (p.reaches_liftPlatform _) fun request => ?_
  refine Proc.Advances.bind (p.reaches_of_dialogue (p.dialogue_allowList _ _ _)) fun allow => ?_
  refine Proc.Advances.bind (p.reaches_liftPlatform _) fun _ => ?_
  refine Proc.Advances.bind (p.reaches_retryLoop (p.lawful_getAssertionCeremony op) _ _)
    fun response => ?_
  refine Proc.Advances.bind
    (p.reaches_of_dialogue (S := Exchange.Auxiliary) (p.dialogue_validateRpIdHash _ _)) fun _ => ?_
  refine Proc.Advances.bind (p.reaches_of_dialogue (p.dialogue_nextAssertions _ _)) fun rest => ?_
  refine Proc.Advances.bind (p.reaches_of_keeps fun _ => rfl) fun _ => ?_
  refine Proc.Advances.bind (p.reaches_of_dialogue (p.dialogue_largeBlobOutputs _ _ _))
    fun outputs => ?_
  exact Proc.Advances.bind p.reaches_getAuthData
    fun _ => Proc.Advances.pure _

end ManagedPlatform

/-- An operation on a channel. -/
inductive ChannelOperation (σ T : Type) : Type 1 where
  | makeCredential (fuel : Nat) (op : MakeCredentialRequest)
  | getAssertion (fuel : Nat) (op : GetAssertionRequest)
  | manage {R A : Type} [Ctap2UserVerifiableRequest R] (management : Platform.Management σ T R A)
      (quiet_send : ∀ request, Ctap.Quiet (management.send request)) (fuel : Nat) (request : R)
  | changePin (newPin : String)
  | reset

/-- The world after an operation, however it ended. -/
def ChannelOperation.run (p : ManagedPlatform σ T) (w : World σ T) :
    ChannelOperation σ T → World σ T
  | .makeCredential fuel op => (p.makeCredentialFido2 fuel op w).2
  | .getAssertion fuel op => (p.getAssertionFido2 fuel op w).2
  | @ChannelOperation.manage _ _ _ _ _ management _ fuel request =>
      (p.managementLoop management fuel request w).2
  | .changePin newPin => (p.changePin newPin w).2
  | .reset => (p.reset w).2

/-- **One operation of the caller**, whichever it is, moves the cached token by
its steps only. -/
theorem operation_reaches (p : ManagedPlatform σ T) (w : World σ T) (op : ChannelOperation σ T) :
    Reaches p w (op.run p w) := by
  cases op with
  | makeCredential fuel op => exact p.reaches_makeCredentialFido2 fuel op w
  | getAssertion fuel op => exact p.reaches_getAssertionFido2 fuel op w
  | manage management quiet_send fuel request =>
      exact p.reaches_managementLoop quiet_send fuel request w
  | changePin newPin => exact p.reaches_of_dialogue (p.dialogue_changePin newPin) w
  | reset => exact ⟨[.reset], rfl⟩

/-- **Every sequence of operations is a run of moves.** -/
theorem operations_reach (p : ManagedPlatform σ T) (ops : List (ChannelOperation σ T)) :
    ∀ w, Reaches p w (ops.foldl (ChannelOperation.run p) w) := by
  induction ops with
  | nil => exact fun w => refl_of (Reaches p) w
  | cons op ops ih => exact fun w => trans_of (Reaches p) (operation_reaches p w op) (ih _)

end Libwebauthn
